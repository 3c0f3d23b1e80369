import Rpn.Main
import Rpn.Validation
import Rpn.Proofs.Moves
import Rpn.Proofs.Acceptance
import Rpn.Proofs.Group
import Rpn.Proofs.Infix
import Rpn.Proofs.Climbing
import Rpn.Proofs.Taking
import Rpn.Proofs.Lexemes
import Rpn.Proofs.RoundTrip
import Rpn.Proofs.Conservation
import Rpn.Proofs.Reading
import Rpn.Proofs.Segmentation
import Rpn.Proofs.Extension
import Rpn.Proofs.Classification
import Rpn.Proofs.Recognition
import Rpn.Proofs.LineRoundTrip
import Rpn.Proofs.Outcome
import Rpn.Proofs.Session
import Rpn.Proofs.OperatorOrder
import Rpn.Proofs.Decoding
import Rpn.Proofs.Lines
import Rpn.Proofs.Batches
import Rpn.Proofs.Command
import Rpn.Proofs.LongestMatch
import Rpn.Proofs.Concatenation
import Rpn.Proofs.Rescaling
import Rpn.Proofs.Replay
import Rpn.Proofs.Table
import Rpn.Proofs.NormalForm
import Rpn.Proofs.Comments
import Rpn.Proofs.Archives
import Rpn.Proofs.ResultsPath
import Rpn.Proofs.StackOrder
