import Rpn.Arguments
import Rpn.Batch
import Rpn.Reader
import Rpn.Reference

/-!
# The command

The command converts the expressions among its arguments and shows each output, then converts the
expressions of the given file into a results file beside it. A failing expression does not stop the
command, but it shows in the exit status.
-/

namespace Rpn

/-- A failure that the command does not handle. -/
inductive Escape where
  | read (error : ReadError)
  | write (error : FileError)
  | path (path : Path)
  | fault (fault : Fault)
  deriving DecidableEq, Repr

/-- How a run of the command ends. -/
inductive Ending where
  | status (code : Nat)
  | stopped (stop : ArgumentStop)
  | escaped (escape : Escape)
  deriving DecidableEq, Repr

/-- A run of the command: how it ends, what it prints and logs, and the file that it writes. -/
structure CommandRun where
  ending : Ending
  stdout : String
  log : List LogRecord
  written : Option (Path × String)

namespace CommandRun

/-- The least level of the messages that are shown. -/
def threshold (arguments : Arguments) : Level :=
  if arguments.verbose then Level.debug else Level.info

/-- A run that only stops. -/
def stop (stop : ArgumentStop) : CommandRun :=
  ⟨.stopped stop, "", [], none⟩

/-- The expressions among the arguments, converted one after the other. -/
structure Inline where
  converter : Converter
  allOk : Bool
  stdout : String
  log : List LogRecord

namespace Inline

/-- What is printed for an expression. -/
def block (expression : String) (rpn : List Token) : String :=
  expression ++ ":\n\n" ++ Listing.table rpn ++ "\n\n"

/-- One more expression. Errors of the expression are logged. -/
def step (traced : Bool) (inline : Inline) (expression : String) : Except Fault Inline :=
  let (attempt, converter) := inline.converter.perform (.text expression)
  let log := inline.log ++ attempt.log traced
  match attempt.result with
  | .ok rpn =>
      .ok { inline with converter, log, stdout := inline.stdout ++ block expression rpn }
  | .error (.expression error) =>
      .ok { inline with converter, allOk := false, log := log ++ [⟨Level.error, error.text⟩] }
  | .error (.fault fault) => .error fault

end Inline

/-- The run that ends after the expressions among the arguments, with further messages. -/
def endAfter (inline : Inline) (ending : Ending) (log : List LogRecord) : CommandRun :=
  ⟨ending, inline.stdout, inline.log ++ log, none⟩

/-- The run after the expressions among the arguments, for an input file. -/
def runFile (view : FileView) (traced : Bool) (inline : Inline) (path : Path) : CommandRun :=
  match Reader.standard.read view path with
  | .error error =>
      match error.message? with
      | some message => endAfter inline (.status 1) [⟨Level.error, message⟩]
      | none => endAfter inline (.escaped (.read error)) []
  | .ok expressions =>
      match path.results? with
      | none => endAfter inline (.escaped (.path path)) []
      | some destination =>
          match view.obstacle? destination with
          | some error => endAfter inline (.escaped (.write error)) [Batch.opening destination]
          | none =>
              match Batch.run traced inline.converter destination expressions with
              | .error fault => endAfter inline (.escaped (.fault fault)) []
              | .ok batch =>
                  let ok := inline.allOk && batch.failures = 0
                  { endAfter inline (.status (if ok then 0 else 1)) batch.log with
                    written := some (destination, batch.file) }

/-- The run of a converter for what the arguments ask for. -/
def runWith (converter : Converter) (view : FileView) (arguments : Arguments) : CommandRun :=
  let traced := arguments.verbose
  match arguments.expressions.foldlM (Inline.step traced) ⟨converter, true, "", []⟩ with
  | .error fault => ⟨.escaped (.fault fault), "", [], none⟩
  | .ok inline =>
      match arguments.file with
      | some path => runFile view traced inline path
      | none => endAfter inline (.status (if inline.allOk then 0 else 1)) []

end CommandRun

/-- The run of the command, its log cut down to the messages that are shown. -/
def Command.run (view : FileView) (texts : List String) : CommandRun :=
  match Arguments.ofTexts view texts with
  | .error stop => .stop stop
  | .ok arguments =>
      let run := CommandRun.runWith Reference.converter view arguments
      { run with log := LogRecord.reaching (CommandRun.threshold arguments) run.log }

end Rpn
