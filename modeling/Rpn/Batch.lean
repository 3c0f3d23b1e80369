import Rpn.Converter
import Rpn.Log
import Rpn.Path

/-!
# Batches

A batch converts expressions one after the other with one converter. Every expression has a result
and a line in the results file; one that fails does not stop the batch.
-/

namespace Rpn

namespace Attempt

/-- The tokens that an attempt scanned and, if asked for, its moves, for the log. -/
def log (attempt : Attempt) (traced : Bool) : List LogRecord :=
  let scanned := attempt.scanned.map fun token => ⟨Level.debug, "Token " ++ token.describe⟩
  let moves := attempt.events.map fun event => ⟨Level.debug, event.describe⟩
  scanned ++ if traced then moves else []

end Attempt

/-- A batch that was run: its results, the lines of its file, its log, and the converter after
it. -/
structure Batch where
  results : List ConversionResult
  lines : List String
  log : List LogRecord
  converter : Converter

namespace Batch

/-- The batch of no expressions. -/
def empty (converter : Converter) : Batch :=
  ⟨[], [], [], converter⟩

/-- A batch with one more result in front. A result that has no line is left out of the file. -/
def cons (result : ConversionResult) (log : List LogRecord) (batch : Batch) : Batch :=
  { batch with
    results := result :: batch.results
    lines := result.line?.toList ++ batch.lines
    log := log ++ batch.log }

/-- The message about a result. -/
def resultRecord (number : Nat) (result : ConversionResult) : LogRecord :=
  match result.error with
  | none =>
      ⟨Level.debug,
        "✅ Line " ++ toString number ++ ": " ++ Listing.line (result.rpn.getD [])⟩
  | some error => ⟨Level.error, "❌ Line " ++ toString number ++ ": " ++ error⟩

/-- The batch of some expressions, the first of which is on the line of the given number. -/
def runFrom (traced : Bool) (converter : Converter) (number : Nat) :
    List String → Except Fault Batch
  | [] => .ok (empty converter)
  | expression :: rest =>
      let (attempt, next) := converter.perform (.text expression)
      match attempt.report expression with
      | .error fault => .error fault
      | .ok result =>
          (runFrom traced next (number + 1) rest).map
            (cons result (attempt.log traced ++ [resultRecord number result]))

/-- The number of failed expressions. -/
def failures (batch : Batch) : Nat :=
  batch.results.countP fun result => !result.ok

/-- The message in front of a batch. -/
def opening (destination : Path) : LogRecord :=
  ⟨Level.info, "🏁 Converting expressions into " ++ destination.text⟩

/-- The message after a batch. -/
def closing (batch : Batch) : LogRecord :=
  ⟨Level.info,
    "Converted " ++ toString batch.results.length ++ " expressions, " ++
      toString batch.failures ++ " failed"⟩

/-- The batch of some expressions with the messages around it. -/
def run (traced : Bool) (converter : Converter) (destination : Path) (expressions : List String) :
    Except Fault Batch :=
  (runFrom traced converter 1 expressions).map fun batch =>
    { batch with log := opening destination :: batch.log ++ [batch.closing] }

/-- The results file. -/
def file (batch : Batch) : String :=
  String.join (batch.lines.map (· ++ "\n"))

end Batch

end Rpn
