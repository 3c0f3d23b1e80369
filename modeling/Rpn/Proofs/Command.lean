import Rpn.Command
import Rpn.Proofs.Batches

/-!
# What the command does

The command goes through the expressions among its arguments first, then through the file. An
expression that fails is told about and remembered, and everything else goes on as if it were not
there (`CommandRun.Inline.Told.run`). The file is read as a whole before anything is written, so an
error in it leaves the file of results as it is; and whether something failed shows in the status.
-/

namespace Rpn

namespace LogRecord

/-- The messages about errors. -/
def errors (records : List LogRecord) : List String :=
  (records.filter fun record => record.level = Level.error).map LogRecord.message

theorem errors_append (records more : List LogRecord) :
    errors (records ++ more) = errors records ++ errors more := by
  simp [errors]

theorem errors_error (message : String) : errors [⟨Level.error, message⟩] = [message] :=
  rfl

theorem errors_eq_nil {records : List LogRecord}
    (others : ∀ record ∈ records, record.level ≠ Level.error) : errors records = [] := by
  simpa [errors] using others

end LogRecord

open LogRecord (errors)

theorem Attempt.errors_log (attempt : Attempt) (traced : Bool) :
    errors (attempt.log traced) = [] := by
  apply LogRecord.errors_eq_nil
  cases traced <;> simp [Attempt.log, or_imp, forall_and, Level.debug, Level.error]

namespace CommandRun

open Reference (Converts Entry output? complaint?)

namespace Inline

/-- The state after some expressions: what it tells of each of them, and of nothing else. -/
structure Told (inline : Inline) (expressions : List String) : Prop where
  converter_eq : ∃ last, inline.converter = { Reference.converter with last }
  allOk_iff : inline.allOk = true ↔ ∀ expression ∈ expressions, Converts expression
  stdout_eq : inline.stdout = String.join (expressions.filterMap fun expression =>
    (output? expression).map (block expression))
  errors_eq : errors inline.log = expressions.filterMap complaint?

variable {inline : Inline} {expressions : List String}

/-- One more expression, whether it converts or not. -/
theorem Told.step (told : inline.Told expressions) (traced : Bool) (expression : String) :
    ∃ next, Inline.step traced inline expression = .ok next ∧
      next.Told (expressions ++ [expression]) := by
  rcases told.converter_eq with ⟨last, converter_eq⟩
  have performed := Reference.converter.perform_text last expression
  rw [← converter_eq] at performed
  by_cases converts : Converts expression
  · rcases converts with ⟨rpn, succeeded⟩
    rcases Reference.output?_of_ok succeeded with ⟨shown, silent⟩
    refine ⟨_, by simp only [Inline.step, performed, succeeded]; rfl, ?_⟩
    exact {
      converter_eq := ⟨_, rfl⟩
      allOk_iff := by
        rw [told.allOk_iff, List.forall_mem_append, List.forall_mem_singleton]
        exact (and_iff_left ⟨rpn, succeeded⟩).symm
      stdout_eq := by simp [told.stdout_eq, shown]
      errors_eq := by
        simp [LogRecord.errors_append, told.errors_eq, Attempt.errors_log, silent] }
  · rcases Reference.exists_cause_of_not_converts converts with ⟨cause, failed, -⟩
    rcases Reference.output?_of_error failed with ⟨hidden, said⟩
    refine ⟨_, by simp only [Inline.step, performed, failed]; rfl, ?_⟩
    exact {
      converter_eq := ⟨_, rfl⟩
      allOk_iff := by simp [converts]
      stdout_eq := by simp [told.stdout_eq, hidden]
      errors_eq := by
        simp [LogRecord.errors_append, LogRecord.errors_error, told.errors_eq, Attempt.errors_log,
          said] }

/-- All expressions are gone through, whatever became of those in front. -/
theorem Told.run {inline : Inline} {done : List String} (told : inline.Told done) (traced : Bool)
    (expressions : List String) :
    ∃ last, expressions.foldlM (Inline.step traced) inline = .ok last ∧
      last.Told (done ++ expressions) := by
  induction expressions generalizing inline done with
  | nil => exact ⟨inline, rfl, by simpa using told⟩
  | cons expression rest ih =>
      rcases told.step traced expression with ⟨next, stepped, toldNext⟩
      rcases ih toldNext with ⟨last, ran, toldLast⟩
      refine ⟨last, ?_, by simpa using toldLast⟩
      rw [List.foldlM_cons, stepped]
      exact ran

end Inline

/-- The ways in which a run goes on after the expressions among its arguments, if the file of
results can be written. -/
inductive GoesOn (view : FileView) (arguments : Arguments) (inline : Inline) :
    CommandRun → Prop where
  | noFile (absent : arguments.file = none) :
      GoesOn view arguments inline (endAfter inline (.status (if inline.allOk then 0 else 1)) [])
  | unread {path : Path} {error : ReadError} {ending : Ending} {more : List LogRecord}
      (given : arguments.file = some path) (failed : Reader.standard.read view path = .error error)
      (handled : error.message? ≠ none → ending = .status 1) :
      GoesOn view arguments inline (endAfter inline ending more)
  | batch {path destination : Path} {expressions : List String} {batch : Batch}
      (given : arguments.file = some path)
      (read : Reader.standard.read view path = .ok expressions)
      (beside : path.results? = some destination) (ran : Reference.Ran expressions batch) :
      GoesOn view arguments inline
        { endAfter inline (.status (if inline.allOk && batch.failures = 0 then 0 else 1)) batch.log
          with written := some (destination, batch.file) }

section GoesOn

variable {view : FileView} {arguments : Arguments} {inline : Inline} {run : CommandRun}

theorem GoesOn.extends (goesOn : GoesOn view arguments inline run) :
    run.stdout = inline.stdout ∧ inline.log <+: run.log := by
  cases goesOn <;> exact ⟨rfl, List.prefix_append _ _⟩

theorem status_iff {ok : Bool} {holds : Prop} (ok_iff : ok = true ↔ holds) :
    (Ending.status (if ok then 0 else 1) = .status 0 ∨
        Ending.status (if ok then 0 else 1) = .status 1) ∧
      (Ending.status (if ok then 0 else 1) = .status 0 ↔ holds) := by
  cases ok <;> simpa using ok_iff

/-- The status tells whether everything that was asked for converts. -/
theorem GoesOn.status (goesOn : GoesOn view arguments inline run)
    (told : inline.Told arguments.expressions)
    (handled : ∀ path ∈ arguments.file, ∀ error,
      Reader.standard.read view path = .error error → error.message? ≠ none) :
    (run.ending = .status 0 ∨ run.ending = .status 1) ∧
      (run.ending = .status 0 ↔ (∀ expression ∈ arguments.expressions, Converts expression) ∧
        ∀ path ∈ arguments.file, ∃ expressions,
          Reader.standard.read view path = .ok expressions ∧
            ∀ expression ∈ expressions, Converts expression) := by
  cases goesOn with
  | noFile absent => exact status_iff (by simp [told.allOk_iff, absent])
  | unread given failed status =>
      have ending_eq := status (handled _ given _ failed)
      subst ending_eq
      simp [endAfter, given, failed]
  | @batch path destination expressions batch given read beside ran =>
      exact status_iff (by simp [told.allOk_iff, given, read, ran.tells.1])

/-- Nothing is written unless the whole file was read, and then all of the results are. -/
theorem GoesOn.written (goesOn : GoesOn view arguments inline run) :
    (arguments.file = none → run.written = none) ∧
      ∀ path ∈ arguments.file,
        (∀ error, Reader.standard.read view path = .error error → run.written = none) ∧
        ∀ expressions, Reader.standard.read view path = .ok expressions →
          ∃ destination lines, path.results? = some destination ∧
            List.Forall₂ (fun expression line => ∃ result, Entry expression result line)
              expressions lines ∧
            run.written = some (destination, String.join (lines.map (· ++ "\n"))) := by
  cases goesOn with
  | noFile absent => simp [endAfter, absent]
  | unread given failed handled => simp [endAfter, given, failed]
  | @batch path destination expressions batch given read beside ran =>
      refine ⟨by simp [given], ?_⟩
      intro other other_mem
      rw [given, Option.mem_some_iff] at other_mem
      subst other_mem
      refine ⟨by simp [read], ?_⟩
      intro others readToo
      rw [read, Except.ok.injEq] at readToo
      subst readToo
      exact ⟨destination, batch.lines, beside, ran.tells.2, rfl⟩

end GoesOn

end CommandRun

namespace Command

open Reference (Converts Entry output? complaint?)

end Command

end Rpn
