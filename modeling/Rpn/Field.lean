import Rpn.Real
import Rpn.Text.Numeral

/-!
# Fields before they are checked

A value that is given from outside is a `Field` of any shape. A check turns it into what is needed
or lists what is wrong with it, each problem with the way to the place where it is. The checks of
several fields are joined so that all their problems are listed, in the order of the fields.
-/

namespace Rpn

/-- A value of any shape. -/
inductive Field where
  | null
  | bool (value : Bool)
  | integer (value : Int)
  | real (value : Float)
  | text (value : String)
  | list (items : List Field)
  | record (entries : List (String × Field))
  deriving Inhabited

/-- One step on the way into a field. -/
inductive FieldStep where
  | key (name : String)
  | index (position : Nat)
  deriving DecidableEq, Repr

/-- What is wrong with a field. -/
inductive FieldProblem where
  | missing
  | notText
  | textTooShort
  | notRecord
  /-- A number with a fraction instead of a whole one. -/
  | fraction
  /-- A floating-point number that is infinite or none. -/
  | notFinite
  /-- A floating-point number beyond the integers of 64 bits. -/
  | tooLarge
  /-- A text that is no numeral. -/
  | notNumeral
  /-- Neither a number nor a text. -/
  | notInteger
  | notAssociativity
  | notSet
  | badPattern
  | notPattern
  | notTransform
  /-- A value that has the right shape and is refused for the reason given. -/
  | refused (reason : String)
  deriving DecidableEq, Repr

/-- A problem and the way to its place. -/
structure FieldError where
  place : List FieldStep
  problem : FieldProblem
  deriving DecidableEq, Repr

/-- A checked value, or all problems in order. -/
abbrev Checked (α : Type) := Except (List FieldError) α

namespace Checked

variable {α β : Type}

/-- A value with a single problem, right here. -/
def fail (problem : FieldProblem) : Checked α :=
  .error [⟨[], problem⟩]

/-- The check of a value that is one step further out. -/
def under (step : FieldStep) (checked : Checked α) : Checked α :=
  checked.mapError fun errors =>
    errors.map fun error => { error with place := step :: error.place }

/-- One more argument for a function. The problems of the arguments before it come first. -/
def give (argument : Checked α) (function : Checked (α → β)) : Checked β :=
  match function, argument with
  | .ok function, .ok argument => .ok (function argument)
  | .ok _, .error errors => .error errors
  | .error errors, .ok _ => .error errors
  | .error errors, .error more => .error (errors ++ more)

/-- The checks of all elements. -/
def all : List (Checked α) → Checked (List α)
  | [] => .ok []
  | first :: rest => give (all rest) (first.map fun value => (value :: ·))

end Checked

namespace Field

/-- A field that has to be a text. -/
def asText : Field → Checked String
  | .text value => .ok value
  | _ => .fail .notText

/-- A field that has to be a text with at least one character. -/
def asNonemptyText : Field → Checked String
  | .text "" => .fail .textTooShort
  | .text value => .ok value
  | _ => .fail .notText

/-- A floating-point number that has to be an integer of 64 bits, the least one excepted. -/
def realAsInteger (value : Float) : Checked Int :=
  match wholeness value with
  | .whole value => if value.natAbs < twoPow 63 then .ok value else .fail .tooLarge
  | .fraction => .fail .fraction
  | .notFinite => .fail .notFinite

/-- A field that has to be a whole number. Truth values count as one and zero, and numerals as the
number that they stand for. -/
def asInteger : Field → Checked Int
  | .bool value => .ok (if value then 1 else 0)
  | .integer value => .ok value
  | .real value => realAsInteger value
  | .text value =>
      match Text.integer? value with
      | some value => .ok value
      | none => .fail .notNumeral
  | _ => .fail .notInteger

/-- A field that has to be a record whose entries all pass a check. -/
def asTable {α : Type} (check : Field → Checked α) : Field → Checked (List (String × α))
  | .record entries =>
      Checked.all (entries.map fun (name, entry) =>
        Checked.under (.key name) ((check entry).map (name, ·)))
  | _ => .fail .notRecord

/-- A field that has to be a list of texts. Repeated texts count once. -/
def asTextSet : Field → Checked (List String)
  | .list items =>
      let texts := items.zipIdx.map fun (item, position) =>
        Checked.under (.index position) item.asText
      (Checked.all texts).map List.eraseDups
  | _ => .fail .notSet

/-- A field that may be absent or null, and otherwise has to pass a check. -/
def optionally {α : Type} (check : Field → Checked α) : Option Field → Checked (Option α)
  | none => .ok none
  | some .null => .ok none
  | some field => (check field).map some

end Field

/-- Fields by name. -/
abbrev Fields := List (String × Field)

namespace Fields

variable {α : Type}

/-- A field that has to be there. -/
def required (fields : Fields) (name : String) (check : Field → Checked α) : Checked α :=
  Checked.under (.key name) <|
    match fields.lookup name with
    | some field => check field
    | none => .fail .missing

/-- A field that has a default. -/
def withDefault (fields : Fields) (name : String) (default : α) (check : Field → Checked α) :
    Checked α :=
  match fields.lookup name with
  | some field => Checked.under (.key name) (check field)
  | none => .ok default

end Fields

end Rpn
