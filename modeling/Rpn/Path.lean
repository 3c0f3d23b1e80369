import Rpn.Text.Quoted

/-!
# Paths

A path is a sequence of names below a root. Empty names and names that are a single dot are left
out; a pair of dots stays. A path that starts with exactly two slashes has a root of its own.

The suffixes of a path are the parts of its last name that start with a dot, save for dots in
front; a name that ends in a dot has none.
-/

namespace Rpn

/-- What a path starts from: the working directory, or a root of one or two slashes. -/
inductive PathRoot where
  | working
  | slash
  | doubleSlash
  deriving DecidableEq, Repr

/-- The text of a root. -/
def PathRoot.text : PathRoot → String
  | .working => ""
  | .slash => "/"
  | .doubleSlash => "//"

/-- A root and the names below it. -/
structure Path where
  root : PathRoot
  names : List String
  deriving DecidableEq, Repr

namespace Path

/-- The pieces of a text between the occurrences of a character. -/
def pieces (separator : Char) : List Char → List (List Char)
  | [] => [[]]
  | c :: rest =>
      if c = separator then [] :: pieces separator rest
      else
        match pieces separator rest with
        | [] => [[c]]
        | piece :: more => (c :: piece) :: more

/-- The root that a text starts with. -/
def rootOf (text : List Char) : PathRoot :=
  match (text.takeWhile (· == '/')).length with
  | 0 => .working
  | 2 => .doubleSlash
  | _ => .slash

/-- The path that a text stands for. -/
def ofString (text : String) : Path :=
  let names := (pieces '/' text.toList).map String.ofList
  ⟨rootOf text.toList, names.filter fun name => name != "" && name != "."⟩

/-- The text of a path; the working directory itself is a dot. -/
def text (path : Path) : String :=
  match path.root, path.names with
  | .working, [] => "."
  | root, names => root.text ++ "/".intercalate names

/-- The last name, or nothing for a mere root. -/
def name (path : Path) : String :=
  path.names.getLast?.getD ""

/-- The suffixes of a name, each with its dot. -/
def suffixesOf (name : List Char) : List (List Char) :=
  if name.getLast? = some '.' then []
  else ((pieces '.' (name.dropWhile (· == '.'))).drop 1).map ('.' :: ·)

/-- The suffixes of the last name. -/
def suffixes (path : Path) : List String :=
  (suffixesOf path.name.toList).map String.ofList

/-- The part of a name from its last dot on, unless that dot comes first or last. -/
def lastSuffixOf (name : List Char) : List Char :=
  let tail := (name.reverse.takeWhile (· != '.')).reverse
  let front := name.length - tail.length
  if tail ≠ [] ∧ 1 < front then '.' :: tail else []

/-- The last suffix of the last name. -/
def lastSuffix (path : Path) : String :=
  String.ofList (lastSuffixOf path.name.toList)

/-- The path with another last name, if it has a last name. -/
def withName? (path : Path) (name : String) : Option Path :=
  match path.names with
  | [] => none
  | names => some { path with names := names.dropLast ++ [name] }

/-- What is wrong with a path that has no last name. -/
def emptyNameMessage (path : Path) : String :=
  "PosixPath(" ++ Text.quoted path.text ++ ") has an empty name"

/-- The name of the results for an input of a name: the dots of its suffixes become low lines. -/
def resultsNameOf (name : List Char) : List Char :=
  let suffixes := (suffixesOf name).flatten
  let stem := name.take (name.length - suffixes.length)
  stem ++ suffixes.map (fun c => if c = '.' then '_' else c) ++ "_results.txt".toList

/-- The path of the results for an input, beside the input. -/
def results? (path : Path) : Option Path :=
  path.withName? (String.ofList (resultsNameOf path.name.toList))

end Path

end Rpn
