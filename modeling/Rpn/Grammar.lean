import Rpn.Token

/-!
# Grammars

A grammar says which role each type tag plays, how tightly each operator binds, and how operators
of one precedence are grouped. Precedences and associativities are listed under the text of an
operator or under its tag; the text comes first.

A `Classification` is a choice of tags in which no tag plays two roles. `TagSets.clash?` finds the
first tag that does, and `Classification.ofTagSets?` accepts exactly the choices without one.
-/

namespace Rpn

/-- What a token is for. -/
inductive Role where
  | value
  | function
  | operator
  | separator
  | openBracket
  | closeBracket
  deriving DecidableEq, Repr

/-- The name of a role in messages. -/
def Role.name : Role → String
  | .value => "value"
  | .function => "function"
  | .operator => "operator"
  | .separator => "param_separator"
  | .openBracket => "open_bracket"
  | .closeBracket => "close_bracket"

/-- The grouping of operators of the same precedence. -/
inductive Associativity where
  | left
  | right
  deriving DecidableEq, Repr

/-- The tags of each role. -/
structure TagSets where
  values : List String
  functions : List String
  operators : List String
  separator : String
  openBracket : String
  closeBracket : String
  deriving DecidableEq, Repr

/-- A tag that two roles list. -/
structure Clash where
  tag : String
  earlier : Role
  later : Role
  deriving DecidableEq, Repr

namespace TagSets

/-- The roles in their order, with their tags. -/
def byRole (sets : TagSets) : List (Role × List String) :=
  [(.value, sets.values), (.function, sets.functions), (.operator, sets.operators),
   (.separator, [sets.separator]), (.openBracket, [sets.openBracket]),
   (.closeBracket, [sets.closeBracket])]

/-- The first of some roles that lists a tag. -/
def roleIn (roles : List (Role × List String)) (tag : String) : Option Role :=
  (roles.find? fun entry => entry.2.contains tag).map (·.1)

/-- The first role, after some that are free of clashes, of which a tag is listed before. -/
def clashAfter (seen : List (Role × List String)) :
    List (Role × List String) → Option Clash
  | [] => none
  | (role, tags) :: rest =>
      match tags.findSome? fun tag => (roleIn seen tag).map (⟨tag, ·, role⟩) with
      | some clash => some clash
      | none => clashAfter (seen ++ [(role, tags)]) rest

/-- The first role of which a tag is listed by an earlier role too. -/
def clash? (sets : TagSets) : Option Clash :=
  clashAfter [] sets.byRole

end TagSets

/-- The tags of each role, none of which plays two roles. -/
structure Classification extends TagSets where
  unambiguous : toTagSets.clash? = none

namespace Classification

/-- The classification by the given tags, or a tag with two roles. -/
def ofTagSets? (sets : TagSets) : Except Clash Classification :=
  match found : sets.clash? with
  | some clash => .error clash
  | none => .ok ⟨sets, found⟩

/-- The role that a tag plays. -/
def roleOf (classes : Classification) (tag : String) : Option Role :=
  TagSets.roleIn classes.byRole tag

end Classification

/-- Entries under the text of an operator or under a tag. -/
abbrev OperatorTable (α : Type) := List (String × α)

/-- The entry under the text of a token or, failing that, under its tag. -/
def OperatorTable.entry? {α : Type} (table : OperatorTable α) (token : Token) : Option α :=
  match table.lookup token.value with
  | some entry => some entry
  | none => table.lookup token.tag

/-- The roles of the tags and the properties of the operators. A higher precedence binds
tighter. -/
structure Grammar where
  precedences : OperatorTable Int
  associativities : OperatorTable Associativity
  classes : Classification

namespace Grammar

/-- The role of a token, if its tag has one. -/
def roleOf (grammar : Grammar) (token : Token) : Option Role :=
  grammar.classes.roleOf token.tag

/-- How tightly a token binds, if the table says so. -/
def precedenceOf (grammar : Grammar) (token : Token) : Option Int :=
  grammar.precedences.entry? token

/-- How a token groups with others of its precedence: to the left, unless the table says
otherwise. -/
def associativityOf (grammar : Grammar) (token : Token) : Associativity :=
  (grammar.associativities.entry? token).getD .left

end Grammar

end Rpn
