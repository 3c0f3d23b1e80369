import Rpn.Converter

/-!
# The reference grammar

Strings, variables, functions, numbers, brackets, and the operators of arithmetic and comparison:
`"azerty" / V1 + V2 * sin(10) >= 3`. Each rule's pattern is given as an expression; the lemmas
`Reference.read_…` state that it is what the text of the pattern reads as.
-/

namespace Rpn.Reference

/-- The characters of a text, one of which is accepted. -/
def oneOf (chars : List Char) : CharSet :=
  ⟨chars.map fun c => .range c.toNat c.toNat, false, false⟩

/-- The expression for a single character. -/
def char (c : Char) : Regex :=
  .one (.single c.toNat false)

/-- At least one round of an expression. -/
def many (body : Regex) : Regex :=
  .repetition body 1 none .greedy

/-- Any number of rounds of an expression. -/
def any (body : Regex) : Regex :=
  .repetition body 0 none .greedy

/-- A text between double marks, in which a double mark or a backslash follows a backslash. -/
def stringPattern : Pattern :=
  ⟨"\"(?:[^\"\\\\]|\\\\[\"\\\\])+\"",
    .ofList [char '"',
      many (.choice (.one { oneOf ['"', '\\'] with negated := true })
        (.sequence (char '\\') (.one (oneOf ['"', '\\'])))),
      char '"'], 0⟩

/-- The letter `V` and digits of any script. -/
def variablePattern : Pattern :=
  ⟨"V\\d+", .sequence (char 'V') (many (.one ⟨[.named .digit false false], false, false⟩)), 0⟩

/-- Small letters and low lines, then ASCII digits. -/
def functionPattern : Pattern :=
  ⟨"[a-z_]+[0-9]*",
    .sequence (many (.one ⟨[.range 0x61 0x7A, .range 0x5F 0x5F], false, false⟩))
      (any (.one ⟨[.range 0x30 0x39], false, false⟩)), 0⟩

/-- Digits of any script. -/
def numericPattern : Pattern :=
  ⟨"\\d+", many (.one ⟨[.named .digit false false], false, false⟩), 0⟩

/-- The comma. -/
def separatorPattern : Pattern :=
  ⟨",", char ',', 0⟩

/-- The opening bracket. -/
def openPattern : Pattern :=
  ⟨"\\(", char '(', 0⟩

/-- The closing bracket. -/
def closePattern : Pattern :=
  ⟨"\\)", char ')', 0⟩

/-- One of the fourteen operators; where one starts another, the longer one is preferred. -/
def operatorPattern : Pattern :=
  ⟨"(<>|~|%|\\+|\\-|\\*|/|\\^|>=|<=|>|<|=|&)",
    .capture 1 (.anyOf
      [.sequence (char '<') (char '>'), char '~', char '%', char '+', char '-', char '*',
       char '/', char '^', .sequence (char '>') (char '='), .sequence (char '<') (char '='),
       char '>', char '<', char '=', char '&']), 1⟩

/-- Blanks. -/
def spacePattern : Pattern :=
  ⟨"\\s+", many (.one ⟨[.named .blank false false], false, false⟩), 0⟩

theorem read_stringPattern : Pattern.read stringPattern.source = .ok stringPattern := by rfl

theorem read_variablePattern : Pattern.read variablePattern.source = .ok variablePattern := by rfl

theorem read_functionPattern : Pattern.read functionPattern.source = .ok functionPattern := by rfl

theorem read_numericPattern : Pattern.read numericPattern.source = .ok numericPattern := by rfl

theorem read_separatorPattern : Pattern.read separatorPattern.source = .ok separatorPattern := by
  rfl

theorem read_openPattern : Pattern.read openPattern.source = .ok openPattern := by rfl

theorem read_closePattern : Pattern.read closePattern.source = .ok closePattern := by rfl

theorem read_operatorPattern : Pattern.read operatorPattern.source = .ok operatorPattern := by rfl

theorem read_spacePattern : Pattern.read spacePattern.source = .ok spacePattern := by rfl

/-- The rules, in the order in which they are tried. Blanks are dropped. -/
def rules : Lexer :=
  [⟨stringPattern, "STRING", none⟩,
   ⟨variablePattern, "VARIABLE", none⟩,
   ⟨functionPattern, "FUNCTION", none⟩,
   ⟨numericPattern, "NUMERIC", none⟩,
   ⟨separatorPattern, "PARAM_SEPARATOR", none⟩,
   ⟨openPattern, "OPEN_BRACKET", none⟩,
   ⟨closePattern, "CLOSE_BRACKET", none⟩,
   ⟨operatorPattern, "OPERATOR", none⟩,
   ⟨spacePattern, "SPACE", some Rule.discard⟩]

/-- The operators, how tightly they bind and how they group. -/
def operators : List (String × Int × Associativity) :=
  [("%", 4, .right), ("~", 4, .right), ("^", 4, .right),
   ("&", 3, .left), ("*", 3, .left), ("/", 3, .left),
   ("+", 2, .left), ("-", 2, .left),
   (">", 1, .left), ("<", 1, .left), (">=", 1, .left), ("<=", 1, .left), ("=", 1, .left),
   ("<>", 1, .left)]

/-- The roles of the tags. -/
def classes : Classification where
  values := ["VARIABLE", "STRING", "NUMERIC"]
  functions := ["FUNCTION"]
  operators := ["OPERATOR"]
  separator := "PARAM_SEPARATOR"
  openBracket := "OPEN_BRACKET"
  closeBracket := "CLOSE_BRACKET"
  unambiguous := by rfl

/-- The grammar of the tokens that the rules make. -/
def grammar : Grammar where
  precedences := operators.map fun (operator, precedence, _) => (operator, precedence)
  associativities := operators.map fun (operator, _, side) => (operator, side)
  classes := classes

/-- A converter for the reference grammar. -/
def converter : Converter :=
  .new grammar (some rules)

end Rpn.Reference
