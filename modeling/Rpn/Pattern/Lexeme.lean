import Rpn.Pattern.Regex
import Rpn.Text.Numeral

/-!
# Lexemes of a pattern text

A pattern text is cut into lexemes: what matches one character, anchors, backreferences, group
brackets, bars and repetitions. Which set or anchor a sign stands for depends on the flags, which
hold for the whole pattern.

The readers take what is left of the text and answer with what they read and what is left then.
-/

namespace Rpn

/-- Why a text is no pattern. -/
inductive PatternError where
  /-- A backslash with nothing, or with nothing known, behind it. -/
  | badEscape
  /-- A character set without its closing bracket. -/
  | openSet
  /-- A range of characters whose ends are reversed, or are no single characters. -/
  | badRange
  /-- A repetition whose least count exceeds its greatest. -/
  | reversedBounds
  /-- A repetition with nothing in front of it, or with a mere place. -/
  | nothingToRepeat
  /-- A repetition of a repetition. -/
  | repeatedTwice
  /-- A group without its closing bracket. -/
  | openGroup
  /-- A closing bracket without a group. -/
  | closedTooOften
  /-- An unknown sign behind an opening bracket and a question mark. -/
  | unknownGroupKind
  /-- A group name that is empty, no identifier, or taken. -/
  | badGroupName
  /-- A backreference to no group, or to one that is not complete at that place. -/
  | badReference
  /-- An expression of more than one width to look behind for. -/
  | variableWidth
  deriving DecidableEq, Repr

/-- Options that hold for a whole pattern. -/
structure PatternFlags where
  /-- ASCII letters match in both cases. -/
  caseless : Bool
  /-- The line anchors match at every line. -/
  multiline : Bool
  /-- The dot matches a line feed too. -/
  dotAll : Bool
  /-- Blanks and comments in the pattern are skipped. -/
  verbose : Bool
  /-- Digits, blanks and word characters are those of ASCII. -/
  ascii : Bool
  deriving DecidableEq, Repr

/-- No option. -/
def PatternFlags.none : PatternFlags :=
  ⟨false, false, false, false, false⟩

/-- The options with the one of a letter added, if the letter stands for one. -/
def PatternFlags.add? (flags : PatternFlags) (letter : Char) : Option PatternFlags :=
  match letter with
  | 'i' => some { flags with caseless := true }
  | 'm' => some { flags with multiline := true }
  | 's' => some { flags with dotAll := true }
  | 'x' => some { flags with verbose := true }
  | 'a' => some { flags with ascii := true }
  | _ => Option.none

/-- What a bracket opens. -/
inductive Opening where
  | group (name : Option String)
  | plain
  | atomic
  | ahead (positive : Bool)
  | behind (positive : Bool)
  deriving DecidableEq, Repr

/-- One sign of a pattern. -/
inductive Lexeme where
  | one (set : CharSet)
  | anchor (place : Anchor)
  | numberReference (index : Nat)
  | nameReference (name : String)
  | opening (kind : Opening)
  | closing
  | bar
  | repetition (low : Nat) (high : Option Nat) (greed : Greed)
  deriving DecidableEq, Repr

namespace Lexeme

/-- A code point written with exactly a number of hexadecimal digits. -/
def hexadecimal (count : Nat) (text : List Char) : Except PatternError (CharItem × List Char) :=
  let found := Text.leadingDigits 16 count text
  let code := Text.numberOf 16 found
  if found.length = count ∧ code ≤ 0x10FFFF then
    .ok (.range code code, text.drop count)
  else
    .error .badEscape

/-- A code point written with octal digits, one of them read already. -/
def octal (first : Char) (text : List Char) : Except PatternError (CharItem × List Char) :=
  let found := Text.leadingDigits 8 2 text
  let code := Text.numberOf 8 (first :: found)
  if code ≤ 0xFF then .ok (.range code code, text.drop found.length) else .error .badEscape

/-- What a character behind a backslash stands for, inside a set as well as outside: a named
class, a control character, a code point, or a punctuation mark itself. -/
def escape (ascii : Bool) (c : Char) (text : List Char) :
    Except PatternError (CharItem × List Char) :=
  let code := fun (value : Nat) => Except.ok (CharItem.range value value, text)
  match c with
  | 'd' => .ok (.named .digit ascii false, text)
  | 'D' => .ok (.named .digit ascii true, text)
  | 's' => .ok (.named .blank ascii false, text)
  | 'S' => .ok (.named .blank ascii true, text)
  | 'w' => .ok (.named .word ascii false, text)
  | 'W' => .ok (.named .word ascii true, text)
  | 'a' => code 0x7
  | 't' => code 0x9
  | 'n' => code 0xA
  | 'v' => code 0xB
  | 'f' => code 0xC
  | 'r' => code 0xD
  | 'x' => hexadecimal 2 text
  | 'u' => hexadecimal 4 text
  | 'U' => hexadecimal 8 text
  | '0' => octal c text
  | _ => if c.isAlphanum then .error .badEscape else code c.toNat

/-- One member of a set, or one end of a range in it. A backspace is written `\b` there. -/
def setItem (ascii : Bool) : List Char → Except PatternError (CharItem × List Char)
  | [] => .error .openSet
  | '\\' :: 'b' :: text => .ok (.range 0x8 0x8, text)
  | '\\' :: c :: text =>
      if (Text.digitValue? 8 c).isSome then octal c text else escape ascii c text
  | ['\\'] => .error .badEscape
  | c :: text => .ok (.range c.toNat c.toNat, text)

/-- The range between two members of a set that are single characters. -/
def between (low high : CharItem) : Except PatternError CharItem :=
  match low, high with
  | .range first _, .range last _ =>
      if first ≤ last then .ok (.range first last) else .error .badRange
  | _, _ => .error .badRange

/-- The members of a set up to its closing bracket, which counts as a member when it comes first,
as does a hyphen when it comes last. The first argument bounds the number of members. -/
def setItems (ascii : Bool) :
    Nat → List CharItem → List Char → Except PatternError (List CharItem × List Char)
  | 0, _, _ => .error .openSet
  | fuel + 1, found, text =>
      match text, found with
      | ']' :: rest, _ :: _ => .ok (found.reverse, rest)
      | _, _ => do
          let (first, rest) ← setItem ascii text
          match rest with
          | '-' :: ']' :: rest => .ok ((.range 0x2D 0x2D :: first :: found).reverse, rest)
          | '-' :: rest =>
              let (last, rest) ← setItem ascii rest
              let range ← between first last
              setItems ascii fuel (range :: found) rest
          | _ => setItems ascii fuel (first :: found) rest

/-- A set behind its opening bracket. -/
def set (flags : PatternFlags) (text : List Char) : Except PatternError (Lexeme × List Char) := do
  let (negated, text) := match text with
    | '^' :: rest => (true, rest)
    | _ => (false, text)
  let (items, rest) ← setItems flags.ascii text.length [] text
  .ok (.one ⟨items, negated, flags.caseless⟩, rest)

/-- The sign behind a repetition that makes it reluctant or possessive. -/
def greed : List Char → Greed × List Char
  | '?' :: text => (.reluctant, text)
  | '+' :: text => (.possessive, text)
  | text => (.greedy, text)

/-- The repetition of the given bounds, with the sign behind it. -/
def repeating (low : Nat) (high : Option Nat) (text : List Char) :
    Except PatternError (Lexeme × List Char) :=
  match high with
  | some most => if most < low then .error .reversedBounds else finish
  | none => finish
where
  finish : Except PatternError (Lexeme × List Char) :=
    let (greed, rest) := greed text
    .ok (.repetition low high greed, rest)

/-- The bounds of a repetition behind its opening brace, if a well-formed one starts there. An
absent least count is zero, and an absent greatest count is no bound. -/
def bounds? (text : List Char) : Option (Nat × Option Nat × List Char) :=
  let low := Text.leadingDigits 10 text.length text
  match low, text.drop low.length with
  | [], '}' :: _ => none
  | _, '}' :: rest => some (Text.numberOf 10 low, some (Text.numberOf 10 low), rest)
  | _, ',' :: rest =>
      let high := Text.leadingDigits 10 rest.length rest
      let most := if high.isEmpty then none else some (Text.numberOf 10 high)
      match rest.drop high.length with
      | '}' :: rest => some (Text.numberOf 10 low, most, rest)
      | _ => none
  | _, _ => none

/-- The text in front of a delimiter, and the text behind it. -/
def upTo (delimiter : Char) (text : List Char) : Option (String × List Char) :=
  match text.dropWhile (· != delimiter) with
  | [] => none
  | _ :: rest => some (String.ofList (text.takeWhile (· != delimiter)), rest)

/-- A name for a group: word characters that do not start with a digit. -/
def isGroupName (name : String) : Bool :=
  match name.toList with
  | [] => false
  | c :: rest => Text.isWord c && !Text.isDigit c && rest.all Text.isWord

/-- A group behind its opening bracket. -/
def group : List Char → Except PatternError (Lexeme × List Char)
  | '?' :: ':' :: text => .ok (.opening .plain, text)
  | '?' :: '>' :: text => .ok (.opening .atomic, text)
  | '?' :: '=' :: text => .ok (.opening (.ahead true), text)
  | '?' :: '!' :: text => .ok (.opening (.ahead false), text)
  | '?' :: '<' :: '=' :: text => .ok (.opening (.behind true), text)
  | '?' :: '<' :: '!' :: text => .ok (.opening (.behind false), text)
  | '?' :: 'P' :: '<' :: text =>
      match upTo '>' text with
      | some (name, rest) =>
          if isGroupName name then .ok (.opening (.group name), rest) else .error .badGroupName
      | none => .error .badGroupName
  | '?' :: 'P' :: '=' :: text =>
      match upTo ')' text with
      | some (name, rest) => .ok (.nameReference name, rest)
      | none => .error .badGroupName
  | '?' :: _ => .error .unknownGroupKind
  | text => .ok (.opening (.group none), text)

/-- What a backslash outside a set starts: a place, a backreference, or a character, which may be
written as three octal digits. -/
def escaped (flags : PatternFlags) : List Char → Except PatternError (Lexeme × List Char)
  | [] => .error .badEscape
  | 'A' :: text => .ok (.anchor .textStart, text)
  | 'Z' :: text => .ok (.anchor .textEnd, text)
  | 'b' :: text => .ok (.anchor (.wordBoundary flags.ascii false), text)
  | 'B' :: text => .ok (.anchor (.wordBoundary flags.ascii true), text)
  | c :: text =>
      let isOctal := (Text.leadingDigits 8 3 (c :: text)).length = 3
      if c != '0' && Text.isAsciiDigit c && !isOctal then
        let more := Text.leadingDigits 10 1 text
        .ok (.numberReference (Text.numberOf 10 (c :: more)), text.drop more.length)
      else do
        let (item, rest) ← if isOctal then octal c text else escape flags.ascii c text
        .ok (.one ⟨[item], false, flags.caseless⟩, rest)

/-- The lexeme that starts with a character, which is no blank or comment to skip. -/
def startingWith (flags : PatternFlags) (c : Char) (text : List Char) :
    Except PatternError (Lexeme × List Char) :=
  match c with
  | '\\' => escaped flags text
  | '[' => set flags text
  | '(' => group text
  | ')' => .ok (.closing, text)
  | '|' => .ok (.bar, text)
  | '.' => .ok (.one (if flags.dotAll then .all else .withinLine), text)
  | '^' => .ok (.anchor (if flags.multiline then .lineStart else .textStart), text)
  | '$' => .ok (.anchor (if flags.multiline then .lineEnd else .lastLineEnd), text)
  | '*' => repeating 0 none text
  | '+' => repeating 1 none text
  | '?' => repeating 0 (some 1) text
  | '{' =>
      match bounds? text with
      | some (low, high, rest) => repeating low high rest
      | none => .ok (.one (.single c.toNat flags.caseless), text)
  | _ => .ok (.one (.single c.toNat flags.caseless), text)

/-- The text behind the end of a comment, if it ends. A character behind a backslash ends none, and
a backslash that ends the text is left. -/
def behindComment? (last : Char) : List Char → Option (List Char)
  | [] => none
  | ['\\'] => some ['\\']
  | '\\' :: _ :: text => behindComment? last text
  | c :: text => if c = last then some text else behindComment? last text

/-- The text behind the blank or the comment that it starts with. Blanks, and comments up to the end
of the line, are left out of verbose patterns; comments in brackets are left out of all. -/
def skip? (flags : PatternFlags) : List Char → Option (List Char)
  | '(' :: '?' :: '#' :: text => behindComment? ')' text
  | '#' :: text => if flags.verbose then some ((behindComment? '\n' text).getD []) else none
  | c :: text => if flags.verbose && Text.isAsciiBlank c then some text else none
  | [] => none

/-- The lexemes of a text, at most a number of them. -/
def upToCount (flags : PatternFlags) : Nat → List Char → Except PatternError (List Lexeme)
  | 0, _ => .ok []
  | _, [] => .ok []
  | fuel + 1, c :: text =>
      match skip? flags (c :: text) with
      | some rest => upToCount flags fuel rest
      | none => do
          let (lexeme, rest) ← startingWith flags c text
          let more ← upToCount flags fuel rest
          .ok (lexeme :: more)

/-- The lexemes of a text. Each takes at least one character, so there are no more of them than
characters. -/
def ofText (flags : PatternFlags) (text : List Char) : Except PatternError (List Lexeme) :=
  upToCount flags text.length text

end Lexeme

end Rpn
