import Rpn.Files

/-!
# Command-line arguments

The arguments are expressions, the option `--file` with a path, and the switches `--verbose` and
`--help`. Each option has a short name of one letter; a long name may be cut short as long as it
tells the options apart. A value may be attached to an option, and switches with short names may be
written in one word. The first `--` ends the options.

An argument that starts with a hyphen is still an expression if it is a lone hyphen, a negative
number, or no known option and has a space in it. All expressions stand together.
-/

namespace Rpn

/-- The options. -/
inductive OptionKind where
  | file
  | verbose
  | help
  deriving DecidableEq, Repr

/-- What an argument is. -/
inductive Argument where
  | expression (text : String)
  /-- The first `--`. -/
  | endOfOptions
  /-- A single option, with the value behind an equals sign if there is one. -/
  | single (kind : OptionKind) (value : Option String)
  /-- The letter of an option, with what stands behind it in the same word. -/
  | word (kind : OptionKind) (behind : List Char)
  | unknownOption
  deriving DecidableEq, Repr

/-- Why the program ends at its arguments. -/
inductive ArgumentStop where
  | help
  | refused
  deriving DecidableEq, Repr

namespace OptionKind

/-- The option of a short name. -/
def ofLetter? : Char → Option OptionKind
  | 'f' => some file
  | 'v' => some verbose
  | 'h' => some help
  | _ => none

/-- The long names. -/
def longNames : List (List Char × OptionKind) :=
  [("file".toList, file), ("verbose".toList, verbose), ("help".toList, help)]

/-- The options whose long names start with some characters. -/
def startingWith (start : List Char) : List OptionKind :=
  (longNames.filter fun entry => start.isPrefixOf entry.1).map (·.2)

end OptionKind

namespace Argument

/-- Whether a text is a negative number in decimal digits, a line feed at its end not counting. -/
def isNegativeNumber : List Char → Bool
  | '-' :: rest =>
      let body := if rest.getLast? = some '\n' then rest.dropLast else rest
      let digits := body.takeWhile Text.isDigit
      match body.drop digits.length with
      | [] => !digits.isEmpty
      | '.' :: decimals => !decimals.isEmpty && decimals.all Text.isDigit
      | _ => false
  | _ => false

/-- What a text behind two hyphens is: an option that it names or starts to name, possibly with a
value behind an equals sign. It is refused if it starts to name several options. -/
def ofLong (text : List Char) : Except ArgumentStop (Option Argument) :=
  let name := text.takeWhile (· != '=')
  let value := match text.dropWhile (· != '=') with
    | [] => none
    | _ :: value => some (String.ofList value)
  match OptionKind.longNames.lookup name, OptionKind.startingWith name with
  | some kind, _ => .ok (some (.single kind value))
  | none, [kind] => .ok (some (.single kind value))
  | none, [] => .ok none
  | none, _ => .error .refused

/-- What a letter behind a single hyphen is, with the rest of its word. An equals sign right behind
the letter is in front of a value or, behind a switch, of more letters. -/
def ofShort (letter : Char) (behind : List Char) : Option Argument :=
  (OptionKind.ofLetter? letter).map fun kind =>
    match kind, behind with
    | .file, '=' :: value => .single kind (some (String.ofList value))
    | _, ['='] => .single kind (some "")
    | _, '=' :: letters => .word kind letters
    | _, _ => .word kind behind

/-- What a text is in front of the end of options. -/
def ofText (text : String) : Except ArgumentStop Argument :=
  let remainder :=
    if isNegativeNumber text.toList || text.toList.contains ' ' then .expression text
    else .unknownOption
  match text.toList with
  | '-' :: '-' :: rest => return (← ofLong rest).getD remainder
  | '-' :: letter :: rest => return (ofShort letter rest).getD remainder
  | _ => return .expression text

/-- What the arguments are. -/
def ofTexts : List String → Except ArgumentStop (List Argument)
  | [] => .ok []
  | "--" :: rest => .ok (.endOfOptions :: rest.map .expression)
  | text :: rest => do
      let first ← ofText text
      let more ← ofTexts rest
      .ok (first :: more)

/-- The expression that an argument is. -/
def expression? : Argument → Option String
  | .expression text => some text
  | _ => none

end Argument

/-- What the arguments ask for. -/
structure Arguments where
  expressions : List String
  file : Option Path
  verbose : Bool
  deriving DecidableEq, Repr

/-- The arguments as far as they are read. -/
structure ArgumentScan where
  /-- The expressions, once they have been met. -/
  expressions : Option (List String)
  file : Option String
  verbose : Bool
  /-- Whether an argument was met that has no place. -/
  surplus : Bool
  deriving DecidableEq, Repr

/-- The options in one word, and the value given for the last of them. -/
structure OptionGroup where
  kinds : List OptionKind
  value : Option String
  deriving DecidableEq, Repr

namespace OptionGroup

/-- The options in a word of letters: switches, up to an option with a value. That value is the rest
of the word, if there is one. -/
def ofWord (kind : OptionKind) : List Char → Except ArgumentStop OptionGroup
  | [] => .ok ⟨[kind], none⟩
  | c :: behind =>
      match kind with
      | .file => .ok ⟨[kind], some (String.ofList (c :: behind))⟩
      | _ =>
          match OptionKind.ofLetter? c with
          | none => .error .refused
          | some next =>
              match ofWord next behind with
              | .ok group => .ok { group with kinds := kind :: group.kinds }
              | .error stop => .error stop

/-- A single option. Only an option that needs a value may have one. -/
def ofSingle (kind : OptionKind) (value : Option String) : Except ArgumentStop OptionGroup :=
  match kind, value with
  | .file, _ => .ok ⟨[kind], value⟩
  | _, none => .ok ⟨[kind], none⟩
  | _, some _ => .error .refused

/-- Whether the last of the options still needs a value. -/
def needsValue (group : OptionGroup) : Bool :=
  group.value.isNone && group.kinds.getLast? = some .file

end OptionGroup

namespace ArgumentScan

/-- Nothing is read yet. -/
def start : ArgumentScan :=
  ⟨none, none, false, false⟩

/-- One more group of arguments that are no options, given in reverse. Only the first group has a
place. -/
def meet (scan : ArgumentScan) (group : List Argument) : ArgumentScan :=
  match group, scan.expressions with
  | [], _ => scan
  | _, none => { scan with expressions := some (group.reverse.filterMap Argument.expression?) }
  | _, some _ => { scan with surplus := true }

/-- The scan after an option. -/
def apply (scan : ArgumentScan) (kind : OptionKind) (value : String) :
    Except ArgumentStop ArgumentScan :=
  match kind with
  | .file => .ok { scan with file := some value }
  | .verbose => .ok { scan with verbose := true }
  | .help => .error .help

/-- The scan after the options of a word, the last of which has a value if it needs one. -/
def applyGroup (scan : ArgumentScan) (group : OptionGroup) (value : String) :
    Except ArgumentStop ArgumentScan :=
  group.kinds.foldlM (fun scan kind => scan.apply kind value) scan

/-- What an argument is as options; `none` if it is none. -/
def options? : Argument → Option (Except ArgumentStop OptionGroup)
  | .single kind value => some (OptionGroup.ofSingle kind value)
  | .word kind behind => some (OptionGroup.ofWord kind behind)
  | _ => none

/-- The scan after all arguments. Those in front that are no options wait in reverse, to be met
together. -/
def read (scan : ArgumentScan) (waiting : List Argument) :
    List Argument → Except ArgumentStop ArgumentScan
  | [] => .ok (scan.meet waiting)
  | argument :: rest =>
      match argument, options? argument with
      | .unknownOption, _ => read { scan.meet waiting with surplus := true } [] rest
      | _, none => read scan (argument :: waiting) rest
      | _, some (.error stop) => .error stop
      | _, some (.ok group) =>
          if group.needsValue then
            match rest with
            | .expression value :: rest =>
                match (scan.meet waiting).applyGroup group value with
                | .ok scan => read scan [] rest
                | .error stop => .error stop
            | _ => .error .refused
          else
            match (scan.meet waiting).applyGroup group (group.value.getD "") with
            | .ok scan => read scan [] rest
            | .error stop => .error stop

end ArgumentScan

/-- What the arguments ask for. The file has to be there, and something has to be asked for. A lone
`--` names no file, although it may stand where a value is attached. -/
def Arguments.ofTexts (view : FileView) (texts : List String) : Except ArgumentStop Arguments := do
  let arguments ← Argument.ofTexts texts
  let scan ← ArgumentScan.start.read [] arguments
  let expressions := scan.expressions.getD []
  let file := scan.file.map Path.ofString
  if scan.surplus || scan.file = some "--" || !file.all view.isFile ||
      (expressions.isEmpty && file.isNone) then
    .error .refused
  else
    .ok ⟨expressions, file, scan.verbose⟩

end Rpn
