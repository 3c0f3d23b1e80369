import Rpn.Pattern

/-!
# What an expression takes

A search is described by the text at the cursor alone. `Takes` says which characters the preferred
match takes, and that it is preferred whatever is asked for afterwards; `Refuses` says that there
is no match, whatever is asked for. Both are derived part by part, in the order of the text. They
do not hold of what depends on the characters in front of the cursor, such as an anchor.
-/

namespace Rpn

namespace Cursor

/-- The place behind the first characters of a text. -/
def behind (before chars rest : List Char) : Cursor :=
  ⟨chars.reverse ++ before, rest⟩

theorem textUntil_behind (before chars rest : List Char) :
    textUntil ⟨before, chars ++ rest⟩ (behind before chars rest) = chars := by
  simp [textUntil, behind]

theorem isBefore_behind {chars : List Char} (nonempty : chars ≠ []) (before rest : List Char) :
    isBefore ⟨before, chars ++ rest⟩ (behind before chars rest) = true := by
  have positive := List.length_pos_iff.mpr nonempty
  simp [isBefore, behind, positive]

theorem behind_append (before chars others rest : List Char) :
    behind before (chars ++ others) rest = behind (chars.reverse ++ before) others rest := by
  simp [behind]

end Cursor

namespace Search

/-- In front of a rest, the search takes exactly these characters before it tries anything else.
What groups keep may depend on the place. -/
def Takes (search : Search) (chars rest : List Char) : Prop :=
  ∀ before groups, ∃ kept, ∀ (goal : Goal) (found : Progress),
    goal ⟨.behind before chars rest, kept⟩ = some found →
      search ⟨⟨before, chars ++ rest⟩, groups⟩ goal = some found

/-- The search finds nothing at the start of a text. -/
def Refuses (search : Search) (text : List Char) : Prop :=
  ∀ before groups goal, search ⟨⟨before, text⟩, groups⟩ goal = none

variable {first second body : Search} {chars others rest : List Char}

theorem Takes.andThen (takesFirst : first.Takes chars (others ++ rest))
    (takesSecond : second.Takes others rest) :
    Takes (fun progress goal => first progress fun moved => second moved goal)
      (chars ++ others) rest := by
  intro before groups
  rcases takesFirst before groups with ⟨keptFirst, reachFirst⟩
  rcases takesSecond (chars.reverse ++ before) keptFirst with ⟨kept, reachSecond⟩
  refine ⟨kept, ?_⟩
  intro goal found reached
  rw [Cursor.behind_append] at reached
  have moved := reachFirst (fun moved => second moved goal) found (reachSecond goal found reached)
  simpa using moved

/-- As many rounds as there are pieces take piece after piece. -/
theorem takes_rounds {pieces : List (List Char)}
    (each : ∀ piece ∈ pieces, ∀ rest, body.Takes piece rest) (rest : List Char) :
    Takes (rounds body pieces.length) pieces.flatten rest := by
  induction pieces with
  | nil => exact fun before groups => ⟨groups, fun goal found reached => reached⟩
  | cons piece pieces ih =>
      have takesLater := ih fun piece piece_mem => each piece (by simp [piece_mem])
      exact (each piece (by simp) _).andThen takesLater

/-- Optional rounds take piece after piece, up to a place where no further round matches. -/
theorem takes_greedy {pieces : List (List Char)}
    (each : ∀ piece ∈ pieces, ∀ rest, body.Takes piece rest)
    (nonempty : ∀ piece ∈ pieces, piece ≠ []) (stops : body.Refuses rest) {count : Nat}
    (enough : pieces.flatten.length < count) : Takes (greedy body count) pieces.flatten rest := by
  induction pieces generalizing count with
  | nil =>
      intro before groups
      refine ⟨groups, ?_⟩
      intro goal found reached
      cases count with
      | zero => simp at enough
      | succ count =>
          have refused := stops before groups
          simpa [greedy, refused, Cursor.behind] using reached
  | cons piece pieces ih =>
      cases count with
      | zero => simp at enough
      | succ count =>
          have piece_ne_nil := nonempty piece (by simp)
          have positive := List.length_pos_iff.mpr piece_ne_nil
          have enoughLater : pieces.flatten.length < count := by
            simp only [List.flatten_cons, List.length_append] at enough
            omega
          have takesLater := ih (fun piece piece_mem => each piece (by simp [piece_mem]))
            (fun piece piece_mem => nonempty piece (by simp [piece_mem])) enoughLater
          intro before groups
          rcases each piece (by simp) (pieces.flatten ++ rest) before groups with
            ⟨keptFirst, reachFirst⟩
          rcases takesLater (piece.reverse ++ before) keptFirst with ⟨kept, reachLater⟩
          refine ⟨kept, ?_⟩
          intro goal found reached
          rw [List.flatten_cons, Cursor.behind_append] at reached
          -- A round that takes a nonempty piece is not the last one.
          have moved := Cursor.isBefore_behind piece_ne_nil before (pieces.flatten ++ rest)
          have round := reachFirst (fun moved =>
            if Progress.hasMoved ⟨⟨before, piece ++ (pieces.flatten ++ rest)⟩, groups⟩ moved
            then greedy body count moved goal else goal moved) found (by
              simp only [Progress.hasMoved, moved, if_true]
              exact reachLater goal found reached)
          simp [greedy, round]

/-- An unbounded repetition takes piece after piece, up to a place where no further round
matches. -/
theorem takes_repeated {initial later : List (List Char)}
    (each : ∀ piece ∈ initial ++ later, ∀ rest, body.Takes piece rest)
    (nonempty : ∀ piece ∈ later, piece ≠ []) (stops : body.Refuses rest) :
    Takes (repeated body initial.length none .greedy) (initial.flatten ++ later.flatten) rest := by
  refine (takes_rounds (fun piece piece_mem => each piece (by simp [piece_mem])) _).andThen ?_
  intro before groups
  have enough : later.flatten.length < (later.flatten ++ rest).length + 1 := by
    simp only [List.length_append]
    omega
  exact takes_greedy (fun piece piece_mem => each piece (by simp [piece_mem])) nonempty stops
    enough before groups

end Search

namespace Regex

/-- In front of a rest, the expression takes exactly these characters before anything else. -/
def Takes (regex : Regex) (chars rest : List Char) : Prop :=
  Search.Takes regex.search chars rest

/-- The expression does not match at the start of a text. -/
def Refuses (regex : Regex) (text : List Char) : Prop :=
  Search.Refuses regex.search text

variable {first second body : Regex} {set : CharSet} {chars others rest text : List Char}

theorem search_one (set : CharSet) (progress : Progress) (goal : Goal) :
    (one set).search progress goal =
      match progress.cursor.next? with
      | some (c, cursor) => if set.accepts c then goal { progress with cursor } else none
      | none => none :=
  rfl

theorem search_sequence (first second : Regex) (progress : Progress) (goal : Goal) :
    (first.sequence second).search progress goal =
      first.search progress fun moved => second.search moved goal :=
  rfl

theorem search_choice (first second : Regex) (progress : Progress) (goal : Goal) :
    (first.choice second).search progress goal =
      match first.search progress goal with
      | some found => some found
      | none => second.search progress goal :=
  rfl

theorem search_repetition (body : Regex) (low : Nat) (high : Option Nat) (greed : Greed)
    (progress : Progress) (goal : Goal) :
    (repetition body low high greed).search progress goal =
      Search.repeated body.search low high greed progress goal :=
  rfl

theorem takes_one {c : Char} (accepted : set.accepts c = true) (rest : List Char) :
    (one set).Takes [c] rest := by
  intro before groups
  refine ⟨groups, ?_⟩
  intro goal found reached
  simpa [search_one, Cursor.next?, accepted, Cursor.behind] using reached

theorem refuses_one (stops : ∀ c ∈ text.head?, set.accepts c = false) :
    (one set).Refuses text := by
  intro before groups goal
  cases text with
  | nil => simp [search_one, Cursor.next?]
  | cons c rest =>
      have refused := stops c (by simp)
      simp [search_one, Cursor.next?, refused]

theorem Takes.sequence (takesFirst : first.Takes chars (others ++ rest))
    (takesSecond : second.Takes others rest) :
    (first.sequence second).Takes (chars ++ others) rest := by
  intro before groups
  simpa only [search_sequence] using takesFirst.andThen takesSecond before groups

theorem Refuses.sequence (refuses : first.Refuses text) (second : Regex) :
    (first.sequence second).Refuses text :=
  fun before groups _ => refuses before groups _

/-- One character leaves no choice, so a refusal behind it is a refusal of the whole. -/
theorem Refuses.behind_one {c : Char} (refuses : second.Refuses rest) (set : CharSet) :
    ((one set).sequence second).Refuses (c :: rest) := by
  intro before groups goal
  by_cases accepted : set.accepts c = true
  · have refused := refuses (c :: before) groups goal
    simpa [search_sequence, search_one, Cursor.next?, accepted] using refused
  · simp [search_sequence, search_one, Cursor.next?, accepted]

theorem Takes.choice_first (takes : first.Takes chars rest) (second : Regex) :
    (first.choice second).Takes chars rest := by
  intro before groups
  rcases takes before groups with ⟨kept, reach⟩
  refine ⟨kept, ?_⟩
  intro goal found reached
  simp [search_choice, reach goal found reached]

theorem Takes.choice_second (refuses : first.Refuses (chars ++ rest))
    (takes : second.Takes chars rest) : (first.choice second).Takes chars rest := by
  intro before groups
  rcases takes before groups with ⟨kept, reach⟩
  refine ⟨kept, ?_⟩
  intro goal found reached
  simp [search_choice, refuses before groups goal, reach goal found reached]

theorem Refuses.choice (refusesFirst : first.Refuses text) (refusesSecond : second.Refuses text) :
    (first.choice second).Refuses text := by
  intro before groups goal
  simp [search_choice, refusesFirst before groups goal, refusesSecond before groups goal]

theorem Takes.capture (takes : body.Takes chars rest) (index : Nat) :
    (capture index body).Takes chars rest := by
  intro before groups
  rcases takes before groups with ⟨kept, reach⟩
  refine ⟨(index, chars) :: kept, ?_⟩
  intro goal found reached
  refine reach _ found ?_
  simpa [Progress.keep, Cursor.textUntil_behind] using reached

theorem Refuses.capture (refuses : body.Refuses text) (index : Nat) :
    (capture index body).Refuses text :=
  fun before groups _ => refuses before groups _

theorem takes_repetition {initial later : List (List Char)}
    (each : ∀ piece ∈ initial ++ later, ∀ rest, body.Takes piece rest)
    (nonempty : ∀ piece ∈ later, piece ≠ []) (stops : body.Refuses rest) :
    (repetition body initial.length none .greedy).Takes
      (initial.flatten ++ later.flatten) rest := by
  intro before groups
  simpa only [search_repetition] using Search.takes_repeated each nonempty stops before groups

theorem Refuses.repetition (refuses : body.Refuses text) (low : Nat) :
    (repetition body (low + 1) none .greedy).Refuses text :=
  fun before groups _ => by
    simp only [search_repetition, Search.repeated, Search.rounds]
    exact refuses before groups _

/-- An unbounded repetition of a set takes a run of its characters, up to another character. -/
theorem takes_run {front back : List Char}
    (accepted : ∀ c ∈ front ++ back, set.accepts c = true)
    (stops : ∀ c ∈ rest.head?, set.accepts c = false) :
    (repetition (one set) front.length none .greedy).Takes (front ++ back) rest := by
  let singles : List Char → List (List Char) := List.map fun c => [c]
  have flatten_eq (run : List Char) : (singles run).flatten = run := by
    simp [singles, ← List.flatMap_def]
  have each : ∀ piece ∈ singles front ++ singles back, ∀ rest,
      (one set).Takes piece rest := by
    intro piece piece_mem rest
    rw [← List.map_append] at piece_mem
    rcases List.mem_map.mp piece_mem with ⟨c, c_mem, rfl⟩
    exact takes_one (accepted c c_mem) rest
  have nonempty : ∀ piece ∈ singles back, piece ≠ [] := by
    intro piece piece_mem
    rcases List.mem_map.mp piece_mem with ⟨c, -, rfl⟩
    simp
  have takes := takes_repetition each nonempty (refuses_one stops)
  rwa [flatten_eq, flatten_eq, List.length_map] at takes

/-- A choice takes what one alternative takes if those in front of it refuse. -/
theorem takes_anyOf {earlier later : List Regex} {regex : Regex}
    (refuses : ∀ other ∈ earlier, other.Refuses (chars ++ rest))
    (takes : regex.Takes chars rest) : (anyOf (earlier ++ regex :: later)).Takes chars rest := by
  induction earlier with
  | nil =>
      cases later with
      | nil => exact takes
      | cons next later => exact takes.choice_first _
  | cons other earlier ih =>
      have takesLater := ih fun other other_mem => refuses other (by simp [other_mem])
      have refused := refuses other (by simp)
      cases earlier with
      | nil => exact .choice_second refused takesLater
      | cons next earlier => exact .choice_second refused takesLater

/-- A choice refuses where each alternative refuses. -/
theorem refuses_anyOf {options : List Regex} (nonempty : options ≠ [])
    (refuses : ∀ option ∈ options, option.Refuses text) : (anyOf options).Refuses text := by
  induction options with
  | nil => contradiction
  | cons option options ih =>
      have refused := refuses option (by simp)
      cases options with
      | nil => exact refused
      | cons next options =>
          exact refused.choice (ih (by simp) fun option option_mem =>
            refuses option (List.mem_cons_of_mem _ option_mem))

end Regex

namespace Pattern

variable {pattern : Pattern} {chars rest text : List Char}

theorem match?_of_takes (takes : pattern.regex.Takes chars rest) (before : List Char) :
    ∃ found, pattern.match? ⟨before, chars ++ rest⟩ = some found ∧
      found.first = ⟨before, chars ++ rest⟩ ∧ found.last = .behind before chars rest := by
  rcases takes before [] with ⟨kept, reach⟩
  simp [match?, reach some _ rfl]

theorem match?_of_refuses (refuses : pattern.regex.Refuses text) (before : List Char) :
    pattern.match? ⟨before, text⟩ = none := by
  simp [match?, refuses before [] some]

end Pattern

end Rpn
