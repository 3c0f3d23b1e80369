import Mathlib.Data.List.Pairwise
import Rpn.Validation

/-!
# Tags and their roles

A grammar is accepted just if no tag is listed for two roles. Then it makes no difference which of
several listings of a tag would count, the first or the last one, and the role of a token is the one
that its tag is listed for. Otherwise the message names a tag with two of its roles, the later of
which is the first role that repeats a tag of the roles in front of it.

The check goes through the roles once and compares each with all those in front of it
(`TagSets.clashAfter`); that it compares every pair is an induction over the roles.
-/

namespace Rpn

namespace Role

/-- The roles in the order in which their tags are listed. -/
def inOrder : List Role :=
  [.value, .function, .operator, .separator, .openBracket, .closeBracket]

/-- The roles in front of a role. -/
def before (role : Role) : List Role :=
  inOrder.takeWhile (· ≠ role)

theorem mem_inOrder (role : Role) : role ∈ inOrder := by
  cases role <;> decide

theorem before_eq {role : Role} {front back : List Role}
    (split : inOrder = front ++ role :: back) : role.before = front := by
  have distinct : (front ++ role :: back).Nodup := split ▸ by decide
  have others : ∀ other ∈ front, decide (other ≠ role) = true := by
    intro other other_mem
    have apart := (List.nodup_append.mp distinct).2.2 other other_mem role (by simp)
    exact decide_eq_true apart
  rw [before, split, List.takeWhile_append_of_pos others]
  simp

theorem ne_of_mem_before {first second : Role} (earlier : first ∈ second.before) :
    first ≠ second := by
  have others := List.all_eq_true.mp List.all_takeWhile first earlier
  simpa using others

theorem name_injective : Function.Injective name := by
  have distinct : ∀ first ∈ inOrder, ∀ second ∈ inOrder,
      first.name = second.name → first = second := by
    decide
  exact fun first second => distinct first (mem_inOrder first) second (mem_inOrder second)

end Role

namespace TagSets

/-- The tags of a role. -/
def tagsOf (sets : TagSets) : Role → List String
  | .value => sets.values
  | .function => sets.functions
  | .operator => sets.operators
  | .separator => [sets.separator]
  | .openBracket => [sets.openBracket]
  | .closeBracket => [sets.closeBracket]

/-- No tag is listed for two roles. -/
def Disjoint (sets : TagSets) : Prop :=
  ∀ first second, first ≠ second → List.Disjoint (sets.tagsOf first) (sets.tagsOf second)

/-- The role that a tag is listed for last, as if each listing replaced the ones before it. -/
def lastRole? (sets : TagSets) (tag : String) : Option Role :=
  (sets.byRole.flatMap fun entry => entry.2.map (·, entry.1)).reverse.lookup tag

variable {sets : TagSets} {tag : String} {role : Role}

theorem byRole_eq (sets : TagSets) :
    sets.byRole = Role.inOrder.map fun role => (role, sets.tagsOf role) :=
  rfl

theorem mem_byRole {entry : Role × List String} :
    entry ∈ sets.byRole ↔ entry.2 = sets.tagsOf entry.1 := by
  rcases entry with ⟨role, tags⟩
  simp [byRole_eq, Role.mem_inOrder, eq_comm]

section Check

variable {seen rest roles : List (Role × List String)}

theorem roleIn_eq_none_iff : roleIn roles tag = none ↔ ∀ entry ∈ roles, tag ∉ entry.2 := by
  simp [roleIn]

theorem exists_of_roleIn_eq_some (found : roleIn roles tag = some role) :
    ∃ tags, (role, tags) ∈ roles ∧ tag ∈ tags := by
  rw [roleIn, Option.map_eq_some_iff] at found
  rcases found with ⟨⟨_, tags⟩, found, rfl⟩
  exact ⟨tags, List.mem_of_find?_eq_some found, by simpa using List.find?_some found⟩

/-- Two roles share no tag. -/
def Apart (first second : Role × List String) : Prop :=
  first.2.Disjoint second.2

theorem pairwise_concat_iff (apart : seen.Pairwise Apart) {tags : List String} :
    (seen ++ [(role, tags)]).Pairwise Apart ↔
      (tags.findSome? fun tag => (roleIn seen tag).map (Clash.mk tag · role)) = none := by
  simp only [List.pairwise_append, apart, List.pairwise_singleton, true_and,
    List.forall_mem_singleton, List.findSome?_eq_none_iff, Option.map_eq_none_iff,
    roleIn_eq_none_iff]
  constructor
  · intro others tag tag_mem entry entry_mem listed
    exact others entry entry_mem listed tag_mem
  · intro absent entry entry_mem tag listed tag_mem
    exact absent tag tag_mem entry entry_mem listed

/-- Where no clash is found, no two roles share a tag. -/
theorem pairwise_of_clashAfter (apart : seen.Pairwise Apart)
    (found : clashAfter seen rest = none) : (seen ++ rest).Pairwise Apart := by
  induction rest generalizing seen with
  | nil => simpa using apart
  | cons first rest ih =>
      rcases first with ⟨role, tags⟩
      rw [clashAfter] at found
      split at found
      · contradiction
      · rename_i free
        rw [List.append_cons]
        exact ih ((pairwise_concat_iff apart).mpr free) found

/-- A clash is found at the first role that shares a tag with one in front of it. -/
theorem exists_of_clashAfter (apart : seen.Pairwise Apart) {clash : Clash}
    (found : clashAfter seen rest = some clash) :
    ∃ front tags back, rest = front ++ (clash.later, tags) :: back ∧
      (seen ++ front).Pairwise Apart ∧ clash.tag ∈ tags ∧
      roleIn (seen ++ front) clash.tag = some clash.earlier := by
  induction rest generalizing seen with
  | nil => simp [clashAfter] at found
  | cons first rest ih =>
      rcases first with ⟨role, tags⟩
      rw [clashAfter] at found
      split at found
      · rename_i shared
        rw [found, List.findSome?_eq_some_iff] at shared
        rcases shared with ⟨others, tag, later, rfl, shared, -⟩
        rcases Option.map_eq_some_iff.mp shared with ⟨earlier, seenRole, rfl⟩
        exact ⟨[], _, rest, rfl, by simpa using apart, by simp, by simpa using seenRole⟩
      · rename_i free
        rcases ih ((pairwise_concat_iff apart).mpr free) found with
          ⟨front, others, back, rfl, apart, tag_mem, seenRole⟩
        rw [← List.append_cons] at apart seenRole
        exact ⟨(role, tags) :: front, others, back, rfl, apart, tag_mem, seenRole⟩

end Check

theorem disjoint_iff_pairwise : sets.Disjoint ↔ sets.byRole.Pairwise Apart := by
  have symmetric : Std.Symm fun first second : Role =>
      Apart (first, sets.tagsOf first) (second, sets.tagsOf second) :=
    ⟨fun _ _ apart _ listed shared => apart shared listed⟩
  have distinct : Role.inOrder.Nodup := by decide
  rw [byRole_eq, List.pairwise_map]
  constructor
  · intro disjoint
    exact distinct.imp fun other => disjoint _ _ other
  · intro apart first second other
    exact apart.forall (Role.mem_inOrder first) (Role.mem_inOrder second) other

theorem clash?_eq_none_iff : sets.clash? = none ↔ sets.Disjoint := by
  rw [disjoint_iff_pairwise]
  constructor
  · exact pairwise_of_clashAfter .nil
  · intro apart
    rw [Option.eq_none_iff_forall_ne_some]
    intro clash found
    rcases exists_of_clashAfter .nil found with ⟨front, tags, back, split, -, tag_mem, seenRole⟩
    rcases exists_of_roleIn_eq_some seenRole with ⟨others, entry_mem, listed⟩
    rw [split, List.pairwise_append] at apart
    exact apart.2.2 _ entry_mem _ List.mem_cons_self listed tag_mem

/-- What a clash says of the tags. -/
theorem of_clash?_eq_some {clash : Clash} (found : sets.clash? = some clash) :
    clash.tag ∈ sets.tagsOf clash.earlier ∧ clash.tag ∈ sets.tagsOf clash.later ∧
      clash.earlier ∈ clash.later.before ∧
      clash.later.before.Pairwise fun first second =>
        List.Disjoint (sets.tagsOf first) (sets.tagsOf second) := by
  rcases exists_of_clashAfter .nil found with ⟨front, tags, back, split, apart, tag_mem, seenRole⟩
  rcases exists_of_roleIn_eq_some seenRole with ⟨others, entry_mem, listed⟩
  have tagsOf_front : ∀ entry ∈ front, entry.2 = sets.tagsOf entry.1 := by
    intro entry entry_mem
    apply mem_byRole.mp
    rw [split]
    exact List.mem_append_left _ entry_mem
  have tagsOf_later : tags = sets.tagsOf clash.later := by
    have entry_mem : (clash.later, tags) ∈ sets.byRole := by
      rw [split]
      simp
    exact mem_byRole.mp entry_mem
  have before_eq : clash.later.before = front.map (·.1) := by
    have roles := congrArg (List.map (·.1)) split
    rw [List.map_append, List.map_cons] at roles
    exact Role.before_eq roles
  refine ⟨?_, tagsOf_later ▸ tag_mem, ?_, ?_⟩
  · rw [← tagsOf_front _ entry_mem]
    exact listed
  · rw [before_eq]
    exact List.mem_map_of_mem entry_mem
  · rw [before_eq, List.pairwise_map]
    refine apart.imp_of_mem ?_
    intro first second first_mem second_mem apart
    rwa [Apart, tagsOf_front first first_mem, tagsOf_front second second_mem] at apart

/-- A role that lists the tag, and none only if no role does, is the role of the tag. -/
theorem Disjoint.eq_some_iff (disjoint : sets.Disjoint) {answer : Option Role}
    (listed : ∀ role, answer = some role → tag ∈ sets.tagsOf role)
    (absent : answer = none → ∀ role, tag ∉ sets.tagsOf role) :
    answer = some role ↔ tag ∈ sets.tagsOf role := by
  refine ⟨listed role, ?_⟩
  intro role_listed
  cases found : answer with
  | none => exact absurd role_listed (absent found role)
  | some other =>
      by_contra ne
      exact disjoint other role (by simpa using ne) (listed other found) role_listed

theorem Disjoint.roleIn_eq_some_iff (disjoint : sets.Disjoint) :
    roleIn sets.byRole tag = some role ↔ tag ∈ sets.tagsOf role := by
  apply disjoint.eq_some_iff
  · intro role found
    rcases exists_of_roleIn_eq_some found with ⟨tags, entry_mem, listed⟩
    rwa [← mem_byRole.mp entry_mem]
  · intro missing role
    exact roleIn_eq_none_iff.mp missing (role, sets.tagsOf role) (mem_byRole.mpr rfl)

theorem Disjoint.lastRole?_eq_some_iff (disjoint : sets.Disjoint) :
    sets.lastRole? tag = some role ↔ tag ∈ sets.tagsOf role := by
  have listed_iff (role : Role) :
      (tag, role) ∈ (sets.byRole.flatMap fun entry => entry.2.map (·, entry.1)).reverse ↔
        tag ∈ sets.tagsOf role := by
    simp [byRole_eq, Role.mem_inOrder, ← and_assoc]
  apply disjoint.eq_some_iff
  · intro role found
    rw [← listed_iff]
    rcases List.lookup_eq_some_iff.mp found with ⟨front, back, split, -⟩
    rw [split]
    simp
  · intro missing role listed
    have other := List.lookup_eq_none_iff.mp missing _ ((listed_iff role).mpr listed)
    simp at other

end TagSets

namespace Grammar

/-- Fields of a grammar that are valid one by one, and their values. -/
structure ValidFields (fields : Fields) (precedences : OperatorTable Int)
    (associativities : OperatorTable Associativity) (sets : TagSets) : Prop where
  precedences_eq : fields.required "precedences" (Field.asTable Field.asInteger) = .ok precedences
  associativities_eq :
    fields.withDefault "associativities" [] (Field.asTable Associativity.ofField) =
      .ok associativities
  values_eq : fields.required "value_types" Field.asTextSet = .ok sets.values
  functions_eq : fields.withDefault "function_types" [] Field.asTextSet = .ok sets.functions
  operators_eq : fields.required "operator_types" Field.asTextSet = .ok sets.operators
  separator_eq : fields.required "param_separator_type" Field.asText = .ok sets.separator
  openBracket_eq : fields.required "open_bracket_type" Field.asText = .ok sets.openBracket
  closeBracket_eq : fields.required "close_bracket_type" Field.asText = .ok sets.closeBracket

variable {fields : Fields} {precedences : OperatorTable Int}
  {associativities : OperatorTable Associativity} {sets : TagSets}

theorem ValidFields.ofFields_eq (valid : ValidFields fields precedences associativities sets) :
    ofFields fields = ofParts precedences associativities sets := by
  simp only [ofFields, valid.precedences_eq, valid.associativities_eq, valid.values_eq,
    valid.functions_eq, valid.operators_eq, valid.separator_eq, valid.openBracket_eq,
    valid.closeBracket_eq, Checked.give]

theorem ofParts_of_disjoint (unambiguous : sets.clash? = none) :
    ofParts precedences associativities sets =
      .ok ⟨precedences, associativities, sets, unambiguous⟩ := by
  have accepted : Classification.ofTagSets? sets = .ok ⟨sets, unambiguous⟩ := by
    unfold Classification.ofTagSets?
    split
    · simp_all
    · rfl
  rw [ofParts, accepted]

theorem ofParts_of_clash {clash : Clash} (found : sets.clash? = some clash) :
    ofParts precedences associativities sets = .fail (.refused clash.message) := by
  have refused : Classification.ofTagSets? sets = .error clash := by
    unfold Classification.ofTagSets?
    split <;> simp_all
  rw [ofParts, refused]

/-- Valid fields make a grammar just if no tag is listed for two roles. The role of a token is then
the one that its tag is listed for, and it has none if its tag is listed for none; it would be the
same if later listings replaced earlier ones. Otherwise the only error names a tag and two roles
that it is listed for, and the later of them is the first role that shares a tag with a role in
front of it. -/
theorem ofFields_classifies (valid : ValidFields fields precedences associativities sets) :
    ((∃ grammar, ofFields fields = .ok grammar) ↔ sets.Disjoint) ∧
      (∀ grammar, ofFields fields = .ok grammar → ∀ token,
        (∀ role, grammar.roleOf token = some role ↔ token.tag ∈ sets.tagsOf role) ∧
          (grammar.roleOf token = none ↔ ∀ role, token.tag ∉ sets.tagsOf role) ∧
          grammar.roleOf token = sets.lastRole? token.tag) ∧
      ∀ errors, ofFields fields = .error errors → ∃ (tag : String) (earlier later : Role),
        errors = [⟨[], .refused ("Type " ++ Text.quoted tag ++ " is classified both as " ++
          earlier.name ++ " and " ++ later.name)⟩] ∧
          earlier.name ≠ later.name ∧ tag ∈ sets.tagsOf earlier ∧ tag ∈ sets.tagsOf later ∧
          earlier ∈ later.before ∧
          later.before.Pairwise fun first second =>
            List.Disjoint (sets.tagsOf first) (sets.tagsOf second) := by
  rw [valid.ofFields_eq]
  cases found : sets.clash? with
  | none =>
      have disjoint := TagSets.clash?_eq_none_iff.mp found
      rw [ofParts_of_disjoint found]
      refine ⟨⟨fun _ => disjoint, fun _ => ⟨_, rfl⟩⟩, ?_, by simp⟩
      rintro grammar accepted token
      rw [Except.ok.injEq] at accepted
      subst accepted
      have listed (role : Role) : TagSets.roleIn sets.byRole token.tag = some role ↔
          token.tag ∈ sets.tagsOf role := disjoint.roleIn_eq_some_iff
      refine ⟨listed, ?_, ?_⟩
      · simp only [← listed]
        exact Option.eq_none_iff_forall_ne_some
      · apply Option.ext
        intro role
        exact (listed role).trans disjoint.lastRole?_eq_some_iff.symm
  | some clash =>
      have shared : ¬ sets.Disjoint := by
        rw [← TagSets.clash?_eq_none_iff, found]
        simp
      rw [ofParts_of_clash found]
      refine ⟨iff_of_false (by simp [Checked.fail]) shared, by simp [Checked.fail], ?_⟩
      intro errors refused
      rw [Checked.fail, Except.error.injEq] at refused
      rcases TagSets.of_clash?_eq_some found with ⟨listed, listedToo, earlier, apart⟩
      refine ⟨clash.tag, clash.earlier, clash.later, refused.symm, ?_, listed, listedToo, earlier,
        apart⟩
      exact Role.name_injective.ne (Role.ne_of_mem_before earlier)

/-- A tag that is repeated within a role does no harm. Of two tags that are listed for two roles
each, the one whose second role comes first is named. -/
theorem ofFields_classifies_repeated :
    let tags (names : List String) : Field := .list (names.map .text)
    let fields (operators : List String) (closing : String) : Fields :=
      [("precedences", .record []), ("value_types", tags ["N", "V", "N"]),
       ("operator_types", tags operators), ("param_separator_type", .text ","),
       ("open_bracket_type", .text "("), ("close_bracket_type", .text closing)]
    (∃ grammar, ofFields (fields ["O"] ")") = .ok grammar ∧
      grammar.roleOf ⟨"1", "N"⟩ = some .value ∧ grammar.roleOf ⟨"1", "X"⟩ = none) ∧
      ofFields (fields ["O", "V"] ",") =
        .error [⟨[], .refused "Type 'V' is classified both as value and operator"⟩] ∧
      ¬ TagSets.Disjoint ⟨["N", "V"], [], ["O", "V"], ",", "(", ","⟩ := by
  intro tags fields
  have valid : ValidFields (fields ["O"] ")") [] [] ⟨["N", "V"], [], ["O"], ",", "(", ")"⟩ := by
    constructor <;> rfl
  have clashing :
      ValidFields (fields ["O", "V"] ",") [] [] ⟨["N", "V"], [], ["O", "V"], ",", "(", ","⟩ := by
    constructor <;> rfl
  have refused : ofFields (fields ["O", "V"] ",") =
      .error [⟨[], .refused "Type 'V' is classified both as value and operator"⟩] := by
    have found : TagSets.clash? ⟨["N", "V"], [], ["O", "V"], ",", "(", ","⟩ =
        some ⟨"V", .value, .operator⟩ := by decide
    have message_eq : Clash.message ⟨"V", .value, .operator⟩ =
        "Type 'V' is classified both as value and operator" := by decide +kernel
    rw [clashing.ofFields_eq, ofParts_of_clash found, message_eq]
    rfl
  rcases ofFields_classifies valid with ⟨accepted_iff, roles, -⟩
  rcases accepted_iff.mpr (TagSets.clash?_eq_none_iff.mp (by decide)) with ⟨grammar, accepted⟩
  refine ⟨⟨grammar, accepted, ?_, ?_⟩, refused, ?_⟩
  · exact ((roles grammar accepted ⟨"1", "N"⟩).1 .value).mpr (by decide)
  · apply (roles grammar accepted ⟨"1", "X"⟩).2.1.mpr
    intro role
    cases role <;> decide
  · rw [← (ofFields_classifies clashing).1]
    simp [refused]

end Grammar

end Rpn
