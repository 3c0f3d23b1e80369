import Rpn.Proofs.Moves
import Rpn.Reader

/-!
# Where the results go

The suffixes of a name are the end of the name (`exists_suffixesOf`), however its dots are arranged.
So what is left when as many characters are taken off the name is its stem, and the results get the
stem, the suffixes with low lines for their dots, and a suffix of their own. This one suffix makes
them a text, and the name is longer than that of the input, so the results never go where the input
is.
-/

namespace Rpn.Path

/-- A text is its first piece and then the others, each of them behind a separator. -/
theorem exists_pieces (separator : Char) (text : List Char) :
    ∃ (first : List Char) (more : List (List Char)), pieces separator text = first :: more ∧
      text = first ++ (more.map (separator :: ·)).flatten ∧
      ∀ piece ∈ first :: more, separator ∉ piece := by
  induction text with
  | nil => exact ⟨[], [], rfl, rfl, by simp⟩
  | cons c rest ih =>
      rcases ih with ⟨first, more, pieces_eq, rest_eq, apart⟩
      by_cases separates : c = separator
      · subst c
        refine ⟨[], first :: more, by simp [pieces, pieces_eq], ?_, ?_⟩
        · rw [List.map_cons, List.flatten_cons, List.cons_append, ← rest_eq, List.nil_append]
        · exact List.forall_mem_cons.mpr ⟨List.not_mem_nil, apart⟩
      · rcases List.forall_mem_cons.mp apart with ⟨apartFirst, apartMore⟩
        refine ⟨c :: first, more, by simp [pieces, pieces_eq, separates], ?_, ?_⟩
        · rw [List.cons_append, ← rest_eq]
        · refine List.forall_mem_cons.mpr ⟨?_, apartMore⟩
          simp [Ne.symm separates, apartFirst]

/-- The suffixes are the end of the name, and each of them has a dot in front and no other one. -/
theorem exists_suffixesOf (name : List Char) :
    ∃ (stem : List Char) (endings : List (List Char)),
      name = stem ++ (endings.map ('.' :: ·)).flatten ∧
      suffixesOf name = endings.map ('.' :: ·) ∧ ∀ ending ∈ endings, '.' ∉ ending := by
  by_cases dotted : name.getLast? = some '.'
  · exact ⟨name, [], by simp, by simp [suffixesOf, dotted], by simp⟩
  · rcases exists_pieces '.' (name.dropWhile (· == '.')) with
      ⟨first, more, pieces_eq, inner_eq, apart⟩
    refine ⟨name.takeWhile (· == '.') ++ first, more, ?_, ?_, (List.forall_mem_cons.mp apart).2⟩
    · rw [List.append_assoc, ← inner_eq, List.takeWhile_append_dropWhile]
    · rw [suffixesOf, if_neg dotted, pieces_eq, List.drop_one, List.tail_cons]

/-- The name of the results keeps the stem, and has low lines for the dots of the suffixes. -/
theorem resultsNameOf_eq {name stem : List Char} {endings : List (List Char)}
    (name_eq : name = stem ++ (endings.map ('.' :: ·)).flatten)
    (suffixes_eq : suffixesOf name = endings.map ('.' :: ·))
    (apart : ∀ ending ∈ endings, '.' ∉ ending) :
    resultsNameOf name =
      stem ++ (endings.map ('_' :: ·)).flatten ++ "_results.txt".toList := by
  have stem_eq : name.take (name.length - (endings.map ('.' :: ·)).flatten.length) = stem := by
    rw [name_eq]
    simp
  have replaced : (endings.map ('.' :: ·)).map (List.map fun c => if c = '.' then '_' else c) =
      endings.map ('_' :: ·) := by
    rw [List.map_map]
    apply List.map_congr_left
    intro ending ending_mem
    have kept : ∀ c ∈ ending, (if c = '.' then '_' else c) = c := by
      intro c c_mem
      apply if_neg
      rintro rfl
      exact apart ending ending_mem c_mem
    rw [Function.comp_apply, List.map_cons, if_pos rfl, List.map_congr_left kept, List.map_id']
  rw [resultsNameOf, suffixes_eq, stem_eq, List.map_flatten, replaced]

/-- The last suffix starts at the last dot, if a character is in front of it and one behind. -/
theorem lastSuffixOf_append {front ending : List Char} (front_ne_nil : front ≠ [])
    (ending_ne_nil : ending ≠ []) (apart : '.' ∉ ending) :
    lastSuffixOf (front ++ '.' :: ending) = '.' :: ending := by
  have ending_eq :
      ((front ++ '.' :: ending).reverse.takeWhile (· != '.')).reverse = ending := by
    have passes : ∀ c ∈ ending.reverse, (c != '.') = true := by
      intro c c_mem
      rw [bne_iff_ne]
      rintro rfl
      exact apart (List.mem_reverse.mp c_mem)
    rw [List.reverse_append, List.reverse_cons, List.append_assoc,
      takeWhile_append_eq passes (by simp), List.reverse_reverse]
  have front_length : 1 < (front ++ '.' :: ending).length - ending.length := by
    have := List.length_pos_iff.mpr front_ne_nil
    rw [List.length_append, List.length_cons]
    omega
  rw [lastSuffixOf, ending_eq]
  exact if_pos ⟨ending_ne_nil, front_length⟩

/-- A path whose name ends like that of a text leads to one, whatever suffixes are in front. -/
theorem inputFormat_of_text {path : Path} {front : List Char} (front_ne_nil : front ≠ [])
    (name_eq : path.name.toList = front ++ ".txt".toList) : path.inputFormat = ".txt" := by
  have text_eq : ".txt".toList = '.' :: ['t', 'x', 't'] := by decide
  rw [text_eq] at name_eq
  have unpacked : path.suffixes.drop (path.suffixes.length - 2) ≠ [".tar", ".xz"] := by
    intro packed
    rcases exists_suffixesOf path.name.toList with ⟨stem, endings, split, suffixes_eq, -⟩
    have joined : (path.suffixes.map String.toList).flatten = (endings.map ('.' :: ·)).flatten := by
      rw [suffixes, suffixes_eq]
      simp [Function.comp_def]
    have packed_eq : ".xz".toList = ['.', 'x', 'z'] := by decide
    have last_eq := congrArg List.getLast? split
    rw [← joined, ← List.take_append_drop (path.suffixes.length - 2) path.suffixes, packed,
      name_eq] at last_eq
    simp [packed_eq] at last_eq
  rw [inputFormat, if_neg unpacked, lastSuffix, name_eq,
    lastSuffixOf_append front_ne_nil (by simp) (by simp)]

theorem name_of_concat {path : Path} {front : List String} {last : String}
    (names_eq : path.names = front ++ [last]) : path.name = last := by
  rw [name, names_eq, List.getLast?_concat, Option.getD_some]

/-- A path with a last name is its folder followed by that name. -/
theorem names_eq_of_named {path : Path} (named : path.name ≠ "") :
    path.names = path.names.dropLast ++ [path.name] := by
  rcases List.eq_nil_or_concat path.names with empty | ⟨front, last, names_eq⟩
  · simp [name, empty] at named
  · rw [List.concat_eq_append] at names_eq
    rw [name_of_concat names_eq, names_eq, List.dropLast_concat]

theorem withName?_of_named {path : Path} (named : path.name ≠ "") (other : String) :
    path.withName? other = some { path with names := path.names.dropLast ++ [other] } := by
  have names_eq := names_eq_of_named named
  unfold withName?
  split
  · next empty =>
      rw [empty] at names_eq
      simp at names_eq
  · rfl

theorem toList_join_signed {sign : String} {c : Char} (sign_eq : sign.toList = [c])
    (endings : List (List Char)) :
    (String.join ((endings.map String.ofList).map (sign ++ ·))).toList =
      (endings.map (c :: ·)).flatten := by
  rw [String.toList_join, List.map_map, List.flatMap_map, List.flatMap_def]
  congr 1
  apply List.map_congr_left
  intro ending _
  simp [sign_eq]

/-- The results go into a file beside the input. Its name is that of the input, with low lines for
the dots of the suffixes and for no others, and with an ending that makes it the name of a text. It
is never the input itself. -/
theorem results?_beside {path : Path} (named : path.name ≠ "") :
    ∃ (results : Path) (stem : String) (endings : List String),
      path.results? = some results ∧
      path.name = stem ++ String.join (endings.map ("." ++ ·)) ∧
      path.suffixes = endings.map ("." ++ ·) ∧
      (∀ ending ∈ endings, '.' ∉ ending.toList) ∧
      results.name = stem ++ String.join (endings.map ("_" ++ ·)) ++ "_results.txt" ∧
      results.root = path.root ∧
      results.names = path.names.dropLast ++ [results.name] ∧
      path.names = path.names.dropLast ++ [path.name] ∧
      results ≠ path ∧
      results.inputFormat = ".txt" ∧
      InputKind.ofFormat? results.inputFormat = some .text := by
  rcases exists_suffixesOf path.name.toList with ⟨stem, endings, split, suffixes_eq, apart⟩
  let results : Path :=
    { path with names :=
        path.names.dropLast ++ [String.ofList (resultsNameOf path.name.toList)] }
  have results_name : results.name = String.ofList (resultsNameOf path.name.toList) :=
    name_of_concat rfl
  have results_chars : results.name.toList =
      stem ++ (endings.map ('_' :: ·)).flatten ++ "_results.txt".toList := by
    rw [results_name, String.toList_ofList, resultsNameOf_eq split suffixes_eq apart]
  have format_eq : results.inputFormat = ".txt" := by
    have text_eq : "_results.txt".toList = "_results".toList ++ ".txt".toList := by decide
    rw [text_eq, ← List.append_assoc] at results_chars
    exact inputFormat_of_text (by simp) results_chars
  refine ⟨results, String.ofList stem, endings.map String.ofList, withName?_of_named named _,
    ?_, ?_, ?_, ?_, rfl, ?_, names_eq_of_named named, ?_, format_eq, ?_⟩
  · rw [← String.toList_inj, String.toList_append, String.toList_ofList,
      toList_join_signed (c := '.') (by decide), ← split]
  · rw [suffixes, suffixes_eq, List.map_map, List.map_map]
    apply List.map_congr_left
    intro ending _
    rw [← String.toList_inj]
    simp
  · simpa using apart
  · rw [← String.toList_inj, String.toList_append, String.toList_append, String.toList_ofList,
      toList_join_signed (c := '_') (by decide), results_chars]
  · rw [results_name]
  · intro same
    have lengths : results.name.toList.length = path.name.toList.length := by rw [same]
    have added : "_results.txt".toList.length = 12 := by decide
    rw [results_chars, split] at lengths
    simp only [List.length_append, List.length_flatten, List.map_map, Function.comp_def,
      List.length_cons] at lengths
    omega
  · rw [format_eq]
    decide

/-- A name with dots in front, two dots in a row, and the suffixes of a tape archive. -/
theorem results?_beside_dotted :
    let path := Path.ofString "some/..a..tar.xz"
    let results := Path.ofString "some/..a__tar_xz_results.txt"
    path.name ≠ "" ∧ path.results? = some results ∧ results ≠ path ∧
      results.inputFormat = ".txt" := by
  intro path results
  have named : path.name ≠ "" := by decide
  have beside : path.results? = some results := by decide
  rcases results?_beside named with
    ⟨found, -, -, found_eq, -, -, -, -, -, -, -, different, format_eq, -⟩
  rw [beside, Option.some.injEq] at found_eq
  subst found
  exact ⟨named, beside, different, format_eq⟩

end Rpn.Path
