import Mathlib.Tactic.SplitIfs
import Rpn.Text.Encoding

/-!
# Decoding what was encoded

Each character is written in UTF-8 as one to four bytes, and reading these bytes gives the
character back, whatever stands behind them. So a text that is written in UTF-8 is read as the same
text, and all of its bytes make sense.
-/

namespace Rpn.Text

theorem toNat_ofNat_of_lt {code : Nat} (small : code < 0x100) :
    (UInt8.ofNat code).toNat = code := by
  simp [Nat.mod_eq_of_lt small]

namespace Utf8

/-- The second byte of a character in the numbers that the first two bytes stand for. -/
theorem isSecond_iff {first second : Nat} (small : first < 0x100) (smallToo : second < 0x100) :
    isSecond (UInt8.ofNat first) (UInt8.ofNat second) = true ↔
      0x80 ≤ second ∧ second ≤ 0xBF ∧ (first = 0xE0 → 0xA0 ≤ second) ∧
        (first = 0xED → second ≤ 0x9F) ∧ (first = 0xF0 → 0x90 ≤ second) ∧
        (first = 0xF4 → second ≤ 0x8F) := by
  have first_eq {code : UInt8} : UInt8.ofNat first = code ↔ first = code.toNat := by
    rw [← UInt8.toNat_inj, toNat_ofNat_of_lt small]
  simp only [isSecond, secondBounds, first_eq, Bool.and_eq_true, decide_eq_true_eq,
    UInt8.le_iff_toNat_le, toNat_ofNat_of_lt smallToo, UInt8.reduceToNat]
  split_ifs <;> simp only [UInt8.reduceToNat] <;> omega

theorem isContinuation_ofNat {bits : Nat} (small : bits < 0x40) :
    isContinuation (UInt8.ofNat (bits + 0x80)) = true := by
  simp only [isContinuation, Bool.and_eq_true, decide_eq_true_eq, UInt8.le_iff_toNat_le,
    toNat_ofNat_of_lt (show bits + 0x80 < 0x100 by omega)]
  exact ⟨by simp, by simp; omega⟩

theorem payload_ofNat {bits : Nat} (small : bits < 0x40) :
    payload (UInt8.ofNat (bits + 0x80)) = bits := by
  rw [payload, toNat_ofNat_of_lt (by omega)]
  omega

theorem next_one {code : Nat} (small : code < 0x80) (rest : List UInt8) :
    next (UInt8.ofNat code) rest = .char (Char.ofNat code) 1 := by
  simp only [next, toNat_ofNat_of_lt (show code < 0x100 by omega)]
  rw [if_pos small]

theorem next_two {high low : Nat} (least : 2 ≤ high) (greatest : high < 0x20) (small : low < 0x40)
    (rest : List UInt8) :
    next (UInt8.ofNat (high + 0xC0)) (UInt8.ofNat (low + 0x80) :: rest) =
      .char (Char.ofNat (high * 0x40 + low)) 2 := by
  have second : isSecond (UInt8.ofNat (high + 0xC0)) (UInt8.ofNat (low + 0x80)) = true :=
    (isSecond_iff (by omega) (by omega)).mpr (by omega)
  simp only [next, toNat_ofNat_of_lt (show high + 0xC0 < 0x100 by omega), second,
    payload_ofNat small, Nat.add_sub_cancel]
  rw [if_neg (by omega), if_neg (by omega), if_pos (by omega)]
  rfl

/-- The bounds of the middle bits keep out long forms and surrogates. -/
theorem next_three {high middle low : Nat} (greatest : high < 0x10) (smallToo : middle < 0x40)
    (small : low < 0x40) (long : high = 0 → 0x20 ≤ middle) (scalar : high = 0xD → middle < 0x20)
    (rest : List UInt8) :
    next (UInt8.ofNat (high + 0xE0))
        (UInt8.ofNat (middle + 0x80) :: UInt8.ofNat (low + 0x80) :: rest) =
      .char (Char.ofNat (high * 0x1000 + middle * 0x40 + low)) 3 := by
  have second : isSecond (UInt8.ofNat (high + 0xE0)) (UInt8.ofNat (middle + 0x80)) = true :=
    (isSecond_iff (by omega) (by omega)).mpr (by omega)
  simp only [next, toNat_ofNat_of_lt (show high + 0xE0 < 0x100 by omega), second,
    isContinuation_ofNat small, payload_ofNat small, payload_ofNat smallToo, Nat.add_sub_cancel]
  rw [if_neg (by omega), if_neg (by omega), if_neg (by omega), if_pos (by omega)]
  rfl

/-- The bounds of the upper bits keep out long forms and what is no code point. -/
theorem next_four {high upper middle low : Nat} (greatest : high < 5) (smallUpper : upper < 0x40)
    (smallMiddle : middle < 0x40) (small : low < 0x40) (long : high = 0 → 0x10 ≤ upper)
    (scalar : high = 4 → upper < 0x10) (rest : List UInt8) :
    next (UInt8.ofNat (high + 0xF0)) (UInt8.ofNat (upper + 0x80) ::
        UInt8.ofNat (middle + 0x80) :: UInt8.ofNat (low + 0x80) :: rest) =
      .char (Char.ofNat (high * 0x40000 + upper * 0x1000 + middle * 0x40 + low)) 4 := by
  have second : isSecond (UInt8.ofNat (high + 0xF0)) (UInt8.ofNat (upper + 0x80)) = true :=
    (isSecond_iff (by omega) (by omega)).mpr (by omega)
  simp only [next, toNat_ofNat_of_lt (show high + 0xF0 < 0x100 by omega), second,
    isContinuation_ofNat smallMiddle, isContinuation_ofNat small, payload_ofNat smallUpper,
    payload_ofNat smallMiddle, payload_ofNat small, Nat.add_sub_cancel]
  rw [if_neg (by omega), if_neg (by omega), if_neg (by omega), if_neg (by omega),
    if_pos (by omega)]
  rfl

theorem next_encoded (c : Char) (rest : List UInt8) :
    ∃ first more, String.utf8EncodeChar c = first :: more ∧
      next first (more ++ rest) = .char c (more.length + 1) := by
  have scalar : c.val.toNat < 0xD800 ∨ 0xDFFF < c.val.toNat ∧ c.val.toNat < 0x110000 := c.valid
  have back {code : Nat} (same : code = c.val.toNat) : Char.ofNat code = c := by
    rw [same]
    exact Char.ofNat_toNat c
  generalize code_eq : c.val.toNat = code at scalar back
  unfold String.utf8EncodeChar
  simp only [code_eq]
  by_cases one : code ≤ 0x7F
  · refine ⟨_, _, if_pos one, ?_⟩
    rw [next_one (by omega), back rfl]
    rfl
  rw [if_neg one]
  by_cases two : code ≤ 0x7FF
  · refine ⟨_, _, if_pos two, ?_⟩
    rw [List.singleton_append, next_two (by omega) (by omega) (by omega), back (by omega)]
    rfl
  rw [if_neg two]
  by_cases three : code ≤ 0xFFFF
  · refine ⟨_, _, if_pos three, ?_⟩
    rw [List.cons_append, List.singleton_append,
      next_three (by omega) (by omega) (by omega) (by omega) (by omega), back (by omega)]
    rfl
  · refine ⟨_, _, if_neg three, ?_⟩
    rw [List.cons_append, List.cons_append, List.singleton_append,
      next_four (by omega) (by omega) (by omega) (by omega) (by omega) (by omega),
      back (by omega)]
    rfl

end Utf8

namespace Encoding

theorem decodingFrom_encoded (chars : List Char) (position : Nat) (found : List Char) :
    utf8.decodingFrom position found (chars.flatMap String.utf8EncodeChar) =
      ⟨found.reverse ++ chars, none⟩ := by
  induction chars generalizing position found with
  | nil => simp [decodingFrom]
  | cons c chars ih =>
      rcases Utf8.next_encoded c (chars.flatMap String.utf8EncodeChar) with
        ⟨first, more, bytes_eq, next_eq⟩
      have rest_eq : (more ++ chars.flatMap String.utf8EncodeChar).drop (more.length + 1 - 1) =
          chars.flatMap String.utf8EncodeChar := by
        simp
      rw [List.flatMap_cons, bytes_eq, List.cons_append, decodingFrom]
      simp only [next, next_eq, rest_eq, ih]
      simp

/-- What is written in UTF-8 reads as it was written. -/
theorem decoding_utf8Bytes (text : String) :
    utf8.decoding (utf8Bytes text) = ⟨text.toList, none⟩ :=
  decodingFrom_encoded text.toList 0 []

end Encoding

end Rpn.Text
