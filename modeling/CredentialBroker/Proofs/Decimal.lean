import CredentialBroker.Text.Digits
import Mathlib.Algebra.Group.Nat.Defs

/-!
Numbers in decimal fields. Main statements: a number is read from the start of a text exactly where
the text begins with its field; and of two texts that begin with fields of the same width the fields
decide the order, by their numbers, before anything that follows does.
-/

namespace CredentialBroker.Text

/-- Reading a decimal field back gives the number below the power of ten of the width. -/
theorem ofDigitChars_fixedDigits (width value : Nat) :
    Nat.ofDigitChars 10 (fixedDigits 10 width value) 0 = value % 10 ^ width := by
  induction width generalizing value with
  | zero => simp [fixedDigits, Nat.mod_one]
  | succ width ih =>
      have hdigit : (Nat.digitChar (value % 10)).toNat - '0'.toNat = value % 10 := by
        rw [Nat.toNat_digitChar_of_lt_ten (Nat.mod_lt value (by decide))]
        exact Nat.add_sub_cancel_left 48 (value % 10)
      rw [fixedDigits, Nat.ofDigitChars_append, ih, Nat.pow_succ, Nat.mul_comm (10 ^ width) 10,
        Nat.mod_mul]
      simp only [Nat.ofDigitChars_cons, Nat.ofDigitChars_nil, hdigit]
      omega

theorem readNumber?_fixedDigits {width value : Nat} (hwidth : width ≠ 0)
    (hvalue : value < 10 ^ width) : readNumber? (fixedDigits 10 width value) = some value := by
  have hne : fixedDigits 10 width value ≠ [] := by
    rw [← List.length_pos_iff, length_fixedDigits]
    exact Nat.pos_of_ne_zero hwidth
  rw [readNumber?, if_pos ⟨hne, all_isDigit_fixedDigits width value⟩, ofDigitChars_fixedDigits,
    Nat.mod_eq_of_lt hvalue]

/-- A number is read where its field stands, and what is left is all that follows. -/
theorem readDigits?_eq_some_iff {width number : Nat} {text rest : List Char} :
    readDigits? width text = some (number, rest) ↔
      number < 10 ^ width ∧ text = fixedDigits 10 width number ++ rest := by
  constructor
  · intro hread
    simp only [readDigits?, Option.ite_none_right_eq_some, Option.some.injEq,
      Prod.mk.injEq] at hread
    obtain ⟨⟨hlength, hdigits⟩, hnumber, rfl⟩ := hread
    have hfield := fixedDigits_ofDigitChars hlength (List.all_eq_true.mp hdigits)
    rw [hnumber] at hfield
    constructor
    · rw [← hnumber, ← hfield, ofDigitChars_fixedDigits]
      exact Nat.mod_lt _ (Nat.pow_pos (by decide))
    · rw [hfield, List.take_append_drop]
  · rintro ⟨hlt, rfl⟩
    have hlength := length_fixedDigits 10 width number
    simp only [readDigits?, List.take_left' hlength, List.drop_left' hlength,
      all_isDigit_fixedDigits, ofDigitChars_fixedDigits, Nat.mod_eq_of_lt hlt, length_fixedDigits,
      and_self, if_true]

theorem fixedDigits_inj {width left right : Nat} (hleft : left < 10 ^ width)
    (hright : right < 10 ^ width) :
    fixedDigits 10 width left = fixedDigits 10 width right ↔ left = right := by
  constructor
  · intro heq
    have hread := congrArg (Nat.ofDigitChars 10 · 0) heq
    simpa only [ofDigitChars_fixedDigits, Nat.mod_eq_of_lt hleft, Nat.mod_eq_of_lt hright]
      using hread
  · exact congrArg _

/-- A number that fills the field is written in it as it is anywhere. -/
theorem toDigits_eq_fixedDigits {width value : Nat} (hlow : 10 ^ width ≤ value)
    (hhigh : value < 10 ^ (width + 1)) :
    Nat.toDigits 10 value = fixedDigits 10 (width + 1) value := by
  induction width generalizing value with
  | zero =>
      have hdigit : value < 10 := by simpa using hhigh
      rw [Nat.toDigits_of_lt_base hdigit, fixedDigits, fixedDigits, Nat.mod_eq_of_lt hdigit]
      rfl
  | succ width ih =>
      have hpositive : 0 < 10 ^ width := Nat.pow_pos (by decide)
      rw [Nat.pow_succ] at hlow hhigh
      rw [Nat.toDigits_of_base_le (by decide) (by omega), fixedDigits,
        ih (by omega) (by rw [Nat.pow_succ] at hhigh ⊢; omega)]

/-- Fields of one width are in the order of the numbers in them. -/
theorem fixedDigits_lt_iff {width left right : Nat} (hleft : left < 10 ^ width)
    (hright : right < 10 ^ width) :
    fixedDigits 10 width left < fixedDigits 10 width right ↔ left < right := by
  induction width generalizing left right with
  | zero =>
      simp only [Nat.pow_zero] at hleft hright
      simp only [fixedDigits, List.lt_irrefl, false_iff]
      omega
  | succ width ih =>
      rw [Nat.pow_succ] at hleft hright
      have hleftRest : left / 10 < 10 ^ width := by omega
      have hrightRest : right / 10 < 10 ^ width := by omega
      rw [fixedDigits, fixedDigits, append_lt_append_iff (by simp), ih hleftRest hrightRest,
        fixedDigits_inj hleftRest hrightRest, List.cons_lt_cons_iff,
        digitChar_lt_iff (Nat.mod_lt _ (by decide)) (Nat.mod_lt _ (by decide))]
      simp only [List.lt_irrefl, and_false, or_false]
      omega

/-- A field and a mark after it: what follows the mark counts only where the fields are equal. -/
theorem field_lt_field_iff {width left right : Nat} (hleft : left < 10 ^ width)
    (hright : right < 10 ^ width) (mark : Char) (after rest : List Char) :
    fixedDigits 10 width left ++ mark :: after < fixedDigits 10 width right ++ mark :: rest ↔
      left < right ∨ left = right ∧ after < rest := by
  rw [append_lt_append_iff (by simp), fixedDigits_lt_iff hleft hright,
    fixedDigits_inj hleft hright, List.cons_lt_cons_self]

end CredentialBroker.Text
