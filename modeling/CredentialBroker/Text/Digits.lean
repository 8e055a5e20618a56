/-!
Digits in fields of fixed width, and the order of texts. Main statements: a field is exactly as wide
as asked and holds digits only, and digits are the field of the number that they stand for; texts
are in the order of their code points, and of two texts that begin with parts of the same length
these parts decide before anything that follows does.
-/

namespace CredentialBroker.Text

/-- The last `width` digits of a number in a base up to sixteen, with zeros in front of a short one. -/
def fixedDigits (base : Nat) : Nat → Nat → List Char
  | 0, _ => []
  | width + 1, value =>
    fixedDigits base width (value / base) ++ [Nat.digitChar (value % base)]

/-- The number a run of decimal digits stands for. -/
def readNumber? (text : List Char) : Option Nat :=
  if text ≠ [] ∧ text.all Char.isDigit then some (Nat.ofDigitChars 10 text 0) else none

/-- The number that the first so many characters stand for, and the text after them. -/
def readDigits? (width : Nat) (text : List Char) : Option (Nat × List Char) :=
  let field := text.take width
  if field.length = width ∧ field.all Char.isDigit then
    some (Nat.ofDigitChars 10 field 0, text.drop width)
  else none

@[simp]
theorem length_fixedDigits (base width value : Nat) :
    (fixedDigits base width value).length = width := by
  induction width generalizing value with
  | zero => rfl
  | succ width ih => simp [fixedDigits, ih]

theorem isDigit_of_mem_fixedDigits {width value : Nat} {char : Char}
    (hmem : char ∈ fixedDigits 10 width value) : char.isDigit = true := by
  induction width generalizing value with
  | zero => cases hmem
  | succ width ih =>
      rcases List.mem_append.mp hmem with hrest | hlast
      · exact ih hrest
      · have hdigit : char ∈ Nat.toDigits 10 (value % 10) := by
          rw [Nat.toDigits_of_lt_base (Nat.mod_lt value (by decide))]
          exact hlast
        exact Nat.isDigit_of_mem_toDigits (by decide) (by decide) hdigit

theorem all_isDigit_fixedDigits (width value : Nat) :
    (fixedDigits 10 width value).all Char.isDigit = true :=
  List.all_eq_true.mpr fun _ hmem => isDigit_of_mem_fixedDigits hmem

theorem digitChar_of_isDigit {char : Char} (hdigit : char.isDigit = true) :
    char.toNat - '0'.toNat < 10 ∧ Nat.digitChar (char.toNat - '0'.toNat) = char := by
  have hzero : '0'.toNat = 48 := rfl
  have hnine : '9'.toNat = 57 := rfl
  obtain ⟨hlow, hhigh⟩ := Char.isDigit_iff_toNat.mp hdigit
  have hlt : char.toNat - '0'.toNat < 10 := by omega
  refine ⟨hlt, Char.toNat_inj.mp ?_⟩
  rw [Nat.toNat_digitChar_of_lt_ten hlt]
  omega

/-- Digits are the field of the number they stand for. -/
theorem fixedDigits_ofDigitChars {width : Nat} {digits : List Char}
    (hlength : digits.length = width) (hdigits : ∀ char ∈ digits, char.isDigit = true) :
    fixedDigits 10 width (Nat.ofDigitChars 10 digits 0) = digits := by
  induction width generalizing digits with
  | zero => rw [List.length_eq_zero_iff.mp hlength, fixedDigits]
  | succ width ih =>
      -- fields are written from their last digit on
      rcases List.eq_nil_or_concat digits with rfl | ⟨before, last, rfl⟩
      · cases hlength
      · rw [List.concat_eq_append] at hlength hdigits ⊢
        obtain ⟨hlt, hlast⟩ := digitChar_of_isDigit (hdigits last (by simp))
        have hbefore := ih (by simpa using hlength) fun char hmem => hdigits char (by simp [hmem])
        have hvalue : Nat.ofDigitChars 10 (before ++ [last]) 0 =
            10 * Nat.ofDigitChars 10 before 0 + (last.toNat - '0'.toNat) := by
          simp only [Nat.ofDigitChars_append, Nat.ofDigitChars_cons, Nat.ofDigitChars_nil]
        rw [hvalue, fixedDigits, Nat.mul_add_div (by decide), Nat.div_eq_of_lt hlt, Nat.add_zero,
          Nat.mul_add_mod, Nat.mod_eq_of_lt hlt, hbefore, hlast]

theorem readNumber?_toDigits (value : Nat) : readNumber? (Nat.toDigits 10 value) = some value := by
  have hdigits : (Nat.toDigits 10 value).all Char.isDigit = true :=
    List.all_eq_true.mpr fun _ hmem => Nat.isDigit_of_mem_toDigits (by decide) (by decide) hmem
  rw [readNumber?, if_pos ⟨Nat.toDigits_ne_nil, hdigits⟩, Nat.ofDigitChars_ten_toDigits]

/-! ### The order of texts -/

/-- Texts are in the order of their code points, of which the first that differ decide. -/
theorem lt_iff_codePoints {left right : String} :
    left < right ↔ left.toList.map Char.toNat < right.toList.map Char.toNat := by
  change left.toList < right.toList ↔ _
  generalize left.toList = leftChars
  generalize right.toList = rightChars
  induction leftChars generalizing rightChars with
  | nil => cases rightChars <;> simp
  | cons char chars ih =>
      cases rightChars with
      | nil => simp
      | cons other others =>
          simp only [List.map_cons, List.cons_lt_cons_iff, Char.toNat_inj, ← ih]
          exact Iff.rfl

theorem append_lt_append_iff {before other : List Char} (hlength : before.length = other.length)
    (after rest : List Char) :
    before ++ after < other ++ rest ↔ before < other ∨ before = other ∧ after < rest := by
  induction before generalizing other with
  | nil =>
      cases List.length_eq_zero_iff.mp hlength.symm
      simp
  | cons char before ih =>
      obtain ⟨first, other, rfl⟩ := List.exists_cons_of_length_eq_add_one hlength.symm
      have hrest := ih (Nat.succ.inj hlength)
      simp only [List.cons_append, List.cons_lt_cons_iff, hrest, List.cons.injEq, and_or_left,
        or_assoc, and_assoc]

theorem digitChar_lt_iff {left right : Nat} (hleft : left < 10) (hright : right < 10) :
    Nat.digitChar left < Nat.digitChar right ↔ left < right := by
  change (Nat.digitChar left).toNat < (Nat.digitChar right).toNat ↔ _
  rw [Nat.toNat_digitChar_of_lt_ten hleft, Nat.toNat_digitChar_of_lt_ten hright]
  omega

end CredentialBroker.Text
