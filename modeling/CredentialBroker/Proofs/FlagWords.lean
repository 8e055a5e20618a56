import CredentialBroker.Settings

/-!
The texts that set a flag. Main statement: they are the 24 spellings of two words in capital and
small letters of ASCII, each between any blanks, and nothing else, whatever the lower case of other
characters may be.

Only two characters from outside ASCII have a small letter of ASCII in their lower case, and it is
one that neither word has. The rest follows letter by letter, since no letter of the words comes
from a character with a longer lower case.
-/

namespace CredentialBroker

namespace Text

/-- What a case map makes of a character: several characters, another one or the same. -/
inductive CaseMap.Image (caseMap : CaseMap) (char : Char) : List Char → Prop where
  | expanded {codes : List Nat} (hcodes : (char.toNat, codes) ∈ caseMap.expansions) :
      Image caseMap char (codes.map Char.ofNat)
  | moved {run : CaseRun} (hrun : run ∈ caseMap.runs) (hcovers : run.covers char.toNat = true) :
      Image caseMap char [Char.ofNat (run.image char.toNat)]
  | unmoved (huncovered : ∀ run ∈ caseMap.runs, run.covers char.toNat = false) :
      Image caseMap char [char]

/-- A lower case of a text, in which the form of a capital sigma is left open: it is another one at
the end of a word. -/
inductive LowerForm : List Char → List Char → Prop where
  | nil : LowerForm [] []
  | mapped (char : Char) {text lowered : List Char} (hform : LowerForm text lowered) :
      LowerForm (char :: text) (lowerCase.mapChar char ++ lowered)
  | finalSigma {text lowered : List Char} (hform : LowerForm text lowered) :
      LowerForm ('Σ' :: text) ('ς' :: lowered)

def IsSmallLetter (char : Char) : Prop :=
  0x61 ≤ char.toNat ∧ char.toNat ≤ 0x7A

/-- A small letter that is in the lower case of no other character than itself and its capital. -/
def IsPlainLetter (letter : Char) : Prop :=
  IsSmallLetter letter ∧ letter ≠ 'k' ∧ letter ≠ 'i'

/-- All ways to write a word, each of its letters as a capital or as it is. -/
def spellings : List Char → List (List Char)
  | [] => [[]]
  | letter :: word =>
    (spellings word).flatMap fun rest => [letter.toUpper :: rest, letter :: rest]

/-! ### What a character becomes -/

theorem CaseMap.image_mapChar (caseMap : CaseMap) (char : Char) :
    caseMap.Image char (caseMap.mapChar char) := by
  rw [mapChar]
  split
  · rename_i codes hcodes
    obtain ⟨before, after, hsplit, -⟩ := List.lookup_eq_some_iff.mp hcodes
    apply Image.expanded
    rw [hsplit]
    simp
  · split
    · rename_i run hfound
      have hcovers := List.find?_some hfound
      exact .moved (List.mem_of_find?_eq_some hfound) hcovers
    · rename_i hnone
      apply Image.unmoved
      simpa using hnone

theorem CaseRun.bounds_of_covers {run : CaseRun} {code : Nat} (hcovers : run.covers code = true) :
    run.first ≤ code ∧ code ≤ run.last := by
  simp only [covers, Bool.and_eq_true, decide_eq_true_eq] at hcovers
  exact hcovers.1

theorem toNat_eq_of_ofNat_eq {code : Nat} {char : Char} (hchar : Char.ofNat code = char)
    (hnull : char.toNat ≠ 0) : char.toNat = code := by
  subst hchar
  by_cases hvalid : code.isValidChar
  · rw [Char.ofNat, dif_pos hvalid]
    rfl
  · rw [Char.ofNat, dif_neg hvalid] at hnull
    exact absurd rfl hnull

theorem toNat_toUpper {letter : Char} (hsmall : IsSmallLetter letter) :
    letter.toUpper.toNat + 32 = letter.toNat := by
  obtain ⟨hlow, hhigh⟩ := hsmall
  have hrange : 'a'.val ≤ letter.val ∧ letter.val ≤ 'z'.val := ⟨hlow, hhigh⟩
  have hcapital : ∃ hvalid, letter.toUpper = ⟨letter.val + ('A'.val - 'a'.val), hvalid⟩ :=
    ⟨_, dif_pos hrange⟩
  have hshift : ('A'.val - 'a'.val).toNat = 2 ^ 32 - 32 := rfl
  obtain ⟨hvalid, hcapital⟩ := hcapital
  rw [hcapital, ← Char.toNat_val, UInt32.toNat_add, Char.toNat_val, hshift]
  omega

/-- Only the capital letters of ASCII and the Kelvin sign move to where ASCII is. -/
theorem lowerCase_run_cases {run : CaseRun} (hrun : run ∈ lowerCase.runs) :
    (run.first = 0x41 ∧ run.last = 0x5A ∧ run.stride = 1 ∧ run.shift = 32) ∨
      (run.first = 0x212A ∧ run.last = 0x212A ∧ run.shift = -8383) ∨
      (0x80 ≤ run.first ∧ 0x80 ≤ run.first + run.shift) := by
  have hruns : ∀ run ∈ lowerCase.runs,
      (run.first = 0x41 ∧ run.last = 0x5A ∧ run.stride = 1 ∧ run.shift = 32) ∨
        (run.first = 0x212A ∧ run.last = 0x212A ∧ run.shift = -8383) ∨
        (0x80 ≤ run.first ∧ 0x80 ≤ run.first + run.shift) := by
    decide +kernel
  exact hruns run hrun

theorem eq_of_mem_lowerCase_expansions {code : Nat} {codes : List Nat}
    (hcodes : (code, codes) ∈ lowerCase.expansions) : code = 0x130 ∧ codes = [0x69, 0x307] := by
  have hexpansions : lowerCase.expansions = [(0x130, [0x69, 0x307])] := rfl
  rw [hexpansions, List.mem_singleton, Prod.mk.injEq] at hcodes
  exact hcodes

variable {char letter : Char}

theorem smallLetter_mem_mapChar (hsmall : IsSmallLetter letter)
    (hmem : letter ∈ lowerCase.mapChar char) :
    char = letter.toUpper ∨ char = letter ∨ (char.toNat = 0x212A ∧ letter = 'k') ∨
      (char.toNat = 0x130 ∧ letter = 'i') := by
  have hupper := toNat_toUpper hsmall
  obtain ⟨hlow, hhigh⟩ := hsmall
  have himage := lowerCase.image_mapChar char
  generalize lowerCase.mapChar char = images at hmem himage
  cases himage with
  | expanded hcodes =>
      obtain ⟨hchar, rfl⟩ := eq_of_mem_lowerCase_expansions hcodes
      have hletter : letter = 'i' ∨ letter = Char.ofNat 0x307 := by simpa using hmem
      rcases hletter with rfl | rfl
      · exact Or.inr (Or.inr (Or.inr ⟨hchar, rfl⟩))
      · exact absurd hhigh (by decide)
  | moved hrun hcovers =>
      rename_i run
      obtain ⟨hfirst, hlast⟩ := CaseRun.bounds_of_covers hcovers
      have hcode := toNat_eq_of_ofNat_eq (List.mem_singleton.mp hmem).symm (by omega)
      rw [CaseRun.image] at hcode
      -- What moves within ASCII are its capitals; from beyond it, only the Kelvin sign gets there.
      rcases lowerCase_run_cases hrun with
        ⟨hstart, hend, -, hshift⟩ | ⟨hstart, hend, hshift⟩ | ⟨hstart, hbeyond⟩
      · left
        apply Char.toNat_inj.mp
        omega
      · right; right; left
        have hkelvin : char.toNat = 0x212A := by omega
        refine ⟨hkelvin, Char.toNat_inj.mp ?_⟩
        rw [hcode, hkelvin, hshift]
        rfl
      · omega
  | unmoved huncovered =>
      exact Or.inr (Or.inl (List.mem_singleton.mp hmem).symm)

theorem mapChar_ne_nil : lowerCase.mapChar char ≠ [] := by
  have himage := lowerCase.image_mapChar char
  generalize lowerCase.mapChar char = images at himage
  cases himage with
  | expanded hcodes =>
      obtain ⟨-, rfl⟩ := eq_of_mem_lowerCase_expansions hcodes
      simp
  | moved hrun hcovers => simp
  | unmoved huncovered => simp

theorem mapChar_of_spelled (hsmall : IsSmallLetter letter)
    (hspelled : char = letter.toUpper ∨ char = letter) : lowerCase.mapChar char = [letter] := by
  have hupper := toNat_toUpper hsmall
  have hcode : char.toNat + 32 = letter.toNat ∨ char.toNat = letter.toNat := by
    rcases hspelled with rfl | rfl
    · exact Or.inl hupper
    · exact Or.inr rfl
  obtain ⟨hlow, hhigh⟩ := hsmall
  have himage := lowerCase.image_mapChar char
  generalize lowerCase.mapChar char = images at himage
  cases himage with
  | expanded hcodes =>
      obtain ⟨hchar, -⟩ := eq_of_mem_lowerCase_expansions hcodes
      omega
  | @moved run hrun hcovers =>
      have hbounds := CaseRun.bounds_of_covers hcovers
      have hcases := lowerCase_run_cases hrun
      have hmoved : run.image char.toNat = letter.toNat := by
        rw [CaseRun.image]
        omega
      rw [hmoved, Char.ofNat_toNat]
  | unmoved huncovered =>
      rcases hspelled with rfl | rfl
      · have hcapitals : CaseRun.mk 0x41 0x5A 1 32 ∈ lowerCase.runs := List.mem_cons_self
        have hcovers : (CaseRun.mk 0x41 0x5A 1 32).covers letter.toUpper.toNat = true := by
          simp only [CaseRun.covers, Nat.mod_one, Bool.and_eq_true, decide_eq_true_eq]
          refine ⟨⟨?_, ?_⟩, rfl⟩ <;> omega
        rw [huncovered _ hcapitals] at hcovers
        cases hcovers
      · rfl

/-! ### Words in lower case -/

theorem mapChar_append_eq_cons_iff (hplain : IsPlainLetter letter) {lowered word : List Char} :
    lowerCase.mapChar char ++ lowered = letter :: word ↔
      (char = letter.toUpper ∨ char = letter) ∧ lowered = word := by
  obtain ⟨hsmall, hkelvin, hdotted⟩ := hplain
  constructor
  · intro happend
    have hmem : letter ∈ lowerCase.mapChar char := by
      cases himages : lowerCase.mapChar char with
      | nil => exact absurd himages mapChar_ne_nil
      | cons first rest =>
          rw [himages] at happend
          cases happend
          exact List.mem_cons_self
    have hspelled : char = letter.toUpper ∨ char = letter := by
      rcases smallLetter_mem_mapChar hsmall hmem with hupper | hsame | ⟨-, hk⟩ | ⟨-, hi⟩
      · exact Or.inl hupper
      · exact Or.inr hsame
      · exact absurd hk hkelvin
      · exact absurd hi hdotted
    rw [mapChar_of_spelled hsmall hspelled] at happend
    cases happend
    exact ⟨hspelled, rfl⟩
  · rintro ⟨hspelled, rfl⟩
    rw [mapChar_of_spelled hsmall hspelled]
    rfl

theorem ascii_of_spelled (hsmall : IsSmallLetter letter)
    (hspelled : char = letter.toUpper ∨ char = letter) : char.toNat < 0x80 := by
  have hupper := toNat_toUpper hsmall
  obtain ⟨hlow, hhigh⟩ := hsmall
  rcases hspelled with rfl | rfl <;> omega

theorem mem_spellings_nil {text : List Char} : text ∈ spellings [] ↔ text = [] :=
  List.mem_singleton

theorem cons_mem_spellings_cons {text word : List Char} :
    char :: text ∈ spellings (letter :: word) ↔
      (char = letter.toUpper ∨ char = letter) ∧ text ∈ spellings word := by
  simp only [spellings, List.mem_flatMap]
  grind

theorem nil_not_mem_spellings_cons {word : List Char} : [] ∉ spellings (letter :: word) := by
  simp [spellings]

theorem ascii_of_mem_spellings {text word : List Char}
    (hplain : ∀ letter ∈ word, IsPlainLetter letter) (hspelled : text ∈ spellings word) :
    ∀ char ∈ text, char.toNat < 0x80 := by
  induction word generalizing text with
  | nil =>
      rw [mem_spellings_nil.mp hspelled]
      simp
  | cons letter word ih =>
      obtain ⟨⟨hsmall, -⟩, hword⟩ := List.forall_mem_cons.mp hplain
      cases text with
      | nil => exact absurd hspelled nil_not_mem_spellings_cons
      | cons first text =>
          obtain ⟨hfirst, hrest⟩ := cons_mem_spellings_cons.mp hspelled
          exact List.forall_mem_cons.mpr ⟨ascii_of_spelled hsmall hfirst, ih hword hrest⟩

theorem LowerForm.eq_word_iff {text lowered word : List Char} (hform : LowerForm text lowered)
    (hplain : ∀ letter ∈ word, IsPlainLetter letter) : lowered = word ↔ text ∈ spellings word := by
  induction hform generalizing word with
  | nil =>
      cases word with
      | nil => simp [mem_spellings_nil]
      | cons letter word => simp [nil_not_mem_spellings_cons]
  | mapped char hform ih =>
      cases word with
      | nil => simp [mem_spellings_nil, mapChar_ne_nil]
      | cons letter word =>
          obtain ⟨hletter, hword⟩ := List.forall_mem_cons.mp hplain
          rw [mapChar_append_eq_cons_iff hletter, cons_mem_spellings_cons, ih hword]
  | finalSigma hform ih =>
      cases word with
      | nil => simp [mem_spellings_nil]
      | cons letter word =>
          obtain ⟨⟨hsmall, -⟩, hword⟩ := List.forall_mem_cons.mp hplain
          rw [cons_mem_spellings_cons]
          -- Neither form of the sigma is a small letter of ASCII or the capital of one.
          constructor
          · intro hcons
            cases hcons
            exact absurd hsmall.2 (by decide)
          · rintro ⟨hsigma, -⟩
            exact absurd (ascii_of_spelled hsmall hsigma) (by decide)

theorem lowerForm_toLowerCase (text : List Char) : LowerForm text (toLowerCase text) := by
  induction text with
  | nil => exact .nil
  | cons char text ih => exact .mapped char ih

end Text

open Text

/-- The words that set a flag. -/
def flagWords : List (List Char) := [['t', 'r', 'u', 'e'], ['y', 'e', 's']]

/-- The words that set a flag, in capital and small letters. -/
def flagSpellings : List String :=
  (flagWords.flatMap spellings).map String.ofList

theorem isPlainLetter_of_mem_flagWords {word : List Char} (hword : word ∈ flagWords) :
    ∀ letter ∈ word, IsPlainLetter letter := by
  simp only [flagWords, List.mem_cons, List.not_mem_nil, or_false] at hword
  rcases hword with rfl | rfl <;> simp [IsPlainLetter, IsSmallLetter]

theorem isTruthy_eq_true_iff_toLowerCase {text : String} :
    isTruthy text = true ↔ toLowerCase (strip text.toList) ∈ flagWords := by
  simp [isTruthy, flagWords]

theorem lowered_mem_flagWords_iff {text lowered : List Char} (hform : LowerForm text lowered) :
    lowered ∈ flagWords ↔ text ∈ flagWords.flatMap spellings := by
  rw [List.mem_flatMap]
  constructor
  · intro hword
    exact ⟨lowered, hword,
      (hform.eq_word_iff (isPlainLetter_of_mem_flagWords hword)).mp rfl⟩
  · rintro ⟨word, hword, hspelled⟩
    rw [(hform.eq_word_iff (isPlainLetter_of_mem_flagWords hword)).mpr hspelled]
    exact hword

theorem stripped_mem_flagSpellings_iff {text : String} :
    stripped text ∈ flagSpellings ↔ strip text.toList ∈ flagWords.flatMap spellings := by
  rw [flagSpellings, List.mem_map]
  constructor
  · rintro ⟨spelled, hmem, hstripped⟩
    rw [stripped, String.ofList_inj] at hstripped
    rwa [← hstripped]
  · intro hmem
    exact ⟨_, hmem, rfl⟩

/-- A text that sets a flag has characters of ASCII within and blanks around. -/
theorem ascii_or_blank_of_isTruthy {text : String} (htruthy : isTruthy text = true) :
    ∀ char ∈ text.toList, char.toNat < 0x80 ∨ isBlank char = true := by
  rw [isTruthy_eq_true_iff_toLowerCase, lowered_mem_flagWords_iff (lowerForm_toLowerCase _)]
    at htruthy
  obtain ⟨word, hword, hspelled⟩ := List.mem_flatMap.mp htruthy
  have hascii := ascii_of_mem_spellings (isPlainLetter_of_mem_flagWords hword) hspelled
  obtain ⟨before, after, hsplit, hbefore, hafter⟩ := exists_blanks_around_strip text.toList
  intro char hmem
  rw [hsplit, List.mem_append, List.mem_append] at hmem
  rcases hmem with (hmem | hmem) | hmem
  · exact Or.inr (hbefore char hmem)
  · exact Or.inl (hascii char hmem)
  · exact Or.inr (hafter char hmem)

/-- **Flags.** A text sets a flag exactly when its stripped form is one of the 24 spellings of the
words. It does not matter which lower case of that form the words are looked for in, and a text with
a character beyond ASCII that is no blank sets no flag. -/
theorem flag_set_by_spellings (text : String) :
    (isTruthy text = true ↔ stripped text ∈ flagSpellings) ∧
      flagSpellings.length = 24 ∧ flagSpellings.Nodup ∧
      (∀ lowered, LowerForm (strip text.toList) lowered →
        (isTruthy text = true ↔ lowered ∈ flagWords)) ∧
      ∀ char ∈ text.toList, 0x80 ≤ char.toNat → isBlank char = false → isTruthy text = false := by
  refine ⟨?_, by decide, by decide, ?_, ?_⟩
  · rw [isTruthy_eq_true_iff_toLowerCase, stripped_mem_flagSpellings_iff,
      lowered_mem_flagWords_iff (lowerForm_toLowerCase _)]
  · intro lowered hform
    rw [isTruthy_eq_true_iff_toLowerCase, lowered_mem_flagWords_iff hform,
      lowered_mem_flagWords_iff (lowerForm_toLowerCase _)]
  · intro char hmem hbeyond hchar
    rw [Bool.eq_false_iff]
    intro htruthy
    rcases ascii_or_blank_of_isTruthy htruthy char hmem with hascii | hblank
    · omega
    · rw [hchar] at hblank
      cases hblank

/-- The sigma has two lower cases, and the lower case of the dotted capital starts with a small
letter of ASCII. -/
theorem flag_set_by_spellings_framed :
    "YeS" ∈ flagSpellings ∧ isTruthy "\u2003YeS\u3000" = true ∧
      LowerForm "yeΣ".toList "yeς".toList ∧ isTruthy "yeΣ" = false ∧
      'İ' ∈ "İ true".toList ∧ 0x80 ≤ 'İ'.toNat ∧ isBlank 'İ' = false ∧
      isTruthy "İ true" = false := by
  obtain ⟨hset, -, -, -, -⟩ := flag_set_by_spellings "\u2003YeS\u3000"
  obtain ⟨-, -, -, hlowered, -⟩ := flag_set_by_spellings "yeΣ"
  obtain ⟨-, -, -, -, hbeyond⟩ := flag_set_by_spellings "İ true"
  have hspelled : "YeS" ∈ flagSpellings := by decide
  have hform : LowerForm "yeΣ".toList "yeς".toList :=
    .mapped 'y' (.mapped 'e' (.finalSigma .nil))
  have hdotted : 'İ' ∈ "İ true".toList ∧ 0x80 ≤ 'İ'.toNat ∧ isBlank 'İ' = false := by decide
  obtain ⟨hmem, hcode, hblank⟩ := hdotted
  refine ⟨hspelled, hset.mpr hspelled, hform, ?_, hmem, hcode, hblank, hbeyond _ hmem hcode hblank⟩
  rw [Bool.eq_false_iff, ne_eq, hlowered _ hform]
  decide

end CredentialBroker
