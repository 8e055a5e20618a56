import CredentialBroker.Proofs.Decimal
import CredentialBroker.Time.Iso
import CredentialBroker.Time.Utc

/-!
Written moments read back. Main statements: the one text that reads as a moment is the one that it
is written as in full; and the text of a wall time in UTC reads as that wall time at the start of its
second.

Each reader of a field has a lemma that says of which texts it answers, and what it leaves of them.
With these a reader of several fields is opened by rewriting, and both directions are about texts.
-/

namespace CredentialBroker.Time

open Text

variable {mark : Char} {width number : Nat} {text rest : List Char}

/-- Each field of two digits has room for what is written in it. -/
theorem WallTime.fields_lt (wall : WallTime) :
    wall.date.month < 10 ^ 2 ∧ wall.date.day < 10 ^ 2 ∧ wall.hour < 10 ^ 2 ∧
      wall.minute < 10 ^ 2 ∧ wall.second < 10 ^ 2 :=
  ⟨Nat.lt_of_lt_of_le wall.month_lt (by decide), Nat.lt_of_lt_of_le wall.day_lt (by decide),
    Nat.lt_of_lt_of_le wall.hour_lt (by decide), Nat.lt_of_lt_of_le wall.minute_lt (by decide),
    Nat.lt_of_lt_of_le wall.second_lt (by decide)⟩

/-! ### In full -/

theorem readMarked?_eq_some_iff :
    readMarked? mark width text = some (number, rest) ↔
      number < 10 ^ width ∧ text = mark :: fixedDigits 10 width number ++ rest := by
  cases text with
  | nil => simp [readMarked?]
  | cons char text =>
      rw [readMarked?]
      split
      · rename_i hmark
        rw [readDigits?_eq_some_iff, hmark, List.cons_append, List.cons.injEq, and_iff_right rfl]
      · rename_i hother
        simp [hother]

theorem readOptional?_eq_some_iff :
    readOptional? mark width text = some (number, rest) ↔
      number < 10 ^ width ∧ text = optionalField mark width number ++ rest ∧
        (number = 0 → rest.head? ≠ some mark) := by
  rw [readOptional?, optionalField]
  by_cases hzero : number = 0
  · subst hzero
    have hpositive : 0 < 10 ^ width := Nat.pow_pos (by decide)
    rw [if_pos rfl, List.nil_append, and_iff_right hpositive, imp_iff_right rfl]
    split
    · rename_i hhead
      simp only [Option.filter_eq_some_iff, decide_eq_true_eq, not_true_eq_false, and_false,
        ne_eq, false_iff, not_and]
      rintro rfl hother
      exact hother hhead
    · rename_i hhead
      simp only [Option.some.injEq, Prod.mk.injEq, true_and]
      constructor
      · rintro rfl
        exact ⟨rfl, hhead⟩
      · exact And.left
  · rw [if_neg hzero]
    split
    · simp [Option.filter_eq_some_iff, readMarked?_eq_some_iff, hzero]
    · rename_i hhead
      simp only [Option.some.injEq, Prod.mk.injEq, Ne.symm hzero, false_and, false_iff]
      rintro ⟨-, rfl, -⟩
      exact hhead rfl

/-- The one text that reads as an offset is its own. -/
theorem UtcOffset.ofChars?_eq_some_iff {offset : UtcOffset} :
    UtcOffset.ofChars? text = some offset ↔ text = offset.text := by
  have hlow := offset.gt_neg_day
  have hhigh := offset.lt_day
  cases text with
  | nil => simp [ofChars?, UtcOffset.text]
  | cons sign text =>
      simp only [ofChars?, UtcOffset.text, Option.bind_eq_bind, Option.bind_eq_some_iff,
        Prod.exists, readDigits?_eq_some_iff, readMarked?_eq_some_iff, readOptional?_eq_some_iff,
        Option.ite_none_right_eq_some, signedSeconds?_eq_some_iff, ofSeconds?_eq_some_iff,
        List.cons_append, List.cons.injEq, List.append_assoc]
      constructor
      · rintro ⟨hours, _, ⟨-, rfl⟩, minutes, _, ⟨-, rfl⟩, seconds, _, ⟨-, rfl, -⟩,
          ⟨hminutes, hseconds, rfl⟩, _, ⟨hsize, rfl⟩, rfl⟩
        have hparts : offset.seconds.natAbs / 3600 = hours ∧
            offset.seconds.natAbs % 3600 / 60 = minutes ∧ offset.seconds.natAbs % 60 = seconds := by
          omega
        obtain ⟨rfl, rfl, rfl⟩ := hparts
        simp
      · rintro ⟨rfl, rfl⟩
        refine ⟨_, _, ⟨?_, rfl⟩, _, _, ⟨?_, rfl⟩, offset.seconds.natAbs % 60, [],
          ⟨?_, (List.append_nil _).symm, by simp⟩, ⟨?_, ?_, rfl⟩, _, ⟨?_, rfl⟩, rfl⟩ <;> omega

theorem Moment.ofIsoChars?_eq_some_iff {moment : Moment} :
    Moment.ofIsoChars? text = some moment ↔ text = moment.isoChars := by
  obtain ⟨wall, offset⟩ := moment
  simp only [ofIsoChars?, isoChars, dateText, timeOfDayText, Option.bind_eq_bind,
    Option.bind_eq_some_iff, Prod.exists, readDigits?_eq_some_iff, readMarked?_eq_some_iff,
    readOptional?_eq_some_iff, WallTime.ofFields?_eq_some_iff, UtcOffset.ofChars?_eq_some_iff,
    List.append_assoc, List.cons_append]
  constructor
  · rintro ⟨year, _, ⟨-, rfl⟩, month, _, ⟨-, rfl⟩, day, _, ⟨-, rfl⟩, hour, _, ⟨-, rfl⟩,
      minute, _, ⟨-, rfl⟩, second, _, ⟨-, rfl⟩, microsecond, _, ⟨-, rfl, -⟩,
      _, ⟨hdate, rfl, rfl, rfl, rfl⟩, _, rfl, hmoment⟩
    cases hmoment
    rw [← hdate]
  · rintro rfl
    obtain ⟨hmonth, hday, hhour, hminute, hsecond⟩ := wall.fields_lt
    -- where the fraction is left out, the offset is not taken for one, since it begins with a sign
    have hfraction := fun _ : wall.microsecond = 0 => offset.head?_text
    exact ⟨_, _, ⟨wall.year_lt, rfl⟩, _, _, ⟨hmonth, rfl⟩, _, _, ⟨hday, rfl⟩, _, _, ⟨hhour, rfl⟩,
      _, _, ⟨hminute, rfl⟩, _, _, ⟨hsecond, rfl⟩, _, _, ⟨wall.microsecond_lt, rfl, hfraction⟩,
      _, ⟨rfl, rfl, rfl, rfl, rfl⟩, _, rfl, rfl⟩

/-- **Written moments.** The one text that reads as a moment is the one that it is written as. -/
theorem Moment.ofIsoChars?_toList_eq_some_iff {moment : Moment} {text : String} :
    Moment.ofIsoChars? text.toList = some moment ↔ text = moment.isoText := by
  rw [ofIsoChars?_eq_some_iff, isoText, ← String.toList_inj, String.toList_ofList]

/-- A fraction of a second, and an offset that is no whole number of hours. -/
example : Moment.ofIsoChars? "2024-02-29T23:59:59.000250+05:30".toList =
    some ⟨⟨63844847999000250, by decide⟩, ⟨19800, by decide, by decide⟩⟩ := by
  rfl

/-! ### In UTC -/

/-- Reading a written moment gives it back without its fraction of a second. -/
theorem WallTime.ofUtcChars?_utcChars (wall : WallTime) :
    WallTime.ofUtcChars? wall.utcChars = some wall.wholeSecond := by
  obtain ⟨hmonth, hday, hhour, hminute, hsecond⟩ := wall.fields_lt
  have htwo {value : Nat} (hvalue : value < 10 ^ 2) :
      readNumber? (fixedDigits 10 2 value) = some value :=
    readNumber?_fixedDigits (by decide) hvalue
  simp only [utcChars_eq, ofUtcChars?,
    readField?_append (by decide : '-'.isDigit = false) (readNumber?_toDigits _),
    readField?_append (by decide : '-'.isDigit = false) (htwo hmonth),
    readField?_append (by decide : 'T'.isDigit = false) (htwo hday),
    readField?_append (by decide : ':'.isDigit = false) (htwo hhour),
    readField?_append (by decide : ':'.isDigit = false) (htwo hminute),
    readField?_append (by decide : 'Z'.isDigit = false) (htwo hsecond),
    Option.bind_eq_bind, Option.bind_some, ↓reduceIte]
  exact ofFields?_wholeSecond wall

end CredentialBroker.Time
