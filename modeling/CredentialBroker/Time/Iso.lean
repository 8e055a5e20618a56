import CredentialBroker.Text.Digits
import CredentialBroker.Time.Moment

/-!
Moments in their full written form: date and time of day in the moment's own offset, then the
offset. Fractions of a second and seconds of the offset appear only when there are any. A reader for
the same form stands beside the writer.

A number that is left out where it is zero could be read from two texts, and so could an offset of
zero, with either sign. The reader takes the shorter text and the plus.
-/

namespace CredentialBroker.Time

open Text

def dateText (date : Date) : List Char :=
  fixedDigits 10 4 date.year ++ '-' :: fixedDigits 10 2 date.month ++
    '-' :: fixedDigits 10 2 date.day

def timeOfDayText (wall : WallTime) : List Char :=
  fixedDigits 10 2 wall.hour ++ ':' :: fixedDigits 10 2 wall.minute ++
    ':' :: fixedDigits 10 2 wall.second

/-- A field after its mark, both left out where the number is zero. -/
def optionalField (mark : Char) (width number : Nat) : List Char :=
  if number = 0 then [] else mark :: fixedDigits 10 width number

def UtcOffset.text (offset : UtcOffset) : List Char :=
  let sign := if offset.seconds < 0 then '-' else '+'
  let size := offset.seconds.natAbs
  sign :: fixedDigits 10 2 (size / 3600) ++ ':' :: fixedDigits 10 2 (size % 3600 / 60) ++
    optionalField ':' 2 (size % 60)

def Moment.isoChars (moment : Moment) : List Char :=
  dateText moment.wall.date ++ 'T' :: timeOfDayText moment.wall ++
    optionalField '.' 6 moment.wall.microsecond ++ moment.offset.text

def Moment.isoText (moment : Moment) : String :=
  String.ofList moment.isoChars

/-- The number in a field after its mark, and the text after the field. -/
def readMarked? (mark : Char) (width : Nat) : List Char → Option (Nat × List Char)
  | [] => none
  | char :: text => if char = mark then readDigits? width text else none

/-- The number in a field that may be left out, and the text after the field. -/
def readOptional? (mark : Char) (width : Nat) (text : List Char) : Option (Nat × List Char) :=
  if text.head? = some mark then
    (readMarked? mark width text).filter fun read => read.1 ≠ 0
  else some (0, text)

/-- The seconds that an offset of so many seconds stands for, by its sign. -/
def signedSeconds? (sign : Char) (size : Nat) : Option Int :=
  if sign = '+' then some size
  else if sign = '-' ∧ size ≠ 0 then some (-size)
  else none

def UtcOffset.ofChars? : List Char → Option UtcOffset
  | [] => none
  | sign :: text => do
    let (hours, text) ← readDigits? 2 text
    let (minutes, text) ← readMarked? ':' 2 text
    let (seconds, text) ← readOptional? ':' 2 text
    if minutes < 60 ∧ seconds < 60 ∧ text = [] then
      let size ← signedSeconds? sign (hours * 3600 + minutes * 60 + seconds)
      UtcOffset.ofSeconds? size
    else none

def Moment.ofIsoChars? (text : List Char) : Option Moment := do
  let (year, text) ← readDigits? 4 text
  let (month, text) ← readMarked? '-' 2 text
  let (day, text) ← readMarked? '-' 2 text
  let (hour, text) ← readMarked? 'T' 2 text
  let (minute, text) ← readMarked? ':' 2 text
  let (second, text) ← readMarked? ':' 2 text
  let (microsecond, text) ← readOptional? '.' 6 text
  let wall ← WallTime.ofFields? ⟨year, month, day⟩ hour minute second microsecond
  let offset ← UtcOffset.ofChars? text
  return ⟨wall, offset⟩

theorem signedSeconds?_eq_some_iff {sign : Char} {size : Nat} {seconds : Int} :
    signedSeconds? sign size = some seconds ↔
      size = seconds.natAbs ∧ sign = if seconds < 0 then '-' else '+' := by
  rw [signedSeconds?]
  split
  · rename_i hplus
    subst hplus
    split <;> simp <;> omega
  · rename_i hother
    split
    · rename_i hminus
      obtain ⟨rfl, hsize⟩ := hminus
      split <;> simp <;> omega
    · rename_i hneither
      simp only [reduceCtorEq, false_iff, not_and]
      rintro rfl
      split
      · rintro rfl
        exact hneither ⟨rfl, by omega⟩
      · exact hother

theorem UtcOffset.head?_text (offset : UtcOffset) : offset.text.head? ≠ some '.' := by
  rw [UtcOffset.text, List.cons_append, List.cons_append, List.head?_cons]
  split <;> decide

end CredentialBroker.Time
