import CredentialBroker.Text.Cut
import CredentialBroker.Text.Digits
import CredentialBroker.Time.Moment

/-!
Moments in UTC to the whole second, as the metadata document shows them: the year without leading
zeros, then fields of two digits, then the letter of UTC. A reader for the same form stands beside
the writer. Main statement: there is a text exactly for the moments that have a wall time in UTC.
-/

namespace CredentialBroker.Time

open Text

def WallTime.utcChars (wall : WallTime) : List Char :=
  Nat.toDigits 10 wall.date.year ++ '-' :: fixedDigits 10 2 wall.date.month ++
    '-' :: fixedDigits 10 2 wall.date.day ++ 'T' :: fixedDigits 10 2 wall.hour ++
    ':' :: fixedDigits 10 2 wall.minute ++ ':' :: fixedDigits 10 2 wall.second ++ ['Z']

def WallTime.utcText (wall : WallTime) : String :=
  String.ofList wall.utcChars

def Moment.utcText (moment : Moment) : Except CalendarOverflow String :=
  moment.utcWall.map WallTime.utcText

theorem Moment.utcText_eq_ok_iff {moment : Moment} {text : String} :
    moment.utcText = .ok text ↔
      ∃ wall : WallTime, (wall.micros : Int) = moment.instant ∧ text = wall.utcText := by
  simp only [utcText, ← utcWall_eq_ok_iff]
  cases moment.utcWall <;> simp [Except.map, eq_comm]

theorem Moment.utcText_eq_error_iff {moment : Moment} {overflow : CalendarOverflow} :
    moment.utcText = .error overflow ↔ moment.utcWall = .error overflow := by
  rw [utcText]
  cases moment.utcWall <;> simp [Except.map]

/-- The number before a mark and the text after the mark. -/
def readField? (mark : Char) (text : List Char) : Option (Nat × List Char) := do
  let (field, rest) ← cutFirst mark text
  let number ← readNumber? field
  return (number, rest)

def WallTime.ofUtcChars? (text : List Char) : Option WallTime := do
  let (year, text) ← readField? '-' text
  let (month, text) ← readField? '-' text
  let (day, text) ← readField? 'T' text
  let (hour, text) ← readField? ':' text
  let (minute, text) ← readField? ':' text
  let (second, text) ← readField? 'Z' text
  if text = [] then WallTime.ofFields? ⟨year, month, day⟩ hour minute second 0 else none

/-- A field that reads as a number ends at the first mark, since a mark is no digit. -/
theorem readField?_append {mark : Char} {field : List Char} {number : Nat}
    (hmark : mark.isDigit = false) (hfield : readNumber? field = some number) (rest : List Char) :
    readField? mark (field ++ mark :: rest) = some (number, rest) := by
  have hbefore : mark ∉ field := by
    intro hmem
    rw [readNumber?] at hfield
    split at hfield
    · rename_i hdigits
      rw [List.all_eq_true.mp hdigits.2 mark hmem] at hmark
      cases hmark
    · cases hfield
  simp [readField?, cutFirst_append hbefore, hfield]

/-- The fields in the order they are read, each with the mark that ends it. -/
theorem WallTime.utcChars_eq (wall : WallTime) :
    wall.utcChars =
      Nat.toDigits 10 wall.date.year ++ '-' :: (fixedDigits 10 2 wall.date.month ++
        '-' :: (fixedDigits 10 2 wall.date.day ++ 'T' :: (fixedDigits 10 2 wall.hour ++
          ':' :: (fixedDigits 10 2 wall.minute ++
            ':' :: (fixedDigits 10 2 wall.second ++ ['Z']))))) := by
  simp only [utcChars, List.append_assoc, List.cons_append]

end CredentialBroker.Time
