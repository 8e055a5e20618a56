/-!
Dates of the Gregorian calendar extended to all years from 1 on, and the days counted from the first
of January of year 1. Main statements: the count of a date's day leads back to the date, every day
has a valid date with that count, and valid dates are in the order of their counts.
-/

namespace CredentialBroker.Time

def isLeapYear (year : Nat) : Bool :=
  year % 4 == 0 && (year % 100 != 0 || year % 400 == 0)

def yearLength (year : Nat) : Nat :=
  if isLeapYear year then 366 else 365

def monthLengths (year : Nat) : List Nat :=
  [31, if isLeapYear year then 29 else 28, 31, 30, 31, 30, 31, 31, 30, 31, 30, 31]

def daysBeforeYear (year : Nat) : Nat :=
  365 * (year - 1) + (year - 1) / 4 - (year - 1) / 100 + (year - 1) / 400

/-- The year that a day falls in and the days of that year before it, by the cycles of 400, 100, 4 and 1 years. -/
def yearOfDay (day : Nat) : Nat × Nat :=
  let era := day / 146097
  let dayOfEra := day % 146097
  let century := min 3 (dayOfEra / 36524)
  let dayOfCentury := dayOfEra - 36524 * century
  let olympiad := dayOfCentury / 1461
  let dayOfOlympiad := dayOfCentury % 1461
  let single := min 3 (dayOfOlympiad / 365)
  (400 * era + 100 * century + 4 * olympiad + single + 1, dayOfOlympiad - 365 * single)

/-- The block that a position falls in, when blocks of the given lengths follow one another, and the position in it. -/
def locate : List Nat → Nat → Nat × Nat
  | [], position => (0, position)
  | length :: lengths, position =>
    if position < length then (0, position)
    else
      let inner := locate lengths (position - length)
      (inner.1 + 1, inner.2)

/-- Where the block with the given index begins: all blocks before it lie end to end. -/
def startOf : List Nat → Nat → Nat
  | [], _ => 0
  | _ :: _, 0 => 0
  | length :: lengths, index + 1 => length + startOf lengths index

structure Date where
  year : Nat
  month : Nat
  day : Nat
deriving DecidableEq

def Date.dayOfYear (date : Date) : Nat :=
  startOf (monthLengths date.year) (date.month - 1) + (date.day - 1)

def Date.dayNumber (date : Date) : Nat :=
  daysBeforeYear date.year + date.dayOfYear

def Date.ofDayNumber (day : Nat) : Date :=
  let (year, dayOfYear) := yearOfDay day
  let (month, dayOfMonth) := locate (monthLengths year) dayOfYear
  ⟨year, month + 1, dayOfMonth + 1⟩

/-- A valid date has a month of its year and a day of that month, all counted from 1. -/
def Date.Valid (date : Date) : Prop :=
  1 ≤ date.year ∧ 1 ≤ date.month ∧ 1 ≤ date.day ∧
    date.day ≤ (monthLengths date.year).getD (date.month - 1) 0

instance (date : Date) : Decidable date.Valid :=
  inferInstanceAs (Decidable (_ ∧ _))

theorem locate_spec {lengths : List Nat} {position : Nat}
    (hposition : position < startOf lengths lengths.length) :
    (locate lengths position).2 < lengths.getD (locate lengths position).1 0 ∧
      startOf lengths (locate lengths position).1 + (locate lengths position).2 = position := by
  induction lengths generalizing position with
  | nil => simp [startOf] at hposition
  | cons length lengths ih =>
      rw [locate]
      split
      · rename_i hlt
        simpa [startOf] using hlt
      · rename_i hge
        have hrest : position - length < startOf lengths lengths.length := by
          rw [List.length_cons, startOf] at hposition
          omega
        obtain ⟨hin, hsum⟩ := ih hrest
        refine ⟨by simpa using hin, ?_⟩
        simp only [startOf]
        omega

theorem locate_startOf_add {lengths : List Nat} {index offset : Nat}
    (hoffset : offset < lengths.getD index 0) :
    locate lengths (startOf lengths index + offset) = (index, offset) := by
  induction lengths generalizing index with
  | nil => simp at hoffset
  | cons length lengths ih =>
      cases index with
      | zero =>
          have hlt : offset < length := by simpa using hoffset
          simp [locate, startOf, hlt]
      | succ index =>
          have hinner := @ih index (by simpa using hoffset)
          have hge : ¬ length + startOf lengths index + offset < length := by omega
          have hrest : length + startOf lengths index + offset - length =
              startOf lengths index + offset := by omega
          simp only [startOf, locate, hge, ↓reduceIte, hrest, hinner]

theorem startOf_monthLengths (year : Nat) :
    startOf (monthLengths year) (monthLengths year).length = yearLength year := by
  cases hleap : isLeapYear year <;> simp [monthLengths, yearLength, startOf, hleap]

theorem startOf_add_lt {lengths : List Nat} {index offset : Nat}
    (hoffset : offset < lengths.getD index 0) :
    startOf lengths index + offset < startOf lengths lengths.length := by
  induction lengths generalizing index with
  | nil => simp at hoffset
  | cons length lengths ih =>
      cases index with
      | zero =>
          have hlt : offset < length := by simpa using hoffset
          simp only [startOf, List.length_cons]
          omega
      | succ index =>
          have hinner := @ih index (by simpa using hoffset)
          simp only [startOf, List.length_cons]
          omega

/-- A position in one block lies before the start of every later block. -/
theorem startOf_add_lt_startOf {lengths : List Nat} {index later offset : Nat}
    (hoffset : offset < lengths.getD index 0) (hlater : index < later) :
    startOf lengths index + offset < startOf lengths later := by
  induction lengths generalizing index later with
  | nil => simp at hoffset
  | cons length lengths ih =>
      obtain ⟨later, rfl⟩ : ∃ before, later = before + 1 := ⟨later - 1, by omega⟩
      cases index with
      | zero =>
          have hlt : offset < length := by simpa using hoffset
          simp only [startOf]
          omega
      | succ index =>
          have hinner := @ih index later (by simpa using hoffset) (by omega)
          simp only [startOf]
          omega

theorem isLeapYear_eq_true_iff {year : Nat} :
    isLeapYear year = true ↔ year % 4 = 0 ∧ (year % 100 ≠ 0 ∨ year % 400 = 0) := by
  simp [isLeapYear]

theorem isLeapYear_cycles {era century olympiad single : Nat} (hcentury : century ≤ 3)
    (holympiad : olympiad ≤ 24) (hsingle : single ≤ 3) :
    isLeapYear (400 * era + 100 * century + 4 * olympiad + single + 1) = true ↔
      single = 3 ∧ (olympiad ≠ 24 ∨ century = 3) := by
  have hfour : (400 * era + 100 * century + 4 * olympiad + single + 1) % 4 = 0 ↔ single = 3 := by
    omega
  have hhundred : (400 * era + 100 * century + 4 * olympiad + single + 1) % 100 = 0 ↔
      4 * olympiad + single = 99 := by
    omega
  have hfourHundred : (400 * era + 100 * century + 4 * olympiad + single + 1) % 400 = 0 ↔
      100 * century + 4 * olympiad + single = 399 := by
    omega
  rw [isLeapYear_eq_true_iff, hfour, Ne, hhundred, hfourHundred]
  omega

theorem daysBeforeYear_cycles {era century olympiad single : Nat} (hcentury : century ≤ 3)
    (holympiad : olympiad ≤ 24) (hsingle : single ≤ 3) :
    daysBeforeYear (400 * era + 100 * century + 4 * olympiad + single + 1) =
      146097 * era + 36524 * century + 1461 * olympiad + 365 * single := by
  have hfour : (400 * era + 100 * century + 4 * olympiad + single) / 4 =
      100 * era + 25 * century + olympiad := by
    omega
  have hhundred : (400 * era + 100 * century + 4 * olympiad + single) / 100 =
      4 * era + century := by
    omega
  have hfourHundred : (400 * era + 100 * century + 4 * olympiad + single) / 400 = era := by
    omega
  rw [daysBeforeYear, Nat.add_sub_cancel, hfour, hhundred, hfourHundred]
  omega

/-- A day count splits into whole cycles and a day of the year, which is the 366th only in a leap year. -/
theorem exists_cycles_of_day (day : Nat) :
    ∃ era century olympiad single rest : Nat,
      yearOfDay day = (400 * era + 100 * century + 4 * olympiad + single + 1, rest) ∧
        day = 146097 * era + 36524 * century + 1461 * olympiad + 365 * single + rest ∧
        century ≤ 3 ∧ olympiad ≤ 24 ∧ single ≤ 3 ∧ rest ≤ 365 ∧
        (rest = 365 → single = 3 ∧ (olympiad ≠ 24 ∨ century = 3)) := by
  refine ⟨_, _, _, _, _, rfl, ?_, ?_, ?_, ?_, ?_, ?_⟩
  · omega
  · omega
  · omega
  · omega
  · omega
  · omega

theorem yearOfDay_spec (day : Nat) :
    1 ≤ (yearOfDay day).1 ∧ (yearOfDay day).2 < yearLength (yearOfDay day).1 ∧
      daysBeforeYear (yearOfDay day).1 + (yearOfDay day).2 = day := by
  obtain ⟨era, century, olympiad, single, rest, hyear, hday, hcentury, holympiad, hsingle, hrest,
    hlast⟩ := exists_cycles_of_day day
  rw [hyear]
  refine ⟨by omega, ?_, ?_⟩
  · rw [yearLength]
    split
    · omega
    · rename_i hleap
      rw [isLeapYear_cycles hcentury holympiad hsingle] at hleap
      have hne : rest ≠ 365 := fun heq => hleap (hlast heq)
      omega
  · rw [daysBeforeYear_cycles hcentury holympiad hsingle]
    omega

theorem daysBeforeYear_succ {year : Nat} (hyear : 1 ≤ year) :
    daysBeforeYear (year + 1) = daysBeforeYear year + yearLength year := by
  have hfour : year / 4 = (year - 1) / 4 + if year % 4 = 0 then 1 else 0 := by
    split <;> omega
  have hhundred : year / 100 = (year - 1) / 100 + if year % 100 = 0 then 1 else 0 := by
    split <;> omega
  have hfourHundred : year / 400 = (year - 1) / 400 + if year % 400 = 0 then 1 else 0 := by
    split <;> omega
  have hquotients : (year - 1) / 100 ≤ (year - 1) / 4 :=
    Nat.div_le_div_left (by decide) (by decide)
  have hlength : yearLength year + (if year % 100 = 0 then 1 else 0) =
      365 + (if year % 4 = 0 then 1 else 0) + if year % 400 = 0 then 1 else 0 := by
    have hdivides : year % 100 = 0 → year % 4 = 0 := by omega
    have hdividesToo : year % 400 = 0 → year % 100 = 0 := by omega
    by_cases hfourHundred : year % 400 = 0
    · simp [yearLength, isLeapYear, hfourHundred, hdividesToo hfourHundred,
        hdivides (hdividesToo hfourHundred)]
    · by_cases hhundred : year % 100 = 0
      · simp [yearLength, isLeapYear, hfourHundred, hhundred, hdivides hhundred]
      · by_cases hfour : year % 4 = 0 <;>
          simp [yearLength, isLeapYear, hfourHundred, hhundred, hfour]
  have hbound : (if year % 100 = 0 then 1 else 0) ≤ 1 := by
    split <;> omega
  have hyears : 365 * year = 365 * (year - 1) + 365 := by
    omega
  rw [daysBeforeYear, daysBeforeYear, Nat.add_sub_cancel, hfour, hhundred, hfourHundred, hyears]
  generalize (year - 1) / 4 = fours at *
  generalize (year - 1) / 100 = hundreds at *
  generalize (year - 1) / 400 = fourHundreds at *
  generalize yearLength year = length at *
  generalize (if year % 4 = 0 then 1 else 0) = leapFour at *
  generalize (if year % 100 = 0 then 1 else 0) = leapHundred at *
  generalize (if year % 400 = 0 then 1 else 0) = leapFourHundred at *
  generalize 365 * (year - 1) = days at *
  omega

theorem daysBeforeYear_le {left right : Nat} (hleft : 1 ≤ left) (hle : left ≤ right) :
    daysBeforeYear left ≤ daysBeforeYear right := by
  induction hle with
  | refl => exact Nat.le_refl _
  | step hbetween ih =>
      rw [Nat.succ_eq_add_one, daysBeforeYear_succ (Nat.le_trans hleft hbetween)]
      exact Nat.le_add_right_of_le ih

/-- The year of a day is the only one whose days include it. -/
theorem yearOfDay_eq {year offset : Nat} (hyear : 1 ≤ year) (hoffset : offset < yearLength year) :
    yearOfDay (daysBeforeYear year + offset) = (year, offset) := by
  obtain ⟨hone, hlength, hsum⟩ := yearOfDay_spec (daysBeforeYear year + offset)
  generalize hfound : yearOfDay (daysBeforeYear year + offset) = found at *
  obtain ⟨foundYear, foundOffset⟩ := found
  simp only at hone hlength hsum
  rcases Nat.lt_trichotomy foundYear year with hlt | heq | hgt
  · have hle := daysBeforeYear_le (Nat.le_add_left 1 foundYear) hlt
    rw [daysBeforeYear_succ hone] at hle
    omega
  · subst heq
    simp only [Prod.mk.injEq, true_and]
    omega
  · have hle := daysBeforeYear_le (Nat.le_add_left 1 year) hgt
    rw [daysBeforeYear_succ hyear] at hle
    omega

theorem Date.dayNumber_ofDayNumber (day : Nat) : (Date.ofDayNumber day).dayNumber = day := by
  obtain ⟨_, hlength, hsum⟩ := yearOfDay_spec day
  rw [← startOf_monthLengths] at hlength
  obtain ⟨_, hlocate⟩ := locate_spec hlength
  simp only [Date.dayNumber, Date.dayOfYear, Date.ofDayNumber, Nat.add_sub_cancel]
  omega

theorem getD_monthLengths_le (year index : Nat) : (monthLengths year).getD index 0 ≤ 31 := by
  have hmonths : ∀ length ∈ monthLengths year, length ≤ 31 := by
    cases hleap : isLeapYear year <;> simp [monthLengths, hleap]
  rw [List.getD_eq_getElem?_getD]
  cases hlength : (monthLengths year)[index]? with
  | none => exact Nat.zero_le 31
  | some length => exact hmonths length (List.mem_of_getElem? hlength)

theorem Date.Valid.month_le {date : Date} (hvalid : date.Valid) : date.month ≤ 12 := by
  obtain ⟨_, _, hday, hlength⟩ := hvalid
  by_cases hle : date.month ≤ 12
  · exact hle
  · have hbeyond : (monthLengths date.year).length ≤ date.month - 1 := by
      simp only [monthLengths, List.length_cons, List.length_nil]
      omega
    rw [List.getD_eq_getElem?_getD, List.getElem?_eq_none hbeyond, Option.getD_none] at hlength
    omega

theorem Date.Valid.day_le {date : Date} (hvalid : date.Valid) : date.day ≤ 31 :=
  Nat.le_trans hvalid.2.2.2 (getD_monthLengths_le _ _)

theorem Date.ofDayNumber_valid (day : Nat) : (Date.ofDayNumber day).Valid := by
  obtain ⟨hone, hlength, _⟩ := yearOfDay_spec day
  rw [← startOf_monthLengths] at hlength
  obtain ⟨hin, _⟩ := locate_spec hlength
  exact ⟨hone, Nat.le_add_left 1 _, Nat.le_add_left 1 _, hin⟩

/-- Counting the day of a valid date and reading the count back gives the date. -/
theorem Date.ofDayNumber_dayNumber {date : Date} (hvalid : date.Valid) :
    Date.ofDayNumber date.dayNumber = date := by
  obtain ⟨hyear, hmonth, hday, hlength⟩ := hvalid
  obtain ⟨year, month, day⟩ := date
  simp only at hyear hmonth hday hlength
  have hoffset : day - 1 < (monthLengths year).getD (month - 1) 0 := by omega
  have hdayOfYear := startOf_add_lt hoffset
  rw [startOf_monthLengths] at hdayOfYear
  simp only [Date.ofDayNumber, Date.dayNumber, Date.dayOfYear, yearOfDay_eq hyear hdayOfYear,
    locate_startOf_add hoffset, Date.mk.injEq, true_and]
  omega

/-! ### The order of dates -/

/-- The year decides which of two dates comes first, then the month, then the day. -/
def Date.Precedes (left right : Date) : Prop :=
  left.year < right.year ∨ left.year = right.year ∧
    (left.month < right.month ∨ left.month = right.month ∧ left.day < right.day)

theorem Date.eq_iff {left right : Date} :
    left = right ↔
      left.year = right.year ∧ left.month = right.month ∧ left.day = right.day := by
  obtain ⟨_, _, _⟩ := left
  obtain ⟨_, _, _⟩ := right
  rw [Date.mk.injEq]

theorem Date.precedes_trichotomy (left right : Date) :
    left.Precedes right ∨ left = right ∨ right.Precedes left := by
  rw [Date.eq_iff, Precedes, Precedes]
  omega

theorem Date.Valid.dayOfYear_lt {date : Date} (hvalid : date.Valid) :
    date.dayOfYear < yearLength date.year := by
  obtain ⟨_, _, hday, hlength⟩ := hvalid
  rw [← startOf_monthLengths, Date.dayOfYear]
  exact startOf_add_lt (by omega)

theorem Date.dayNumber_lt_of_precedes {left right : Date} (hleft : left.Valid)
    (hright : right.Valid) (hprecedes : left.Precedes right) :
    left.dayNumber < right.dayNumber := by
  have hwithin := hleft.dayOfYear_lt
  obtain ⟨hyear, hmonth, hday, hlength⟩ := hleft
  obtain ⟨_, _, hrightDay, _⟩ := hright
  rcases hprecedes with hyears | ⟨hyears, hmonths | ⟨hmonths, hdays⟩⟩
  · calc left.dayNumber
        < daysBeforeYear left.year + yearLength left.year := Nat.add_lt_add_left hwithin _
      _ = daysBeforeYear (left.year + 1) := (daysBeforeYear_succ hyear).symm
      _ ≤ daysBeforeYear right.year := daysBeforeYear_le (Nat.le_add_left 1 _) hyears
      _ ≤ right.dayNumber := Nat.le_add_right _ _
  · have hstart : startOf (monthLengths left.year) (left.month - 1) + (left.day - 1) <
        startOf (monthLengths left.year) (right.month - 1) :=
      startOf_add_lt_startOf (by omega) (by omega)
    rw [hyears] at hstart
    simp only [Date.dayNumber, Date.dayOfYear, hyears]
    omega
  · simp only [Date.dayNumber, Date.dayOfYear, hyears, hmonths]
    omega

/-- Valid dates are in the order of their day numbers. -/
theorem Date.dayNumber_lt_iff {left right : Date} (hleft : left.Valid) (hright : right.Valid) :
    left.dayNumber < right.dayNumber ↔ left.Precedes right := by
  constructor
  · intro hlt
    rcases left.precedes_trichotomy right with hprecedes | rfl | hafter
    · exact hprecedes
    · exact absurd hlt (Nat.lt_irrefl _)
    · have hgt := Date.dayNumber_lt_of_precedes hright hleft hafter
      omega
  · exact Date.dayNumber_lt_of_precedes hleft hright

end CredentialBroker.Time
