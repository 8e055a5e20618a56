import CredentialBroker.Time.Date

/-!
Wall times: what a calendar and a clock on the wall show, in microseconds, from the start of year 1
to the end of year 9999. Main statements: a shift succeeds exactly when it stays in that calendar,
reading a wall time's fields back gives the wall time, and the fields of date and time of day, in
this order, decide which of two wall times falls into an earlier second.
-/

namespace CredentialBroker.Time

def microsPerSecond : Nat := 1000000

def microsPerDay : Nat := 86400000000

/-- The microseconds from the start of year 1 to the start of year 10000. -/
def calendarMicros : Nat := 315537897600000000

structure WallTime where
  micros : Nat
  micros_lt : micros < calendarMicros
deriving DecidableEq

/-- The shift by so many microseconds led out of the calendar. -/
structure CalendarOverflow where
  shift : Int
deriving DecidableEq

def CalendarOverflow.days (overflow : CalendarOverflow) : Int :=
  overflow.shift / microsPerDay

/-- Days are counted in thirty-two bits with a sign; a longer shift has no count of days. -/
def CalendarOverflow.isUncountable (overflow : CalendarOverflow) : Bool :=
  overflow.days < -2147483648 || 2147483647 < overflow.days

/-- A shift of too many days is refused as such, before any wall time is looked at. -/
def CalendarOverflow.message (overflow : CalendarOverflow) : String :=
  if overflow.isUncountable then "Python int too large to convert to C int"
  else if overflow.days < -999999999 ∨ 999999999 < overflow.days then
    s!"days={overflow.days}; must have magnitude <= 999999999"
  else "date value out of range"

theorem CalendarOverflow.message_of_days {overflow : CalendarOverflow}
    (hlow : -999999999 ≤ overflow.days) (hhigh : overflow.days ≤ 999999999) :
    overflow.message = "date value out of range" := by
  have hcountable : overflow.isUncountable = false := by
    simp only [isUncountable, Bool.or_eq_false_iff, decide_eq_false_iff_not]
    omega
  have hsmall : ¬(overflow.days < -999999999 ∨ 999999999 < overflow.days) := by
    omega
  simp [message, hcountable, hsmall]

namespace WallTime

def ofMicros? (micros : Int) : Option WallTime :=
  if hmicros : 0 ≤ micros ∧ micros < calendarMicros then
    some ⟨micros.toNat, by omega⟩
  else none

def shift (wall : WallTime) (micros : Int) : Except CalendarOverflow WallTime :=
  match ofMicros? (wall.micros + micros) with
  | some shifted => .ok shifted
  | none => .error ⟨micros⟩

def secondOfDay (wall : WallTime) : Nat :=
  wall.micros % microsPerDay / microsPerSecond

def date (wall : WallTime) : Date :=
  Date.ofDayNumber (wall.micros / microsPerDay)

def hour (wall : WallTime) : Nat :=
  wall.secondOfDay / 3600

def minute (wall : WallTime) : Nat :=
  wall.secondOfDay % 3600 / 60

def second (wall : WallTime) : Nat :=
  wall.secondOfDay % 60

def microsecond (wall : WallTime) : Nat :=
  wall.micros % microsPerSecond

/-- The wall time at the start of its second. -/
def wholeSecond (wall : WallTime) : WallTime :=
  ⟨wall.micros / microsPerSecond * microsPerSecond,
    Nat.lt_of_le_of_lt (Nat.div_mul_le_self _ _) wall.micros_lt⟩

/-- The wall time with the given fields, when there is such a date and such a time of day. -/
def ofFields? (date : Date) (hour minute second microsecond : Nat) : Option WallTime :=
  if date.Valid ∧ hour < 24 ∧ minute < 60 ∧ second < 60 ∧ microsecond < microsPerSecond then
    ofMicros? (date.dayNumber * microsPerDay +
      (hour * 3600 + minute * 60 + second) * microsPerSecond + microsecond : Nat)
  else none

theorem ext {left right : WallTime} (hmicros : left.micros = right.micros) : left = right := by
  obtain ⟨leftMicros, _⟩ := left
  obtain ⟨rightMicros, _⟩ := right
  cases hmicros
  rfl

theorem ofMicros?_eq_some_iff {micros : Int} {wall : WallTime} :
    ofMicros? micros = some wall ↔ micros = wall.micros := by
  have hbound := wall.micros_lt
  rw [ofMicros?]
  split
  · rename_i hmicros
    rw [Option.some.injEq]
    constructor
    · intro heq
      rw [← heq]
      exact (Int.toNat_of_nonneg hmicros.1).symm
    · intro heq
      apply ext
      show micros.toNat = wall.micros
      omega
  · rename_i hmicros
    simp only [reduceCtorEq, false_iff]
    omega

theorem ofMicros?_eq_none_iff {micros : Int} :
    ofMicros? micros = none ↔ micros < 0 ∨ (calendarMicros : Int) ≤ micros := by
  rw [ofMicros?]
  split
  · rename_i hmicros
    simp only [reduceCtorEq, false_iff]
    omega
  · rename_i hmicros
    simp only [true_iff]
    omega

/-- The calendar has a wall time for exactly the counts in its range. -/
theorem exists_micros_eq_iff {micros : Int} :
    (∃ wall : WallTime, (wall.micros : Int) = micros) ↔ 0 ≤ micros ∧ micros < calendarMicros := by
  constructor
  · rintro ⟨wall, rfl⟩
    have hbound := wall.micros_lt
    omega
  · rintro ⟨hnonneg, hlt⟩
    exact ⟨⟨micros.toNat, by omega⟩, Int.toNat_of_nonneg hnonneg⟩

theorem shift_eq_ok_iff {wall shifted : WallTime} {micros : Int} :
    wall.shift micros = .ok shifted ↔ (shifted.micros : Int) = wall.micros + micros := by
  rw [shift]
  cases hof : ofMicros? (wall.micros + micros) with
  | none =>
      have hbound := shifted.micros_lt
      have hnone := ofMicros?_eq_none_iff.mp hof
      simp only [reduceCtorEq, false_iff]
      omega
  | some found =>
      have hfound := ofMicros?_eq_some_iff.mp hof
      simp only [Except.ok.injEq]
      constructor
      · intro heq
        rw [← heq]
        exact hfound.symm
      · intro heq
        apply ext
        omega

/-- A shift fails exactly when it leads before year 1 or beyond year 9999. -/
theorem shift_eq_error_iff {wall : WallTime} {micros : Int} {overflow : CalendarOverflow} :
    wall.shift micros = .error overflow ↔
      overflow = ⟨micros⟩ ∧
        (wall.micros + micros < 0 ∨ (calendarMicros : Int) ≤ wall.micros + micros) := by
  rw [shift]
  cases hof : ofMicros? (wall.micros + micros) with
  | none => simp [ofMicros?_eq_none_iff.mp hof, eq_comm]
  | some found =>
      have hfound := ofMicros?_eq_some_iff.mp hof
      have hbound := found.micros_lt
      simp only [reduceCtorEq, false_iff, not_and, not_or]
      omega

@[simp]
theorem shift_zero (wall : WallTime) : wall.shift 0 = .ok wall :=
  shift_eq_ok_iff.mpr (Int.add_zero _).symm

/-- Putting the fields of a wall time together gives the wall time. -/
theorem ofFields?_fields (wall : WallTime) :
    ofFields? wall.date wall.hour wall.minute wall.second wall.microsecond = some wall := by
  have hvalid : wall.date.Valid := Date.ofDayNumber_valid _
  have hday : wall.date.dayNumber = wall.micros / microsPerDay := Date.dayNumber_ofDayNumber _
  rw [ofFields?, hday, if_pos, ofMicros?_eq_some_iff]
  · simp only [hour, minute, second, microsecond, secondOfDay, microsPerDay, microsPerSecond]
    omega
  · refine ⟨hvalid, ?_⟩
    simp only [hour, minute, second, microsecond, secondOfDay, microsPerDay, microsPerSecond]
    omega

/-- A wall time is put together from its own fields and from no others. -/
theorem ofFields?_eq_some_iff {date : Date} {hour minute second microsecond : Nat}
    {wall : WallTime} :
    ofFields? date hour minute second microsecond = some wall ↔
      date = wall.date ∧ hour = wall.hour ∧ minute = wall.minute ∧ second = wall.second ∧
        microsecond = wall.microsecond := by
  constructor
  · intro hfields
    rw [ofFields?] at hfields
    split at hfields
    · rename_i hbounds
      obtain ⟨hvalid, hhour, hminute, hsecond, hmicrosecond⟩ := hbounds
      have hmicros := Int.ofNat_inj.mp (ofMicros?_eq_some_iff.mp hfields)
      have hday : wall.micros / microsPerDay = date.dayNumber := by
        simp only [microsPerDay, microsPerSecond] at *
        omega
      refine ⟨?_, ?_⟩
      · rw [WallTime.date, hday, Date.ofDayNumber_dayNumber hvalid]
      · simp only [WallTime.hour, WallTime.minute, WallTime.second, WallTime.microsecond,
          secondOfDay, microsPerDay, microsPerSecond] at *
        omega
    · cases hfields
  · rintro ⟨rfl, rfl, rfl, rfl, rfl⟩
    exact ofFields?_fields wall

@[simp]
theorem date_wholeSecond (wall : WallTime) : wall.wholeSecond.date = wall.date := by
  have hday : wall.wholeSecond.micros / microsPerDay = wall.micros / microsPerDay := by
    simp only [wholeSecond, microsPerDay, microsPerSecond]
    omega
  rw [date, date, hday]

@[simp]
theorem secondOfDay_wholeSecond (wall : WallTime) :
    wall.wholeSecond.secondOfDay = wall.secondOfDay := by
  simp only [secondOfDay, wholeSecond, microsPerDay, microsPerSecond]
  omega

theorem ofFields?_wholeSecond (wall : WallTime) :
    ofFields? wall.date wall.hour wall.minute wall.second 0 = some wall.wholeSecond := by
  have hfraction : wall.wholeSecond.microsecond = 0 := Nat.mul_mod_left _ _
  have hfields := ofFields?_fields wall.wholeSecond
  simpa only [hour, minute, second, date_wholeSecond, secondOfDay_wholeSecond, hfraction]
    using hfields

/-! ### The ends of the calendar, and the order in it -/

/-- The start of year 1. -/
def first : WallTime :=
  ⟨0, by decide⟩

/-- The last microsecond of year 9999. -/
def last : WallTime :=
  ⟨calendarMicros - 1, by decide⟩

theorem ofFields?_first : ofFields? ⟨1, 1, 1⟩ 0 0 0 0 = some first := by
  decide

theorem ofFields?_last : ofFields? ⟨9999, 12, 31⟩ 23 59 59 999999 = some last := by
  decide

theorem date_valid (wall : WallTime) : wall.date.Valid :=
  Date.ofDayNumber_valid _

theorem dayNumber_date (wall : WallTime) : wall.date.dayNumber = wall.micros / microsPerDay :=
  Date.dayNumber_ofDayNumber _

theorem year_lt (wall : WallTime) : wall.date.year < 10000 := by
  have hbound := wall.micros_lt
  have hday := wall.dayNumber_date
  apply Nat.lt_of_not_le
  intro hle
  have hyears : daysBeforeYear 10000 ≤ wall.date.dayNumber :=
    Nat.le_trans (daysBeforeYear_le (by decide) hle) (Nat.le_add_right _ _)
  have hlast : daysBeforeYear 10000 = 3652059 := by decide
  simp only [microsPerDay] at hday
  simp only [calendarMicros] at hbound
  omega

theorem month_lt (wall : WallTime) : wall.date.month < 13 :=
  Nat.lt_succ_of_le wall.date_valid.month_le

theorem day_lt (wall : WallTime) : wall.date.day < 32 :=
  Nat.lt_succ_of_le wall.date_valid.day_le

theorem hour_lt (wall : WallTime) : wall.hour < 24 := by
  simp only [hour, secondOfDay, microsPerDay, microsPerSecond]
  omega

theorem minute_lt (wall : WallTime) : wall.minute < 60 := by
  simp only [minute]
  omega

theorem second_lt (wall : WallTime) : wall.second < 60 :=
  Nat.mod_lt _ (by decide)

theorem microsecond_lt (wall : WallTime) : wall.microsecond < microsPerSecond :=
  Nat.mod_lt _ (by decide)

theorem secondOfDay_lt_iff {left right : WallTime} :
    left.secondOfDay < right.secondOfDay ↔
      left.hour < right.hour ∨ left.hour = right.hour ∧
        (left.minute < right.minute ∨ left.minute = right.minute ∧ left.second < right.second) := by
  simp only [hour, minute, second]
  omega

/-- The date decides which of two wall times falls into an earlier second, then the time of day. -/
theorem wholeSecond_lt_iff {left right : WallTime} :
    left.wholeSecond.micros < right.wholeSecond.micros ↔
      left.date.Precedes right.date ∨
        left.date = right.date ∧ left.secondOfDay < right.secondOfDay := by
  have hdates : left.date = right.date ↔
      left.micros / microsPerDay = right.micros / microsPerDay := by
    constructor
    · intro heq
      rw [← dayNumber_date, ← dayNumber_date, heq]
    · intro heq
      rw [date, date, heq]
  rw [← Date.dayNumber_lt_iff left.date_valid right.date_valid, dayNumber_date, dayNumber_date,
    hdates]
  simp only [wholeSecond, secondOfDay, microsPerDay, microsPerSecond]
  omega

theorem year_le_of_micros_le {left right : WallTime} (hle : left.micros ≤ right.micros) :
    left.date.year ≤ right.date.year := by
  apply Nat.le_of_not_lt
  intro hlt
  have hbefore : right.date.dayNumber < left.date.dayNumber :=
    Date.dayNumber_lt_of_precedes right.date_valid left.date_valid (Or.inl hlt)
  rw [dayNumber_date, dayNumber_date] at hbefore
  exact absurd (Nat.div_le_div_right hle) (Nat.not_le_of_gt hbefore)

end WallTime

end CredentialBroker.Time
