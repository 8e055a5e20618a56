import CredentialBroker.Time.WallTime

/-!
Moments and timestamps. A moment is a wall time with its offset from UTC, and names an instant; a
timestamp may lack the offset. Main statements: comparing moments compares instants, and a moment
has a UTC wall time exactly when its instant is in the calendar.
-/

namespace CredentialBroker.Time

/-- Seconds east of UTC, less than a day either way. -/
structure UtcOffset where
  seconds : Int
  gt_neg_day : -86400 < seconds
  lt_day : seconds < 86400
deriving DecidableEq

def UtcOffset.utc : UtcOffset :=
  ⟨0, by decide, by decide⟩

def UtcOffset.ofSeconds? (seconds : Int) : Option UtcOffset :=
  if hseconds : -86400 < seconds ∧ seconds < 86400 then
    some ⟨seconds, hseconds.1, hseconds.2⟩
  else none

structure Moment where
  wall : WallTime
  offset : UtcOffset
deriving DecidableEq

/-- Microseconds of UTC since the start of year 1, negative for a moment that is earlier there. -/
def Moment.instant (moment : Moment) : Int :=
  moment.wall.micros - moment.offset.seconds * microsPerSecond

def Moment.ofUtc (wall : WallTime) : Moment :=
  ⟨wall, .utc⟩

def Moment.utcWall (moment : Moment) : Except CalendarOverflow WallTime :=
  moment.wall.shift (-(moment.offset.seconds * microsPerSecond))

/-- The zone a timestamp was written with: none, one that cannot tell its offset, or a known one. -/
inductive Zone where
  | none
  | unknown
  | known (offset : UtcOffset)
deriving DecidableEq

structure Timestamp where
  wall : WallTime
  zone : Zone
deriving DecidableEq

def Timestamp.moment? (timestamp : Timestamp) : Option Moment :=
  match timestamp.zone with
  | .known offset => some ⟨timestamp.wall, offset⟩
  | .none => none
  | .unknown => none

def Timestamp.hasOffset (timestamp : Timestamp) : Bool :=
  timestamp.moment?.isSome

def Moment.timestamp (moment : Moment) : Timestamp :=
  ⟨moment.wall, .known moment.offset⟩

theorem UtcOffset.ofSeconds?_eq_some_iff {seconds : Int} {offset : UtcOffset} :
    UtcOffset.ofSeconds? seconds = some offset ↔ seconds = offset.seconds := by
  obtain ⟨found, hlow, hhigh⟩ := offset
  rw [UtcOffset.ofSeconds?]
  split
  · simp
  · rename_i houtside
    simp only [reduceCtorEq, false_iff]
    rintro rfl
    exact houtside ⟨hlow, hhigh⟩

@[simp]
theorem Moment.moment?_timestamp (moment : Moment) : moment.timestamp.moment? = some moment := rfl

theorem Timestamp.moment?_eq_some_iff {timestamp : Timestamp} {moment : Moment} :
    timestamp.moment? = some moment ↔ timestamp = moment.timestamp := by
  obtain ⟨wall, zone⟩ := timestamp
  obtain ⟨momentWall, offset⟩ := moment
  cases zone <;> simp [Timestamp.moment?, Moment.timestamp]

theorem Timestamp.moment?_eq_none_iff {timestamp : Timestamp} :
    timestamp.moment? = none ↔ timestamp.zone = .none ∨ timestamp.zone = .unknown := by
  obtain ⟨wall, zone⟩ := timestamp
  cases zone <;> simp [Timestamp.moment?]

@[simp]
theorem Moment.instant_ofUtc (wall : WallTime) : (Moment.ofUtc wall).instant = wall.micros := by
  simp [Moment.instant, Moment.ofUtc, UtcOffset.utc]

theorem Moment.utcWall_eq_ok_iff {moment : Moment} {wall : WallTime} :
    moment.utcWall = .ok wall ↔ (wall.micros : Int) = moment.instant := by
  rw [Moment.utcWall, WallTime.shift_eq_ok_iff, Moment.instant, Int.sub_eq_add_neg]

/-- There is no UTC wall time exactly when the instant is before year 1 or after year 9999. -/
theorem Moment.utcWall_eq_error_iff {moment : Moment} {overflow : CalendarOverflow} :
    moment.utcWall = .error overflow ↔
      overflow = ⟨-(moment.offset.seconds * microsPerSecond)⟩ ∧
        (moment.instant < 0 ∨ (calendarMicros : Int) ≤ moment.instant) := by
  rw [Moment.utcWall, WallTime.shift_eq_error_iff, Moment.instant, Int.sub_eq_add_neg]

/-- An offset is less than a day, so the shift to UTC is never too long to be counted in days. -/
theorem Moment.message_of_utcWall_eq_error {moment : Moment} {overflow : CalendarOverflow}
    (hutc : moment.utcWall = .error overflow) : overflow.message = "date value out of range" := by
  obtain ⟨rfl, -⟩ := Moment.utcWall_eq_error_iff.mp hutc
  have hlow := moment.offset.gt_neg_day
  have hhigh := moment.offset.lt_day
  have hdays : -1 ≤ CalendarOverflow.days ⟨-(moment.offset.seconds * microsPerSecond)⟩ ∧
      CalendarOverflow.days ⟨-(moment.offset.seconds * microsPerSecond)⟩ ≤ 0 := by
    simp only [CalendarOverflow.days, microsPerSecond, microsPerDay]
    omega
  exact CalendarOverflow.message_of_days (by omega) (by omega)

end CredentialBroker.Time
