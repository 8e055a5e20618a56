import CredentialBroker.Time.Iso

/-!
Temporary credentials and their expiry. They are never issued already expired. Main statements: they
are accepted exactly when both times have an offset and the instants are in order, and every check
of expiry looks at instants alone.
-/

namespace CredentialBroker

open Time

structure Credentials where
  accessKey : String
  secretKey : String
  token : String
  expiration : Moment
  generatedAt : Moment
  ordered : generatedAt.instant ≤ expiration.instant
deriving DecidableEq

inductive CredentialsError where
  | timesWithoutOffset
  | alreadyExpired (generatedAt expiration : Moment)
  | checkWithoutOffset
deriving DecidableEq

def CredentialsError.message : CredentialsError → String
  | .timesWithoutOffset => "credential timestamps must be timezone-aware datetimes"
  | .alreadyExpired generatedAt expiration =>
    s!"credentials generated at {generatedAt.isoText} already expired at {expiration.isoText}"
  | .checkWithoutOffset => "expiry can only be checked against a timezone-aware datetime"

namespace Credentials

def create (accessKey secretKey token : String) (expiration generatedAt : Timestamp) :
    Except CredentialsError Credentials :=
  match expiration.moment?, generatedAt.moment? with
  | some expiration, some generatedAt =>
    if ordered : generatedAt.instant ≤ expiration.instant then
      .ok ⟨accessKey, secretKey, token, expiration, generatedAt, ordered⟩
    else .error (.alreadyExpired generatedAt expiration)
  | _, _ => .error .timesWithoutOffset

/-- Credentials are still good at the very instant of their expiration. -/
def isExpiredAt (credentials : Credentials) (moment : Moment) : Bool :=
  credentials.expiration.instant < moment.instant

def expiredAt (credentials : Credentials) (timestamp : Timestamp) : Except CredentialsError Bool :=
  match timestamp.moment? with
  | some moment => .ok (credentials.isExpiredAt moment)
  | none => .error .checkWithoutOffset

def expiredNow (credentials : Credentials) (clock : WallTime) : Bool :=
  credentials.isExpiredAt (.ofUtc clock)

/-- Whether the credentials will have expired so many microseconds from now. -/
def expiresWithin (credentials : Credentials) (clock : WallTime) (micros : Int) :
    Except CalendarOverflow Bool :=
  (clock.shift micros).map credentials.expiredNow

/-- Credentials agree when their texts are equal and their times name the same instants. -/
def Agrees (left right : Credentials) : Prop :=
  left.accessKey = right.accessKey ∧ left.secretKey = right.secretKey ∧ left.token = right.token ∧
    left.expiration.instant = right.expiration.instant ∧
    left.generatedAt.instant = right.generatedAt.instant

instance (left right : Credentials) : Decidable (left.Agrees right) :=
  inferInstanceAs (Decidable (_ ∧ _))

theorem create_eq_ok_iff {accessKey secretKey token : String} {expiration generatedAt : Timestamp}
    {credentials : Credentials} :
    create accessKey secretKey token expiration generatedAt = .ok credentials ↔
      credentials.accessKey = accessKey ∧ credentials.secretKey = secretKey ∧
        credentials.token = token ∧ expiration = credentials.expiration.timestamp ∧
        generatedAt = credentials.generatedAt.timestamp := by
  rw [← Timestamp.moment?_eq_some_iff, ← Timestamp.moment?_eq_some_iff, create]
  split
  · rename_i found foundGeneratedAt hexpiration hgeneratedAt
    rw [hexpiration, hgeneratedAt]
    obtain ⟨_, _, _, _, _, hordered⟩ := credentials
    split
    · simp only [Except.ok.injEq, mk.injEq, Option.some.injEq]
      grind
    · rename_i hnot
      simp only [reduceCtorEq, Option.some.injEq, false_iff]
      rintro ⟨-, -, -, rfl, rfl⟩
      exact hnot hordered
  · rename_i hnone
    simp only [reduceCtorEq, false_iff]
    rintro ⟨-, -, -, hexpiration, hgeneratedAt⟩
    exact hnone _ _ hexpiration hgeneratedAt

theorem create_of_moment?_eq_none {accessKey secretKey token : String}
    {expiration generatedAt : Timestamp}
    (hnone : expiration.moment? = none ∨ generatedAt.moment? = none) :
    create accessKey secretKey token expiration generatedAt = .error .timesWithoutOffset := by
  rw [create]
  rcases hnone with hexpiration | hgeneratedAt
  · rw [hexpiration]
  · rw [hgeneratedAt]
    cases expiration.moment? <;> rfl

theorem create_of_ordered {expiration generatedAt : Moment} (accessKey secretKey token : String)
    (hordered : generatedAt.instant ≤ expiration.instant) :
    create accessKey secretKey token expiration.timestamp generatedAt.timestamp =
      .ok ⟨accessKey, secretKey, token, expiration, generatedAt, hordered⟩ := by
  simp [create, hordered]

theorem create_of_late {expiration generatedAt : Moment} (accessKey secretKey token : String)
    (hlate : expiration.instant < generatedAt.instant) :
    create accessKey secretKey token expiration.timestamp generatedAt.timestamp =
      .error (.alreadyExpired generatedAt expiration) := by
  simp [create, Int.not_le.mpr hlate]

theorem isExpiredAt_eq_true_iff {credentials : Credentials} {moment : Moment} :
    credentials.isExpiredAt moment = true ↔
      credentials.expiration.instant < moment.instant := by
  rw [isExpiredAt, decide_eq_true_iff]

theorem expiredNow_eq_true_iff {credentials : Credentials} {clock : WallTime} :
    credentials.expiredNow clock = true ↔
      credentials.expiration.instant < (clock.micros : Int) := by
  rw [expiredNow, isExpiredAt_eq_true_iff, Moment.instant_ofUtc]

theorem expiredNow_eq_false_iff {credentials : Credentials} {clock : WallTime} :
    credentials.expiredNow clock = false ↔
      (clock.micros : Int) ≤ credentials.expiration.instant := by
  rw [← Bool.not_eq_true, expiredNow_eq_true_iff, Int.not_lt]

theorem expiresWithin_eq_ok_iff {credentials : Credentials} {clock : WallTime} {micros : Int}
    {answer : Bool} :
    credentials.expiresWithin clock micros = .ok answer ↔
      (0 ≤ clock.micros + micros ∧ clock.micros + micros < calendarMicros) ∧
        (answer = true ↔ credentials.expiration.instant < clock.micros + micros) := by
  rw [expiresWithin]
  cases hshift : clock.shift micros with
  | error overflow =>
      have houtside := (WallTime.shift_eq_error_iff.mp hshift).2
      simp only [Except.map, reduceCtorEq, false_iff, not_and]
      omega
  | ok later =>
      have hlater := WallTime.shift_eq_ok_iff.mp hshift
      have hbound := later.micros_lt
      simp only [Except.map, Except.ok.injEq, ← hlater]
      rw [← expiredNow_eq_true_iff]
      cases credentials.expiredNow later <;> cases answer <;> simp <;> omega

theorem expiresWithin_eq_error_iff {credentials : Credentials} {clock : WallTime} {micros : Int}
    {overflow : CalendarOverflow} :
    credentials.expiresWithin clock micros = .error overflow ↔
      overflow = ⟨micros⟩ ∧
        (clock.micros + micros < 0 ∨ (calendarMicros : Int) ≤ clock.micros + micros) := by
  rw [expiresWithin, ← WallTime.shift_eq_error_iff]
  cases clock.shift micros <;> simp [Except.map]

end Credentials

end CredentialBroker
