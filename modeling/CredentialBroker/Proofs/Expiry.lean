import CredentialBroker.Credentials.Document

/-!
Expiry is a matter of instants. Main statement: whether credentials are accepted, whether they have
expired and what their metadata document says depend on the instants of the times involved and not
on the offsets that these were written with.

The wall time and the offset of a moment enter nothing but its instant, so each operation is stated
in terms of that. An instant may lie outside the calendar: comparing it does no harm, and only what
has to be written as a wall time, a shifted clock or a time in UTC, overflows there.
-/

namespace CredentialBroker

open Time

/-- The instant that a timestamp names, if it has a known offset. -/
def Time.Timestamp.instant? (timestamp : Timestamp) : Option Int :=
  timestamp.moment?.map Moment.instant

theorem Time.Timestamp.instant?_eq_some_iff {timestamp : Timestamp} {instant : Int} :
    timestamp.instant? = some instant ↔
      ∃ moment : Moment, timestamp = moment.timestamp ∧ moment.instant = instant := by
  simp only [instant?, Option.map_eq_some_iff, moment?_eq_some_iff]

theorem Time.Timestamp.instant?_eq_none_iff {timestamp : Timestamp} :
    timestamp.instant? = none ↔ timestamp.moment? = none :=
  Option.map_eq_none_iff

@[simp]
theorem Time.Moment.instant?_timestamp (moment : Moment) :
    moment.timestamp.instant? = some moment.instant := rfl

/-- The failures of reading in UTC all have the same wording, so the instant decides what is read. -/
theorem Time.Moment.utcText_congr {left right : Moment} (hinstant : left.instant = right.instant) :
    left.utcText.mapError CalendarOverflow.message =
      right.utcText.mapError CalendarOverflow.message := by
  cases hleft : left.utcText with
  | ok text =>
      obtain ⟨wall, hwall, htext⟩ := utcText_eq_ok_iff.mp hleft
      have hright : right.utcText = .ok text :=
        utcText_eq_ok_iff.mpr ⟨wall, hwall.trans hinstant, htext⟩
      rw [hright]
  | error overflow =>
      have hutc := utcText_eq_error_iff.mp hleft
      have houtside := (utcWall_eq_error_iff.mp hutc).2
      rw [hinstant] at houtside
      have hother := utcWall_eq_error_iff.mpr ⟨rfl, houtside⟩
      have hmessage :=
        (message_of_utcWall_eq_error hutc).trans (message_of_utcWall_eq_error hother).symm
      rw [utcText_eq_error_iff.mpr hother]
      exact congrArg Except.error hmessage

namespace Credentials

/-- What becomes of an attempt to make credentials of these values. -/
structure AcceptedInOrder (accessKey secretKey token : String)
    (expiration generatedAt : Timestamp) : Prop where
  accepted :
    (∃ credentials, create accessKey secretKey token expiration generatedAt = .ok credentials) ↔
      ∃ generated expires, generatedAt.instant? = some generated ∧
        expiration.instant? = some expires ∧ generated ≤ expires
  withoutOffset :
    create accessKey secretKey token expiration generatedAt = .error .timesWithoutOffset ↔
      generatedAt.instant? = none ∨ expiration.instant? = none
  late :
    (∃ early late, create accessKey secretKey token expiration generatedAt =
        .error (.alreadyExpired early late)) ↔
      ∃ generated expires, generatedAt.instant? = some generated ∧
        expiration.instant? = some expires ∧ expires < generated

/-- The credentials are judged by the instant of their expiration alone. -/
structure JudgedByInstant (credentials : Credentials) : Prop where
  refuses : ∀ timestamp, (∃ error, credentials.expiredAt timestamp = .error error) ↔
    timestamp.instant? = none
  expired : ∀ timestamp, credentials.expiredAt timestamp = .ok true ↔
    ∃ instant, timestamp.instant? = some instant ∧ credentials.expiration.instant < instant
  stays_expired : ∀ earlier later first second, earlier.instant? = some first →
    later.instant? = some second → first ≤ second →
    credentials.expiredAt earlier = .ok true → credentials.expiredAt later = .ok true
  overflows : ∀ clock micros,
    (∃ overflow, credentials.expiresWithin clock micros = .error overflow) ↔
      ¬∃ ahead : WallTime, (ahead.micros : Int) = clock.micros + micros
  expires : ∀ clock micros, credentials.expiresWithin clock micros = .ok true ↔
    ∃ ahead : WallTime, (ahead.micros : Int) = clock.micros + micros ∧
      credentials.expiration.instant < ahead.micros
  stays_expiring : ∀ clock less more, less ≤ more →
    credentials.expiresWithin clock less = .ok true →
    ∀ answer, credentials.expiresWithin clock more = .ok answer → answer = true

/-- No check tells the two apart, and neither does the metadata document. -/
structure JudgedAlike (left right : Credentials) : Prop where
  expiredAt : ∀ timestamp, left.expiredAt timestamp = right.expiredAt timestamp
  expiredNow : ∀ clock, left.expiredNow clock = right.expiredNow clock
  expiresWithin : ∀ clock micros, left.expiresWithin clock micros = right.expiresWithin clock micros
  document : left.document.mapError CalendarOverflow.message =
    right.document.mapError CalendarOverflow.message

theorem acceptedInOrder (accessKey secretKey token : String)
    (expiration generatedAt : Timestamp) :
    AcceptedInOrder accessKey secretKey token expiration generatedAt := by
  cases hexpiration : expiration.moment? with
  | none =>
      have hinstant : expiration.instant? = none := Timestamp.instant?_eq_none_iff.mpr hexpiration
      constructor <;> simp [create_of_moment?_eq_none (Or.inl hexpiration), hinstant]
  | some expires =>
      cases hgeneratedAt : generatedAt.moment? with
      | none =>
          have hinstant : generatedAt.instant? = none :=
            Timestamp.instant?_eq_none_iff.mpr hgeneratedAt
          constructor <;> simp [create_of_moment?_eq_none (Or.inr hgeneratedAt), hinstant]
      | some generated =>
          rw [Timestamp.moment?_eq_some_iff.mp hexpiration,
            Timestamp.moment?_eq_some_iff.mp hgeneratedAt]
          rcases Int.lt_or_le expires.instant generated.instant with hlate | hordered
          · constructor <;> simp [create_of_late, hlate]
          · constructor <;> simp [create_of_ordered, hordered]

variable {credentials left right : Credentials} {timestamp : Timestamp}

theorem expiredAt_of_instant? {instant : Int} (hinstant : timestamp.instant? = some instant) :
    credentials.expiredAt timestamp = .ok (decide (credentials.expiration.instant < instant)) := by
  obtain ⟨moment, rfl, rfl⟩ := Timestamp.instant?_eq_some_iff.mp hinstant
  rfl

theorem expiredAt_of_instant?_eq_none (hnone : timestamp.instant? = none) :
    credentials.expiredAt timestamp = .error .checkWithoutOffset := by
  rw [expiredAt, Timestamp.instant?_eq_none_iff.mp hnone]

theorem exists_expiresWithin_eq_error_iff {clock : WallTime} {micros : Int} :
    (∃ overflow, credentials.expiresWithin clock micros = .error overflow) ↔
      ¬∃ ahead : WallTime, (ahead.micros : Int) = clock.micros + micros := by
  simp only [expiresWithin_eq_error_iff, WallTime.exists_micros_eq_iff, exists_eq_left]
  omega

/-- The answer is that of the same check at the shifted clock, where there is such a clock. -/
theorem expiresWithin_eq_ok_iff_ahead {clock : WallTime} {micros : Int} {answer : Bool} :
    credentials.expiresWithin clock micros = .ok answer ↔
      ∃ ahead : WallTime, (ahead.micros : Int) = clock.micros + micros ∧
        credentials.expiredNow ahead = answer := by
  simp only [expiresWithin, ← WallTime.shift_eq_ok_iff]
  cases clock.shift micros <;> simp [Except.map]

theorem judgedByInstant (credentials : Credentials) : credentials.JudgedByInstant where
  refuses timestamp := by
    cases hinstant : timestamp.instant? with
    | none => simp [expiredAt_of_instant?_eq_none hinstant]
    | some instant => simp [expiredAt_of_instant? hinstant]
  expired timestamp := by
    cases hinstant : timestamp.instant? with
    | none => simp [expiredAt_of_instant?_eq_none hinstant]
    | some instant => simp [expiredAt_of_instant? hinstant]
  stays_expired earlier later first second hfirst hsecond hle hexpired := by
    rw [expiredAt_of_instant? hfirst, Except.ok.injEq, decide_eq_true_iff] at hexpired
    rw [expiredAt_of_instant? hsecond, Except.ok.injEq, decide_eq_true_iff]
    exact Int.lt_of_lt_of_le hexpired hle
  overflows _ _ := exists_expiresWithin_eq_error_iff
  expires _ _ := by
    simp only [expiresWithin_eq_ok_iff_ahead, expiredNow_eq_true_iff]
  stays_expiring clock less more hle hless answer hanswer := by
    have hexpired := (expiresWithin_eq_ok_iff.mp hless).2.mp rfl
    apply (expiresWithin_eq_ok_iff.mp hanswer).2.mpr
    omega

theorem expiredNow_congr (hexpiration : left.expiration.instant = right.expiration.instant)
    (clock : WallTime) : left.expiredNow clock = right.expiredNow clock := by
  rw [expiredNow, expiredNow, isExpiredAt, isExpiredAt, hexpiration]

theorem expiresWithin_congr (hexpiration : left.expiration.instant = right.expiration.instant)
    (clock : WallTime) (micros : Int) :
    left.expiresWithin clock micros = right.expiresWithin clock micros := by
  have hexpiredNow : left.expiredNow = right.expiredNow := funext (expiredNow_congr hexpiration)
  rw [expiresWithin, expiresWithin, hexpiredNow]

theorem Agrees.judgedAlike (hagrees : left.Agrees right) : left.JudgedAlike right := by
  obtain ⟨haccessKey, hsecretKey, htoken, hexpiration, hgeneratedAt⟩ := hagrees
  refine ⟨?_, expiredNow_congr hexpiration, expiresWithin_congr hexpiration, ?_⟩
  · intro timestamp
    cases hinstant : timestamp.instant? with
    | none => rw [expiredAt_of_instant?_eq_none hinstant, expiredAt_of_instant?_eq_none hinstant]
    | some instant =>
        rw [expiredAt_of_instant? hinstant, expiredAt_of_instant? hinstant, hexpiration]
  · rw [document_mapError, document_mapError, Moment.utcText_congr hgeneratedAt,
      Moment.utcText_congr hexpiration, haccessKey, hsecretKey, htoken]

/-- **Instants.** Credentials are accepted when both times name an instant and these are in order;
they are judged by the instant of their expiration; and credentials that agree, in whatever offsets
their times are written, are judged alike. -/
theorem expiry_judged_by_instants :
    (∀ accessKey secretKey token expiration generatedAt,
        AcceptedInOrder accessKey secretKey token expiration generatedAt) ∧
      (∀ credentials : Credentials, credentials.JudgedByInstant) ∧
      (∀ left right : Credentials, left.Agrees right → left.JudgedAlike right) :=
  ⟨acceptedInOrder, judgedByInstant, fun _ _ hagrees => hagrees.judgedAlike⟩

/-- Credentials that expire half an hour after the calendar ends in UTC, where the calendar at their
own place has half an hour left. -/
def lastHour : Credentials :=
  ⟨"ASIA1", "secret-1", "token-1",
    ⟨⟨315537895800000000, by decide⟩, ⟨-3600, by decide, by decide⟩⟩,
    .ofUtc ⟨63844888500000000, by decide⟩, by decide⟩

/-- The same credentials, written one hour further west and dated three and a half hours east. -/
def lastHourWest : Credentials :=
  ⟨"ASIA1", "secret-1", "token-1",
    ⟨⟨315537892200000000, by decide⟩, ⟨-7200, by decide, by decide⟩⟩,
    ⟨⟨63844901100000000, by decide⟩, ⟨12600, by decide, by decide⟩⟩, by decide⟩

theorem expiry_judged_by_instants_lastHour :
    lastHour.Agrees lastHourWest ∧ lastHour.JudgedAlike lastHourWest ∧
      lastHour.document.mapError CalendarOverflow.message = .error "date value out of range" ∧
      lastHour.expiredAt ⟨⟨315537896700000000, by decide⟩, .known lastHour.expiration.offset⟩ =
        .ok true := by
  obtain ⟨-, hjudged, halike⟩ := expiry_judged_by_instants
  have hagrees : lastHour.Agrees lastHourWest := ⟨rfl, rfl, rfl, rfl, rfl⟩
  refine ⟨hagrees, halike lastHour lastHourWest hagrees, rfl, ?_⟩
  exact ((hjudged lastHour).expired _).mpr ⟨_, rfl, by decide⟩

end Credentials

end CredentialBroker
