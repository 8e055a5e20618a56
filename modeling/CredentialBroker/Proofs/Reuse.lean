import CredentialBroker.Broker

/-!
When kept credentials may be handed out again. Main statements: of a container only its role and its
id count, and of the clock only whether five minutes more lead out of the calendar or beyond the
expiration, exactly to the microsecond.
-/

namespace CredentialBroker

open Time

/-- The entry was made for a container of this role and this id. -/
def CacheEntry.Matches (entry : CacheEntry) (container : Container) : Prop :=
  entry.container.role = container.role ∧ entry.container.id = container.id

instance (entry : CacheEntry) (container : Container) : Decidable (entry.Matches container) :=
  inferInstanceAs (Decidable (_ ∧ _))

/-- The margin lies ahead, so a clock can leave the calendar at its far end only. -/
theorem safetyMargin_nonneg : 0 ≤ safetyMargin := by
  decide

namespace CacheEntry

variable {entry : CacheEntry} {container : Container} {clock : WallTime}

theorem isValidFor_eq_error_iff_matches {overflow : CalendarOverflow} :
    entry.isValidFor container clock = .error overflow ↔
      entry.Matches container ∧ overflow = ⟨safetyMargin⟩ ∧
        (calendarMicros : Int) ≤ clock.micros + safetyMargin := by
  rw [isValidFor_eq_error_iff, Credentials.expiresWithin_eq_error_iff]
  have hmargin := safetyMargin_nonneg
  refine and_congr_right fun _ => and_congr_right fun _ => ?_
  omega

theorem isValidFor_eq_true_iff_matches :
    entry.isValidFor container clock = .ok true ↔
      entry.Matches container ∧ (clock.micros : Int) + safetyMargin < calendarMicros ∧
        (clock.micros : Int) + safetyMargin ≤ entry.credentials.expiration.instant := by
  rw [isValidFor_eq_ok_true_iff, Credentials.expiresWithin_eq_ok_iff]
  have hmargin := safetyMargin_nonneg
  refine and_congr_right fun _ => ?_
  simp only [Bool.false_eq_true, false_iff]
  omega

/-- An entry is set aside for a container that it was not made for, and otherwise only when it is
sure to expire within the margin. -/
theorem isValidFor_eq_false_iff_matches :
    entry.isValidFor container clock = .ok false ↔
      (entry.Matches container → (clock.micros : Int) + safetyMargin < calendarMicros ∧
        entry.credentials.expiration.instant < (clock.micros : Int) + safetyMargin) := by
  cases hvalid : entry.isValidFor container clock with
  | error overflow =>
      obtain ⟨hmatches, -, hoverflow⟩ := isValidFor_eq_error_iff_matches.mp hvalid
      simp only [reduceCtorEq, false_iff]
      intro hexpires
      have hcalendar := (hexpires hmatches).1
      omega
  | ok valid =>
      cases valid with
      | true =>
          obtain ⟨hmatches, -, hlasts⟩ := isValidFor_eq_true_iff_matches.mp hvalid
          simp only [Except.ok.injEq, Bool.true_eq_false, false_iff]
          intro hexpires
          have hexpired := (hexpires hmatches).2
          omega
      | false =>
          simp only [true_iff]
          intro hmatches
          -- an entry that matches is set aside only when the two other outcomes are ruled out
          have hnotError : ¬(calendarMicros : Int) ≤ clock.micros + safetyMargin := by
            intro hoverflow
            rw [isValidFor_eq_error_iff_matches.mpr ⟨hmatches, rfl, hoverflow⟩] at hvalid
            cases hvalid
          have hnotTrue :
              ¬(clock.micros : Int) + safetyMargin ≤ entry.credentials.expiration.instant := by
            intro hlasts
            rw [isValidFor_eq_true_iff_matches.mpr ⟨hmatches, by omega, hlasts⟩] at hvalid
            cases hvalid
          omega

end CacheEntry

namespace Broker

variable {broker : Broker} {address : Address} {container : Container} {clock : WallTime}

theorem reusable?_eq_error_iff {overflow : CalendarOverflow} :
    broker.reusable? address container clock = .error overflow ↔
      ∃ entry, broker.cache.get? address = some entry ∧ entry.Matches container ∧
        overflow = ⟨safetyMargin⟩ ∧ (calendarMicros : Int) ≤ clock.micros + safetyMargin := by
  rw [reusable?]
  cases broker.cache.get? address with
  | none => simp
  | some entry =>
      simp only [Option.some.injEq, exists_eq_left',
        ← CacheEntry.isValidFor_eq_error_iff_matches]
      cases entry.isValidFor container clock <;> simp [Except.map]

theorem reusable?_eq_some_iff {credentials : Credentials} :
    broker.reusable? address container clock = .ok (some credentials) ↔
      ∃ entry, broker.cache.get? address = some entry ∧ entry.credentials = credentials ∧
        entry.Matches container ∧ (clock.micros : Int) + safetyMargin < calendarMicros ∧
        (clock.micros : Int) + safetyMargin ≤ entry.credentials.expiration.instant := by
  rw [reusable?]
  cases broker.cache.get? address with
  | none => simp
  | some entry =>
      simp only [Option.some.injEq, exists_eq_left', ← CacheEntry.isValidFor_eq_true_iff_matches]
      cases entry.isValidFor container clock with
      | error overflow => simp [Except.map]
      | ok valid => cases valid <;> simp [Except.map]

theorem reusable?_eq_none_iff :
    broker.reusable? address container clock = .ok none ↔
      ∀ entry, broker.cache.get? address = some entry → entry.Matches container →
        (clock.micros : Int) + safetyMargin < calendarMicros ∧
          entry.credentials.expiration.instant < (clock.micros : Int) + safetyMargin := by
  rw [reusable?]
  cases broker.cache.get? address with
  | none => simp
  | some entry =>
      simp only [Option.some.injEq, forall_eq', ← CacheEntry.isValidFor_eq_false_iff_matches]
      cases entry.isValidFor container clock with
      | error overflow => simp [Except.map]
      | ok valid => cases valid <;> simp [Except.map]

/-- No request can be made for a container exactly when it has no role of its own and there is no
default role to take its place. -/
theorem requestFor_eq_error_iff {platform : String} {failure : Failure} :
    broker.requestFor platform container = .error failure ↔
      (container.hasOwnRole = false ∧ broker.defaultRole.isEmpty = true) ∧
        failure = .noRole container.id := by
  rw [requestFor, roleAndPolicy]
  cases container.hasOwnRole <;> cases broker.defaultRole.isEmpty <;>
    simp [Except.map, eq_comm]

theorem exists_requestFor_eq_ok_iff {platform : String} :
    (∃ request, broker.requestFor platform container = .ok request) ↔
      container.role.isEmpty = false ∨ broker.defaultRole.isEmpty = false := by
  rw [requestFor, roleAndPolicy, Container.hasOwnRole]
  cases container.role.isEmpty <;> cases broker.defaultRole.isEmpty <;> simp [Except.map]

end Broker

end CredentialBroker
