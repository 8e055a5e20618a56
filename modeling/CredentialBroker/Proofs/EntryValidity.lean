import CredentialBroker.Proofs.Expiry
import CredentialBroker.Proofs.Kept

/-!
Validity of an entry. Main statement: the check overflows for a container that the entry was made
for when the margin leads out of the calendar, and otherwise says yes exactly for such a container
while the margin does not lead beyond the expiration.

What follows from this is that policies and secrets do not count, that an entry is valid at every
earlier time at which it will still be valid later on, that valid credentials have not expired, and
that at any one time the entry is valid either for all containers of its role and id or for none.
-/

namespace CredentialBroker

open Time

namespace CacheEntry

/-- All there is to say about when the entry is valid, and for whom. -/
structure ValidExactly (entry : CacheEntry) : Prop where
  overflows : ∀ container clock,
    (∃ overflow, entry.isValidFor container clock = .error overflow) ↔
      entry.container.role = container.role ∧ entry.container.id = container.id ∧
        ¬∃ ahead : WallTime, (ahead.micros : Int) = clock.micros + safetyMargin
  valid : ∀ container clock, entry.isValidFor container clock = .ok true ↔
    entry.container.role = container.role ∧ entry.container.id = container.id ∧
      ∃ ahead : WallTime, (ahead.micros : Int) = clock.micros + safetyMargin ∧
        (ahead.micros : Int) ≤ entry.credentials.expiration.instant
  refuses_others : ∀ container clock,
    entry.container.role ≠ container.role ∨ entry.container.id ≠ container.id →
      entry.isValidFor container clock = .ok false
  determined : ∀ (other : CacheEntry) container candidate clock,
    other.container.role = entry.container.role → other.container.id = entry.container.id →
    other.credentials.expiration.instant = entry.credentials.expiration.instant →
    candidate.role = container.role → candidate.id = container.id →
      other.isValidFor candidate clock = entry.isValidFor container clock
  valid_earlier : ∀ container clock earlier, entry.isValidFor container clock = .ok true →
    earlier.micros ≤ clock.micros → entry.isValidFor container earlier = .ok true
  not_expired : ∀ container clock, entry.isValidFor container clock = .ok true →
    entry.credentials.expiredNow clock = false
  valid_alike : ∀ container clock, entry.isValidFor container clock = .ok true →
    ∀ candidate, entry.isValidFor candidate clock = .ok true ↔
      candidate.role = container.role ∧ candidate.id = container.id

variable {entry other : CacheEntry} {container candidate : Container} {clock earlier : WallTime}

theorem exists_isValidFor_eq_error_iff :
    (∃ overflow, entry.isValidFor container clock = .error overflow) ↔
      entry.container.role = container.role ∧ entry.container.id = container.id ∧
        ¬∃ ahead : WallTime, (ahead.micros : Int) = clock.micros + safetyMargin := by
  simp only [isValidFor_eq_error_iff, exists_and_left,
    Credentials.exists_expiresWithin_eq_error_iff, and_assoc]

theorem isValidFor_eq_true_iff_ahead :
    entry.isValidFor container clock = .ok true ↔
      entry.container.role = container.role ∧ entry.container.id = container.id ∧
        ∃ ahead : WallTime, (ahead.micros : Int) = clock.micros + safetyMargin ∧
          (ahead.micros : Int) ≤ entry.credentials.expiration.instant := by
  simp only [isValidFor_eq_ok_true_iff, Credentials.expiresWithin_eq_ok_iff_ahead,
    Credentials.expiredNow_eq_false_iff, and_assoc]

theorem isValidFor_eq_false_of_not_matches (hother : ¬entry.Matches container) :
    entry.isValidFor container clock = .ok false :=
  if_neg hother

/-- Of the entry only the role, the id and the instant of expiration count, and of the container
only the first two. -/
theorem isValidFor_congr (hrole : other.container.role = entry.container.role)
    (hid : other.container.id = entry.container.id)
    (hexpiration :
      other.credentials.expiration.instant = entry.credentials.expiration.instant)
    (hcandidateRole : candidate.role = container.role) (hcandidateId : candidate.id = container.id) :
    other.isValidFor candidate clock = entry.isValidFor container clock := by
  rw [isValidFor, isValidFor, hrole, hid, hcandidateRole, hcandidateId,
    Credentials.expiresWithin_congr hexpiration]

theorem isValidFor_earlier (hvalid : entry.isValidFor container clock = .ok true)
    (hle : earlier.micros ≤ clock.micros) :
    entry.isValidFor container earlier = .ok true := by
  obtain ⟨hmatches, hinside, hlasts⟩ := isValidFor_eq_true_iff_matches.mp hvalid
  exact isValidFor_eq_true_iff_matches.mpr ⟨hmatches, by omega, by omega⟩

theorem expiredNow_of_isValidFor (hvalid : entry.isValidFor container clock = .ok true) :
    entry.credentials.expiredNow clock = false := by
  obtain ⟨-, -, hlasts⟩ := isValidFor_eq_true_iff_matches.mp hvalid
  have hmargin := safetyMargin_nonneg
  rw [Credentials.expiredNow_eq_false_iff]
  omega

theorem isValidFor_eq_true_iff_of_valid (hvalid : entry.isValidFor container clock = .ok true) :
    entry.isValidFor candidate clock = .ok true ↔
      candidate.role = container.role ∧ candidate.id = container.id := by
  obtain ⟨⟨hrole, hid⟩, htimes⟩ := isValidFor_eq_true_iff_matches.mp hvalid
  rw [isValidFor_eq_true_iff_matches, Matches, hrole, hid]
  constructor
  · rintro ⟨⟨hcandidateRole, hcandidateId⟩, -⟩
    exact ⟨hcandidateRole.symm, hcandidateId.symm⟩
  · rintro ⟨hcandidateRole, hcandidateId⟩
    exact ⟨⟨hcandidateRole.symm, hcandidateId.symm⟩, htimes⟩

/-- **Validity.** Every entry is valid exactly for containers of its role and id, and exactly while
the margin can be added to the clock without leading beyond the expiration. -/
theorem entry_valid_exactly (entry : CacheEntry) : entry.ValidExactly where
  overflows _ _ := exists_isValidFor_eq_error_iff
  valid _ _ := isValidFor_eq_true_iff_ahead
  refuses_others container clock hother := by
    apply isValidFor_eq_false_of_not_matches
    rintro ⟨hrole, hid⟩
    rcases hother with hotherRole | hotherId
    · exact hotherRole hrole
    · exact hotherId hid
  determined _ _ _ _ := isValidFor_congr
  valid_earlier _ _ _ := isValidFor_earlier
  not_expired _ _ := expiredNow_of_isValidFor
  valid_alike _ _ hvalid _ := isValidFor_eq_true_iff_of_valid hvalid

/-- What is kept from a get at noon, which is good for an hour. -/
def kept : CacheEntry :=
  ⟨Trial.web, Trial.credentials⟩

/-- Five minutes before one o'clock, the last time at which the entry is valid. -/
def lastChance : WallTime :=
  ⟨63844894500000000, by decide⟩

theorem entry_valid_exactly_kept :
    kept.isValidFor Trial.web lastChance = .ok true ∧
      kept.isValidFor Trial.web Trial.noon = .ok true ∧
      kept.credentials.expiredNow lastChance = false ∧
      kept.isValidFor Trial.bare ⟨calendarMicros - 1, by decide⟩ = .ok false := by
  have hexactly := entry_valid_exactly kept
  have hvalid : kept.isValidFor Trial.web lastChance = .ok true :=
    (hexactly.valid _ _).mpr ⟨rfl, rfl, ⟨63844894800000000, by decide⟩, rfl, by decide⟩
  have hbare : kept.container.id ≠ Trial.bare.id := by decide
  exact ⟨hvalid, hexactly.valid_earlier _ _ _ hvalid (by decide), hexactly.not_expired _ _ hvalid,
    hexactly.refuses_others _ _ (Or.inr hbare)⟩

end CacheEntry

end CredentialBroker
