import CredentialBroker.Proofs.Kept

/-!
When requests are sent. Main statement: a get sends one request where there is a container with a
role to be had and nothing kept for it that may be handed out or that cannot be judged, and none
anywhere else. So after credentials were issued, the next request for the address is sent only for
another container, for another role, or when the margin before their expiration has begun.
-/

namespace CredentialBroker

open Time

/-- Nothing that is kept for the address was made for a container of this role and this id, or what
is kept was, but is sure to expire within the margin. -/
def Broker.KeepsNothingFor (broker : Broker) (address : Address) (container : Container)
    (clock : WallTime) : Prop :=
  (∀ entry, broker.cache.get? address = some entry → ¬entry.Matches container) ∨
    ∃ entry, broker.cache.get? address = some entry ∧ entry.Matches container ∧
      (clock.micros : Int) + safetyMargin < calendarMicros ∧
      entry.credentials.expiration.instant < (clock.micros : Int) + safetyMargin

theorem Broker.reusable?_eq_none_iff_keepsNothingFor {broker : Broker} {address : Address}
    {container : Container} {clock : WallTime} :
    broker.reusable? address container clock = .ok none ↔
      broker.KeepsNothingFor address container clock := by
  rw [reusable?_eq_none_iff]
  unfold KeepsNothingFor
  cases hkept : broker.cache.get? address with
  | none => simp
  | some entry =>
      simp only [Option.some.injEq, forall_eq', exists_eq_left']
      by_cases hmatches : entry.Matches container
      · simp [hmatches]
      · simp [hmatches]

namespace Deployment

/-- The address has a container with a role to be had, and nothing is kept that it may be given. -/
def NeedsRequest (deployment : Deployment) (address : Address) : Prop :=
  ∃ container, deployment.lookup address = .ok container ∧
    (container.role.isEmpty = false ∨ deployment.broker.defaultRole.isEmpty = false) ∧
    deployment.broker.KeepsNothingFor address container deployment.clock

variable {deployment : Deployment} {address : Address} {container : Container}

theorem exists_requestDue_iff :
    (∃ container request, deployment.RequestDue address container request) ↔
      deployment.NeedsRequest address := by
  constructor
  · rintro ⟨container, request, hdue⟩
    have hrole := Broker.exists_requestFor_eq_ok_iff.mp ⟨request, hdue.request_eq⟩
    have hnothing := Broker.reusable?_eq_none_iff_keepsNothingFor.mp hdue.not_reusable
    exact ⟨container, hdue.found, hrole, hnothing⟩
  · rintro ⟨container, hlookup, hrole, hnothing⟩
    obtain ⟨request, hrequest⟩ := Broker.exists_requestFor_eq_ok_iff.mpr hrole
    have hreusable := Broker.reusable?_eq_none_iff_keepsNothingFor.mpr hnothing
    exact ⟨container, request, hlookup, hreusable, hrequest⟩

/-- An entry that is kept and yet not handed out was made for another container or for another role,
or is about to expire. -/
theorem RequestDue.reason {request : AssumeRoleRequest} {entry : CacheEntry}
    (hdue : deployment.RequestDue address container request)
    (hentry : deployment.broker.cache.get? address = some entry) :
    container.id ≠ entry.container.id ∨ container.role ≠ entry.container.role ∨
      entry.credentials.expiration.instant < (deployment.clock.micros : Int) + safetyMargin := by
  have hexpires := Broker.reusable?_eq_none_iff.mp hdue.not_reusable entry hentry
  by_cases hid : container.id = entry.container.id
  · by_cases hrole : container.role = entry.container.role
    · exact Or.inr (Or.inr (hexpires ⟨hrole.symm, hid.symm⟩).2)
    · exact Or.inr (Or.inl hrole)
  · exact Or.inl hid

/-- **Demand.** A get sends exactly one request where one is needed and none elsewhere, and without
a request it changes nothing when it succeeds. After a get of the address has issued, and as long as
neither another one has nor another broker was started, a request for the address is sent only for a
container of another id or another role, or when the margin before the expiration has begun,
whatever the steps between were. -/
theorem requests_sent_exactly_when_needed (deployment : Deployment) (address : Address) :
    (deployment.NeedsRequest address →
        ∃ request, (deployment.get address).requests = [request]) ∧
      (¬deployment.NeedsRequest address → (deployment.get address).requests = []) ∧
      (∀ credentials, (deployment.get address).answer = .ok credentials →
        (deployment.get address).requests = [] → (deployment.get address).after = deployment) ∧
      ∀ entry request between, deployment.Issued address entry request →
        (deployment.get address).after.Throughout
          (fun current step => ¬current.Replaces address step) between →
        (((deployment.get address).after.runTo between).get address).requests ≠ [] →
        ∃ container, ((deployment.get address).after.runTo between).lookup address = .ok container ∧
          (container.id ≠ entry.container.id ∨ container.role ≠ entry.container.role ∨
            entry.credentials.expiration.instant <
              (((deployment.get address).after.runTo between).clock.micros : Int) +
                safetyMargin) := by
  refine ⟨?_, ?_, ?_, ?_⟩
  · intro hneeds
    obtain ⟨container, request, hdue⟩ := exists_requestDue_iff.mpr hneeds
    exact ⟨request, requests_get_of_requestDue hdue⟩
  · intro hneedsNot
    rw [← exists_requestDue_iff] at hneedsNot
    exact requests_get_eq_nil_iff.mpr hneedsNot
  · intro credentials _ hnone
    exact after_get_of_requests_eq_nil hnone
  · intro entry request between hissued hnever hsent
    have hentry : ((deployment.get address).after.runTo between).broker.cache.get? address =
        some entry := by
      rw [get?_cache_runTo hnever, hissued.after_get.1]
      exact AddressBook.get?_put_self _ _ _
    rcases ((deployment.get address).after.runTo between).idleCase_or_requestDue address with
      hidle | ⟨container, due, hdue⟩
    · exact absurd hidle.requests_and_after.1 hsent
    · exact ⟨container, hdue.found, hdue.reason hentry⟩

/-- The container gets a policy, and the clock goes on for fifty-five minutes and an instant. -/
def pastMargin : List Step :=
  [.put "10.0.0.7" ⟨"web", ⟨"arn:aws:iam::1:role/web"⟩, Policy.ofText? "read-only"⟩,
    .advance 3300000001]

theorem requests_sent_exactly_when_needed_pastMargin :
    ∃ request, Trial.deployment.Issued "10.0.0.7" ⟨Trial.web, Trial.credentials⟩ request ∧
      (Trial.deployment.get "10.0.0.7").after.Throughout
        (fun current step => ¬current.Replaces "10.0.0.7" step) pastMargin ∧
      (((Trial.deployment.get "10.0.0.7").after.runTo pastMargin).get "10.0.0.7").requests ≠ [] ∧
      Trial.credentials.expiration.instant <
        (((Trial.deployment.get "10.0.0.7").after.runTo pastMargin).clock.micros : Int) +
          safetyMargin := by
  have hexists : ∃ container request,
      Trial.deployment.Issued "10.0.0.7" ⟨container, Trial.credentials⟩ request :=
    exists_issued_of_answer (List.cons_ne_nil _ _) rfl
  obtain ⟨container, request, hissued⟩ := hexists
  have hcontainer : container = Trial.web := (Except.ok.inj hissued.found).symm
  rw [hcontainer] at hissued
  have hnever : (Trial.deployment.get "10.0.0.7").after.Throughout
      (fun current step => ¬current.Replaces "10.0.0.7" step) pastMargin := by
    simp only [pastMargin, throughout_cons, throughout_nil, and_true]
    constructor
    · rintro (⟨hstep, -⟩ | ⟨_, _, _, hstep, -⟩) <;> cases hstep
    · rintro (⟨hstep, -⟩ | ⟨_, _, _, hstep, -⟩) <;> cases hstep
  have hsent :
      (((Trial.deployment.get "10.0.0.7").after.runTo pastMargin).get "10.0.0.7").requests ≠ [] :=
    List.cons_ne_nil _ _
  refine ⟨request, hissued, hnever, hsent, ?_⟩
  obtain ⟨found, hlookup, hreason⟩ :=
    (requests_sent_exactly_when_needed Trial.deployment "10.0.0.7").2.2.2 _ _ _ hissued hnever hsent
  have hfound : found = ⟨"web", ⟨"arn:aws:iam::1:role/web"⟩, Policy.ofText? "read-only"⟩ :=
    (Except.ok.inj hlookup).symm
  rw [hfound] at hreason
  rcases hreason with hid | hrole | hexpires
  · exact absurd rfl hid
  · exact absurd rfl hrole
  · exact hexpires

end Deployment

end CredentialBroker
