import CredentialBroker.Proofs.Kept

/-!
Where kept credentials come from. Main statement: at every point of every run, what is kept for an
address was issued by the last get of it that sent a request and succeeded, and a get hands out what
is kept, to a container of the same id and the same role as the one it was issued for.
-/

namespace CredentialBroker.Deployment

variable {deployment : Deployment} {address : Address} {container : Container}
  {credentials : Credentials}

/-- A get that succeeds answers what is kept for the address when it is over. -/
theorem exists_kept_of_answer (hlookup : deployment.lookup address = .ok container)
    (hanswer : (deployment.get address).answer = .ok credentials) :
    ∃ entry, (deployment.get address).after.broker.cache.get? address = some entry ∧
      entry.credentials = credentials ∧ entry.Matches container := by
  by_cases hnone : (deployment.get address).requests = []
  · obtain ⟨found, entry, hfound, hentry, hcredentials, hmatches, -⟩ :=
      exists_reused_of_answer hnone hanswer
    have hcontainer : found = container := Except.ok.inj (hfound.symm.trans hlookup)
    rw [hcontainer] at hmatches
    rw [after_get_of_requests_eq_nil hnone]
    exact ⟨entry, hentry, hcredentials, hmatches⟩
  · obtain ⟨found, request, hissued⟩ := exists_issued_of_answer hnone hanswer
    have hcontainer : found = container := Except.ok.inj (hissued.found.symm.trans hlookup)
    refine ⟨⟨found, credentials⟩, ?_, rfl, ?_⟩
    · rw [hissued.after_get.1]
      exact AddressBook.get?_put_self _ _ _
    · rw [hcontainer]
      exact ⟨rfl, rfl⟩

theorem Fresh.exists_origin (hfresh : deployment.Fresh) {steps : List Step} {entry : CacheEntry}
    (hentry : (deployment.runTo steps).broker.cache.get? address = some entry) :
    ∃ earlier later request, deployment.Origin steps address entry earlier later request := by
  rcases kept_before_or_origin hentry with ⟨hkept, -⟩ | horigin
  · rw [hfresh.get?_cache] at hkept
    cases hkept
  · exact horigin

theorem exists_lookup_of_answer (hanswer : (deployment.get address).answer = .ok credentials) :
    ∃ container, deployment.lookup address = .ok container := by
  by_cases hnone : (deployment.get address).requests = []
  · obtain ⟨container, _, hlookup, -⟩ := exists_reused_of_answer hnone hanswer
    exact ⟨container, hlookup⟩
  · obtain ⟨container, _, hissued⟩ := exists_issued_of_answer hnone hanswer
    exact ⟨container, hissued.found⟩

/-- What a get answers goes back to the get that issued it, be it this one or an earlier one. -/
theorem Fresh.exists_origin_of_answer (hfresh : deployment.Fresh) {steps : List Step}
    (hanswer : ((deployment.runTo steps).get address).answer = .ok credentials) :
    ∃ container entry earlier later request,
      (deployment.runTo steps).lookup address = .ok container ∧ entry.Matches container ∧
        entry.credentials = credentials ∧
        deployment.Origin (steps ++ [.get address]) address entry earlier later request := by
  obtain ⟨container, hlookup⟩ := exists_lookup_of_answer hanswer
  obtain ⟨entry, hentry, hcredentials, hmatches⟩ := exists_kept_of_answer hlookup hanswer
  have hkept : (deployment.runTo (steps ++ [.get address])).broker.cache.get? address =
      some entry := by
    rw [runTo_append]
    exact hentry
  obtain ⟨earlier, later, request, horigin⟩ := hfresh.exists_origin hkept
  exact ⟨container, entry, earlier, later, request, hlookup, hmatches, hcredentials, horigin⟩

/-- **Provenance.** What is kept for an address goes back to the get of the address that issued last
under the broker in service, and to the one response to its request. What a get answers is what is
kept when it is over, issued for a container of the same id and the same role as the one that is
there now. -/
theorem kept_credentials_origin (hfresh : deployment.Fresh) (steps : List Step)
    (address : Address) :
    (∀ entry, (deployment.runTo steps).broker.cache.get? address = some entry →
        ∃ earlier later request,
          deployment.Origin steps address entry earlier later request) ∧
      ∀ container credentials, (deployment.runTo steps).lookup address = .ok container →
        ((deployment.runTo steps).get address).answer = .ok credentials →
        ∃ entry,
          ((deployment.runTo steps).get address).after.broker.cache.get? address = some entry ∧
          entry.credentials = credentials ∧ entry.container.id = container.id ∧
          entry.container.role = container.role ∧
          ∃ earlier later request,
            deployment.Origin (steps ++ [.get address]) address entry earlier later request := by
  refine ⟨fun entry hentry => hfresh.exists_origin hentry, ?_⟩
  intro container credentials hlookup hanswer
  obtain ⟨entry, hentry, hcredentials, hrole, hid⟩ := exists_kept_of_answer hlookup hanswer
  refine ⟨entry, hentry, hcredentials, hid, hrole, hfresh.exists_origin ?_⟩
  rw [runTo_append]
  exact hentry

/-- The container at the address makes room for one that gets nothing, comes back, leaves and comes
back again. -/
def swaps : List Step :=
  [.get "10.0.0.7", .put "10.0.0.7" Trial.bare, .get "10.0.0.7", .put "10.0.0.7" Trial.web,
    .remove "10.0.0.7", .get "10.0.0.7", .put "10.0.0.7" Trial.web]

theorem kept_credentials_origin_swaps :
    Trial.deployment.Fresh ∧
      (Trial.deployment.runTo swaps).broker.cache.get? "10.0.0.7" =
        some ⟨Trial.web, Trial.credentials⟩ ∧
      ∃ earlier later request,
        Trial.deployment.Origin swaps "10.0.0.7" ⟨Trial.web, Trial.credentials⟩ earlier later
          request :=
  ⟨Trial.fresh_deployment, rfl,
    (kept_credentials_origin Trial.fresh_deployment swaps "10.0.0.7").1 _ rfl⟩

end CredentialBroker.Deployment
