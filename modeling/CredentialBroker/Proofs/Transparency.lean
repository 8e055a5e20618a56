import CredentialBroker.Proofs.Effect
import CredentialBroker.Proofs.Provenance

/-!
Keeping credentials does not show in what they were asked for. Main statement: the request behind
the answer of a get, however long ago it was sent, is the one that a broker with the same defaults
that keeps nothing would send now, except that it has the policy which the container declared then.

The name of the platform never changes, the defaults are those of the broker in service, and a
container that is given kept credentials has the id and the role of the one they were issued for, so
a policy is all that is left to differ.
-/

namespace CredentialBroker

/-- The two requests ask for the same role, under the same name and for the same time. -/
structure AssumeRoleRequest.SameButPolicy (left right : AssumeRoleRequest) : Prop where
  durationSeconds : left.durationSeconds = right.durationSeconds
  role : left.role = right.role
  sessionName : left.sessionName = right.sessionName

/-- The role that is asked for does not depend on the policy of the container, which enters the
policy of the request alone. -/
theorem Broker.exists_requestFor_withPolicy {broker : Broker} {platform : String}
    {container : Container} {request : AssumeRoleRequest}
    (hrequest : broker.requestFor platform container = .ok request) (policy : Option Policy) :
    ∃ other, broker.requestFor platform { container with policy } = .ok other ∧
      request.SameButPolicy other := by
  rw [requestFor, roleAndPolicy] at hrequest
  rw [requestFor, roleAndPolicy]
  have hown : Container.hasOwnRole { container with policy } = container.hasOwnRole := rfl
  rw [hown]
  cases hrole : container.hasOwnRole with
  | true =>
      rw [hrole] at hrequest
      cases hrequest
      exact ⟨_, rfl, rfl, rfl, rfl⟩
  | false =>
      rw [hrole] at hrequest
      cases hdefault : broker.defaultRole.isEmpty with
      | true =>
          rw [hdefault] at hrequest
          cases hrequest
      | false =>
          rw [hdefault] at hrequest
          cases hrequest
          exact ⟨_, rfl, rfl, rfl, rfl⟩

/-- A container that an entry was made for differs from the one in the entry in its policy only. -/
theorem CacheEntry.Matches.container_eq {entry : CacheEntry} {container : Container}
    (hmatches : entry.Matches container) :
    container = { entry.container with policy := container.policy } := by
  obtain ⟨⟨_, _, _⟩, _⟩ := entry
  obtain ⟨_, _, _⟩ := container
  obtain ⟨hrole, hid⟩ := hmatches
  cases hrole
  cases hid
  rfl

namespace Deployment

/-- The same deployment with a broker that has the same defaults and keeps nothing. -/
def withNothingKept (deployment : Deployment) : Deployment :=
  { deployment with broker := deployment.broker.emptied }

/-- The address has this container at some point of the run. -/
def ResolvesTo (deployment : Deployment) (steps : List Step) (address : Address)
    (container : Container) : Prop :=
  ∃ earlier, earlier <+: steps ∧ (deployment.runTo earlier).lookup address = .ok container

/-- Containers of one id and one role that the address has in the course of the run declare the same
policy. -/
def PolicySettled (deployment : Deployment) (steps : List Step) (address : Address) : Prop :=
  ∀ one other, deployment.ResolvesTo steps address one → deployment.ResolvesTo steps address other →
    one.id = other.id → one.role = other.role → one.policy = other.policy

/-- The request that the entry of the address goes back to, beside the plain one that would be sent
for the container which the address has now. -/
structure Transparent (deployment : Deployment) (steps : List Step) (address : Address)
    (container : Container) (entry : CacheEntry) (request plain : AssumeRoleRequest) : Prop where
  resolved : (deployment.runTo steps).lookup address = .ok container
  origin : ∃ earlier later,
    deployment.Origin (steps ++ [.get address]) address entry earlier later request
  plain_sent : ((deployment.runTo steps).withNothingKept.get address).requests = [plain]
  same : request.SameButPolicy plain
  policy_of_then : (deployment.runTo steps).broker.requestFor
    (deployment.runTo steps).directory.platform
    { container with policy := entry.container.policy } = .ok request
  same_of_settled : deployment.PolicySettled steps address → request = plain

variable {deployment : Deployment} {steps : List Step} {address : Address}
  {container : Container} {credentials : Credentials} {entry : CacheEntry}
  {request : AssumeRoleRequest}

/-- With nothing kept the request is made from the container that is found and the defaults. -/
theorem requests_get_withNothingKept (hlookup : deployment.lookup address = .ok container)
    (hrequest :
      deployment.broker.requestFor deployment.directory.platform container = .ok request) :
    (deployment.withNothingKept.get address).requests = [request] :=
  requests_get_of_requestDue ⟨hlookup, rfl, hrequest⟩

/-- What was sent when the entry was made would be sent for its container now. -/
theorem Origin.requestFor_eq {earlier later : List Step}
    (horigin : deployment.Origin (steps ++ [.get address]) address entry earlier later request) :
    (deployment.runTo steps).broker.requestFor (deployment.runTo steps).directory.platform
      entry.container = .ok request := by
  obtain ⟨container, hdue⟩ := requests_get_eq_singleton_iff.mp horigin.issued.sent
  have hcontainer : container = entry.container :=
    Except.ok.inj (hdue.found.symm.trans horigin.issued.found)
  have hthen := hdue.request_eq
  rw [hcontainer, platform_runTo, ← Broker.requestFor_emptied] at hthen
  -- no other broker was started since the entry was made, so the defaults are those of now
  have hget : ∀ (current : Deployment), ¬current.Restarts (.get address) := by
    rintro current ⟨_, _, _, hstep, -⟩
    cases hstep
  have hsince : (deployment.runTo earlier).Throughout
      (fun current step => ¬current.Restarts step) (.get address :: later) :=
    throughout_cons.mpr
      ⟨hget _, horigin.latest.imp fun _ _ hnot hrestarts => hnot (Or.inr hrestarts)⟩
  have hdefaults : (deployment.runTo steps).broker.emptied =
      (deployment.runTo earlier).broker.emptied := by
    rw [← emptied_runTo hsince, ← runTo_append, ← horigin.split, runTo_append]
    exact ((stepCase _ _).emptied (hget _)).symm
  rw [platform_runTo, ← Broker.requestFor_emptied, hdefaults]
  exact hthen

theorem Origin.resolvesTo {earlier later : List Step}
    (horigin : deployment.Origin (steps ++ [.get address]) address entry earlier later request) :
    deployment.ResolvesTo steps address entry.container := by
  refine ⟨earlier, ?_, horigin.issued.found⟩
  have hearlier : earlier <+: steps ++ [.get address] := ⟨_, horigin.split.symm⟩
  refine List.prefix_of_prefix_length_le hearlier (List.prefix_append _ _) ?_
  have hlength := congrArg List.length horigin.split
  simp only [List.length_append, List.length_cons, List.length_nil] at hlength
  omega

/-- **Transparency.** Whatever a get answers was issued on a request that asks for the role, the
session name and the time which a broker with the same defaults that keeps nothing would ask for
now. Its policy follows by the same rule from the policy that the container declared when it was
sent; where containers of one id and one role never differ in their policy the two requests are
equal. -/
theorem kept_credentials_stand_for_plain_request (hfresh : deployment.Fresh) (steps : List Step)
    (address : Address) (credentials : Credentials)
    (hanswer : ((deployment.runTo steps).get address).answer = .ok credentials) :
    ∃ container entry request plain, entry.credentials = credentials ∧
      deployment.Transparent steps address container entry request plain := by
  obtain ⟨container, entry, earlier, later, request, hlookup, hmatches, hcredentials, horigin⟩ :=
    hfresh.exists_origin_of_answer hanswer
  have hrequest := horigin.requestFor_eq
  obtain ⟨plain, hplain, hsame⟩ :=
    Broker.exists_requestFor_withPolicy hrequest container.policy
  rw [← hmatches.container_eq] at hplain
  refine ⟨container, entry, request, plain, hcredentials, hlookup, ⟨earlier, later, horigin⟩,
    requests_get_withNothingKept hlookup hplain, hsame, ?_, ?_⟩
  · have hthen : { container with policy := entry.container.policy } = entry.container := by
      rw [hmatches.container_eq]
    rw [hthen]
    exact hrequest
  · intro hsettled
    have hpolicy : entry.container.policy = container.policy :=
      hsettled entry.container container horigin.resolvesTo ⟨steps, List.prefix_rfl, hlookup⟩
        hmatches.2 hmatches.1
    have hcontainer : container = entry.container := by
      rw [hmatches.container_eq, ← hpolicy]
    rw [hcontainer, hrequest] at hplain
    exact Except.ok.inj hplain

/-- The container comes back with a policy, and is given what was issued when it had none. -/
def repoliced : List Step :=
  [.get "10.0.0.7",
    .put "10.0.0.7" ⟨"web", ⟨"arn:aws:iam::1:role/web"⟩, Policy.ofText? "read-only"⟩]

theorem kept_credentials_stand_for_plain_request_repoliced :
    Trial.deployment.Fresh ∧
      ((Trial.deployment.runTo repoliced).get "10.0.0.7").answer = .ok Trial.credentials ∧
      ∃ container entry request plain, entry.credentials = Trial.credentials ∧
        Trial.deployment.Transparent repoliced "10.0.0.7" container entry request plain :=
  ⟨Trial.fresh_deployment, rfl,
    kept_credentials_stand_for_plain_request Trial.fresh_deployment repoliced "10.0.0.7"
      Trial.credentials rfl⟩

end Deployment

end CredentialBroker
