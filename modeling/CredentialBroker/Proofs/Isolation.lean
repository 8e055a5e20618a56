import CredentialBroker.Proofs.Kept

/-!
What a failure leaves behind. Main statements: a get or a request that fails leaves the broker and
the directory as they were, wherever it fails, and passes on the wording of what it met; and
credentials that are kept survive any run of steps that issue nothing, to be handed out again as
long as they may.
-/

namespace CredentialBroker

open Time

theorem Report.answer_map_eq_error_iff {α β : Type} {report : Report α} {f : α → β}
    {failure : Failure} :
    (report.map f).answer = .error failure ↔ report.answer = .error failure := by
  cases hanswer : report.answer <;> simp [Report.map, hanswer, Except.map]

/-- The step is one of the two that may send a request. -/
inductive Step.MayRequest : Step → Prop where
  | get (address : Address) : MayRequest (.get address)
  | assumeRole (role : RoleArn) (policy : Option String) (sessionName : String) :
      MayRequest (.assumeRole role policy sessionName)

namespace Deployment

/-- What makes a get of the address fail before it has sent a request. -/
inductive FailsEarly (deployment : Deployment) (address : Address) : Failure → Prop where
  | lookup {error : DirectoryError}
      (hlookup : deployment.directory.lookup address = .error error) :
      FailsEarly deployment address (.directory error)
  | overflow {container : Container} {entry : CacheEntry}
      (hlookup : deployment.lookup address = .ok container)
      (hentry : deployment.broker.cache.get? address = some entry)
      (hmatches : entry.Matches container)
      (houtside : (calendarMicros : Int) ≤ deployment.clock.micros + safetyMargin) :
      FailsEarly deployment address (.overflow ⟨safetyMargin⟩)
  | noRole {container : Container} (hlookup : deployment.lookup address = .ok container)
      (hnoRole : container.hasOwnRole = false ∧ deployment.broker.defaultRole.isEmpty = true) :
      FailsEarly deployment address (.noRole container.id)

/-- What makes a request fail once it is sent: the token service, or the response it gave. -/
inductive FailsInCall (deployment : Deployment) : Failure → Prop where
  | refused {refusal : Refusal} (hreply : deployment.call.reply = .error (.refused refusal)) :
      FailsInCall deployment (.refused refusal)
  | overflow {overflow : CalendarOverflow}
      (hreply : deployment.call.reply = .error (.overflow overflow)) :
      FailsInCall deployment (.overflow overflow)
  | unread {response : TokenResponse} {error : ResponseError}
      (hreply : deployment.call.reply = .ok response)
      (hread : response.toCredentials deployment.call.clock = .error error) :
      FailsInCall deployment (.response error)

/-- The later deployment is the earlier one but for the clock and the count of issuing calls. -/
def MovesCallOnly (earlier later : Deployment) : Prop :=
  later =
    { earlier with
      clock := later.clock
      service := { earlier.service with issued := later.service.issued } }

/-- A step that keeps nothing new: its gets and its starts fail. -/
def Withholds (deployment : Deployment) : Step → Prop
  | .get address => ∃ failure, (deployment.get address).answer = .error failure
  | .build environment session =>
    ∃ failure, (deployment.build environment session).answer = .error failure
  | _ => True

variable {deployment : Deployment} {address : Address} {request : AssumeRoleRequest}
  {failure : Failure} {steps : List Step}

theorem failsInCall_of_refused {error : CallError}
    (hreply : deployment.call.reply = .error error) : deployment.FailsInCall error.failure := by
  cases error with
  | refused refusal => exact .refused hreply
  | overflow overflow => exact .overflow hreply

theorem failsInCall_of_send (hanswer : (deployment.send request).answer = .error failure) :
    deployment.FailsInCall failure := by
  cases deployment.sendCase request with
  | refused error hreply hreport =>
      rw [hreport] at hanswer
      cases hanswer
      exact failsInCall_of_refused hreply
  | rejected response error hreply hread hreport =>
      rw [hreport] at hanswer
      cases hanswer
      exact .unread hreply hread
  | accepted response credentials hreply hread hreport =>
      rw [hreport] at hanswer
      cases hanswer

theorem failsEarly_of_get (hnone : (deployment.get address).requests = [])
    (hanswer : (deployment.get address).answer = .error failure) :
    deployment.FailsEarly address failure := by
  have hnotDue := requests_get_eq_nil_iff.mp hnone
  cases (deployment.idleCase_or_requestDue address).resolve_right hnotDue with
  | lookupFailed error hlookup hreport =>
      rw [hreport] at hanswer
      cases hanswer
      exact .lookup hlookup
  | overflowed container overflow hlookup hreusable hreport =>
      rw [hreport] at hanswer
      cases hanswer
      obtain ⟨entry, hentry, hmatches, rfl, houtside⟩ := Broker.reusable?_eq_error_iff.mp hreusable
      exact .overflow hlookup hentry hmatches houtside
  | noRole container hlookup hreusable hnoRole hreport =>
      rw [hreport] at hanswer
      cases hanswer
      exact .noRole hlookup hnoRole
  | reused container credentials hlookup hreusable hreport =>
      rw [hreport] at hanswer
      cases hanswer

/-- Where a step that may send a request fails, and what it leaves. -/
theorem failed_step_cases {step : Step} (hrequest : step.MayRequest)
    (hanswer : (deployment.step step).answer = .error failure) :
    ((deployment.step step).requests = [] ∧ (deployment.step step).after = deployment ∧
        ∃ address, step = .get address ∧ deployment.FailsEarly address failure) ∨
      ((∃ request, (deployment.step step).requests = [request]) ∧
        deployment.MovesCallOnly (deployment.step step).after ∧
        deployment.FailsInCall failure) := by
  cases hrequest with
  | get address =>
      have hget : (deployment.get address).answer = .error failure :=
        Report.answer_map_eq_error_iff.mp hanswer
      by_cases hnone : (deployment.get address).requests = []
      · exact Or.inl ⟨hnone, after_get_of_requests_eq_nil hnone, address, rfl,
          failsEarly_of_get hnone hget⟩
      · rcases deployment.idleCase_or_requestDue address with hidle | ⟨container, request, hdue⟩
        · exact absurd hidle.requests_and_after.1 hnone
        · have hsend : deployment.get address = deployment.send request :=
            get_eq_send_of_error hdue hget
          refine Or.inr ⟨⟨request, requests_get_of_requestDue hdue⟩, ?_, ?_⟩
          · change deployment.MovesCallOnly (deployment.get address).after
            rw [hsend, after_send]
            exact deployment.afterCall_eq
          · rw [hsend] at hget
            exact failsInCall_of_send hget
  | assumeRole role policy sessionName =>
      have hsend : (deployment.send (.build role policy sessionName)).answer = .error failure :=
        Report.answer_map_eq_error_iff.mp hanswer
      refine Or.inr ⟨⟨_, deployment.requests_send _⟩, ?_, failsInCall_of_send hsend⟩
      change deployment.MovesCallOnly (deployment.send _).after
      rw [after_send]
      exact deployment.afterCall_eq

/-- When the token service refuses a request, the step that sent it answers the refusal. -/
theorem answer_step_of_refused {step : Step} {error : CallError} (hrequest : step.MayRequest)
    (hsent : (deployment.step step).requests ≠ [])
    (hreply : deployment.call.reply = .error error) :
    (deployment.step step).answer = .error error.failure := by
  have hsend : ∀ request, (deployment.send request).answer = .error error.failure := by
    intro request
    rw [call] at hreply
    simp only [send, hreply]
  cases hrequest with
  | get address =>
      rcases deployment.idleCase_or_requestDue address with hidle | ⟨container, request, hdue⟩
      · exact absurd hidle.requests_and_after.1 hsent
      · refine Report.answer_map_eq_error_iff.mpr ?_
        rw [get_of_requestDue hdue]
        simp only [issue, hsend request]
  | assumeRole role policy sessionName => exact Report.answer_map_eq_error_iff.mpr (hsend _)

theorem not_replaces_of_withholds {step : Step} (hwithholds : deployment.Withholds step)
    (address : Address) : ¬deployment.Replaces address step := by
  rintro (⟨rfl, -, credentials, hanswer⟩ | ⟨_, _, startup, rfl, hanswer⟩)
  · obtain ⟨failure, hfailed⟩ := hwithholds
    rw [hanswer] at hfailed
    cases hfailed
  · obtain ⟨failure, hfailed⟩ := hwithholds
    rw [hanswer] at hfailed
    cases hfailed

theorem get?_cache_runTo_of_withholds (hwithholds : deployment.Throughout Withholds steps)
    (address : Address) :
    (deployment.runTo steps).broker.cache.get? address = deployment.broker.cache.get? address :=
  get?_cache_runTo (hwithholds.imp fun _ _ hstep => not_replaces_of_withholds hstep address)

/-- **Failure isolation.** A get or a request that fails leaves broker and directory as they were.
It fails before a request is sent, and then nothing at all has changed, or in the exchange, and then
only the clock and the count of issuing calls may have. What the directory or the token service says
is passed on as it is. And what is kept for an address outlives all steps that keep nothing new: it
is handed out again as soon as a container of the same id and the same role is back and while the
margin is left. -/
theorem failures_leave_kept_credentials (deployment : Deployment) :
    (∀ step failure, step.MayRequest → (deployment.step step).answer = .error failure →
        (deployment.step step).after.broker = deployment.broker ∧
        (deployment.step step).after.directory = deployment.directory ∧
        (((deployment.step step).requests = [] ∧ (deployment.step step).after = deployment ∧
            ∃ address, step = .get address ∧ deployment.FailsEarly address failure) ∨
          ((∃ request, (deployment.step step).requests = [request]) ∧
            deployment.MovesCallOnly (deployment.step step).after ∧
            deployment.FailsInCall failure))) ∧
      (∀ address error, deployment.directory.lookup address = .error error →
        (deployment.step (.get address)).answer = .error (.directory error) ∧
        (Failure.directory error).message = error.message) ∧
      (∀ step error, step.MayRequest → (deployment.step step).requests ≠ [] →
        deployment.call.reply = .error error →
        (deployment.step step).answer = .error error.failure ∧
        error.failure.message =
          match error with
          | .refused refusal => refusal.message
          | .overflow overflow => overflow.message) ∧
      ∀ steps address entry container, deployment.broker.cache.get? address = some entry →
        deployment.Throughout Withholds steps →
        (deployment.runTo steps).lookup address = .ok container →
        entry.container.id = container.id → entry.container.role = container.role →
        ((deployment.runTo steps).clock.micros : Int) + safetyMargin < calendarMicros →
        ((deployment.runTo steps).clock.micros : Int) + safetyMargin ≤
          entry.credentials.expiration.instant →
        (deployment.runTo steps).get address =
          ⟨.ok entry.credentials, [], [.reused address container.id], deployment.runTo steps⟩ := by
  refine ⟨?_, ?_, ?_, ?_⟩
  · intro step failure hrequest hanswer
    have hcases := failed_step_cases hrequest hanswer
    refine ⟨?_, ?_, hcases⟩
    · rcases hcases with ⟨-, hafter, -⟩ | ⟨-, hafter, -⟩ <;> rw [hafter]
    · rcases hcases with ⟨-, hafter, -⟩ | ⟨-, hafter, -⟩ <;> rw [hafter]
  · intro address error hlookup
    refine ⟨Report.answer_map_eq_error_iff.mpr ?_, rfl⟩
    rw [get_of_lookup_error hlookup]
    rfl
  · intro step error hrequest hsent hreply
    refine ⟨answer_step_of_refused hrequest hsent hreply, ?_⟩
    cases error <;> rfl
  · intro steps address entry container hentry hwithholds hlookup hid hrole hinside hlasts
    rw [← get?_cache_runTo_of_withholds hwithholds address] at hentry
    exact get_of_entry hlookup hentry ⟨hrole, hid⟩ hinside hlasts

/-- A container without a role, an outage, a refusal for a container of another role, a response
without an expiration, and then the first container again. -/
def mishaps : List Step :=
  [.put "10.0.0.7" Trial.bare, .get "10.0.0.7", .setOutage (some "down"), .get "10.0.0.7",
    .setOutage none, .setScript ⟨60000000, .refuse (.client "AccessDenied" "no")⟩,
    .put "10.0.0.7" ⟨"web", ⟨"arn:aws:iam::1:role/other"⟩, none⟩, .get "10.0.0.7",
    .setScript ⟨0, .issue (.after 3600000000) [.expiration]⟩, .get "10.0.0.7",
    .put "10.0.0.7" Trial.web]

theorem failures_leave_kept_credentials_mishaps :
    (Trial.deployment.runTo [.get "10.0.0.7"]).Throughout Withholds mishaps ∧
      ((Trial.deployment.runTo [.get "10.0.0.7"]).runTo mishaps).get "10.0.0.7" =
        ⟨.ok Trial.credentials, [], [.reused "10.0.0.7" "web"],
          (Trial.deployment.runTo [.get "10.0.0.7"]).runTo mishaps⟩ := by
  have hwithholds : (Trial.deployment.runTo [.get "10.0.0.7"]).Throughout Withholds mishaps := by
    simp only [mishaps, throughout_cons, throughout_nil]
    exact ⟨trivial, ⟨_, rfl⟩, trivial, ⟨_, rfl⟩, trivial, trivial, trivial, ⟨_, rfl⟩, trivial,
      ⟨_, rfl⟩, trivial, trivial⟩
  refine ⟨hwithholds, ?_⟩
  exact (failures_leave_kept_credentials (Trial.deployment.runTo [.get "10.0.0.7"])).2.2.2 mishaps
    "10.0.0.7" ⟨Trial.web, Trial.credentials⟩ Trial.web rfl hwithholds rfl rfl rfl
    (by decide) (by decide)

end Deployment

end CredentialBroker
