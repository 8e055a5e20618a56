import CredentialBroker.Proofs.Kept

/-!
What a step can do to a deployment, said once for all kinds of steps. Main statements: no step
changes the name of the platform or the texts that go with a number, only a start of another broker
changes the defaults, and the count of issuing calls never goes down.
-/

namespace CredentialBroker

/-- The same defaults, with nothing kept. -/
def Broker.emptied (broker : Broker) : Broker :=
  .start broker.defaultRole broker.defaultPolicy

@[simp]
theorem Broker.requestFor_emptied (broker : Broker) (platform : String) (container : Container) :
    broker.emptied.requestFor platform container = broker.requestFor platform container := rfl

namespace Deployment

/-- All that a step can leave behind. -/
inductive StepCase (deployment : Deployment) (step : Step) : Deployment → Prop where
  | idle : StepCase deployment step deployment
  | called : StepCase deployment step deployment.afterCall
  | issued {address : Address} {entry : CacheEntry} {request : AssumeRoleRequest}
      (hstep : step = .get address) (hissued : deployment.Issued address entry request) :
      StepCase deployment step (deployment.afterIssue address entry)
  | redirected (directory : Directory)
      (hplatform : directory.platform = deployment.directory.platform) :
      StepCase deployment step { deployment with directory }
  | moved (clock : Time.WallTime) : StepCase deployment step { deployment with clock }
  | scripted (script : Script) (hstep : step = .setScript script) :
      StepCase deployment step { deployment with service := { deployment.service with script } }
  | levelled (threshold : LogLevel) : StepCase deployment step { deployment with threshold }
  | restarted (settings : Settings) (threshold : LogLevel) (hrestarts : deployment.Restarts step) :
      StepCase deployment step { deployment with threshold, broker := .ofSettings settings }

variable {deployment after : Deployment} {step : Step} {steps : List Step}

/-- All that a get can leave behind. -/
theorem after_get_cases (deployment : Deployment) (address : Address) :
    (deployment.get address).after = deployment ∨
      (deployment.get address).after = deployment.afterCall ∨
      ∃ entry request, deployment.Issued address entry request ∧
        (deployment.get address).after = deployment.afterIssue address entry := by
  by_cases hnone : (deployment.get address).requests = []
  · exact Or.inl (after_get_of_requests_eq_nil hnone)
  · cases hanswer : (deployment.get address).answer with
    | error failure =>
        rcases deployment.idleCase_or_requestDue address with hidle | ⟨container, request, hdue⟩
        · exact absurd hidle.requests_and_after.1 hnone
        · rw [get_eq_send_of_error hdue hanswer, after_send]
          exact Or.inr (Or.inl rfl)
    | ok credentials =>
        obtain ⟨container, request, hissued⟩ := exists_issued_of_answer hnone hanswer
        exact Or.inr (Or.inr ⟨_, request, hissued, hissued.after_get.1⟩)

theorem stepCase_build (deployment : Deployment) (environment : Environment)
    (session : Option RegionSession) :
    deployment.StepCase (.build environment session)
      (deployment.build environment session).after := by
  cases deployment.buildCase environment session with
  | badSettings error hsettings hreport =>
      rw [hreport]
      exact .idle
  | badLevel settings error hsettings hthreshold hreport =>
      rw [hreport]
      exact .idle
  | unconnected settings threshold error hsettings hthreshold houtcome hreport =>
      rw [hreport]
      exact .levelled threshold
  | started settings threshold hsettings hthreshold houtcome hreport =>
      have hrestarts : deployment.Restarts (.build environment session) :=
        ⟨environment, session, _, rfl, by rw [hreport]⟩
      rw [hreport]
      exact .restarted settings threshold hrestarts

theorem stepCase (deployment : Deployment) (step : Step) :
    deployment.StepCase step (deployment.step step).after := by
  cases step with
  | get address =>
      change deployment.StepCase _ (deployment.get address).after
      rcases deployment.after_get_cases address with
        hafter | hafter | ⟨entry, request, hissued, hafter⟩
      · rw [hafter]
        exact .idle
      · rw [hafter]
        exact .called
      · rw [hafter]
        exact .issued rfl hissued
  | assumeRole role policy sessionName =>
      change deployment.StepCase _ (deployment.send _).after
      rw [after_send]
      exact .called
  | advance micros =>
      change deployment.StepCase _ (deployment.advance micros).after
      unfold advance
      split
      · exact .idle
      · exact .moved _
  | build environment session => exact deployment.stepCase_build environment session
  | put address container => exact .redirected _ rfl
  | remove address => exact .redirected _ rfl
  | setOutage message => exact .redirected _ rfl
  | setScript script => exact .scripted script rfl
  | addresses => exact .idle
  | platform => exact .idle
  | lookup address => exact .idle

/-- What every step of a run leaves as it is, the run leaves as it is. -/
theorem view_runTo {α : Type} (view : Deployment → α)
    (hkept : deployment.Throughout
      (fun current step => view (current.step step).after = view current) steps) :
    view (deployment.runTo steps) = view deployment := by
  induction steps generalizing deployment with
  | nil => rfl
  | cons step steps ih =>
      obtain ⟨hfirst, hrest⟩ := throughout_cons.mp hkept
      rw [runTo_cons, ih hrest, hfirst]

theorem StepCase.platform (hcase : deployment.StepCase step after) :
    after.directory.platform = deployment.directory.platform := by
  cases hcase with
  | redirected directory hplatform => exact hplatform
  | _ => rfl

theorem platform_runTo (deployment : Deployment) (steps : List Step) :
    (deployment.runTo steps).directory.platform = deployment.directory.platform :=
  view_runTo (fun current => current.directory.platform) fun _ step _ _ => (stepCase _ step).platform

@[simp]
theorem mint_afterCall (deployment : Deployment) :
    deployment.afterCall.service.mint = deployment.service.mint :=
  deployment.service.call_mint deployment.clock

theorem StepCase.mint (hcase : deployment.StepCase step after) :
    after.service.mint = deployment.service.mint := by
  cases hcase with
  | called => exact deployment.mint_afterCall
  | issued hstep hissued => exact deployment.mint_afterCall
  | _ => rfl

theorem mint_runTo (deployment : Deployment) (steps : List Step) :
    (deployment.runTo steps).service.mint = deployment.service.mint :=
  view_runTo (fun current => current.service.mint) fun _ step _ _ => (stepCase _ step).mint

theorem StepCase.emptied (hcase : deployment.StepCase step after)
    (hnot : ¬deployment.Restarts step) : after.broker.emptied = deployment.broker.emptied := by
  cases hcase with
  | restarted settings threshold hrestarts => exact absurd hrestarts hnot
  | _ => rfl

/-- The defaults are those of the broker in service, whatever it has kept since. -/
theorem emptied_runTo
    (hnever : deployment.Throughout (fun current step => ¬current.Restarts step) steps) :
    (deployment.runTo steps).broker.emptied = deployment.broker.emptied :=
  view_runTo (fun current => current.broker.emptied) (hnever.imp fun _ _ => (stepCase _ _).emptied)

theorem issued_le_afterCall (deployment : Deployment) :
    deployment.service.issued ≤ deployment.afterCall.service.issued := by
  change _ ≤ (deployment.service.call deployment.clock).service.issued
  rcases deployment.service.issued_call deployment.clock with hsame | hnext <;> omega

theorem StepCase.issued_le (hcase : deployment.StepCase step after) :
    deployment.service.issued ≤ after.service.issued := by
  cases hcase with
  | called => exact deployment.issued_le_afterCall
  | issued hstep hissued => exact deployment.issued_le_afterCall
  | _ => exact Nat.le_refl _

theorem issued_le_runTo (deployment : Deployment) (steps : List Step) :
    deployment.service.issued ≤ (deployment.runTo steps).service.issued := by
  induction steps generalizing deployment with
  | nil => exact Nat.le_refl _
  | cons step steps ih => exact Nat.le_trans (deployment.stepCase step).issued_le (ih _)

end Deployment

end CredentialBroker
