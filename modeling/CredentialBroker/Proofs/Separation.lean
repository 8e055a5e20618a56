import CredentialBroker.Proofs.Serial
import CredentialBroker.Proofs.View
import Mathlib.Data.List.Forall2

/-!
Addresses do not show to each other. Main statement: as long as the token service takes no time,
leaving steps on other addresses out of a run, or direct requests or listings, changes nothing that
the gets of an address report, except the numbers in the texts of credentials.

The runs are compared by the views of the address. A step that is left out does not change the view,
a step that both runs take keeps the views the same, and a get of the address reports what the view
decides.
-/

namespace CredentialBroker

/-- The second list is the first one without some of the steps that do not concern the address. -/
inductive Thinned (address : Address) : List Step → List Step → Prop where
  | nil : Thinned address [] []
  | keep (step : Step) {steps thinned : List Step} (hrest : Thinned address steps thinned) :
      Thinned address (step :: steps) (step :: thinned)
  | leaveOut {step : Step} (hforeign : step.Foreign address) {steps thinned : List Step}
      (hrest : Thinned address steps thinned) : Thinned address (step :: steps) thinned

def Step.isGetOf (address : Address) : Step → Bool
  | .get other => other == address
  | _ => false

namespace Deployment

/-- The reports of the gets of the address in the course of a run, in turn. -/
def getReports (deployment : Deployment) (address : Address) : List Step → List (Report Credentials)
  | [] => []
  | step :: steps =>
    let later := (deployment.step step).after.getReports address steps
    if step.isGetOf address then deployment.get address :: later else later

/-- The reports differ at most in the number that the texts of the credentials go with. -/
structure SameButNumber (address : Address) (mint : Mint) (left right : Report Credentials) :
    Prop where
  answer : left.answer.map Credentials.withoutTexts = right.answer.map Credentials.withoutTexts
  requests : left.requests = right.requests
  logged : left.logged = right.logged
  cached : address ∈ left.after.broker.cachedAddresses ↔
    address ∈ right.after.broker.cachedAddresses
  left_bears : ∀ credentials, left.answer = .ok credentials →
    ∃ number, credentials.Bears mint number
  right_bears : ∀ credentials, right.answer = .ok credentials →
    ∃ number, credentials.Bears mint number

variable {deployment left right : Deployment} {address : Address} {step : Step}
  {steps thinned : List Step} {report : Report Credentials}

theorem not_isGetOf_of_foreign (hforeign : step.Foreign address) :
    step.isGetOf address = false := by
  cases hforeign with
  | get hne => exact beq_eq_false_iff_ne.mpr hne
  | _ => rfl

theorem exists_prefix_of_mem_getReports (hreport : report ∈ deployment.getReports address steps) :
    ∃ earlier, earlier ++ [.get address] <+: steps ∧
      report = (deployment.runTo earlier).get address := by
  induction steps generalizing deployment with
  | nil => cases hreport
  | cons step steps ih =>
      have hlater (hmem : report ∈ (deployment.step step).after.getReports address steps) :
          ∃ earlier, earlier ++ [.get address] <+: step :: steps ∧
            report = (deployment.runTo earlier).get address := by
        obtain ⟨earlier, hextends, hget⟩ := ih hmem
        exact ⟨step :: earlier, List.cons_prefix_cons.mpr ⟨rfl, hextends⟩, hget⟩
      rw [getReports] at hreport
      split at hreport
      · rename_i hisGet
        rcases List.mem_cons.mp hreport with hfirst | hmem
        · refine ⟨[], ?_, hfirst⟩
          cases step with
          | get other =>
              rw [eq_of_beq hisGet]
              exact ⟨steps, rfl⟩
          | _ => cases hisGet
        · exact hlater hmem
      · exact hlater hreport

theorem Fresh.exists_bears_of_mem_getReports (hfresh : deployment.Fresh)
    (hreport : report ∈ deployment.getReports address steps) {credentials : Credentials}
    (hanswer : report.answer = .ok credentials) :
    ∃ number, credentials.Bears deployment.service.mint number := by
  obtain ⟨earlier, hextends, rfl⟩ := exists_prefix_of_mem_getReports hreport
  have hserved : deployment.Served steps earlier address credentials := ⟨hextends, hanswer⟩
  obtain ⟨entry, _, _, _, rfl, horigin⟩ := hserved.exists_origin hfresh
  exact ⟨_, horigin.bears⟩

theorem delay_step_eq_zero (hdelay : deployment.service.script.delay = 0)
    (hstep : ∀ script, step = .setScript script → script.delay = 0) :
    (deployment.step step).after.service.script.delay = 0 := by
  have hcase := deployment.stepCase step
  generalize (deployment.step step).after = after at hcase ⊢
  have hcall : deployment.afterCall.service.script.delay = 0 := by
    rw [afterCall, call, TokenService.call_script]
    exact hdelay
  cases hcase with
  | called => exact hcall
  | issued hget hissued => exact hcall
  | scripted script hscript => exact hstep script hscript
  | _ => exact hdelay

theorem alike_getReports (hthinned : Thinned address steps thinned)
    (hview : left.viewAt address = right.viewAt address)
    (hdelay : left.service.script.delay = 0)
    (hscripts : ∀ script, Step.setScript script ∈ steps → script.delay = 0) :
    List.Forall₂ (AlikeAt address) (left.getReports address steps)
      (right.getReports address thinned) := by
  induction hthinned generalizing left right with
  | nil => exact .nil
  | @keep step steps thinned hrest ih =>
      have hlater := ih (viewAt_step_congr hview hdelay step)
        (delay_step_eq_zero hdelay fun script hstep => hscripts script (hstep ▸ List.mem_cons_self))
        fun script hmem => hscripts script (List.mem_cons_of_mem _ hmem)
      rw [getReports, getReports]
      split
      · exact .cons (get_alike hview) hlater
      · exact hlater
  | @leaveOut step hforeign steps thinned hrest ih =>
      have hlater := ih ((viewAt_step_of_foreign hforeign hdelay).trans hview)
        (delay_step_eq_zero hdelay fun script hstep => hscripts script (hstep ▸ List.mem_cons_self))
        fun script hmem => hscripts script (List.mem_cons_of_mem _ hmem)
      rw [getReports, not_isGetOf_of_foreign hforeign]
      exact hlater

theorem AlikeAt.logged_eq {left right : Report Credentials} (halike : AlikeAt address left right) :
    left.logged = right.logged := by
  have hthreshold : left.after.threshold = right.after.threshold :=
    congrArg AddressView.threshold halike.view
  rw [Report.logged, Report.logged, halike.events, hthreshold]

theorem AlikeAt.mem_cachedAddresses_iff {left right : Report Credentials}
    (halike : AlikeAt address left right) :
    address ∈ left.after.broker.cachedAddresses ↔
      address ∈ right.after.broker.cachedAddresses := by
  have hentry := congrArg (fun view => view.entry.isSome) halike.view
  simp only [viewAt, Option.isSome_map] at hentry
  rw [Broker.cachedAddresses, Broker.cachedAddresses, AddressBook.mem_addresses_iff,
    AddressBook.mem_addresses_iff, hentry]

/-- **Separation.** Without delays, whatever is left out of a run of the steps that do not concern an
address, each get of the address that both runs take reports the same, up to the number that the
texts of credentials go with. -/
theorem gets_unaffected_by_other_addresses (hfresh : deployment.Fresh) (address : Address)
    (steps thinned : List Step) (hthinned : Thinned address steps thinned)
    (hscripts : ∀ script, Step.setScript script ∈ steps → script.delay = 0) :
    List.Forall₂ (SameButNumber address deployment.service.mint)
      (deployment.getReports address steps) (deployment.getReports address thinned) := by
  have hdelay : deployment.service.script.delay = 0 := by
    obtain ⟨_, _, _, _, _, _, rfl⟩ := hfresh
    rfl
  have halike : List.Forall₂ (AlikeAt address) (deployment.getReports address steps)
      (deployment.getReports address thinned) := alike_getReports hthinned rfl hdelay hscripts
  obtain ⟨hlength, hpairs⟩ := List.forall₂_iff_zip.mp halike
  refine List.forall₂_iff_zip.mpr ⟨hlength, fun {one other} hmem => ?_⟩
  obtain ⟨hone, hother⟩ := List.of_mem_zip hmem
  have hsame := hpairs hmem
  exact ⟨hsame.answer, hsame.requests, hsame.logged_eq, hsame.mem_cachedAddresses_iff,
    fun _ hanswer => hfresh.exists_bears_of_mem_getReports hone hanswer,
    fun _ hanswer => hfresh.exists_bears_of_mem_getReports hother hanswer⟩

/-- A second container comes and is served, and a role is assumed directly. -/
def neighbours : List Step :=
  [.put "10.0.0.8" Trial.bare, .get "10.0.0.8", .put "10.0.0.8" Trial.web, .get "10.0.0.8",
    .assumeRole ⟨"arn:aws:iam::1:role/web"⟩ none "direct", .get "10.0.0.7", .addresses,
    .remove "10.0.0.8", .advance 60000000, .get "10.0.0.7"]

def alone : List Step :=
  [.get "10.0.0.7", .advance 60000000, .get "10.0.0.7"]

/-- Beside its neighbours the address is given the third number, and alone the first. -/
theorem gets_unaffected_by_other_addresses_neighbours :
    Trial.deployment.Fresh ∧ Thinned "10.0.0.7" neighbours alone ∧
      (∀ script, Step.setScript script ∈ neighbours → script.delay = 0) ∧
      List.Forall₂ (SameButNumber "10.0.0.7" Trial.deployment.service.mint)
        (Trial.deployment.getReports "10.0.0.7" neighbours)
        (Trial.deployment.getReports "10.0.0.7" alone) ∧
      (Trial.deployment.getReports "10.0.0.7" neighbours).map
          (fun report => report.answer.toOption.map Credentials.accessKey) =
        [some "ASIA3", some "ASIA3"] ∧
      (Trial.deployment.getReports "10.0.0.7" alone).map
          (fun report => report.answer.toOption.map Credentials.accessKey) =
        [some "ASIA1", some "ASIA1"] := by
  have hne : "10.0.0.8" ≠ "10.0.0.7" := by decide
  have hthinned : Thinned "10.0.0.7" neighbours alone :=
    .leaveOut (.put hne _) <| .leaveOut (.get hne) <| .leaveOut (.put hne _) <|
      .leaveOut (.get hne) <| .leaveOut (.assumeRole _ _ _) <| .keep _ <| .leaveOut .addresses <|
      .leaveOut (.remove hne) <| .keep _ <| .keep _ .nil
  have hscripts : ∀ script, Step.setScript script ∈ neighbours → script.delay = 0 := by
    simp [neighbours]
  exact ⟨Trial.fresh_deployment, hthinned, hscripts,
    gets_unaffected_by_other_addresses Trial.fresh_deployment "10.0.0.7" neighbours alone hthinned
      hscripts, rfl, rfl⟩

end Deployment

end CredentialBroker
