import CredentialBroker.Deployment.Run
import CredentialBroker.Proofs.Outcome
import CredentialBroker.Proofs.Startup

/-!
What is kept for an address in the course of a run. Main statements: only a get of the address that
issues and a start of another broker replace it, so any other run leaves it as it is, and what is
kept after a run either was kept before it or goes back to the get of the address that issued last.
-/

namespace CredentialBroker.Deployment

/-- What holds at each step of a run, of the step and of the deployment that it is taken on. -/
def Throughout (deployment : Deployment) (holds : Deployment → Step → Prop) (steps : List Step) :
    Prop :=
  ∀ earlier step later, steps = earlier ++ step :: later → holds (deployment.runTo earlier) step

/-- The step puts another broker into service. -/
def Restarts (deployment : Deployment) (step : Step) : Prop :=
  ∃ environment session startup, step = .build environment session ∧
    (deployment.build environment session).answer = .ok startup

/-- What is kept for the address gives way to something else: a get of the address sends a request
and succeeds, or another broker is put into service. -/
def Replaces (deployment : Deployment) (address : Address) (step : Step) : Prop :=
  (step = .get address ∧ (deployment.get address).requests ≠ [] ∧
      ∃ credentials, (deployment.get address).answer = .ok credentials) ∨
    deployment.Restarts step

/-- A deployment as it is before the first step, with nothing kept. -/
def Fresh (deployment : Deployment) : Prop :=
  ∃ mint directory clock threshold defaultRole defaultPolicy,
    deployment = .start mint directory clock threshold defaultRole defaultPolicy

variable {deployment : Deployment} {holds : Deployment → Step → Prop} {step : Step}
  {steps : List Step} {address : Address} {entry : CacheEntry}

theorem Fresh.get?_cache (hfresh : deployment.Fresh) (address : Address) :
    deployment.broker.cache.get? address = none := by
  obtain ⟨_, _, _, _, _, _, rfl⟩ := hfresh
  rfl

@[simp]
theorem throughout_nil : deployment.Throughout holds [] := by
  intro earlier step later hsplit
  simp at hsplit

@[simp]
theorem throughout_cons :
    deployment.Throughout holds (step :: steps) ↔
      holds deployment step ∧ (deployment.step step).after.Throughout holds steps := by
  constructor
  · intro hall
    refine ⟨hall [] step steps rfl, ?_⟩
    intro earlier next later hsplit
    exact hall (step :: earlier) next later (by rw [hsplit]; rfl)
  · rintro ⟨hfirst, hrest⟩ earlier next later hsplit
    cases earlier with
    | nil =>
        cases hsplit
        exact hfirst
    | cons first earlier =>
        cases hsplit
        exact hrest earlier next later rfl

theorem Throughout.imp {weaker : Deployment → Step → Prop}
    (hall : deployment.Throughout holds steps)
    (himp : ∀ current step, holds current step → weaker current step) :
    deployment.Throughout weaker steps :=
  fun earlier step later hsplit => himp _ step (hall earlier step later hsplit)

/-- A step that neither issues for the address nor starts another broker leaves what is kept for the
address as it is. -/
theorem get?_cache_step (hnot : ¬deployment.Replaces address step) :
    (deployment.step step).after.broker.cache.get? address =
      deployment.broker.cache.get? address := by
  cases step with
  | get other =>
      change (deployment.get other).after.broker.cache.get? address = _
      cases hanswer : (deployment.get other).answer with
      | error failure => rw [broker_get_of_error hanswer]
      | ok credentials =>
          by_cases hnone : (deployment.get other).requests = []
          · rw [after_get_of_requests_eq_nil hnone]
          · obtain ⟨container, request, hissued⟩ := exists_issued_of_answer hnone hanswer
            have hother : address ≠ other := by
              rintro rfl
              exact hnot (Or.inl ⟨rfl, hnone, credentials, hanswer⟩)
            rw [hissued.after_get.1]
            exact AddressBook.get?_put_of_ne _ hother _
  | assumeRole role policy sessionName =>
      change (deployment.send _).after.broker.cache.get? address = _
      rw [after_send]
      rfl
  | advance micros =>
      change (deployment.advance micros).after.broker.cache.get? address = _
      unfold advance
      split <;> rfl
  | build environment session =>
      change (deployment.build environment session).after.broker.cache.get? address = _
      cases hanswer : (deployment.build environment session).answer with
      | error failure => rw [broker_build_of_error hanswer]
      | ok startup => exact absurd (Or.inr ⟨environment, session, startup, rfl, hanswer⟩) hnot
  | addresses => rfl
  | platform => rfl
  | lookup other => rfl
  | put other container => rfl
  | remove other => rfl
  | setOutage message => rfl
  | setScript script => rfl

/-- What a step puts in the place of what was kept is what it issues. -/
theorem exists_issued_of_replaces (hreplaces : deployment.Replaces address step)
    (hentry : (deployment.step step).after.broker.cache.get? address = some entry) :
    step = .get address ∧ ∃ request, deployment.Issued address entry request := by
  rcases hreplaces with ⟨rfl, hsent, credentials, hanswer⟩ | ⟨_, _, startup, rfl, hanswer⟩
  · obtain ⟨container, request, hissued⟩ := exists_issued_of_answer hsent hanswer
    change (deployment.get address).after.broker.cache.get? address = _ at hentry
    rw [hissued.after_get.1] at hentry
    have hkept : some ⟨container, credentials⟩ = some entry :=
      (AddressBook.get?_put_self _ _ _).symm.trans hentry
    cases hkept
    exact ⟨rfl, request, hissued⟩
  · change (deployment.build _ _).after.broker.cache.get? address = _ at hentry
    rw [broker_build_of_ok hanswer] at hentry
    cases hentry

theorem get?_cache_runTo
    (hnever : deployment.Throughout (fun current step => ¬current.Replaces address step) steps) :
    (deployment.runTo steps).broker.cache.get? address = deployment.broker.cache.get? address := by
  induction steps generalizing deployment with
  | nil => rfl
  | cons step steps ih =>
      obtain ⟨hfirst, hrest⟩ := throughout_cons.mp hnever
      rw [runTo_cons, ih hrest, get?_cache_step hfirst]

/-- What is kept for the address was issued by a get of it in the course of the run, and nothing has
taken its place since. -/
structure Origin (deployment : Deployment) (steps : List Step) (address : Address)
    (entry : CacheEntry) (earlier : List Step) (later : List Step) (request : AssumeRoleRequest) :
    Prop where
  split : steps = earlier ++ .get address :: later
  issued : (deployment.runTo earlier).Issued address entry request
  latest : ((deployment.runTo earlier).get address).after.Throughout
    (fun current step => ¬current.Replaces address step) later

theorem kept_before_or_origin
    (hentry : (deployment.runTo steps).broker.cache.get? address = some entry) :
    (deployment.broker.cache.get? address = some entry ∧
        deployment.Throughout (fun current step => ¬current.Replaces address step) steps) ∨
      ∃ earlier later request, deployment.Origin steps address entry earlier later request := by
  induction steps generalizing deployment with
  | nil => exact Or.inl ⟨hentry, throughout_nil⟩
  | cons step steps ih =>
      rw [runTo_cons] at hentry
      -- what the later steps did not issue was there after this one
      rcases ih hentry with ⟨hkept, hnever⟩ | ⟨earlier, later, request, horigin⟩
      · by_cases hreplaces : deployment.Replaces address step
        · obtain ⟨rfl, request, hissued⟩ := exists_issued_of_replaces hreplaces hkept
          exact Or.inr ⟨[], steps, request, rfl, hissued, hnever⟩
        · rw [get?_cache_step hreplaces] at hkept
          exact Or.inl ⟨hkept, throughout_cons.mpr ⟨hreplaces, hnever⟩⟩
      · refine Or.inr ⟨step :: earlier, later, request, ?_, horigin.issued, horigin.latest⟩
        rw [horigin.split]
        rfl

end CredentialBroker.Deployment

/-! A small deployment, at which the statements on runs are tried out. -/

namespace CredentialBroker.Trial

open Time

/-- Noon of the first of March 2024. -/
def noon : WallTime :=
  ⟨63844891200000000, by decide⟩

/-- A container that declares a role. -/
def web : Container :=
  ⟨"web", ⟨"arn:aws:iam::1:role/web"⟩, none⟩

/-- A container that declares no role, at a place where there is no default role either. -/
def bare : Container :=
  ⟨"bare", ⟨""⟩, none⟩

def deployment : Deployment :=
  .start .standard (.ofList "docker" [("10.0.0.7", web)]) noon .info ⟨""⟩ none

theorem fresh_deployment : deployment.Fresh :=
  ⟨_, _, _, _, _, _, rfl⟩

/-- The credentials of the first issuing call, made at noon. -/
def credentials : Credentials :=
  ⟨"ASIA1", "secret-1", "token-1", .ofUtc ⟨63844894800000000, by decide⟩, .ofUtc noon, by decide⟩

/-- A default role between blanks, and a level for the log. -/
def environment : Environment :=
  ⟨[("USER_AGENT_EXTRA", "broker/1"), ("DEFAULT_IAM_ROLE", " arn:aws:iam::1:role/shared\n"),
    ("LOG_LEVEL", "debug")]⟩

end CredentialBroker.Trial
