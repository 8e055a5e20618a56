import CredentialBroker.Proofs.Effect

/-!
The form of requests. Main statement: whatever texts containers, platforms and defaults bring along,
every request that a get sends asks for a role, for one hour, under a name that the token service
takes, and with a policy only where there is one. Once a broker was started from settings, a default
role that is asked for is one that reading it accepts, as it stands.

The form is that of the parts which a request is made from. The default role is a matter of the run:
a start puts a role into service that was read, and no other step changes the default.
-/

namespace CredentialBroker

/-- A request in the form that the token service asks for. -/
structure AssumeRoleRequest.WellFormed (request : AssumeRoleRequest) : Prop where
  duration : request.durationSeconds = 3600
  role : request.role.text ≠ ""
  sessionName_length : 1 ≤ request.sessionName.length ∧ request.sessionName.length ≤ 32
  sessionName_chars : ∀ char ∈ request.sessionName.toList,
    ('A' ≤ char ∧ char ≤ 'Z') ∨ ('a' ≤ char ∧ char ≤ 'z') ∨ ('0' ≤ char ∧ char ≤ '9') ∨
      char ∈ ['_', '+', '=', ',', '.', '@', '-']
  policy : ∀ text, request.policy = some text → ∃ char ∈ text.toList, Text.isBlank char = false

theorem RoleArn.isEmpty_eq_false_iff {role : RoleArn} : role.isEmpty = false ↔ role.text ≠ "" := by
  simp [isEmpty]

theorem SessionName.one_le_length_ofContainer (platform containerId : String) :
    1 ≤ (ofContainer platform containerId).length := by
  rw [length_ofContainer, maxLength]
  omega

theorem SessionName.length_ofContainer_le (platform containerId : String) :
    (ofContainer platform containerId).length ≤ 32 := by
  rw [length_ofContainer]
  exact Nat.min_le_left _ _

/-- A request for a role that is not empty, made with policies that are not blank, is well formed. -/
theorem AssumeRoleRequest.wellFormed_build {role : RoleArn} (policy : Option Policy)
    (platform containerId : String) (hrole : role.isEmpty = false) :
    (build role (policy.map Policy.text)
      (SessionName.ofContainer platform containerId)).WellFormed where
  duration := rfl
  role := RoleArn.isEmpty_eq_false_iff.mp hrole
  sessionName_length := ⟨SessionName.one_le_length_ofContainer platform containerId,
    SessionName.length_ofContainer_le platform containerId⟩
  sessionName_chars char hmem :=
    SessionName.isAllowed_iff.mp (SessionName.isAllowed_of_mem_ofContainer hmem)
  policy text htext := by
    obtain ⟨hsome, -⟩ := Option.filter_eq_some_iff.mp htext
    obtain ⟨declared, -, rfl⟩ := Option.map_eq_some_iff.mp hsome
    exact declared.exists_not_blank

/-- Where the role of a request comes from: the container, or else the defaults. -/
theorem Broker.requestFor_eq_ok_iff {broker : Broker} {platform : String} {container : Container}
    {request : AssumeRoleRequest} :
    broker.requestFor platform container = .ok request ↔
      ∃ role policy, request = .build role (policy.map Policy.text)
          (SessionName.ofContainer platform container.id) ∧
        ((container.hasOwnRole = true ∧ role = container.role ∧ policy = container.policy) ∨
          (container.hasOwnRole = false ∧ broker.defaultRole.isEmpty = false ∧
            role = broker.defaultRole ∧ policy = container.policy.or broker.defaultPolicy)) := by
  simp only [← roleAndPolicy_eq_ok_iff, requestFor]
  cases broker.roleAndPolicy container with
  | error failure => simp [Except.map]
  | ok choice =>
      obtain ⟨role, policy⟩ := choice
      simp only [Except.map, Except.ok.injEq, Prod.mk.injEq]
      constructor
      · rintro rfl
        exact ⟨role, policy, rfl, rfl, rfl⟩
      · rintro ⟨_, _, rfl, rfl, rfl⟩
        rfl

/-- The default role is one that reading its text accepts. -/
def Broker.DefaultAccepted (broker : Broker) : Prop :=
  RoleArn.parse broker.defaultRole.text = .ok broker.defaultRole

namespace Deployment

/-- The broker in service was started in the course of the run. -/
def Rebuilt (deployment : Deployment) (steps : List Step) : Prop :=
  ∃ earlier step later, steps = earlier ++ step :: later ∧
    (deployment.runTo earlier).Restarts step

variable {deployment : Deployment} {step : Step} {steps : List Step} {address : Address}
  {request : AssumeRoleRequest}

/-- A start that succeeds puts a default role into service that was accepted. -/
theorem defaultAccepted_of_restarts (hrestarts : deployment.Restarts step) :
    (deployment.step step).after.broker.DefaultAccepted := by
  obtain ⟨environment, session, startup, rfl, hanswer⟩ := hrestarts
  change (deployment.build environment session).after.broker.DefaultAccepted
  rw [broker_build_of_ok hanswer]
  have hsettings := Settings.ofEnvironment_eq_ok_iff.mp (settings_of_build hanswer)
  exact RoleArn.parse_text_of_parse hsettings.2.1

theorem defaultAccepted_step (haccepted : deployment.broker.DefaultAccepted) (step : Step) :
    (deployment.step step).after.broker.DefaultAccepted := by
  by_cases hrestarts : deployment.Restarts step
  · exact defaultAccepted_of_restarts hrestarts
  · have hdefault := congrArg Broker.defaultRole ((deployment.stepCase step).emptied hrestarts)
    change (deployment.step step).after.broker.defaultRole = _ at hdefault
    rw [Broker.DefaultAccepted, hdefault]
    exact haccepted

theorem defaultAccepted_runTo (haccepted : deployment.broker.DefaultAccepted) (steps : List Step) :
    (deployment.runTo steps).broker.DefaultAccepted := by
  induction steps generalizing deployment with
  | nil => exact haccepted
  | cons step steps ih => exact ih (defaultAccepted_step haccepted step)

theorem Rebuilt.defaultAccepted (hrebuilt : deployment.Rebuilt steps) :
    (deployment.runTo steps).broker.DefaultAccepted := by
  obtain ⟨earlier, step, later, rfl, hrestarts⟩ := hrebuilt
  rw [runTo_append, runTo_cons]
  exact defaultAccepted_runTo (defaultAccepted_of_restarts hrestarts) later

/-- **Form of requests.** A request that a get sends is well formed, at every point of every run.
Where the broker in service was started in the course of the run, the request asks for the role that
the container declares, letter by letter, or else for a default role that reading it accepts. -/
theorem sent_requests_well_formed (deployment : Deployment) (steps : List Step) (address : Address)
    (request : AssumeRoleRequest)
    (hsent : request ∈ ((deployment.runTo steps).get address).requests) :
    request.WellFormed ∧
      (deployment.Rebuilt steps →
        ∃ container, (deployment.runTo steps).lookup address = .ok container ∧
          ((container.role.text ≠ "" ∧ request.role = container.role) ∨
            (container.role.text = "" ∧
              request.role = (deployment.runTo steps).broker.defaultRole ∧
              RoleArn.parse request.role.text = .ok request.role))) := by
  obtain ⟨container, hdue⟩ := mem_requests_get_iff.mp hsent
  obtain ⟨role, policy, rfl, hchoice⟩ := Broker.requestFor_eq_ok_iff.mp hdue.request_eq
  rcases hchoice with ⟨hown, rfl, -⟩ | ⟨hnone, hdefault, rfl, -⟩
  · have hrole : container.role.isEmpty = false := by
      simpa [Container.hasOwnRole] using hown
    refine ⟨AssumeRoleRequest.wellFormed_build policy _ _ hrole, fun _ => ?_⟩
    exact ⟨container, hdue.found, Or.inl ⟨RoleArn.isEmpty_eq_false_iff.mp hrole, rfl⟩⟩
  · have hrole : container.role.text = "" := by
      simpa [Container.hasOwnRole, RoleArn.isEmpty] using hnone
    refine ⟨AssumeRoleRequest.wellFormed_build policy _ _ hdefault, fun hrebuilt => ?_⟩
    exact ⟨container, hdue.found, Or.inr ⟨hrole, rfl, hrebuilt.defaultAccepted⟩⟩

/-- A broker with a default role takes over, and a container without a role comes. -/
def takenOver : List Step :=
  [.build Trial.environment none, .put "10.0.0.8" Trial.bare]

/-- What is asked for on behalf of that container. -/
def requestForBare : AssumeRoleRequest :=
  ⟨⟨"arn:aws:iam::1:role/shared"⟩, "docker-bare", none, 3600⟩

theorem sent_requests_well_formed_takenOver :
    requestForBare ∈ ((Trial.deployment.runTo takenOver).get "10.0.0.8").requests ∧
      Trial.deployment.Rebuilt takenOver ∧ requestForBare.WellFormed ∧
      ∃ container, (Trial.deployment.runTo takenOver).lookup "10.0.0.8" = .ok container ∧
        ((container.role.text ≠ "" ∧ requestForBare.role = container.role) ∨
          (container.role.text = "" ∧
            requestForBare.role = (Trial.deployment.runTo takenOver).broker.defaultRole ∧
            RoleArn.parse requestForBare.role.text = .ok requestForBare.role)) := by
  have hsent : requestForBare ∈ ((Trial.deployment.runTo takenOver).get "10.0.0.8").requests :=
    List.mem_singleton.mpr rfl
  have hrebuilt : Trial.deployment.Rebuilt takenOver :=
    ⟨[], _, _, rfl, Trial.environment, none, _, rfl, rfl⟩
  obtain ⟨hform, hrole⟩ :=
    sent_requests_well_formed Trial.deployment takenOver "10.0.0.8" requestForBare hsent
  exact ⟨hsent, hrebuilt, hform, hrole hrebuilt⟩

end Deployment

end CredentialBroker
