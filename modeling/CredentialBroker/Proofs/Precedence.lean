import CredentialBroker.Proofs.Demand
import CredentialBroker.Proofs.RequestForm

/-!
Whose role and whose policy a request has. Main statement: for a container that nothing kept will do
for, the request has the role of the container with its policy, if any, or else the default role
with the policy of the container before the default one; without any role there is no request.

The statement is about texts as containers and defaults bring them. Inside a broker a policy is
never blank, so a blank text is dropped where it comes in, and any other goes out unchanged. Whether
the default policy came in with the broker itself or with settings makes no difference.
-/

namespace CredentialBroker

/-- There is no policy text, or one of blanks only. -/
def BlankPolicy (text : Option String) : Prop :=
  ∀ found, text = some found → ∀ char ∈ found.toList, Text.isBlank char = true

/-- The role and the policy that are asked for, in the order of precedence. A default policy never
goes with the role of a container. -/
inductive AskedFor (role : String) (policy : Option String) (defaultRole : String)
    (defaultPolicy : Option String) : String → Option String → Prop where
  | ownBoth (hrole : role ≠ "") (hpolicy : ¬BlankPolicy policy) :
      AskedFor role policy defaultRole defaultPolicy role policy
  | ownRole (hrole : role ≠ "") (hpolicy : BlankPolicy policy) :
      AskedFor role policy defaultRole defaultPolicy role none
  | ownPolicy (hrole : role = "") (hdefault : defaultRole ≠ "") (hpolicy : ¬BlankPolicy policy) :
      AskedFor role policy defaultRole defaultPolicy defaultRole policy
  | defaultBoth (hrole : role = "") (hdefault : defaultRole ≠ "") (hpolicy : BlankPolicy policy)
      (hdefaultPolicy : ¬BlankPolicy defaultPolicy) :
      AskedFor role policy defaultRole defaultPolicy defaultRole defaultPolicy
  | defaultRole (hrole : role = "") (hdefault : defaultRole ≠ "") (hpolicy : BlankPolicy policy)
      (hdefaultPolicy : BlankPolicy defaultPolicy) :
      AskedFor role policy defaultRole defaultPolicy defaultRole none

/-- The defaults of the broker in service: they were given to it, or read from settings when it was
started, and no other broker was started since. -/
inductive Deployment.Provisioned (defaultRole : String) (defaultPolicy : Option String) :
    Deployment → Prop where
  | given (mint : Mint) (directory : Directory) (clock : Time.WallTime) (threshold : LogLevel) :
      Provisioned defaultRole defaultPolicy
        (.start mint directory clock threshold ⟨defaultRole⟩ defaultPolicy)
  | read {deployment : Deployment} {environment : Environment} {session : Option RegionSession}
      {startup : Startup} (hanswer : (deployment.build environment session).answer = .ok startup)
      (hrole : RoleArn.parse ((environment.get? "DEFAULT_IAM_ROLE").getD "") = .ok ⟨defaultRole⟩)
      (hpolicy : environment.get? "DEFAULT_IAM_POLICY" = defaultPolicy) :
      Provisioned defaultRole defaultPolicy (deployment.build environment session).after
  | kept {deployment : Deployment} {step : Step}
      (hprovisioned : Provisioned defaultRole defaultPolicy deployment)
      (hrestarts : ¬deployment.Restarts step) :
      Provisioned defaultRole defaultPolicy (deployment.step step).after

/-- The two deployments may differ in the broker in service and in the log threshold only. -/
structure Deployment.AgreesBesideBroker (left right : Deployment) : Prop where
  directory : left.directory = right.directory
  service : left.service = right.service
  clock : left.clock = right.clock

/-- The reports tell the same, whatever deployments they leave behind. -/
structure Report.SameOutcome {α : Type} (left right : Report α) : Prop where
  answer : left.answer = right.answer
  requests : left.requests = right.requests
  events : left.events = right.events

variable {role : String} {policy : Option String} {defaultRole : String}
  {defaultPolicy : Option String} {chosenRole : String} {chosenPolicy : Option String}

/-! ### Policies and their texts -/

theorem blankPolicy_iff {text : Option String} :
    BlankPolicy text ↔ text.bind Policy.ofText? = none := by
  cases text with
  | none => simp [BlankPolicy]
  | some found => simp [BlankPolicy, Policy.ofText?_eq_none_iff, Text.isBlankText]

/-- A text that is not blank is a policy as it stands. -/
theorem exists_policy_of_not_blankPolicy {text : Option String} (hpolicy : ¬BlankPolicy text) :
    ∃ policy, text.bind Policy.ofText? = some policy ∧ text = some policy.text := by
  rw [blankPolicy_iff, ← ne_eq, Option.ne_none_iff_exists'] at hpolicy
  obtain ⟨policy, hbind⟩ := hpolicy
  obtain ⟨found, htext, hfound⟩ := Option.bind_eq_some_iff.mp hbind
  refine ⟨policy, hbind, ?_⟩
  rw [htext, Policy.text_ofText? hfound]

/-- A policy goes into the request with its text unchanged, since that is never empty. -/
theorem AssumeRoleRequest.build_map_text (role : RoleArn) (policy : Option Policy)
    (sessionName : String) :
    build role (policy.map Policy.text) sessionName =
      ⟨role, sessionName, policy.map Policy.text, 3600⟩ := by
  cases policy with
  | none => rfl
  | some policy =>
      obtain ⟨char, hmem, -⟩ := policy.exists_not_blank
      have hnonempty : policy.text ≠ "" := by
        intro hempty
        rw [hempty] at hmem
        cases hmem
      simp [build, hnonempty, sessionSeconds]

/-! ### The choice between a container and the defaults -/

section Choice

variable {broker : Broker} (platform id : String)

theorem requestFor_of_roleAndPolicy {container : Container} {chosenRole : RoleArn}
    {chosen : Option Policy}
    (hchoice : broker.roleAndPolicy container = .ok (chosenRole, chosen)) :
    broker.requestFor platform container =
      .ok ⟨chosenRole, SessionName.ofContainer platform container.id, chosen.map Policy.text,
        3600⟩ := by
  rw [Broker.requestFor, hchoice, ← AssumeRoleRequest.build_map_text]
  rfl

theorem requestFor_of_own_role (hrole : role ≠ "") :
    broker.requestFor platform (.declared id (some role) policy) =
      .ok ⟨⟨role⟩, SessionName.ofContainer platform id,
        (policy.bind Policy.ofText?).map Policy.text, 3600⟩ := by
  have hown : (Container.declared id (some role) policy).hasOwnRole = true := by
    simpa [Container.declared, Container.hasOwnRole, RoleArn.isEmpty] using hrole
  exact requestFor_of_roleAndPolicy platform
    (Broker.roleAndPolicy_eq_ok_iff.mpr (Or.inl ⟨hown, rfl, rfl⟩))

theorem requestFor_of_default_role (hdefault : broker.defaultRole.isEmpty = false) :
    broker.requestFor platform (.declared id (some "") policy) =
      .ok ⟨broker.defaultRole, SessionName.ofContainer platform id,
        ((policy.bind Policy.ofText?).or broker.defaultPolicy).map Policy.text, 3600⟩ :=
  requestFor_of_roleAndPolicy platform
    (Broker.roleAndPolicy_eq_ok_iff.mpr (Or.inr ⟨rfl, hdefault, rfl, rfl⟩))

theorem requestFor_of_askedFor (hbrokerRole : broker.defaultRole = ⟨defaultRole⟩)
    (hbrokerPolicy : broker.defaultPolicy = defaultPolicy.bind Policy.ofText?)
    (hasked : AskedFor role policy defaultRole defaultPolicy chosenRole chosenPolicy) :
    broker.requestFor platform (.declared id (some role) policy) =
      .ok ⟨⟨chosenRole⟩, SessionName.ofContainer platform id, chosenPolicy, 3600⟩ := by
  have hnonempty (hdefault : defaultRole ≠ "") : broker.defaultRole.isEmpty = false := by
    rw [hbrokerRole, RoleArn.isEmpty_eq_false_iff]
    exact hdefault
  cases hasked with
  | ownBoth hrole hpolicy =>
      obtain ⟨own, hown, rfl⟩ := exists_policy_of_not_blankPolicy hpolicy
      rw [requestFor_of_own_role platform id hrole, hown, Option.map_some]
  | ownRole hrole hpolicy =>
      rw [requestFor_of_own_role platform id hrole, blankPolicy_iff.mp hpolicy, Option.map_none]
  | ownPolicy hrole hdefault hpolicy =>
      obtain ⟨own, hown, rfl⟩ := exists_policy_of_not_blankPolicy hpolicy
      rw [hrole, requestFor_of_default_role platform id (hnonempty hdefault), hbrokerRole, hown,
        Option.some_or, Option.map_some]
  | defaultBoth hrole hdefault hpolicy hdefaultPolicy =>
      obtain ⟨shared, hshared, rfl⟩ := exists_policy_of_not_blankPolicy hdefaultPolicy
      rw [hrole, requestFor_of_default_role platform id (hnonempty hdefault), hbrokerRole,
        blankPolicy_iff.mp hpolicy, Option.none_or, hbrokerPolicy, hshared, Option.map_some]
  | defaultRole hrole hdefault hpolicy hdefaultPolicy =>
      rw [hrole, requestFor_of_default_role platform id (hnonempty hdefault), hbrokerRole,
        blankPolicy_iff.mp hpolicy, Option.none_or, hbrokerPolicy,
        blankPolicy_iff.mp hdefaultPolicy, Option.map_none]

end Choice

namespace Deployment

variable {deployment : Deployment}

theorem Provisioned.defaults (hprovisioned : deployment.Provisioned defaultRole defaultPolicy) :
    deployment.broker.defaultRole = ⟨defaultRole⟩ ∧
      deployment.broker.defaultPolicy = defaultPolicy.bind Policy.ofText? := by
  induction hprovisioned with
  | given mint directory clock threshold => exact ⟨rfl, rfl⟩
  | read hanswer hrole hpolicy =>
      have hsettings := settings_of_build hanswer
      obtain ⟨-, hparse, hread, -⟩ := Settings.ofEnvironment_eq_ok_iff.mp hsettings
      rw [broker_build_of_ok hanswer]
      refine ⟨Except.ok.inj (hparse.symm.trans hrole), ?_⟩
      rw [← hpolicy]
      exact hread
  | @kept deployment step _ hrestarts ih =>
      have hkept := (deployment.stepCase step).emptied hrestarts
      refine ⟨?_, ?_⟩
      · exact (congrArg Broker.defaultRole hkept).trans ih.1
      · exact (congrArg Broker.defaultPolicy hkept).trans ih.2

/-- However the defaults came in, the request made for a container is the same. -/
theorem Provisioned.requestFor_eq {other : Deployment}
    (hprovisioned : deployment.Provisioned defaultRole defaultPolicy)
    (hother : other.Provisioned defaultRole defaultPolicy) (platform : String)
    (container : Container) :
    other.broker.requestFor platform container =
      deployment.broker.requestFor platform container := by
  obtain ⟨hrole, hpolicy⟩ := hprovisioned.defaults
  obtain ⟨hotherRole, hotherPolicy⟩ := hother.defaults
  have hemptied : other.broker.emptied = deployment.broker.emptied := by
    rw [Broker.emptied, Broker.emptied, hrole, hpolicy, hotherRole, hotherPolicy]
  rw [← Broker.requestFor_emptied, hemptied, Broker.requestFor_emptied]

/-! ### Gets on two brokers in the same surroundings -/

section Surroundings

variable {other : Deployment} {address : Address} {container : Container}

theorem AgreesBesideBroker.call_eq (hagrees : other.AgreesBesideBroker deployment) :
    other.call = deployment.call := by
  rw [call, call, hagrees.service, hagrees.clock]

theorem send_sameOutcome (hagrees : other.AgreesBesideBroker deployment)
    (request : AssumeRoleRequest) :
    (other.send request).SameOutcome (deployment.send request) := by
  have hcall := hagrees.call_eq
  cases hreply : deployment.call.reply with
  | error error =>
      have hother : other.call.reply = .error error := by rw [hcall, hreply]
      rw [send_of_refused hother, send_of_refused hreply]
      exact ⟨rfl, rfl, rfl⟩
  | ok response =>
      have hother : other.call.reply = .ok response := by rw [hcall, hreply]
      rw [send_of_response hother, send_of_response hreply, hcall]
      exact ⟨rfl, rfl, rfl⟩

theorem issue_sameOutcome (hagrees : other.AgreesBesideBroker deployment) (address : Address)
    (container : Container) (request : AssumeRoleRequest) :
    (other.issue address container request).SameOutcome
      (deployment.issue address container request) := by
  have hsend := send_sameOutcome hagrees request
  have hanswer := hsend.answer
  cases hfound : (deployment.send request).answer with
  | error failure =>
      rw [hfound] at hanswer
      simp only [issue, hanswer, hfound]
      exact hsend
  | ok credentials =>
      rw [hfound] at hanswer
      simp only [issue, hanswer, hfound]
      exact ⟨rfl, hsend.requests, by rw [hsend.events]⟩

/-- Where neither broker has anything to hand out, only the requests that they make can tell. -/
theorem get_sameOutcome (hagrees : other.AgreesBesideBroker deployment)
    (hlookup : deployment.lookup address = .ok container)
    (hnothing : deployment.broker.KeepsNothingFor address container deployment.clock)
    (hotherNothing : other.broker.KeepsNothingFor address container other.clock)
    (hrequest : other.broker.requestFor other.directory.platform container =
      deployment.broker.requestFor deployment.directory.platform container) :
    (other.get address).SameOutcome (deployment.get address) := by
  have hotherLookup : other.lookup address = .ok container := by
    rw [lookup, hagrees.directory]
    exact hlookup
  have hreusable := Broker.reusable?_eq_none_iff_keepsNothingFor.mpr hnothing
  have hotherReusable := Broker.reusable?_eq_none_iff_keepsNothingFor.mpr hotherNothing
  simp only [get, hlookup, hotherLookup, hreusable, hotherReusable, hrequest]
  cases deployment.broker.requestFor deployment.directory.platform container with
  | error failure => exact ⟨rfl, rfl, rfl⟩
  | ok request => exact issue_sameOutcome hagrees address container request

end Surroundings

/-! ### The precedence -/

theorem exists_askedFor_or (role : String) (policy : Option String) (defaultRole : String)
    (defaultPolicy : Option String) :
    (∃ chosenRole chosenPolicy,
        AskedFor role policy defaultRole defaultPolicy chosenRole chosenPolicy) ∨
      (role = "" ∧ defaultRole = "") := by
  by_cases hrole : role = ""
  · by_cases hdefault : defaultRole = ""
    · exact Or.inr ⟨hrole, hdefault⟩
    · left
      by_cases hpolicy : BlankPolicy policy
      · by_cases hdefaultPolicy : BlankPolicy defaultPolicy
        · exact ⟨_, _, .defaultRole hrole hdefault hpolicy hdefaultPolicy⟩
        · exact ⟨_, _, .defaultBoth hrole hdefault hpolicy hdefaultPolicy⟩
      · exact ⟨_, _, .ownPolicy hrole hdefault hpolicy⟩
  · left
    by_cases hpolicy : BlankPolicy policy
    · exact ⟨_, _, .ownRole hrole hpolicy⟩
    · exact ⟨_, _, .ownBoth hrole hpolicy⟩

theorem get_of_noRole {address : Address} {container : Container}
    (hlookup : deployment.lookup address = .ok container)
    (hreusable : deployment.broker.reusable? address container deployment.clock = .ok none)
    (hrole : container.hasOwnRole = false)
    (hdefault : deployment.broker.defaultRole.isEmpty = true) :
    deployment.get address = deployment.unchanged (.error (.noRole container.id)) := by
  have hrequest : deployment.broker.requestFor deployment.directory.platform container =
      .error (.noRole container.id) :=
    Broker.requestFor_eq_error_iff.mpr ⟨⟨hrole, hdefault⟩, rfl⟩
  simp only [get, hlookup, hreusable, hrequest]

/-- **Precedence.** A get for a container that nothing kept will do for sends the one request with
the role and the policy that are asked for, each with its text unchanged, or fails for want of a
role and sends none. Of the broker only its defaults count, and not where they came from: on another
one with the same defaults, in the same surroundings, the get comes to the same. -/
theorem role_and_policy_precedence (deployment : Deployment) (address : Address)
    (id role : String) (policy : Option String) (defaultRole : String)
    (defaultPolicy : Option String)
    (hprovisioned : deployment.Provisioned defaultRole defaultPolicy)
    (hlookup : deployment.lookup address = .ok (.declared id (some role) policy))
    (hnothing : deployment.broker.KeepsNothingFor address (.declared id (some role) policy)
      deployment.clock) :
    (∀ chosenRole chosenPolicy,
        AskedFor role policy defaultRole defaultPolicy chosenRole chosenPolicy →
        (deployment.get address).requests =
          [⟨⟨chosenRole⟩, SessionName.ofContainer deployment.directory.platform id, chosenPolicy,
            3600⟩]) ∧
      (role = "" → defaultRole = "" →
        deployment.get address = deployment.unchanged (.error (.noRole id))) ∧
      ((∃ chosenRole chosenPolicy,
          AskedFor role policy defaultRole defaultPolicy chosenRole chosenPolicy) ∨
        (role = "" ∧ defaultRole = "")) ∧
      ∀ other : Deployment, other.Provisioned defaultRole defaultPolicy →
        other.AgreesBesideBroker deployment →
        other.broker.KeepsNothingFor address (.declared id (some role) policy) other.clock →
        (other.get address).SameOutcome (deployment.get address) := by
  obtain ⟨hbrokerRole, hbrokerPolicy⟩ := hprovisioned.defaults
  have hreusable := Broker.reusable?_eq_none_iff_keepsNothingFor.mpr hnothing
  refine ⟨?_, ?_, exists_askedFor_or role policy defaultRole defaultPolicy, ?_⟩
  · intro chosenRole chosenPolicy hasked
    have hrequest := requestFor_of_askedFor deployment.directory.platform id hbrokerRole
      hbrokerPolicy hasked
    exact requests_get_of_requestDue ⟨hlookup, hreusable, hrequest⟩
  · rintro rfl rfl
    refine get_of_noRole hlookup hreusable rfl ?_
    rw [hbrokerRole]
    rfl
  · intro other hother hagrees hotherNothing
    refine get_sameOutcome hagrees hlookup hnothing hotherNothing ?_
    rw [hagrees.directory]
    exact hprovisioned.requestFor_eq hother _ _

def spaced : Environment :=
  ⟨[("USER_AGENT_EXTRA", "broker/1"), ("DEFAULT_IAM_ROLE", " arn:aws:iam::1:role/shared\n"),
    ("DEFAULT_IAM_POLICY", " read-only\n")]⟩

/-- A broker is started on defaults between blanks, and a container comes with an empty role and a
blank policy. -/
def sparing : Deployment :=
  Trial.deployment.runTo
    [.build spaced none, .put "10.0.0.8" (.declared "bare" (some "") (some "  "))]

theorem role_and_policy_precedence_sparing :
    sparing.Provisioned "arn:aws:iam::1:role/shared" (some " read-only\n") ∧
      sparing.lookup "10.0.0.8" = .ok (.declared "bare" (some "") (some "  ")) ∧
      sparing.broker.KeepsNothingFor "10.0.0.8" (.declared "bare" (some "") (some "  "))
        sparing.clock ∧
      (sparing.get "10.0.0.8").requests =
        [⟨⟨"arn:aws:iam::1:role/shared"⟩, "docker-bare", some " read-only\n", 3600⟩] := by
  have hstarted : (Trial.deployment.build spaced none).after.Provisioned
      "arn:aws:iam::1:role/shared" (some " read-only\n") := .read rfl rfl rfl
  have hprovisioned : sparing.Provisioned "arn:aws:iam::1:role/shared" (some " read-only\n") := by
    refine .kept hstarted ?_
    rintro ⟨_, _, _, hstep, -⟩
    cases hstep
  have hnothing : sparing.broker.KeepsNothingFor "10.0.0.8"
      (.declared "bare" (some "") (some "  ")) sparing.clock := by
    left
    intro entry hentry
    cases hentry
  have hasked : AskedFor "" (some "  ") "arn:aws:iam::1:role/shared" (some " read-only\n")
      "arn:aws:iam::1:role/shared" (some " read-only\n") := by
    refine .defaultBoth rfl (by decide) (blankPolicy_iff.mpr rfl) ?_
    rw [blankPolicy_iff]
    decide
  obtain ⟨hrequests, -⟩ := role_and_policy_precedence sparing "10.0.0.8" "bare" "" (some "  ")
    "arn:aws:iam::1:role/shared" (some " read-only\n") hprovisioned rfl hnothing
  exact ⟨hprovisioned, rfl, hnothing, hrequests _ _ hasked⟩

end Deployment

end CredentialBroker
