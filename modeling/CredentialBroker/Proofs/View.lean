import CredentialBroker.Proofs.Effect
import CredentialBroker.Proofs.Redaction

/-!
What of a deployment counts at one address: all of it but the containers and the entries of other
addresses, the count of issuing calls, and the texts that go with a number. Main statements: a get
of the address answers alike wherever the view is the same, and without delays a step that does not
concern the address leaves the view as it is.
-/

namespace CredentialBroker

/-- Nothing but the two times is left. -/
def Credentials.withoutTexts (credentials : Credentials) : Credentials :=
  { credentials with accessKey := "", secretKey := "", token := "" }

def CacheEntry.withoutTexts (entry : CacheEntry) : CacheEntry :=
  { entry with credentials := entry.credentials.withoutTexts }

structure AddressView where
  platform : String
  outage : Option String
  container : Option Container
  script : Script
  clock : Time.WallTime
  threshold : LogLevel
  defaultRole : RoleArn
  defaultPolicy : Option Policy
  entry : Option CacheEntry

/-- The step is taken on another address, or is a direct request or a listing of the addresses. -/
inductive Step.Foreign (address : Address) : Step → Prop where
  | get {other : Address} (hne : other ≠ address) : Foreign address (.get other)
  | put {other : Address} (hne : other ≠ address) (container : Container) :
      Foreign address (.put other container)
  | remove {other : Address} (hne : other ≠ address) : Foreign address (.remove other)
  | lookup {other : Address} (hne : other ≠ address) : Foreign address (.lookup other)
  | assumeRole (role : RoleArn) (policy : Option String) (sessionName : String) :
      Foreign address (.assumeRole role policy sessionName)
  | addresses : Foreign address .addresses

/-- Results that a map cannot tell apart are failures of one kind, or successes that it maps alike. -/
theorem map_eq_map_cases {ε α β : Type} {f : α → β} {left right : Except ε α}
    (hmap : left.map f = right.map f) :
    (∃ error, left = .error error ∧ right = .error error) ∨
      ∃ value other, left = .ok value ∧ right = .ok other ∧ f value = f other := by
  cases left with
  | error error =>
      cases right with
      | error other =>
          cases hmap
          exact Or.inl ⟨error, rfl, rfl⟩
      | ok other => cases hmap
  | ok value =>
      cases right with
      | error other => cases hmap
      | ok other => exact Or.inr ⟨value, other, rfl, rfl, Except.ok.inj hmap⟩

/-- The texts play no part in whether an entry may be reused. -/
theorem Broker.map_withoutTexts_reusable? (broker : Broker) (address : Address)
    (container : Container) (clock : Time.WallTime) :
    (broker.reusable? address container clock).map (Option.map Credentials.withoutTexts) =
      match (broker.cache.get? address).map CacheEntry.withoutTexts with
      | none => .ok none
      | some entry =>
        (entry.isValidFor container clock).map fun valid =>
          if valid then some entry.credentials else none := by
  rw [reusable?]
  cases broker.cache.get? address with
  | none => rfl
  | some entry =>
      change Except.map _ (Except.map _ (entry.isValidFor container clock)) =
        Except.map _ (entry.isValidFor container clock)
      cases entry.isValidFor container clock with
      | error overflow => rfl
      | ok valid => cases valid <;> rfl

def ResponseBlock.withoutTexts (block : ResponseBlock) : ResponseBlock :=
  { block with
    accessKeyId := block.accessKeyId.map fun _ => ""
    secretAccessKey := block.secretAccessKey.map fun _ => ""
    sessionToken := block.sessionToken.map fun _ => "" }

def TokenResponse.withoutTexts (response : TokenResponse) : TokenResponse :=
  ⟨response.credentials.map ResponseBlock.withoutTexts⟩

/-- All three texts are struck out. -/
def Redaction.texts : Redaction :=
  ⟨fun _ => "", fun _ => "", fun _ => ""⟩

theorem TokenResponse.toCredentials_withoutTexts (response : TokenResponse)
    (received : Time.WallTime) :
    response.withoutTexts.toCredentials received =
      (response.toCredentials received).map Credentials.withoutTexts :=
  response.toCredentials_redact .texts received

/-- Responses with the same keys and the same expiration differ in their texts only. -/
theorem Mint.withoutTexts_respond (left right : Mint) (number next : Nat)
    (expiration : Time.Timestamp) (omitted : List ResponseKey) :
    (left.respond number expiration omitted).withoutTexts =
      (right.respond next expiration omitted).withoutTexts :=
  calc (left.respond number expiration omitted).withoutTexts
    _ = (left.redact .texts).respond number expiration omitted :=
        (left.respond_redact .texts number expiration omitted).symm
    _ = (right.redact .texts).respond next expiration omitted := rfl
    _ = (right.respond next expiration omitted).withoutTexts :=
        right.respond_redact .texts next expiration omitted

/-- What a call comes to is in the script, up to the number and the texts that go with it. -/
theorem TokenService.call_alike {left right : TokenService} (hscript : left.script = right.script)
    (start : Time.WallTime) :
    (left.call start).clock = (right.call start).clock ∧
      (left.call start).reply.map TokenResponse.withoutTexts =
        (right.call start).reply.map TokenResponse.withoutTexts := by
  simp only [call, hscript]
  cases start.shift right.script.delay with
  | error overflow => exact ⟨rfl, rfl⟩
  | ok clock =>
      cases right.script.reply with
      | refuse refusal => exact ⟨rfl, rfl⟩
      | issue expiry omitted =>
          dsimp only
          cases expiry.timestamp start with
          | error overflow => exact ⟨rfl, rfl⟩
          | ok expiration =>
              exact ⟨rfl, congrArg Except.ok
                (Mint.withoutTexts_respond left.mint right.mint _ _ expiration omitted)⟩

theorem TokenService.clock_call_of_delay_eq_zero {service : TokenService}
    (hdelay : service.script.delay = 0) (start : Time.WallTime) :
    (service.call start).clock = start := by
  rw [call, hdelay, Time.WallTime.shift_zero]
  cases service.script.reply <;> rfl

namespace Deployment

def viewAt (deployment : Deployment) (address : Address) : AddressView where
  platform := deployment.directory.platform
  outage := deployment.directory.outage
  container := deployment.directory.containers.get? address
  script := deployment.service.script
  clock := deployment.clock
  threshold := deployment.threshold
  defaultRole := deployment.broker.defaultRole
  defaultPolicy := deployment.broker.defaultPolicy
  entry := (deployment.broker.cache.get? address).map CacheEntry.withoutTexts

/-- Two reports that only the texts of credentials can tell apart at the address. -/
structure AlikeAt (address : Address) (left right : Report Credentials) : Prop where
  answer : left.answer.map Credentials.withoutTexts = right.answer.map Credentials.withoutTexts
  requests : left.requests = right.requests
  events : left.events = right.events
  view : left.after.viewAt address = right.after.viewAt address

variable {deployment left right : Deployment} {address : Address}

/-! ### A get of the address -/

theorem lookup_congr (hview : left.viewAt address = right.viewAt address) :
    left.lookup address = right.lookup address := by
  have houtage := congrArg AddressView.outage hview
  have hcontainer := congrArg AddressView.container hview
  simp only [viewAt] at houtage hcontainer
  rw [lookup, lookup, Directory.lookup, Directory.lookup, houtage, hcontainer]

theorem requestFor_congr (hview : left.viewAt address = right.viewAt address)
    (container : Container) :
    left.broker.requestFor left.directory.platform container =
      right.broker.requestFor right.directory.platform container := by
  have hplatform := congrArg AddressView.platform hview
  have hrole := congrArg AddressView.defaultRole hview
  have hpolicy := congrArg AddressView.defaultPolicy hview
  simp only [viewAt] at hplatform hrole hpolicy
  simp only [Broker.requestFor, Broker.roleAndPolicy, hplatform, hrole, hpolicy]

theorem reusable?_congr (hview : left.viewAt address = right.viewAt address)
    (container : Container) :
    (left.broker.reusable? address container left.clock).map
        (Option.map Credentials.withoutTexts) =
      (right.broker.reusable? address container right.clock).map
        (Option.map Credentials.withoutTexts) := by
  have hclock := congrArg AddressView.clock hview
  have hentry := congrArg AddressView.entry hview
  simp only [viewAt] at hclock hentry
  rw [Broker.map_withoutTexts_reusable?, Broker.map_withoutTexts_reusable?, hclock, hentry]

theorem call_alike (hview : left.viewAt address = right.viewAt address) :
    left.call.clock = right.call.clock ∧
      left.call.reply.map TokenResponse.withoutTexts =
        right.call.reply.map TokenResponse.withoutTexts := by
  have hclock : left.clock = right.clock := congrArg AddressView.clock hview
  have hscript : left.service.script = right.service.script := congrArg AddressView.script hview
  rw [call, call, hclock]
  exact TokenService.call_alike hscript right.clock

theorem viewAt_afterCall (deployment : Deployment) (address : Address) :
    deployment.afterCall.viewAt address =
      { deployment.viewAt address with clock := deployment.call.clock } := by
  have hscript : deployment.afterCall.service.script = deployment.service.script :=
    deployment.service.call_script deployment.clock
  simp only [viewAt, hscript]
  rfl

theorem send_alike (hview : left.viewAt address = right.viewAt address)
    (request : AssumeRoleRequest) :
    AlikeAt address (left.send request) (right.send request) := by
  obtain ⟨hclock, hreply⟩ := call_alike hview
  have hafter : left.afterCall.viewAt address = right.afterCall.viewAt address := by
    rw [viewAt_afterCall, viewAt_afterCall, hview, hclock]
  rcases map_eq_map_cases hreply with
    ⟨error, hleft, hright⟩ | ⟨response, found, hleft, hright, htexts⟩
  · rw [send_of_refused hleft, send_of_refused hright]
    exact ⟨rfl, rfl, rfl, hafter⟩
  · rw [send_of_response hleft, send_of_response hright]
    refine ⟨?_, rfl, rfl, hafter⟩
    rw [map_mapError, map_mapError, ← TokenResponse.toCredentials_withoutTexts,
      ← TokenResponse.toCredentials_withoutTexts, htexts, hclock]

theorem viewAt_store (entry : CacheEntry) :
    ({ deployment with broker := deployment.broker.store address entry }).viewAt address =
      { deployment.viewAt address with entry := some entry.withoutTexts } := by
  simp only [viewAt, Broker.store, AddressBook.get?_put_self]
  rfl

theorem issue_alike (hview : left.viewAt address = right.viewAt address) (container : Container)
    (request : AssumeRoleRequest) :
    AlikeAt address (left.issue address container request)
      (right.issue address container request) := by
  have hsend := send_alike hview request
  rcases map_eq_map_cases hsend.answer with
    ⟨failure, hleft, hright⟩ | ⟨credentials, found, hleft, hright, htexts⟩
  · simp only [issue, hleft, hright]
    exact hsend
  · have hexpiration : credentials.expiration = found.expiration := by
      change credentials.withoutTexts.expiration = found.withoutTexts.expiration
      rw [htexts]
    simp only [issue, hleft, hright]
    refine ⟨congrArg Except.ok htexts, hsend.requests, ?_, ?_⟩
    · rw [hsend.events, hexpiration]
    · rw [viewAt_store, viewAt_store, hsend.view]
      simp only [CacheEntry.withoutTexts, htexts]

/-- A get of the address comes to the same wherever the view of the address is the same. -/
theorem get_alike (hview : left.viewAt address = right.viewAt address) :
    AlikeAt address (left.get address) (right.get address) := by
  have hlookup := lookup_congr hview
  cases hfound : right.lookup address with
  | error failure =>
      rw [hfound] at hlookup
      simp only [get, hlookup, hfound]
      exact ⟨rfl, rfl, rfl, hview⟩
  | ok container =>
      rw [hfound] at hlookup
      have hrequest := requestFor_congr hview container
      rcases map_eq_map_cases (reusable?_congr hview container) with
        ⟨overflow, hleft, hright⟩ | ⟨kept, other, hleft, hright, htexts⟩
      · simp only [get, hlookup, hfound, hleft, hright]
        exact ⟨rfl, rfl, rfl, hview⟩
      · cases kept with
        | some credentials =>
            obtain ⟨found, rfl, hsame⟩ := Option.map_eq_some_iff.mp htexts.symm
            simp only [get, hlookup, hfound, hleft, hright]
            exact ⟨congrArg Except.ok hsame.symm, rfl, rfl, hview⟩
        | none =>
            obtain rfl : other = none := Option.map_eq_none_iff.mp htexts.symm
            simp only [get, hlookup, hfound, hleft, hright, hrequest]
            cases right.broker.requestFor right.directory.platform container with
            | error failure => exact ⟨rfl, rfl, rfl, hview⟩
            | ok request => exact issue_alike hview container request

/-! ### Other steps -/

theorem viewAt_afterIssue_of_ne {other : Address} (hne : other ≠ address) (entry : CacheEntry) :
    (deployment.afterIssue other entry).viewAt address = deployment.afterCall.viewAt address := by
  simp only [viewAt, afterIssue, Broker.store, AddressBook.get?_put_of_ne _ hne.symm]
  rfl

/-- Without delays a step that does not concern the address leaves its view as it is. -/
theorem viewAt_step_of_foreign {step : Step} (hforeign : step.Foreign address)
    (hdelay : deployment.service.script.delay = 0) :
    (deployment.step step).after.viewAt address = deployment.viewAt address := by
  have hcall : deployment.afterCall.viewAt address = deployment.viewAt address := by
    have hclock : deployment.call.clock = deployment.clock :=
      TokenService.clock_call_of_delay_eq_zero hdelay deployment.clock
    rw [viewAt_afterCall, hclock]
    rfl
  cases hforeign with
  | @get other hne =>
      change (deployment.get other).after.viewAt address = _
      rcases deployment.after_get_cases other with
        hafter | hafter | ⟨entry, request, -, hafter⟩
      · rw [hafter]
      · rw [hafter, hcall]
      · rw [hafter, viewAt_afterIssue_of_ne hne, hcall]
  | put hne container =>
      simp only [step, updateDirectory, viewAt, Directory.put,
        AddressBook.get?_put_of_ne _ hne.symm]
  | remove hne =>
      simp only [step, updateDirectory, viewAt, Directory.remove,
        AddressBook.get?_remove_of_ne _ hne.symm]
  | lookup hne => rfl
  | assumeRole role policy sessionName =>
      change (deployment.send _).after.viewAt address = _
      rw [after_send, hcall]
  | addresses => rfl

theorem viewAt_put (container : Container) :
    (deployment.step (.put address container)).after.viewAt address =
      { deployment.viewAt address with container := some container } := by
  simp only [step, updateDirectory, viewAt, Directory.put, AddressBook.get?_put_self]

theorem viewAt_remove :
    (deployment.step (.remove address)).after.viewAt address =
      { deployment.viewAt address with container := none } := by
  simp only [step, updateDirectory, viewAt, Directory.remove, AddressBook.get?_remove_self]

theorem viewAt_advance_congr (hview : left.viewAt address = right.viewAt address) (micros : Int) :
    (left.advance micros).after.viewAt address = (right.advance micros).after.viewAt address := by
  have hclock : left.clock = right.clock := congrArg AddressView.clock hview
  unfold advance
  rw [hclock]
  cases right.clock.shift micros with
  | error overflow => exact hview
  | ok clock => exact congrArg (fun view : AddressView => { view with clock }) hview

theorem viewAt_build_congr (hview : left.viewAt address = right.viewAt address)
    (environment : Environment) (session : Option RegionSession) :
    (left.build environment session).after.viewAt address =
      (right.build environment session).after.viewAt address := by
  unfold build
  cases Settings.ofEnvironment environment with
  | error error => exact hview
  | ok settings =>
      dsimp only
      cases settings.threshold environment with
      | error error => exact hview
      | ok threshold =>
          dsimp only
          cases (settings.connect session).outcome with
          | error error => exact congrArg (fun view : AddressView => { view with threshold }) hview
          | ok _ =>
              exact congrArg (fun view : AddressView =>
                { view with
                  threshold
                  defaultRole := settings.defaultRole
                  defaultPolicy := settings.defaultPolicy
                  entry := none }) hview

/-- A step taken on both sides keeps the views of the address the same. -/
theorem viewAt_step_congr (hview : left.viewAt address = right.viewAt address)
    (hdelay : left.service.script.delay = 0) (step : Step) :
    (left.step step).after.viewAt address = (right.step step).after.viewAt address := by
  have hscript : left.service.script = right.service.script := congrArg AddressView.script hview
  have hforeign (hstep : step.Foreign address) :
      (left.step step).after.viewAt address = (right.step step).after.viewAt address := by
    rw [viewAt_step_of_foreign hstep hdelay, viewAt_step_of_foreign hstep (hscript ▸ hdelay), hview]
  cases step with
  | get other =>
      by_cases hother : other = address
      · rw [hother]
        exact (get_alike hview).view
      · exact hforeign (.get hother)
  | put other container =>
      by_cases hother : other = address
      · rw [hother, viewAt_put, viewAt_put, hview]
      · exact hforeign (.put hother container)
  | remove other =>
      by_cases hother : other = address
      · rw [hother, viewAt_remove, viewAt_remove, hview]
      · exact hforeign (.remove hother)
  | assumeRole role policy sessionName => exact hforeign (.assumeRole role policy sessionName)
  | addresses => exact hview
  | platform => exact hview
  | lookup other => exact hview
  | setOutage message =>
      exact congrArg (fun view : AddressView => { view with outage := message }) hview
  | advance micros => exact viewAt_advance_congr hview micros
  | setScript script => exact congrArg (fun view : AddressView => { view with script }) hview
  | build environment session => exact viewAt_build_congr hview environment session

end Deployment

end CredentialBroker
