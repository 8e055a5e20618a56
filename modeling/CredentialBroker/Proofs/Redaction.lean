import CredentialBroker.Deployment.Run
import CredentialBroker.Proofs.Unnoticed

/-!
Redacted texts. Access keys, secret keys and tokens are carried from the responses of the token
service to the answers, and nothing is ever decided by what they say. Main statement: putting other
texts in their place commutes with every step, so the run of a redacted deployment is its run,
redacted.
-/

namespace CredentialBroker

open Time

theorem map_mapError {ε δ α β : Type} (result : Except ε α) (wrap : ε → δ) (f : α → β) :
    (result.mapError wrap).map f = (result.map f).mapError wrap := by
  cases result <;> rfl

/-! ### Maps of address books -/

theorem Entries.Increasing.map {α β : Type} (f : α → β) {entries : List (Address × α)}
    (hentries : Increasing entries) :
    Increasing (entries.map fun entry => (entry.1, f entry.2)) := by
  rw [Increasing, List.pairwise_map]
  exact hentries

namespace AddressBook

variable {α β : Type}

def map (f : α → β) (book : AddressBook α) : AddressBook β :=
  ⟨book.entries.map fun entry => (entry.1, f entry.2), book.increasing.map f⟩

@[simp]
theorem addresses_map (f : α → β) (book : AddressBook α) :
    (book.map f).addresses = book.addresses := by
  simp [addresses, map]

@[simp]
theorem get?_map (f : α → β) (book : AddressBook α) (address : Address) :
    (book.map f).get? address = (book.get? address).map f := by
  obtain ⟨entries, hentries⟩ := book
  simp only [get?, map]
  clear hentries
  induction entries with
  | nil => rfl
  | cons first rest ih =>
      obtain ⟨head, current⟩ := first
      rw [List.map_cons, List.lookup_cons, List.lookup_cons, ih]
      cases address == head <;> rfl

theorem map_put (f : α → β) (book : AddressBook α) (address : Address) (value : α) :
    (book.put address value).map f = (book.map f).put address (f value) := by
  obtain ⟨entries, hentries⟩ := book
  simp only [put, map, mk.injEq]
  clear hentries
  induction entries with
  | nil => rfl
  | cons first rest ih =>
      obtain ⟨head, current⟩ := first
      simp only [Entries.put, List.map_cons]
      split
      · rfl
      · split
        · rfl
        · rw [List.map_cons, ih]

end AddressBook

/-! ### What carries the texts -/

/-- What is put in the place of each of the three texts. -/
structure Redaction where
  accessKey : String → String
  secretKey : String → String
  token : String → String

variable (redaction : Redaction)

def Credentials.redact (credentials : Credentials) : Credentials :=
  { credentials with
    accessKey := redaction.accessKey credentials.accessKey
    secretKey := redaction.secretKey credentials.secretKey
    token := redaction.token credentials.token }

def CacheEntry.redact (entry : CacheEntry) : CacheEntry :=
  { entry with credentials := entry.credentials.redact redaction }

def Broker.redact (broker : Broker) : Broker :=
  { broker with cache := broker.cache.map (CacheEntry.redact redaction) }

def ResponseBlock.redact (block : ResponseBlock) : ResponseBlock :=
  { block with
    accessKeyId := block.accessKeyId.map redaction.accessKey
    secretAccessKey := block.secretAccessKey.map redaction.secretKey
    sessionToken := block.sessionToken.map redaction.token }

def TokenResponse.redact (response : TokenResponse) : TokenResponse :=
  ⟨response.credentials.map (ResponseBlock.redact redaction)⟩

def Mint.redact (mint : Mint) : Mint where
  accessKey number := redaction.accessKey (mint.accessKey number)
  secretKey number := redaction.secretKey (mint.secretKey number)
  sessionToken number := redaction.token (mint.sessionToken number)

def TokenService.redact (service : TokenService) : TokenService :=
  { service with mint := service.mint.redact redaction }

def TokenCall.redact (call : TokenCall) : TokenCall :=
  { call with
    reply := call.reply.map (TokenResponse.redact redaction)
    service := call.service.redact redaction }

def Deployment.redact (deployment : Deployment) : Deployment :=
  { deployment with
    service := deployment.service.redact redaction
    broker := deployment.broker.redact redaction }

def Answer.redact : Answer → Answer
  | .credentials answered => .credentials (answered.redact redaction)
  | answer => answer

/-! ### The token service -/

theorem Credentials.create_redact (accessKey secretKey token : String)
    (expiration generatedAt : Timestamp) :
    create (redaction.accessKey accessKey) (redaction.secretKey secretKey) (redaction.token token)
        expiration generatedAt =
      (create accessKey secretKey token expiration generatedAt).map (redact redaction) := by
  unfold create
  split
  · split <;> rfl
  · rfl

theorem ResponseBlock.toCredentials_redact (block : ResponseBlock) (generatedAt : Timestamp) :
    (block.redact redaction).toCredentials generatedAt =
      (block.toCredentials generatedAt).map (Credentials.redact redaction) := by
  obtain ⟨accessKeyId, secretAccessKey, sessionToken, expiration⟩ := block
  -- the keys are read one after another, and the first that is absent ends the reading
  cases accessKeyId with
  | none => rfl
  | some accessKey =>
      cases secretAccessKey with
      | none => rfl
      | some secretKey =>
          cases sessionToken with
          | none => rfl
          | some token =>
              cases expiration with
              | none => rfl
              | some expiration =>
                  change (Credentials.create _ _ _ expiration generatedAt).mapError _ =
                    ((Credentials.create accessKey secretKey token expiration
                      generatedAt).mapError _).map _
                  rw [map_mapError, ← Credentials.create_redact]

theorem TokenResponse.toCredentials_redact (response : TokenResponse) (received : WallTime) :
    (response.redact redaction).toCredentials received =
      (response.toCredentials received).map (Credentials.redact redaction) := by
  obtain ⟨block⟩ := response
  cases block with
  | none => rfl
  | some block => exact block.toCredentials_redact redaction _

theorem Mint.respond_redact (mint : Mint) (number : Nat) (expiration : Timestamp)
    (omitted : List ResponseKey) :
    (mint.redact redaction).respond number expiration omitted =
      (mint.respond number expiration omitted).redact redaction := by
  have present (present : Bool) (change : String → String) (text : String) :
      (if present then some (change text) else none) =
        (if present then some text else none).map change := by
    cases present <;> rfl
  simp only [respond, TokenResponse.redact]
  split
  · simp only [redact, Option.map_some, ResponseBlock.redact, present]
  · rfl

theorem TokenService.call_redact (service : TokenService) (start : WallTime) :
    (service.redact redaction).call start = (service.call start).redact redaction := by
  simp only [call, redact]
  cases start.shift service.script.delay with
  | error overflow => rfl
  | ok clock =>
      dsimp only
      cases service.script.reply with
      | refuse refusal => rfl
      | issue expiry omitted =>
          dsimp only
          cases expiry.timestamp start with
          | error overflow => rfl
          | ok expiration =>
              simp only [Except.map, Mint.respond_redact]
              rfl

/-! ### The broker -/

/-- Whether an entry may be reused does not depend on its texts. -/
theorem Broker.reusable?_redact (broker : Broker) (address : Address) (container : Container)
    (clock : WallTime) :
    (broker.redact redaction).reusable? address container clock =
      (broker.reusable? address container clock).map
        (Option.map (Credentials.redact redaction)) := by
  simp only [reusable?, redact, AddressBook.get?_map]
  cases broker.cache.get? address with
  | none => rfl
  | some entry =>
      change Except.map _ (entry.isValidFor container clock) =
        Except.map _ (Except.map _ (entry.isValidFor container clock))
      cases entry.isValidFor container clock with
      | error overflow => rfl
      | ok valid => cases valid <;> rfl

theorem Broker.store_redact (broker : Broker) (address : Address) (entry : CacheEntry) :
    (broker.redact redaction).store address (entry.redact redaction) =
      (broker.store address entry).redact redaction := by
  simp only [store, redact, AddressBook.map_put]

@[simp]
theorem Broker.cachedAddresses_redact (broker : Broker) :
    (broker.redact redaction).cachedAddresses = broker.cachedAddresses :=
  AddressBook.addresses_map _ broker.cache

/-! ### Steps and runs -/

namespace Deployment

theorem send_redact (deployment : Deployment) (request : AssumeRoleRequest) :
    (deployment.redact redaction).send request =
      (deployment.send request).changed (Credentials.redact redaction) (redact redaction) := by
  have hcall : (deployment.redact redaction).service.call (deployment.redact redaction).clock =
      (deployment.service.call deployment.clock).redact redaction :=
    deployment.service.call_redact redaction deployment.clock
  simp only [send, hcall, TokenCall.redact]
  cases (deployment.service.call deployment.clock).reply with
  | error error => rfl
  | ok response =>
      have hanswer := map_mapError (response.toCredentials (deployment.service.call
        deployment.clock).clock) Failure.response (Credentials.redact redaction)
      rw [← TokenResponse.toCredentials_redact] at hanswer
      simp only [Report.changed, hanswer]
      rfl

theorem keep_redact (deployment : Deployment) (address : Address) (container : Container)
    (credentials : Credentials) :
    (deployment.redact redaction).keep address container (credentials.redact redaction) =
      (deployment.keep address container credentials).redact redaction := by
  simp only [keep, redact, ← Broker.store_redact]
  rfl

theorem unnoticed_redact : Unnoticed (redact redaction) (Credentials.redact redaction) where
  lookup _ _ := rfl
  reusable deployment address container :=
    deployment.broker.reusable?_redact redaction address container deployment.clock
  request _ _ := rfl
  send := send_redact redaction
  expiration _ := rfl
  keep := keep_redact redaction

theorem build_redact (deployment : Deployment) (environment : Environment)
    (session : Option RegionSession) :
    (deployment.redact redaction).build environment session =
      (deployment.build environment session).changed id (redact redaction) := by
  unfold build
  cases Settings.ofEnvironment environment with
  | error error => rfl
  | ok settings =>
      dsimp only
      cases settings.threshold environment with
      | error error => rfl
      | ok threshold =>
          dsimp only
          cases (settings.connect session).outcome <;> rfl

/-- A step decides nothing by the texts, and redacted texts lead to redacted texts. -/
theorem step_redact (deployment : Deployment) (step : Step) :
    (deployment.redact redaction).step step =
      (deployment.step step).changed (Answer.redact redaction) (redact redaction) := by
  cases step with
  | get address =>
      rw [step, (unnoticed_redact redaction).get]
      exact Report.map_changed fun _ => rfl
  | assumeRole role policy sessionName =>
      rw [step, assumeRole, send_redact]
      exact Report.map_changed fun _ => rfl
  | build environment session =>
      rw [step, build_redact]
      exact Report.map_changed fun _ => rfl
  | addresses =>
      simp only [step, redact, Broker.cachedAddresses_redact]
      rfl
  | lookup address =>
      simp only [step, (unnoticed_redact redaction).lookup]
      cases deployment.lookup address <;> rfl
  | advance micros =>
      simp only [step, advance, redact]
      cases deployment.clock.shift micros <;> rfl
  | platform => rfl
  | put address container => rfl
  | remove address => rfl
  | setOutage message => rfl
  | setScript script => rfl

theorem run_redact (deployment : Deployment) (steps : List Step) :
    (deployment.redact redaction).run steps =
      (deployment.run steps).map fun report =>
        report.changed (Answer.redact redaction) (redact redaction) := by
  induction steps generalizing deployment with
  | nil => rfl
  | cons step steps ih =>
      rw [run_cons, step_redact, run_cons, List.map_cons]
      exact congrArg _ (ih _)

end Deployment

end CredentialBroker
