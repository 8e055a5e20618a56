import CredentialBroker.Deployment.Issue

/-!
The exchange with the token service. What sending a request can come to is said once, with all that
the report holds, so that no later proof opens the operation again. Main statements: credentials
come from one response and are dated with the time at which it arrived, and an exchange touches the
clock and the count of issuing calls alone.
-/

namespace CredentialBroker

open Time

theorem bind_eq_ok_iff {ε α β : Type} {first : Except ε α} {next : α → Except ε β} {value : β} :
    (first >>= next) = .ok value ↔ ∃ middle, first = .ok middle ∧ next middle = .ok value := by
  cases first <;> simp [bind, Except.bind]

theorem mapError_eq_ok_iff {ε δ α : Type} {result : Except ε α} {wrap : ε → δ} {value : α} :
    result.mapError wrap = .ok value ↔ result = .ok value := by
  cases result with
  | error error =>
      constructor
      · intro heq
        cases heq
      · intro heq
        cases heq
  | ok found =>
      constructor
      · intro heq
        exact congrArg Except.ok (Except.ok.inj heq)
      · intro heq
        exact congrArg Except.ok (Except.ok.inj heq)

theorem Time.Moment.timestamp_inj {left right : Moment} :
    left.timestamp = right.timestamp ↔ left = right := by
  constructor
  · intro heq
    have hmoment := congrArg Timestamp.moment? heq
    simpa using hmoment
  · exact congrArg Moment.timestamp

theorem ResponseKey.require_eq_ok_iff {α : Type} {key : ResponseKey} {value : Option α}
    {found : α} :
    key.require value = .ok found ↔ value = some found := by
  cases value <;> simp [ResponseKey.require]

/-- The response holds what the credentials hold, the time of its arrival apart. -/
def TokenResponse.Carries (response : TokenResponse) (credentials : Credentials) : Prop :=
  response.credentials =
    some ⟨some credentials.accessKey, some credentials.secretKey, some credentials.token,
      some credentials.expiration.timestamp⟩

theorem ResponseBlock.toCredentialsAt_eq_ok_iff {block : ResponseBlock}
    {generatedAt : Option Timestamp} {clock : WallTime} {credentials : Credentials} :
    block.toCredentialsAt generatedAt clock = .ok credentials ↔
      block = ⟨some credentials.accessKey, some credentials.secretKey, some credentials.token,
          some credentials.expiration.timestamp⟩ ∧
        credentials.generatedAt.timestamp = generatedAt.getD (Moment.ofUtc clock).timestamp := by
  obtain ⟨accessKeyId, secretAccessKey, sessionToken, expiration⟩ := block
  simp only [toCredentialsAt, toCredentials, bind_eq_ok_iff, ResponseKey.require_eq_ok_iff,
    mapError_eq_ok_iff, Credentials.create_eq_ok_iff, mk.injEq]
  constructor
  · rintro ⟨_, rfl, _, rfl, _, rfl, _, rfl, rfl, rfl, rfl, rfl, hgenerated⟩
    exact ⟨⟨rfl, rfl, rfl, rfl⟩, hgenerated.symm⟩
  · rintro ⟨⟨rfl, rfl, rfl, rfl⟩, hgenerated⟩
    exact ⟨_, rfl, _, rfl, _, rfl, _, rfl, rfl, rfl, rfl, rfl, hgenerated.symm⟩

/-- A response is read as credentials only when it has every key, and nothing but the time at which
it was received enters them beside it. -/
theorem TokenResponse.toCredentials_eq_ok_iff {response : TokenResponse} {received : WallTime}
    {credentials : Credentials} :
    response.toCredentials received = .ok credentials ↔
      response.Carries credentials ∧ credentials.generatedAt = .ofUtc received := by
  simp only [toCredentials, bind_eq_ok_iff, ResponseKey.require_eq_ok_iff,
    ResponseBlock.toCredentialsAt_eq_ok_iff, Option.getD_some, Moment.timestamp_inj, Carries]
  constructor
  · rintro ⟨_, hblock, rfl, hreceived⟩
    exact ⟨hblock, hreceived⟩
  · rintro ⟨hblock, hreceived⟩
    exact ⟨_, hblock, rfl, hreceived⟩

/-- A reply with a response is there when the delay is over, and not before. -/
theorem TokenService.micros_clock_call {service : TokenService} {start : WallTime}
    {response : TokenResponse} (hreply : (service.call start).reply = .ok response) :
    ((service.call start).clock.micros : Int) = start.micros + service.script.delay := by
  cases hshift : start.shift service.script.delay with
  | error overflow =>
      rw [call, hshift] at hreply
      cases hreply
  | ok clock =>
      have hclock : (service.call start).clock = clock := by
        rw [call, hshift]
        cases service.script.reply <;> rfl
      rw [hclock]
      exact WallTime.shift_eq_ok_iff.mp hshift

/-- Whatever a call comes to, the service goes on as before but for the count of issuing calls. -/
theorem TokenService.service_call (service : TokenService) (start : WallTime) :
    (service.call start).service =
      { service with issued := (service.call start).service.issued } := by
  have hmint := service.call_mint start
  have hscript := service.call_script start
  generalize (service.call start).service = left at hmint hscript ⊢
  rw [← hmint, ← hscript]

namespace Deployment

/-- The call that a request leads to when it is sent now. -/
def call (deployment : Deployment) : TokenCall :=
  deployment.service.call deployment.clock

/-- The deployment once the token service has replied. -/
def afterCall (deployment : Deployment) : Deployment :=
  { deployment with service := deployment.call.service, clock := deployment.call.clock }

variable {deployment : Deployment} {request : AssumeRoleRequest}

theorem send_of_refused {error : CallError}
    (hreply : deployment.call.reply = .error error) :
    deployment.send request =
      ⟨.error error.failure, [request], refusalEvents request error, deployment.afterCall⟩ := by
  rw [call] at hreply
  simp only [send, hreply]
  rfl

theorem send_of_response {response : TokenResponse}
    (hreply : deployment.call.reply = .ok response) :
    deployment.send request =
      ⟨(response.toCredentials deployment.call.clock).mapError .response, [request], [],
        deployment.afterCall⟩ := by
  rw [call] at hreply
  simp only [send, hreply]
  rfl

/-- All that sending a request can come to. -/
inductive SendCase (deployment : Deployment) (request : AssumeRoleRequest)
    (report : Report Credentials) : Prop where
  | refused (error : CallError) (hreply : deployment.call.reply = .error error)
      (hreport : report =
        ⟨.error error.failure, [request], refusalEvents request error, deployment.afterCall⟩)
  | rejected (response : TokenResponse) (error : ResponseError)
      (hreply : deployment.call.reply = .ok response)
      (hread : response.toCredentials deployment.call.clock = .error error)
      (hreport : report = ⟨.error (.response error), [request], [], deployment.afterCall⟩)
  | accepted (response : TokenResponse) (credentials : Credentials)
      (hreply : deployment.call.reply = .ok response)
      (hread : response.toCredentials deployment.call.clock = .ok credentials)
      (hreport : report = ⟨.ok credentials, [request], [], deployment.afterCall⟩)

theorem sendCase (deployment : Deployment) (request : AssumeRoleRequest) :
    deployment.SendCase request (deployment.send request) := by
  cases hreply : deployment.call.reply with
  | error error => exact .refused error hreply (send_of_refused hreply)
  | ok response =>
      have hreport : deployment.send request = _ := send_of_response hreply
      cases hread : response.toCredentials deployment.call.clock with
      | error error =>
          rw [hread] at hreport
          exact .rejected response error hreply hread hreport
      | ok credentials =>
          rw [hread] at hreport
          exact .accepted response credentials hreply hread hreport

theorem after_send (deployment : Deployment) (request : AssumeRoleRequest) :
    (deployment.send request).after = deployment.afterCall := by
  cases deployment.sendCase request with
  | refused error hreply hreport => rw [hreport]
  | rejected response error hreply hread hreport => rw [hreport]
  | accepted response credentials hreply hread hreport => rw [hreport]

theorem requests_send (deployment : Deployment) (request : AssumeRoleRequest) :
    (deployment.send request).requests = [request] := by
  cases deployment.sendCase request with
  | refused error hreply hreport => rw [hreport]
  | rejected response error hreply hread hreport => rw [hreport]
  | accepted response credentials hreply hread hreport => rw [hreport]

/-- An exchange moves the clock and the count of issuing calls, and nothing else. -/
theorem afterCall_eq (deployment : Deployment) :
    deployment.afterCall =
      { deployment with
        clock := deployment.afterCall.clock
        service := { deployment.service with issued := deployment.afterCall.service.issued } } := by
  have hservice := deployment.service.service_call deployment.clock
  rw [← call] at hservice
  unfold afterCall
  rw [hservice]

end Deployment

end CredentialBroker
