import CredentialBroker.Deployment.Basic

/-!
Issuing credentials. A request is sent at most once; what comes back is kept for the address only
when it is accepted as credentials.
-/

namespace CredentialBroker.Deployment

open Time

def refusalEvents (request : AssumeRoleRequest) : CallError → List LogEvent
  | .refused refusal =>
    if refusal.isReported then [.assumeFailed request.role refusal request.sessionName] else []
  | .overflow _ => []

/-- Sends a request and reads the credentials in the response, which were generated when it arrived. -/
def send (deployment : Deployment) (request : AssumeRoleRequest) : Report Credentials :=
  let call := deployment.service.call deployment.clock
  let after := { deployment with service := call.service, clock := call.clock }
  match call.reply with
  | .error error => ⟨.error error.failure, [request], refusalEvents request error, after⟩
  | .ok response =>
    ⟨(response.toCredentials call.clock).mapError .response, [request], [], after⟩

def assumeRole (deployment : Deployment) (role : RoleArn) (policy : Option String)
    (sessionName : String) : Report Credentials :=
  deployment.send (.build role policy sessionName)

/-- Sends a request on behalf of the container at an address, and keeps the credentials for it. -/
def issue (deployment : Deployment) (address : Address) (container : Container)
    (request : AssumeRoleRequest) : Report Credentials :=
  let report := deployment.send request
  match report.answer with
  | .error _ => report
  | .ok credentials =>
    { report with
      events := report.events ++
        [.issued address container.id request.role request.sessionName credentials.expiration]
      after := { report.after with
        broker := report.after.broker.store address ⟨container, credentials⟩ } }

/-- The credentials for the container at an address: those kept for it where they may be reused, else new ones. -/
def get (deployment : Deployment) (address : Address) : Report Credentials :=
  match deployment.lookup address with
  | .error failure => deployment.unchanged (.error failure)
  | .ok container =>
    match deployment.broker.reusable? address container deployment.clock with
    | .error overflow => deployment.unchanged (.error (.overflow overflow))
    | .ok (some credentials) =>
      ⟨.ok credentials, [], [.reused address container.id], deployment⟩
    | .ok none =>
      match deployment.broker.requestFor deployment.directory.platform container with
      | .error failure => deployment.unchanged (.error failure)
      | .ok request => deployment.issue address container request

end CredentialBroker.Deployment
