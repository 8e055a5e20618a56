import CredentialBroker.Container
import CredentialBroker.Credentials.Response

/-!
The messages between the broker and the token service: the request to assume a role, and the ways in
which the service refuses one.
-/

namespace CredentialBroker

/-- The longest session that the service grants for a role that is assumed directly. -/
def sessionSeconds : Nat := 3600

structure AssumeRoleRequest where
  role : RoleArn
  sessionName : String
  policy : Option String
  durationSeconds : Nat
deriving DecidableEq

/-- The policy is left out when it is absent or has no character at all. -/
def AssumeRoleRequest.build (role : RoleArn) (policy : Option String) (sessionName : String) :
    AssumeRoleRequest :=
  ⟨role, sessionName, policy.filter fun text => !text.isEmpty, sessionSeconds⟩

inductive Refusal where
  | client (code message : String)
  | endpoint (url : String)
  | other (message : String)
deriving DecidableEq

def Refusal.message : Refusal → String
  | .client code message =>
    s!"An error occurred ({code}) when calling the AssumeRole operation: {message}"
  | .endpoint url => s!"Could not connect to the endpoint URL: \"{url}\""
  | .other message => message

/-- Refusals by the service and failures of the connection are put on record, others are only passed on. -/
def Refusal.isReported : Refusal → Bool
  | .client _ _ => true
  | .endpoint _ => true
  | .other _ => false

end CredentialBroker
