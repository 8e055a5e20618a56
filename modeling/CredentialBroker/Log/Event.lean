import CredentialBroker.AddressBook
import CredentialBroker.Log.Level
import CredentialBroker.TokenService.Message

/-!
The events that the broker puts on record, each with its level, its message and its details.
-/

namespace CredentialBroker

open Time

inductive LogEvent where
  | started
  | noDefaultRole
  | reused (address : Address) (containerId : String)
  | issued (address : Address) (containerId : String) (role : RoleArn) (sessionName : String)
      (expiration : Moment)
  | assumeFailed (role : RoleArn) (refusal : Refusal) (sessionName : String)
deriving DecidableEq

structure LogDetails where
  containerId : Option String
  role : Option RoleArn
  sessionName : Option String
  expiration : Option String
deriving DecidableEq

def version : String := "1.0.0"

namespace LogEvent

def level : LogEvent → LogLevel
  | started => .info
  | noDefaultRole => .warning
  | reused _ _ => .debug
  | issued _ _ _ _ _ => .info
  | assumeFailed _ _ _ => .error

def message : LogEvent → String
  | started => s!"ContainerCredentials, version {version}"
  | noDefaultRole =>
    "No default IAM role configured, containers without a role will be refused credentials"
  | reused address _ => s!"Reusing cached credentials for {address}"
  | issued address _ _ _ _ => s!"Issued credentials for {address}"
  | assumeFailed role refusal _ => s!"Unable to assume role {role.text}: {refusal.message}"

def details : LogEvent → LogDetails
  | started => ⟨none, none, none, none⟩
  | noDefaultRole => ⟨none, none, none, none⟩
  | reused _ containerId => ⟨some containerId, none, none, none⟩
  | issued _ containerId role sessionName expiration =>
    ⟨some containerId, some role, some sessionName, some expiration.isoText⟩
  | assumeFailed _ _ sessionName => ⟨none, none, some sessionName, none⟩

end LogEvent

end CredentialBroker
