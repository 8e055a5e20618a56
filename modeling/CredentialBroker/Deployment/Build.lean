import CredentialBroker.Deployment.Basic

/-!
Starting a broker from the environment. Settings, threshold and connection are checked in this
order, and a failed start leaves the running broker in service.
-/

namespace CredentialBroker

structure Startup where
  settings : Settings
  threshold : LogLevel
  calls : List SessionCall
deriving DecidableEq

def Settings.startupEvents (settings : Settings) : List LogEvent :=
  if settings.defaultRole.isEmpty then [.started, .noDefaultRole] else [.started]

/-- Without a session the broker takes the client that is already there, and no calls are made. -/
def Settings.connect (settings : Settings) (session : Option RegionSession) : Connection :=
  match session with
  | none => ⟨.ok (), []⟩
  | some session => session.connect settings.userAgentExtra

namespace Deployment

def build (deployment : Deployment) (environment : Environment)
    (session : Option RegionSession) : Report Startup :=
  match Settings.ofEnvironment environment with
  | .error error => deployment.unchanged (.error (.settings error))
  | .ok settings =>
    match settings.threshold environment with
    | .error error => deployment.unchanged (.error (.level error))
    | .ok threshold =>
      let connection := settings.connect session
      match connection.outcome with
      | .error error =>
        { answer := .error (.unknownRegion error)
          requests := []
          events := settings.startupEvents
          after := { deployment with threshold } }
      | .ok _ =>
        { answer := .ok ⟨settings, threshold, connection.calls⟩
          requests := []
          events := settings.startupEvents
          after := { deployment with threshold, broker := .ofSettings settings } }

end Deployment

end CredentialBroker
