import CredentialBroker.Broker
import CredentialBroker.Log.Event

/-!
A deployment: the directory, the token service, the clock, the log threshold and the broker that is
in service. An operation on it reports its answer, the requests it sent, the events it put on record
and the deployment as it is afterwards.
-/

namespace CredentialBroker

open Time

structure Deployment where
  directory : Directory
  service : TokenService
  clock : WallTime
  threshold : LogLevel
  broker : Broker

structure Report (α : Type) where
  answer : Except Failure α
  requests : List AssumeRoleRequest
  events : List LogEvent
  after : Deployment

def Report.map {α β : Type} (f : α → β) (report : Report α) : Report β :=
  { answer := report.answer.map f
    requests := report.requests
    events := report.events
    after := report.after }

/-- The events that pass the log. An operation sets the threshold, if at all, before its first event. -/
def Report.logged {α : Type} (report : Report α) : List LogEvent :=
  report.events.filter fun event => report.after.threshold.admits event.level

namespace Deployment

/-- A report without requests, events or any change. -/
def unchanged {α : Type} (deployment : Deployment) (answer : Except Failure α) : Report α :=
  ⟨answer, [], [], deployment⟩

def lookup (deployment : Deployment) (address : Address) : Except Failure Container :=
  (deployment.directory.lookup address).mapError .directory

/-- The clock moves by so many microseconds, unless that leads out of the calendar. -/
def advance (deployment : Deployment) (micros : Int) : Report Unit :=
  match deployment.clock.shift micros with
  | .error overflow => deployment.unchanged (.error (.overflow overflow))
  | .ok clock => ⟨.ok (), [], [], { deployment with clock }⟩

end Deployment

end CredentialBroker
