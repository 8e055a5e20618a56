import CredentialBroker.Proofs.Kept
import CredentialBroker.Proofs.Unnoticed

/-!
The threshold of the log. Main statement: at another threshold a deployment takes the same steps and
puts the same events on record, and all that differs is which of these events pass the log.

A step sets the threshold to a level of its own or leaves it, whatever it was before. So the threshold
in force is the last level that was set, and two runs that began at different ones report the same
log from the first such step on.
-/

namespace CredentialBroker

/-- The level that the step sets. A start sets one as soon as its settings are read, even where it
fails later on. -/
def Step.level? : Step → Option LogLevel
  | .build environment _ =>
    match Settings.ofEnvironment environment with
    | .error _ => none
    | .ok settings => (settings.threshold environment).toOption
  | _ => none

/-- The threshold in force after the steps: the last level that one of them set, if any did. -/
def levelAfter (level : LogLevel) (steps : List Step) : LogLevel :=
  steps.foldl (fun current step => step.level?.getD current) level

@[simp]
theorem levelAfter_cons (level : LogLevel) (step : Step) (steps : List Step) :
    levelAfter level (step :: steps) = levelAfter (step.level?.getD level) steps := rfl

theorem levelAfter_append (level : LogLevel) (first second : List Step) :
    levelAfter level (first ++ second) = levelAfter (levelAfter level first) second :=
  List.foldl_append

namespace Deployment

def atLevel (deployment : Deployment) (level : LogLevel) : Deployment :=
  { deployment with threshold := level }

/-- Two reports that only the log can tell apart. -/
structure SameButLog (left right : Report Answer) : Prop where
  answer : left.answer = right.answer
  requests : left.requests = right.requests
  events : left.events = right.events
  cached : left.after.broker.cachedAddresses = right.after.broker.cachedAddresses

variable (deployment : Deployment) (level : LogLevel)

theorem send_atLevel (request : AssumeRoleRequest) :
    (deployment.atLevel level).send request =
      (deployment.send request).changed id (atLevel · level) := by
  simp only [send, atLevel]
  cases (deployment.service.call deployment.clock).reply with
  | error error => rfl
  | ok response =>
      dsimp only
      cases response.toCredentials (deployment.service.call deployment.clock).clock <;> rfl

theorem unnoticed_atLevel : Unnoticed (atLevel · level) id where
  lookup _ _ := rfl
  reusable deployment address container := by
    change deployment.broker.reusable? address container deployment.clock = _
    cases deployment.broker.reusable? address container deployment.clock <;> simp [Except.map]
  request _ _ := rfl
  send deployment := deployment.send_atLevel level
  expiration _ := rfl
  keep _ _ _ _ := rfl

theorem build_atLevel (environment : Environment) (session : Option RegionSession) :
    (deployment.atLevel level).build environment session =
      (deployment.build environment session).changed id
        (atLevel · ((Step.build environment session).level?.getD level)) := by
  simp only [build, Step.level?]
  cases Settings.ofEnvironment environment with
  | error error => rfl
  | ok settings =>
      dsimp only
      cases settings.threshold environment with
      | error error => rfl
      | ok threshold =>
          dsimp only
          cases (settings.connect session).outcome <;> rfl

/-- The threshold plays no part in a step but for being passed on where the step sets none. -/
theorem step_atLevel (step : Step) :
    (deployment.atLevel level).step step =
      (deployment.step step).changed id (atLevel · (step.level?.getD level)) := by
  cases step with
  | get address =>
      rw [Deployment.step, (unnoticed_atLevel level).get]
      exact Report.map_changed fun _ => rfl
  | assumeRole role policy sessionName =>
      rw [Deployment.step, assumeRole, send_atLevel]
      exact Report.map_changed fun _ => rfl
  | build environment session =>
      rw [Deployment.step, build_atLevel]
      exact Report.map_changed fun _ => rfl
  | advance micros =>
      simp only [Deployment.step, advance, atLevel]
      cases deployment.clock.shift micros <;> rfl
  | lookup address =>
      simp only [Deployment.step, (unnoticed_atLevel level).lookup]
      cases deployment.lookup address <;> rfl
  | addresses => rfl
  | platform => rfl
  | put address container => rfl
  | remove address => rfl
  | setOutage message => rfl
  | setScript script => rfl

theorem runTo_atLevel (steps : List Step) :
    (deployment.atLevel level).runTo steps =
      (deployment.runTo steps).atLevel (levelAfter level steps) := by
  induction steps generalizing deployment level with
  | nil => rfl
  | cons step steps ih =>
      rw [runTo_cons, step_atLevel, runTo_cons, levelAfter_cons, ← ih]
      rfl

/-- What a step of the run reports at a threshold is what it reports anyway, with the threshold that
is then in force. -/
theorem step_runTo_atLevel (earlier : List Step) (step : Step) :
    ((deployment.atLevel level).runTo earlier).step step =
      ((deployment.runTo earlier).step step).changed id
        (atLevel · (levelAfter level (earlier ++ [step]))) := by
  rw [runTo_atLevel, step_atLevel, levelAfter_append]
  rfl

theorem sameButLog_atLevel (first second : LogLevel) (earlier : List Step) (step : Step) :
    SameButLog (((deployment.atLevel first).runTo earlier).step step)
      (((deployment.atLevel second).runTo earlier).step step) := by
  rw [step_runTo_atLevel, step_runTo_atLevel]
  exact ⟨rfl, rfl, rfl, rfl⟩

end Deployment

end CredentialBroker
