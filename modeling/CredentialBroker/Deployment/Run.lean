import CredentialBroker.Deployment.Build
import CredentialBroker.Deployment.Issue

/-!
Runs of a deployment: the steps that can be taken, the answer of each, and the reports of a whole
list of steps. A step that fails does not stop those after it.
-/

namespace CredentialBroker

open Time

inductive Step where
  | get (address : Address)
  | assumeRole (role : RoleArn) (policy : Option String) (sessionName : String)
  | addresses
  | platform
  | lookup (address : Address)
  | put (address : Address) (container : Container)
  | remove (address : Address)
  | setOutage (message : Option String)
  | advance (micros : Int)
  | setScript (script : Script)
  | build (environment : Environment) (session : Option RegionSession)

inductive Answer where
  | done
  | credentials (credentials : Credentials)
  | addresses (addresses : List Address)
  | platform (name : String)
  | container (container : Container)
  | startup (startup : Startup)
deriving DecidableEq

namespace Deployment

def updateDirectory (deployment : Deployment) (directory : Directory) : Report Answer :=
  ⟨.ok .done, [], [], { deployment with directory }⟩

def step (deployment : Deployment) : Step → Report Answer
  | .get address => (deployment.get address).map .credentials
  | .assumeRole role policy sessionName =>
    (deployment.assumeRole role policy sessionName).map .credentials
  | .addresses => deployment.unchanged (.ok (.addresses deployment.broker.cachedAddresses))
  | .platform => deployment.unchanged (.ok (.platform deployment.directory.platform))
  | .lookup address => deployment.unchanged ((deployment.lookup address).map .container)
  | .put address container =>
    deployment.updateDirectory (deployment.directory.put address container)
  | .remove address => deployment.updateDirectory (deployment.directory.remove address)
  | .setOutage message => deployment.updateDirectory (deployment.directory.setOutage message)
  | .advance micros => (deployment.advance micros).map fun _ => .done
  | .setScript script =>
    ⟨.ok .done, [], [],
      { deployment with service := { deployment.service with script } }⟩
  | .build environment session => (deployment.build environment session).map .startup

/-- The reports of the steps in turn, each taken on what the one before it left. -/
def run (deployment : Deployment) : List Step → List (Report Answer)
  | [] => []
  | step :: steps =>
    let report := deployment.step step
    report :: report.after.run steps

/-- The deployment after all steps. -/
def runTo (deployment : Deployment) (steps : List Step) : Deployment :=
  steps.foldl (fun current step => (current.step step).after) deployment

/-- A fresh deployment, with a broker that has kept nothing yet. -/
def start (mint : Mint) (directory : Directory) (clock : WallTime) (threshold : LogLevel)
    (defaultRole : RoleArn) (defaultPolicy : Option String) : Deployment where
  directory
  service := .start mint
  clock
  threshold
  broker := .start defaultRole (defaultPolicy.bind Policy.ofText?)

@[simp]
theorem run_nil (deployment : Deployment) : deployment.run [] = [] := rfl

@[simp]
theorem run_cons (deployment : Deployment) (step : Step) (steps : List Step) :
    deployment.run (step :: steps) =
      deployment.step step :: (deployment.step step).after.run steps := rfl

@[simp]
theorem runTo_nil (deployment : Deployment) : deployment.runTo [] = deployment := rfl

@[simp]
theorem runTo_cons (deployment : Deployment) (step : Step) (steps : List Step) :
    deployment.runTo (step :: steps) = (deployment.step step).after.runTo steps := rfl

theorem runTo_append (deployment : Deployment) (first second : List Step) :
    deployment.runTo (first ++ second) = (deployment.runTo first).runTo second :=
  List.foldl_append

theorem run_append (deployment : Deployment) (first second : List Step) :
    deployment.run (first ++ second) =
      deployment.run first ++ (deployment.runTo first).run second := by
  induction first generalizing deployment with
  | nil => rfl
  | cons step first ih =>
      simp only [List.cons_append, run_cons, runTo_cons]
      rw [ih]

@[simp]
theorem length_run (deployment : Deployment) (steps : List Step) :
    (deployment.run steps).length = steps.length := by
  induction steps generalizing deployment with
  | nil => rfl
  | cons step steps ih =>
      rw [run_cons, List.length_cons, List.length_cons, ih]

end Deployment

end CredentialBroker
