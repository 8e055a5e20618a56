import CredentialBroker.Deployment.Issue

/-!
Changes that go unnoticed. Main statement: where a change of the deployment shows neither in what a
get looks at nor in the exchange with the token service, a get on the changed deployment reports what
it would have reported, with the same change made to it.
-/

namespace CredentialBroker

/-- The report with the answer and the deployment that is left changed. -/
def Report.changed {α : Type} (report : Report α) (change : α → α)
    (restate : Deployment → Deployment) : Report α :=
  { report with answer := report.answer.map change, after := restate report.after }

theorem Report.map_changed {α β : Type} {report : Report α} {change : α → α} {other : β → β}
    {restate : Deployment → Deployment} {f : α → β}
    (hcommutes : ∀ value, f (change value) = other (f value)) :
    (report.changed change restate).map f = (report.map f).changed other restate := by
  simp only [Report.map, changed]
  cases report.answer with
  | error failure => rfl
  | ok value => simp only [Except.map, hcommutes]

namespace Deployment

/-- The deployment with credentials kept for the container at an address. -/
def keep (deployment : Deployment) (address : Address) (container : Container)
    (credentials : Credentials) : Deployment :=
  { deployment with broker := deployment.broker.store address ⟨container, credentials⟩ }

/-- A change of deployments, and of the credentials in them, that a get does not notice. -/
structure Unnoticed (restate : Deployment → Deployment) (change : Credentials → Credentials) :
    Prop where
  lookup : ∀ deployment address,
    (restate deployment).lookup address = deployment.lookup address
  reusable : ∀ deployment address container,
    (restate deployment).broker.reusable? address container (restate deployment).clock =
      (deployment.broker.reusable? address container deployment.clock).map (Option.map change)
  request : ∀ deployment container,
    (restate deployment).broker.requestFor (restate deployment).directory.platform container =
      deployment.broker.requestFor deployment.directory.platform container
  send : ∀ deployment request,
    (restate deployment).send request = (deployment.send request).changed change restate
  expiration : ∀ credentials, (change credentials).expiration = credentials.expiration
  keep : ∀ deployment address container credentials,
    (restate deployment).keep address container (change credentials) =
      restate (deployment.keep address container credentials)

namespace Unnoticed

variable {restate : Deployment → Deployment} {change : Credentials → Credentials}

theorem issue (hunnoticed : Unnoticed restate change) (deployment : Deployment)
    (address : Address) (container : Container) (request : AssumeRoleRequest) :
    (restate deployment).issue address container request =
      (deployment.issue address container request).changed change restate := by
  simp only [Deployment.issue, hunnoticed.send, Report.changed]
  cases hanswer : (deployment.send request).answer with
  | error failure => simp only [Except.map, hanswer]
  | ok credentials =>
      have hkeep := hunnoticed.keep (deployment.send request).after address container credentials
      simp only [Deployment.keep] at hkeep
      simp only [Except.map, hunnoticed.expiration, hkeep]

theorem get (hunnoticed : Unnoticed restate change) (deployment : Deployment)
    (address : Address) :
    (restate deployment).get address = (deployment.get address).changed change restate := by
  simp only [Deployment.get, hunnoticed.lookup, hunnoticed.reusable, hunnoticed.request]
  cases deployment.lookup address with
  | error failure => rfl
  | ok container =>
      dsimp only
      cases deployment.broker.reusable? address container deployment.clock with
      | error overflow => rfl
      | ok kept =>
          cases kept with
          | some credentials => rfl
          | none =>
              simp only [Except.map, Option.map_none]
              cases deployment.broker.requestFor deployment.directory.platform container with
              | error failure => rfl
              | ok request => exact hunnoticed.issue deployment address container request

end Unnoticed

end Deployment

end CredentialBroker
