import CredentialBroker.Proofs.Redaction
import Mathlib.Data.List.Forall2

/-!
Secrets are only handed on. Main statement: two runs of the same steps, in which the token service
issues other secret keys and other session tokens, report the same in every respect, except for those
texts in the credentials that are answered.

Striking the secrets out makes the two deployments equal, and it commutes with every step, so the
reports of the two runs are equal once the secrets are struck out of them too.
-/

namespace CredentialBroker

/-- Secret keys and tokens are struck out, and access keys are kept. -/
def Redaction.secrets : Redaction :=
  ⟨id, fun _ => "", fun _ => ""⟩

def Credentials.withoutSecrets (credentials : Credentials) : Credentials :=
  { credentials with secretKey := "", token := "" }

def Answer.withoutSecrets : Answer → Answer
  | .credentials answered => .credentials answered.withoutSecrets
  | answer => answer

theorem Answer.redact_secrets (answer : Answer) :
    answer.redact .secrets = answer.withoutSecrets := by
  cases answer <;> rfl

namespace Deployment

/-- Two reports that only the secrets of answered credentials can tell apart. -/
structure SameButSecrets (left right : Report Answer) : Prop where
  answer : left.answer.map Answer.withoutSecrets = right.answer.map Answer.withoutSecrets
  requests : left.requests = right.requests
  events : left.events = right.events
  logged : left.logged = right.logged
  cached : left.after.broker.cachedAddresses = right.after.broker.cachedAddresses

variable {left right : Deployment}

theorem sameButSecrets_of_changed_eq {left right : Report Answer}
    (heq : left.changed (Answer.redact .secrets) (redact .secrets) =
      right.changed (Answer.redact .secrets) (redact .secrets)) :
    SameButSecrets left right := by
  simp only [Report.changed, Report.mk.injEq, funext Answer.redact_secrets] at heq
  obtain ⟨hanswer, hrequests, hevents, hafter⟩ := heq
  have hthreshold : left.after.threshold = right.after.threshold := by
    simpa only [redact] using congrArg threshold hafter
  have hcached := congrArg (fun deployment => deployment.broker.cachedAddresses) hafter
  simp only [redact, Broker.cachedAddresses_redact] at hcached
  refine ⟨hanswer, hrequests, hevents, ?_, hcached⟩
  rw [Report.logged, Report.logged, hevents, hthreshold]

/-- Deployments that are the same without their secrets make runs that are. -/
theorem sameButSecrets_run (hsame : left.redact .secrets = right.redact .secrets)
    (steps : List Step) : List.Forall₂ SameButSecrets (left.run steps) (right.run steps) := by
  have hruns := right.run_redact .secrets steps
  rw [← hsame, run_redact, ← List.forall₂_eq_eq_eq, List.forall₂_map_left_iff,
    List.forall₂_map_right_iff] at hruns
  exact hruns.imp fun _ _ => sameButSecrets_of_changed_eq

/-- **Secrecy.** Whatever secret keys and session tokens go with the numbers of the issuing calls,
all steps of a run report the same requests, events and addresses, and give the same answers, up to
the secrets in answered credentials. -/
theorem secrets_stay_in_answers (accessKey leftSecretKey rightSecretKey leftToken rightToken :
      Nat → String)
    (directory : Directory) (clock : Time.WallTime) (threshold : LogLevel) (defaultRole : RoleArn)
    (defaultPolicy : Option String) (steps : List Step) :
    List.Forall₂ SameButSecrets
      ((start ⟨accessKey, leftSecretKey, leftToken⟩ directory clock threshold defaultRole
        defaultPolicy).run steps)
      ((start ⟨accessKey, rightSecretKey, rightToken⟩ directory clock threshold defaultRole
        defaultPolicy).run steps) := by
  refine sameButSecrets_run ?_ steps
  rfl

end Deployment

end CredentialBroker
