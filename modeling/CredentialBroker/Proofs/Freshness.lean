import CredentialBroker.Proofs.Kept

/-!
No expired credentials are handed out. Main statement: what a get answers is in order and has not
expired when the get is over. Credentials that were kept have the margin left by the test that lets
them be reused; new ones are dated with the arrival of the response, which is when the get is over,
and a response that is past its expiration by then is not accepted.
-/

namespace CredentialBroker

open Time

namespace Deployment

/-- The credentials are fit to be the answer of a get of the address. -/
structure ServesFresh (deployment : Deployment) (address : Address) (credentials : Credentials) :
    Prop where
  ordered : credentials.generatedAt.instant ≤ credentials.expiration.instant
  not_expired : credentials.expiredNow (deployment.get address).after.clock = false
  margin_of_reused : (deployment.get address).requests = [] →
    ((deployment.get address).after.clock.micros : Int) + safetyMargin ≤
      credentials.expiration.instant
  dated_of_sent : (deployment.get address).requests ≠ [] →
    credentials.generatedAt = .ofUtc (deployment.get address).after.clock ∧
      ((deployment.get address).after.clock.micros : Int) =
        deployment.clock.micros + deployment.service.script.delay

variable {deployment : Deployment} {address : Address} {credentials : Credentials}

theorem servesFresh_of_reused (hnone : (deployment.get address).requests = [])
    (hanswer : (deployment.get address).answer = .ok credentials) :
    deployment.ServesFresh address credentials := by
  obtain ⟨_, _, -, -, -, -, hlasts⟩ := exists_reused_of_answer hnone hanswer
  have hafter : (deployment.get address).after = deployment := after_get_of_requests_eq_nil hnone
  have hmargin := safetyMargin_nonneg
  refine ⟨credentials.ordered, ?_, fun _ => ?_, fun hsent => absurd hnone hsent⟩
  · rw [hafter, Credentials.expiredNow_eq_false_iff]
    omega
  · rw [hafter]
    exact hlasts

theorem servesFresh_of_sent (hsent : (deployment.get address).requests ≠ [])
    (hanswer : (deployment.get address).answer = .ok credentials) :
    deployment.ServesFresh address credentials := by
  obtain ⟨container, request, hissued⟩ := exists_issued_of_answer hsent hanswer
  obtain ⟨hafter, hgenerated⟩ := hissued.after_get
  obtain ⟨response, hreply, -⟩ := hissued.carried
  have hclock : (deployment.get address).after.clock = deployment.call.clock := by
    rw [hafter]
    rfl
  refine ⟨credentials.ordered, ?_, fun hnone => absurd hnone hsent, fun _ => ?_⟩
  · -- the response arrived at the clock's time, and credentials are never dated past expiration
    have hordered := credentials.ordered
    rw [hgenerated, Moment.instant_ofUtc] at hordered
    rw [hclock, Credentials.expiredNow_eq_false_iff]
    exact hordered
  · rw [hclock]
    exact ⟨hgenerated, TokenService.micros_clock_call hreply⟩

/-- **Freshness.** At every point of every run, what a get answers is in order and not expired, be
it kept or new. -/
theorem get_serves_fresh (deployment : Deployment) (steps : List Step) (address : Address)
    (credentials : Credentials)
    (hanswer : ((deployment.runTo steps).get address).answer = .ok credentials) :
    (deployment.runTo steps).ServesFresh address credentials := by
  by_cases hnone : ((deployment.runTo steps).get address).requests = []
  · exact servesFresh_of_reused hnone hanswer
  · exact servesFresh_of_sent hnone hanswer

/-- The response takes a minute and a half, its expiration is written five and a half hours east of
UTC, and the second get comes at the last instant at which the margin is left. -/
def lastMinute : List Step :=
  [.setScript
      ⟨90000000, .issue (.fixed ⟨⟨63844911600000000, by decide⟩,
        .known ⟨19800, by decide, by decide⟩⟩) []⟩,
    .get "10.0.0.7", .advance 210000000]

def lastMinuteCredentials : Credentials :=
  ⟨"ASIA1", "secret-1", "token-1",
    ⟨⟨63844911600000000, by decide⟩, ⟨19800, by decide, by decide⟩⟩,
    .ofUtc ⟨63844891290000000, by decide⟩, by decide⟩

theorem get_serves_fresh_lastMinute :
    ((Trial.deployment.runTo lastMinute).get "10.0.0.7").answer = .ok lastMinuteCredentials ∧
      (Trial.deployment.runTo lastMinute).ServesFresh "10.0.0.7" lastMinuteCredentials :=
  ⟨rfl, get_serves_fresh Trial.deployment lastMinute "10.0.0.7" lastMinuteCredentials rfl⟩

end Deployment

end CredentialBroker
