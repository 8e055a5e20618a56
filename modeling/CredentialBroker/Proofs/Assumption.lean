import CredentialBroker.Proofs.Exchange

/-!
What assuming a role comes to. Main statement: one request goes out, with the role and the name as
they were given, and the reply alone settles the answer: the error of the service, or what the
response reads as at the time of its arrival. What is kept, and the directory, stay as they are.

A response reads as exactly one of four things. They are the rules of a relation, which tells
nothing of how the keys are fetched, and the reader is shown to compute that relation.
-/

namespace CredentialBroker

open Time

/-- The keys of a response in the order in which they are read. -/
def ResponseKey.readOrder : List ResponseKey :=
  [.credentials, .accessKeyId, .secretAccessKey, .sessionToken, .expiration]

namespace TokenResponse

/-- Whether there is nothing at the key. All other keys stand within the block of credentials. -/
def lacks (response : TokenResponse) : ResponseKey → Bool
  | .credentials => response.credentials.isNone
  | .accessKeyId => (response.credentials.bind ResponseBlock.accessKeyId).isNone
  | .secretAccessKey => (response.credentials.bind ResponseBlock.secretAccessKey).isNone
  | .sessionToken => (response.credentials.bind ResponseBlock.sessionToken).isNone
  | .expiration => (response.credentials.bind ResponseBlock.expiration).isNone

def firstLacking? (response : TokenResponse) : Option ResponseKey :=
  ResponseKey.readOrder.find? response.lacks

/-- The response that has these values and lacks no key. -/
def complete (accessKey secretKey sessionToken : String) (expiration : Timestamp) :
    TokenResponse :=
  ⟨some ⟨some accessKey, some secretKey, some sessionToken, some expiration⟩⟩

/-- All that a response received at some time can be read as. -/
inductive ReadAs (response : TokenResponse) (received : WallTime) :
    Except ResponseError Credentials → Prop where
  | missing (key : ResponseKey) (hlacking : response.firstLacking? = some key) :
      ReadAs response received (.error (.missing key))
  | withoutOffset (accessKey secretKey sessionToken : String) (expiration : Timestamp)
      (hresponse : response = complete accessKey secretKey sessionToken expiration)
      (hzone : expiration.zone = .none ∨ expiration.zone = .unknown) :
      ReadAs response received (.error (.invalid .timesWithoutOffset))
  | late (accessKey secretKey sessionToken : String) (expiration : Moment)
      (hresponse : response = complete accessKey secretKey sessionToken expiration.timestamp)
      (hlate : expiration.instant < (Moment.ofUtc received).instant) :
      ReadAs response received
        (.error (.invalid (.alreadyExpired (.ofUtc received) expiration)))
  | accepted (accessKey secretKey sessionToken : String) (expiration : Moment)
      (hresponse : response = complete accessKey secretKey sessionToken expiration.timestamp)
      (hordered : (Moment.ofUtc received).instant ≤ expiration.instant) :
      ReadAs response received
        (.ok ⟨accessKey, secretKey, sessionToken, expiration, .ofUtc received, hordered⟩)

variable {response : TokenResponse} {received : WallTime}

/-- The keys are tried in the order of reading, so the first one that is lacking ends the reading. -/
theorem lacking_or_complete (response : TokenResponse) :
    (∃ key, response.firstLacking? = some key ∧
        ∀ received, response.toCredentials received = .error (.missing key)) ∨
      ∃ accessKey secretKey sessionToken expiration,
        response = complete accessKey secretKey sessionToken expiration := by
  match response with
  | ⟨none⟩ => exact Or.inl ⟨.credentials, rfl, fun _ => rfl⟩
  | ⟨some ⟨none, _, _, _⟩⟩ => exact Or.inl ⟨.accessKeyId, rfl, fun _ => rfl⟩
  | ⟨some ⟨some _, none, _, _⟩⟩ => exact Or.inl ⟨.secretAccessKey, rfl, fun _ => rfl⟩
  | ⟨some ⟨some _, some _, none, _⟩⟩ => exact Or.inl ⟨.sessionToken, rfl, fun _ => rfl⟩
  | ⟨some ⟨some _, some _, some _, none⟩⟩ => exact Or.inl ⟨.expiration, rfl, fun _ => rfl⟩
  | ⟨some ⟨some accessKey, some secretKey, some sessionToken, some expiration⟩⟩ =>
      exact Or.inr ⟨accessKey, secretKey, sessionToken, expiration, rfl⟩

theorem toCredentials_of_lacking {key : ResponseKey}
    (hlacking : response.firstLacking? = some key) :
    response.toCredentials received = .error (.missing key) := by
  rcases response.lacking_or_complete with ⟨first, hfirst, hread⟩ | ⟨_, _, _, _, rfl⟩
  · rw [hlacking] at hfirst
    cases hfirst
    exact hread received
  · cases hlacking

theorem toCredentials_complete (accessKey secretKey sessionToken : String)
    (expiration : Timestamp) (received : WallTime) :
    (complete accessKey secretKey sessionToken expiration).toCredentials received =
      (Credentials.create accessKey secretKey sessionToken expiration
        (Moment.ofUtc received).timestamp).mapError .invalid := rfl

/-- Reading a response computes what it is to be read as. -/
theorem toCredentials_eq_iff {result : Except ResponseError Credentials} :
    response.toCredentials received = result ↔ response.ReadAs received result := by
  constructor
  · rintro rfl
    rcases response.lacking_or_complete with
      ⟨key, hlacking, hread⟩ | ⟨accessKey, secretKey, sessionToken, expiration, rfl⟩
    · rw [hread]
      exact .missing key hlacking
    rw [toCredentials_complete]
    cases hmoment : expiration.moment? with
    | none =>
        rw [Credentials.create_of_moment?_eq_none (Or.inl hmoment)]
        exact .withoutOffset accessKey secretKey sessionToken expiration rfl
          (Timestamp.moment?_eq_none_iff.mp hmoment)
    | some moment =>
        rw [Timestamp.moment?_eq_some_iff.mp hmoment]
        rcases Int.lt_or_le moment.instant (Moment.ofUtc received).instant with hlate | hordered
        · rw [Credentials.create_of_late _ _ _ hlate]
          exact .late accessKey secretKey sessionToken moment rfl hlate
        · rw [Credentials.create_of_ordered _ _ _ hordered]
          exact .accepted accessKey secretKey sessionToken moment rfl hordered
  · intro hread
    cases hread with
    | missing key hlacking => exact toCredentials_of_lacking hlacking
    | withoutOffset _ _ _ expiration hresponse hzone =>
        rw [hresponse, toCredentials_complete,
          Credentials.create_of_moment?_eq_none (Or.inl (Timestamp.moment?_eq_none_iff.mpr hzone))]
        rfl
    | late _ _ _ expiration hresponse hlate =>
        rw [hresponse, toCredentials_complete, Credentials.create_of_late _ _ _ hlate]
        rfl
    | accepted _ _ _ expiration hresponse hordered =>
        rw [hresponse, toCredentials_complete, Credentials.create_of_ordered _ _ _ hordered]
        rfl

end TokenResponse

/-- The request for a session of one hour in the role, under the name, and with the policy unless it
is absent or empty. -/
structure AssumeRoleRequest.AsksFor (request : AssumeRoleRequest) (role : RoleArn)
    (policy : Option String) (sessionName : String) : Prop where
  durationSeconds : request.durationSeconds = 3600
  role : request.role = role
  sessionName : request.sessionName = sessionName
  policy : ∀ text, request.policy = some text ↔ policy = some text ∧ text ≠ ""

theorem AssumeRoleRequest.asksFor_build (role : RoleArn) (policy : Option String)
    (sessionName : String) : (build role policy sessionName).AsksFor role policy sessionName where
  durationSeconds := rfl
  role := rfl
  sessionName := rfl
  policy text := by
    simp [build, Option.filter_eq_some_iff]

namespace Deployment

/-- All that an exchange with the token service can be answered with. -/
inductive Outcome (deployment : Deployment) : Except Failure Credentials → Prop where
  | raised (error : CallError) (hreply : deployment.call.reply = .error error) :
      Outcome deployment (.error error.failure)
  | read (response : TokenResponse) (result : Except ResponseError Credentials)
      (hreply : deployment.call.reply = .ok response)
      (hread : response.ReadAs deployment.call.clock result) :
      Outcome deployment (result.mapError .response)

theorem answer_send_eq_iff (deployment : Deployment) (request : AssumeRoleRequest)
    (answer : Except Failure Credentials) :
    (deployment.send request).answer = answer ↔ deployment.Outcome answer := by
  constructor
  · rintro rfl
    cases hreply : deployment.call.reply with
    | error error =>
        rw [send_of_refused hreply]
        exact .raised error hreply
    | ok response =>
        rw [send_of_response hreply]
        exact .read response _ hreply (TokenResponse.toCredentials_eq_iff.mp rfl)
  · intro houtcome
    cases houtcome with
    | raised error hreply => rw [send_of_refused hreply]
    | read response result hreply hread =>
        rw [send_of_response hreply, TokenResponse.toCredentials_eq_iff.mpr hread]

/-- **Assuming a role.** One request is sent, as it was asked for, and the answer is the outcome of
the exchange; the clock is that of the reply, and neither what is kept nor the directory changes. -/
theorem assumed_role_outcome (deployment : Deployment) (role : RoleArn) (policy : Option String)
    (sessionName : String) :
    (∃ request, (deployment.assumeRole role policy sessionName).requests = [request] ∧
        request.AsksFor role policy sessionName) ∧
      (∀ answer, (deployment.assumeRole role policy sessionName).answer = answer ↔
        deployment.Outcome answer) ∧
      (deployment.assumeRole role policy sessionName).after.clock = deployment.call.clock ∧
      (deployment.assumeRole role policy sessionName).after.broker = deployment.broker ∧
      (deployment.assumeRole role policy sessionName).after.directory = deployment.directory := by
  refine ⟨⟨_, deployment.requests_send _, AssumeRoleRequest.asksFor_build role policy sessionName⟩,
    deployment.answer_send_eq_iff _, ?_⟩
  rw [assumeRole, after_send]
  exact ⟨rfl, rfl, rfl⟩

end Deployment

end CredentialBroker
