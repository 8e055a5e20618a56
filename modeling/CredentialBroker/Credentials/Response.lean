import CredentialBroker.Credentials.Basic
import CredentialBroker.Text.Quoted

/-!
Credentials as the token service writes them into its response. Any key may be absent there; the
first absent one, in the order in which the keys are read, is the one reported.
-/

namespace CredentialBroker

open Time

inductive ResponseKey where
  | credentials
  | accessKeyId
  | secretAccessKey
  | sessionToken
  | expiration
deriving DecidableEq

def ResponseKey.name : ResponseKey → String
  | .credentials => "Credentials"
  | .accessKeyId => "AccessKeyId"
  | .secretAccessKey => "SecretAccessKey"
  | .sessionToken => "SessionToken"
  | .expiration => "Expiration"

structure ResponseBlock where
  accessKeyId : Option String
  secretAccessKey : Option String
  sessionToken : Option String
  expiration : Option Timestamp
deriving DecidableEq

structure TokenResponse where
  credentials : Option ResponseBlock
deriving DecidableEq

inductive ResponseError where
  | missing (key : ResponseKey)
  | invalid (error : CredentialsError)
deriving DecidableEq

def ResponseError.message : ResponseError → String
  | .missing key => Text.quoted key.name
  | .invalid error => error.message

def ResponseKey.require {α : Type} (key : ResponseKey) (value : Option α) :
    Except ResponseError α :=
  match value with
  | some value => .ok value
  | none => .error (.missing key)

def ResponseBlock.toCredentials (block : ResponseBlock) (generatedAt : Timestamp) :
    Except ResponseError Credentials := do
  let accessKey ← ResponseKey.accessKeyId.require block.accessKeyId
  let secretKey ← ResponseKey.secretAccessKey.require block.secretAccessKey
  let token ← ResponseKey.sessionToken.require block.sessionToken
  let expiration ← ResponseKey.expiration.require block.expiration
  (Credentials.create accessKey secretKey token expiration generatedAt).mapError .invalid

/-- Where no time of generation is given, the credentials are generated now. -/
def ResponseBlock.toCredentialsAt (block : ResponseBlock) (generatedAt : Option Timestamp)
    (clock : WallTime) : Except ResponseError Credentials :=
  block.toCredentials (generatedAt.getD (Moment.ofUtc clock).timestamp)

/-- The credentials of a response that was received at the given time of the clock. -/
def TokenResponse.toCredentials (response : TokenResponse) (received : WallTime) :
    Except ResponseError Credentials := do
  let block ← ResponseKey.credentials.require response.credentials
  block.toCredentialsAt (some (Moment.ofUtc received).timestamp) received

end CredentialBroker
