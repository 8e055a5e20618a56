import CredentialBroker.Credentials.Basic
import CredentialBroker.Time.Utc

/-!
The metadata document that shows credentials to a container, with both times in UTC to the second.
-/

namespace CredentialBroker

open Time

structure MetadataDocument where
  lastUpdated : String
  accessKeyId : String
  secretAccessKey : String
  token : String
  expiration : String
deriving DecidableEq

def MetadataDocument.fields (document : MetadataDocument) : List (String × String) :=
  [("Code", "Success"), ("LastUpdated", document.lastUpdated), ("Type", "AWS-HMAC"),
    ("AccessKeyId", document.accessKeyId), ("SecretAccessKey", document.secretAccessKey),
    ("Token", document.token), ("Expiration", document.expiration)]

/-- There is no document for credentials with a time outside the calendar in UTC. -/
def Credentials.document (credentials : Credentials) : Except CalendarOverflow MetadataDocument := do
  let lastUpdated ← credentials.generatedAt.utcText
  let expiration ← credentials.expiration.utcText
  return ⟨lastUpdated, credentials.accessKey, credentials.secretKey, credentials.token, expiration⟩

theorem Credentials.document_eq_ok_iff {credentials : Credentials} {document : MetadataDocument} :
    credentials.document = .ok document ↔
      ∃ lastUpdated expiration, credentials.generatedAt.utcText = .ok lastUpdated ∧
        credentials.expiration.utcText = .ok expiration ∧
        document = ⟨lastUpdated, credentials.accessKey, credentials.secretKey, credentials.token,
          expiration⟩ := by
  rw [Credentials.document]
  cases credentials.generatedAt.utcText <;> cases credentials.expiration.utcText <;>
    simp [bind, Except.bind, pure, Except.pure, eq_comm]

/-- A failure to write either time is passed on as it is. -/
theorem Credentials.document_mapError {ε : Type} (credentials : Credentials)
    (wrap : CalendarOverflow → ε) :
    credentials.document.mapError wrap =
      (do
        let lastUpdated ← credentials.generatedAt.utcText.mapError wrap
        let expiration ← credentials.expiration.utcText.mapError wrap
        return ⟨lastUpdated, credentials.accessKey, credentials.secretKey, credentials.token,
          expiration⟩) := by
  rw [Credentials.document]
  cases credentials.generatedAt.utcText <;> cases credentials.expiration.utcText <;> rfl

end CredentialBroker
