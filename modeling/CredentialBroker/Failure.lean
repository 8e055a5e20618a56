import CredentialBroker.Directory
import CredentialBroker.Region
import CredentialBroker.Settings
import CredentialBroker.TokenService.Script

/-!
The ways in which an operation of the broker can fail. Each is the failure of one part, passed on
with that part's own wording.
-/

namespace CredentialBroker

open Time

inductive Failure where
  | directory (error : DirectoryError)
  | noRole (containerId : String)
  | refused (refusal : Refusal)
  | overflow (error : CalendarOverflow)
  | response (error : ResponseError)
  | settings (error : SettingsError)
  | level (error : LevelError)
  | unknownRegion (error : UnknownRegion)
deriving DecidableEq

def Failure.message : Failure → String
  | .directory error => error.message
  | .noRole containerId =>
    s!"container {containerId} has no role and no default role is configured"
  | .refused refusal => refusal.message
  | .overflow error => error.message
  | .response error => error.message
  | .settings error => error.message
  | .level error => error.message
  | .unknownRegion error => error.message

def CallError.failure : CallError → Failure
  | .refused refusal => .refused refusal
  | .overflow error => .overflow error

end CredentialBroker
