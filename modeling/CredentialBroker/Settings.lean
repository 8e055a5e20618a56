import CredentialBroker.Container
import CredentialBroker.Log.Level
import CredentialBroker.Text.LowerCase
import CredentialBroker.Text.UpperCase

/-!
Settings read from the process environment. Main statements: reading fails exactly when the user
agent is missing or the default role is not accepted, and the missing user agent is reported first;
the log gets the level of the host where it sets one, but only in place of a level that has a name.
-/

namespace CredentialBroker

open Text

structure Environment where
  bindings : List (String × String)

def Environment.get? (environment : Environment) (name : String) : Option String :=
  environment.bindings.lookup name

/-- A flag is set by the words "true" and "yes", in any letter case and between any blanks. -/
def isTruthy (text : String) : Bool :=
  let word := toLowerCase (strip text.toList)
  word == ['t', 'r', 'u', 'e'] || word == ['y', 'e', 's']

inductive SettingsError where
  | missingUserAgent
  | invalidDefaultRole (error : RoleArnError)
deriving DecidableEq

def SettingsError.message : SettingsError → String
  | .missingUserAgent => "Missing required application environment variable: USER_AGENT_EXTRA"
  | .invalidDefaultRole error => s!"Invalid default IAM role: {error.message}"

structure Settings where
  userAgentExtra : String
  defaultRole : RoleArn
  defaultPolicy : Option Policy
  debugLogging : Bool
deriving DecidableEq

def Settings.ofEnvironment (environment : Environment) : Except SettingsError Settings :=
  match environment.get? "USER_AGENT_EXTRA" with
  | none => .error .missingUserAgent
  | some userAgentExtra =>
    match RoleArn.parse ((environment.get? "DEFAULT_IAM_ROLE").getD "") with
    | .error error => .error (.invalidDefaultRole error)
    | .ok defaultRole =>
      .ok {
        userAgentExtra
        defaultRole
        defaultPolicy := (environment.get? "DEFAULT_IAM_POLICY").bind Policy.ofText?
        debugLogging := isTruthy ((environment.get? "TRACE").getD "False") }

namespace Environment

/-- A variable that is set to some text. -/
def nonempty? (environment : Environment) (name : String) : Option String :=
  (environment.get? name).filter fun text => !text.isEmpty

def levelText (environment : Environment) : String :=
  (environment.nonempty? "POWERTOOLS_LOG_LEVEL").getD
    ((environment.nonempty? "LOG_LEVEL").getD "INFO")

/-- The name of the level that the environment asks for, in upper case. -/
def levelName (environment : Environment) : String :=
  String.ofList (toUpperCase (strip environment.levelText.toList))

/-- A text of blanks only has no name in it, and is reported as it stands. -/
def level (environment : Environment) : Except UnknownLevel LogLevel :=
  if environment.levelName.isEmpty then .error ⟨environment.levelText⟩
  else LogLevel.named environment.levelName

/-- The level that the host of the program sets for all logs. -/
def hostLevel? (environment : Environment) : Option LogLevel :=
  (environment.get? "AWS_LAMBDA_LOG_LEVEL").bind LogLevel.ofHostName?

end Environment

/-- The level that the settings ask for, whatever the host sets. -/
def Settings.ownLevel (settings : Settings) (environment : Environment) :
    Except UnknownLevel LogLevel :=
  if settings.debugLogging then .ok .debug else environment.level

/-- The host's level takes the place of the own one, after the two were weighed against each other. -/
def Settings.threshold (settings : Settings) (environment : Environment) :
    Except LevelError LogLevel :=
  match settings.ownLevel environment, environment.hostLevel? with
  | .ok level, host => .ok (host.getD level)
  | .error error, none => .error (.unknown error)
  | .error error, some _ => .error (.incomparable error)

theorem Settings.threshold_eq_ok_iff {settings : Settings} {environment : Environment}
    {level : LogLevel} :
    settings.threshold environment = .ok level ↔
      ∃ own, settings.ownLevel environment = .ok own ∧
        level = environment.hostLevel?.getD own := by
  rw [Settings.threshold]
  cases settings.ownLevel environment with
  | ok own => simp [eq_comm]
  | error error => cases environment.hostLevel? <;> simp

theorem Settings.ofEnvironment_eq_ok_iff {environment : Environment} {settings : Settings} :
    Settings.ofEnvironment environment = .ok settings ↔
      environment.get? "USER_AGENT_EXTRA" = some settings.userAgentExtra ∧
        RoleArn.parse ((environment.get? "DEFAULT_IAM_ROLE").getD "") = .ok settings.defaultRole ∧
        settings.defaultPolicy = (environment.get? "DEFAULT_IAM_POLICY").bind Policy.ofText? ∧
        settings.debugLogging = isTruthy ((environment.get? "TRACE").getD "False") := by
  obtain ⟨userAgentExtra, defaultRole, defaultPolicy, debugLogging⟩ := settings
  rw [Settings.ofEnvironment]
  cases environment.get? "USER_AGENT_EXTRA" with
  | none => simp
  | some found =>
      cases RoleArn.parse ((environment.get? "DEFAULT_IAM_ROLE").getD "") with
      | error error => simp
      | ok role =>
          simp only [Except.ok.injEq, mk.injEq, Option.some.injEq]
          grind

theorem Settings.ofEnvironment_eq_missingUserAgent_iff {environment : Environment} :
    Settings.ofEnvironment environment = .error .missingUserAgent ↔
      environment.get? "USER_AGENT_EXTRA" = none := by
  rw [Settings.ofEnvironment]
  cases environment.get? "USER_AGENT_EXTRA" with
  | none => simp
  | some _ =>
      cases RoleArn.parse ((environment.get? "DEFAULT_IAM_ROLE").getD "") <;> simp

/-- A default role that is not accepted is reported only where there is a user agent. -/
theorem Settings.ofEnvironment_eq_invalidDefaultRole_iff {environment : Environment}
    {error : RoleArnError} :
    Settings.ofEnvironment environment = .error (.invalidDefaultRole error) ↔
      environment.get? "USER_AGENT_EXTRA" ≠ none ∧
        RoleArn.parse ((environment.get? "DEFAULT_IAM_ROLE").getD "") = .error error := by
  rw [Settings.ofEnvironment]
  cases environment.get? "USER_AGENT_EXTRA" with
  | none => simp
  | some _ =>
      cases RoleArn.parse ((environment.get? "DEFAULT_IAM_ROLE").getD "") <;> simp

end CredentialBroker
