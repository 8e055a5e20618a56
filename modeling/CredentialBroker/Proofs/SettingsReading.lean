import CredentialBroker.Proofs.Precedence
import CredentialBroker.Proofs.RoleGrammar
import CredentialBroker.Proofs.StartChecks

/-!
How settings are read. Main statement: they can be read exactly from an environment with a user
agent, be it an empty one, and with no default role or one that is accepted; a missing user agent is
reported whatever the default role is. Nothing but four variables counts.

What is read needs no second reading: the default role is accepted again as it stands, and a broker
that is given the default policy as a text takes it unchanged, though it drops blank texts itself.
-/

namespace CredentialBroker

/-- A policy text as a broker takes it: a text of blanks only is dropped. -/
def Policy.normalize (text : Option String) : Option String :=
  (text.bind Policy.ofText?).map Policy.text

/-- The variables that settings are read from. -/
def Settings.variables : List String :=
  ["USER_AGENT_EXTRA", "DEFAULT_IAM_ROLE", "DEFAULT_IAM_POLICY", "TRACE"]

/-- Each of the variables is set to the same text in both environments, or in neither. -/
def Environment.AgreesOn (names : List String) (left right : Environment) : Prop :=
  ∀ name ∈ names, left.get? name = right.get? name

/-- Why an environment cannot be read. A default role is looked at only beside a user agent. -/
inductive Environment.ReadError (environment : Environment) : SettingsError → Prop where
  | userAgent (hagent : environment.get? "USER_AGENT_EXTRA" = none) :
      ReadError environment .missingUserAgent
  | defaultRole {text : String} {error : RoleArnError}
      (hagent : environment.get? "USER_AGENT_EXTRA" ≠ none)
      (hrole : environment.get? "DEFAULT_IAM_ROLE" = some text)
      (hparse : RoleArn.parse text = .error error) :
      ReadError environment (.invalidDefaultRole error)

/-- What settings that are read from the environment come to. -/
structure Settings.ReadFrom (settings : Settings) (environment : Environment) : Prop where
  userAgent : environment.get? "USER_AGENT_EXTRA" = some settings.userAgentExtra
  role_written : RoleArn.Written settings.defaultRole.text
  role_head : ∀ char ∈ settings.defaultRole.text.toList.head?, Text.isBlank char = false
  role_last : ∀ char ∈ settings.defaultRole.text.toList.getLast?, Text.isBlank char = false
  role_reread : RoleArn.parse settings.defaultRole.text = .ok settings.defaultRole
  policy : ∀ text, settings.defaultPolicy.map Policy.text = some text ↔
    environment.get? "DEFAULT_IAM_POLICY" = some text ∧
      ∃ char ∈ text.toList, Text.isBlank char = false
  policy_normal : Policy.normalize (settings.defaultPolicy.map Policy.text) =
    settings.defaultPolicy.map Policy.text
  served : ∀ mint directory clock threshold,
    (Deployment.start mint directory clock threshold settings.defaultRole
      (settings.defaultPolicy.map Policy.text)).broker = .ofSettings settings
  debug : settings.debugLogging = true ↔ environment.Traces

/-! ### Policies as texts -/

theorem Policy.normalize_eq_some_iff {text : Option String} {found : String} :
    normalize text = some found ↔
      text = some found ∧ ∃ char ∈ found.toList, Text.isBlank char = false := by
  constructor
  · intro hnormal
    obtain ⟨policy, hpolicy, rfl⟩ := Option.map_eq_some_iff.mp hnormal
    obtain ⟨original, htext, hread⟩ := Option.bind_eq_some_iff.mp hpolicy
    rw [htext, text_ofText? hread]
    exact ⟨rfl, text_ofText? hread ▸ policy.exists_not_blank⟩
  · rintro ⟨rfl, char, hmem, hchar⟩
    have hpolicy : ¬BlankPolicy (some found) := by
      intro hblank
      rw [hblank found rfl char hmem] at hchar
      cases hchar
    obtain ⟨policy, hbind, htext⟩ := exists_policy_of_not_blankPolicy hpolicy
    rw [normalize, hbind, Option.map_some, htext]

theorem Policy.bind_ofText?_map_text (policy : Option Policy) :
    (policy.map Policy.text).bind ofText? = policy := by
  cases policy with
  | none => rfl
  | some policy => exact policy.ofText?_text

theorem RoleArn.written_of_parse {text : String} {arn : RoleArn} (hparse : parse text = .ok arn) :
    Written arn.text := by
  have hcase := parseCase text
  rw [hparse] at hcase
  cases hcase with
  | accepted hwritten => exact hwritten

namespace Environment

variable {environment other : Environment} {settings : Settings}

/-! ### When settings can be read -/

/-- Leaving out the default role is as good as an empty one, which is accepted. -/
theorem readable_iff :
    environment.Readable ↔
      (∃ agent, environment.get? "USER_AGENT_EXTRA" = some agent) ∧
        ∀ text, environment.get? "DEFAULT_IAM_ROLE" = some text →
          ∃ role, RoleArn.parse text = .ok role := by
  rw [Readable, defaultRoleText, Option.ne_none_iff_exists']
  apply and_congr_right
  intro _
  cases environment.get? "DEFAULT_IAM_ROLE" with
  | none =>
      have hempty : RoleArn.parse "" = .ok .none := rfl
      simp [hempty]
  | some text => simp

theorem ofEnvironment_eq_error_iff {error : SettingsError} :
    Settings.ofEnvironment environment = .error error ↔ environment.ReadError error := by
  constructor
  · intro herror
    cases error with
    | missingUserAgent =>
        exact .userAgent (Settings.ofEnvironment_eq_missingUserAgent_iff.mp herror)
    | invalidDefaultRole error =>
        obtain ⟨hagent, hparse⟩ := Settings.ofEnvironment_eq_invalidDefaultRole_iff.mp herror
        cases hrole : environment.get? "DEFAULT_IAM_ROLE" with
        | none =>
            rw [hrole] at hparse
            cases hparse
        | some text =>
            rw [hrole] at hparse
            exact .defaultRole hagent hrole hparse
  · intro herror
    cases herror with
    | userAgent hagent => exact Settings.ofEnvironment_eq_missingUserAgent_iff.mpr hagent
    | defaultRole hagent hrole hparse =>
        apply Settings.ofEnvironment_eq_invalidDefaultRole_iff.mpr
        rw [hrole]
        exact ⟨hagent, hparse⟩

theorem ofEnvironment_congr (hagrees : environment.AgreesOn Settings.variables other) :
    Settings.ofEnvironment environment = Settings.ofEnvironment other := by
  have hagent := hagrees "USER_AGENT_EXTRA" (by decide)
  have hrole := hagrees "DEFAULT_IAM_ROLE" (by decide)
  have hpolicy := hagrees "DEFAULT_IAM_POLICY" (by decide)
  have htrace := hagrees "TRACE" (by decide)
  rw [Settings.ofEnvironment, Settings.ofEnvironment, hagent, hrole, hpolicy, htrace]

/-! ### What is read -/

theorem policy_text_of_ofEnvironment
    (hsettings : Settings.ofEnvironment environment = .ok settings) :
    settings.defaultPolicy.map Policy.text =
      Policy.normalize (environment.get? "DEFAULT_IAM_POLICY") := by
  obtain ⟨-, -, hpolicy, -⟩ := Settings.ofEnvironment_eq_ok_iff.mp hsettings
  rw [hpolicy, Policy.normalize]

theorem readFrom_of_ofEnvironment
    (hsettings : Settings.ofEnvironment environment = .ok settings) :
    settings.ReadFrom environment := by
  obtain ⟨hagent, hparse, -⟩ := Settings.ofEnvironment_eq_ok_iff.mp hsettings
  have hrole := RoleArn.text_of_parse hparse
  have hreread := Policy.bind_ofText?_map_text settings.defaultPolicy
  refine ⟨hagent, RoleArn.written_of_parse hparse, ?_, ?_, RoleArn.parse_text_of_parse hparse,
    ?_, ?_, ?_, Settings.debugLogging_eq_true_iff hsettings⟩
  · intro char hhead
    rw [hrole, Text.stripped, String.toList_ofList] at hhead
    exact Text.isBlank_head_strip hhead
  · intro char hlast
    rw [hrole, Text.stripped, String.toList_ofList] at hlast
    exact Text.isBlank_last_strip hlast
  · intro text
    rw [policy_text_of_ofEnvironment hsettings]
    exact Policy.normalize_eq_some_iff
  · rw [Policy.normalize, hreread]
  · intro mint directory clock threshold
    change Broker.start settings.defaultRole
      ((settings.defaultPolicy.map Policy.text).bind Policy.ofText?) = _
    rw [hreread, Broker.ofSettings]

/-- **Settings.** An environment can be read exactly when the user agent is set and the default role,
if there is one, is accepted, and otherwise the user agent is reported before the default role. The
default role that is read and the default policy are what reading them once more would make of them.
Environments that agree on the variables of the settings are read alike. -/
theorem settings_read_exactly (environment : Environment) :
    ((∃ settings, Settings.ofEnvironment environment = .ok settings) ↔
        (∃ agent, environment.get? "USER_AGENT_EXTRA" = some agent) ∧
          ∀ text, environment.get? "DEFAULT_IAM_ROLE" = some text →
            ∃ role, RoleArn.parse text = .ok role) ∧
      (∀ error, Settings.ofEnvironment environment = .error error ↔
        environment.ReadError error) ∧
      SettingsError.missingUserAgent.message =
        "Missing required application environment variable: USER_AGENT_EXTRA" ∧
      (∀ error, (SettingsError.invalidDefaultRole error).message =
        "Invalid default IAM role: " ++ error.message) ∧
      (∀ settings, Settings.ofEnvironment environment = .ok settings →
        settings.ReadFrom environment) ∧
      ∀ other : Environment, environment.AgreesOn Settings.variables other →
        Settings.ofEnvironment environment = Settings.ofEnvironment other := by
  refine ⟨?_, ?_, rfl, fun _ => rfl, ?_, ?_⟩
  · rw [exists_settings_iff, readable_iff]
  · intro error
    exact ofEnvironment_eq_error_iff
  · intro settings
    exact readFrom_of_ofEnvironment
  · intro other
    exact ofEnvironment_congr

/-- The user agent is empty, and the default role and the default policy stand between blanks. -/
def padded : Environment :=
  ⟨[("USER_AGENT_EXTRA", ""), ("DEFAULT_IAM_ROLE", " arn:aws:iam::1:role/shared\n"),
    ("DEFAULT_IAM_POLICY", " read-only\n")]⟩

def paddedSettings : Settings :=
  ⟨"", ⟨"arn:aws:iam::1:role/shared"⟩, Policy.ofText? " read-only\n", false⟩

/-- The same variables in another order, among others. -/
def cluttered : Environment :=
  ⟨[("LOG_LEVEL", "bogus"), ("DEFAULT_IAM_POLICY", " read-only\n"), ("USER_AGENT_EXTRA", ""),
    ("TRACES", "yes"), ("DEFAULT_IAM_ROLE", " arn:aws:iam::1:role/shared\n")]⟩

/-- There is no user agent, and the default role would not be accepted either. -/
def anonymous : Environment :=
  ⟨[("DEFAULT_IAM_ROLE", "shared")]⟩

theorem settings_read_exactly_padded :
    Settings.ofEnvironment padded = .ok paddedSettings ∧ paddedSettings.ReadFrom padded ∧
      padded.AgreesOn Settings.variables cluttered ∧
      Settings.ofEnvironment cluttered = .ok paddedSettings ∧
      RoleArn.parse "shared" = .error (.malformed "shared") ∧
      Settings.ofEnvironment anonymous = .error .missingUserAgent := by
  have hpadded : Settings.ofEnvironment padded = .ok paddedSettings := rfl
  have hagrees : padded.AgreesOn Settings.variables cluttered := by
    unfold AgreesOn
    decide
  obtain ⟨-, -, -, -, hread, hsame⟩ := settings_read_exactly padded
  obtain ⟨-, herror, -⟩ := settings_read_exactly anonymous
  refine ⟨hpadded, hread _ hpadded, hagrees, ?_, rfl, ?_⟩
  · rw [← hsame cluttered hagrees, hpadded]
  · apply (herror _).mpr
    exact .userAgent rfl

end Environment

end CredentialBroker
