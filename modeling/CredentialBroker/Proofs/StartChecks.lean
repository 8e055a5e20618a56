import CredentialBroker.Proofs.Threshold

/-!
The checks of a start. Main statement: a start fails exactly where one of four checks does, with the
failure of the first of them, and succeeds otherwise. A start that fails leaves all as it was, but
for the threshold where only the connection failed, so no later step reports anything else than it
would have reported, the log apart.

The level that the host sets has no say in whether the level text names a level, but an unknown level
is reported otherwise beside it.
-/

namespace CredentialBroker

namespace Environment

def defaultRoleText (environment : Environment) : String :=
  (environment.get? "DEFAULT_IAM_ROLE").getD ""

/-- All that the settings are read from is there and is accepted. -/
def Readable (environment : Environment) : Prop :=
  environment.get? "USER_AGENT_EXTRA" ≠ none ∧
    ∃ role, RoleArn.parse environment.defaultRoleText = .ok role

/-- All events are asked for, and the level text is not looked at. -/
def Traces (environment : Environment) : Prop :=
  ∃ text, environment.get? "TRACE" = some text ∧ isTruthy text = true

def LevelNamed (environment : Environment) : Prop :=
  environment.Traces ∨ environment.levelName ∈ LogLevel.names

/-- The level that is asked for. -/
def AsksFor (environment : Environment) (level : LogLevel) : Prop :=
  (environment.Traces ∧ level = .debug) ∨
    (¬environment.Traces ∧ LogLevel.ofName? environment.levelName = some level)

/-- A level text of blanks only is reported as it stands. -/
def unknownLevel (environment : Environment) : UnknownLevel :=
  ⟨if environment.levelName.isEmpty then environment.levelText else environment.levelName⟩

/-- Beside a level of the host an unknown level is not reported as such. -/
def levelError (environment : Environment) : LevelError :=
  if environment.hostLevel? = none then .unknown environment.unknownLevel
  else .incomparable environment.unknownLevel

end Environment

/-- No partition is known for the region of the session. -/
structure RegionSession.Unlocated (session : RegionSession) (unknown : UnknownRegion) : Prop where
  region : session.region = some unknown.region
  not_empty : unknown.region ≠ ""
  partition : session.partition = .error unknown.reason

/-- The failure of the first check that fails. -/
inductive Environment.FirstFailure (environment : Environment) (session : Option RegionSession) :
    Failure → Prop where
  | userAgent (hagent : environment.get? "USER_AGENT_EXTRA" = none) :
      FirstFailure environment session (.settings .missingUserAgent)
  | defaultRole {error : RoleArnError} (hagent : environment.get? "USER_AGENT_EXTRA" ≠ none)
      (hrole : RoleArn.parse environment.defaultRoleText = .error error) :
      FirstFailure environment session (.settings (.invalidDefaultRole error))
  | level (hreadable : environment.Readable) (hlevel : ¬environment.LevelNamed) :
      FirstFailure environment session (.level environment.levelError)
  | region {opened : RegionSession} {unknown : UnknownRegion} (hreadable : environment.Readable)
      (hlevel : environment.LevelNamed) (hsession : session = some opened)
      (hunlocated : opened.Unlocated unknown) :
      FirstFailure environment session (.unknownRegion unknown)

variable {environment : Environment} {settings : Settings} {session : Option RegionSession}

/-! ### One check after another -/

theorem Environment.exists_settings_iff :
    (∃ settings, Settings.ofEnvironment environment = .ok settings) ↔ environment.Readable := by
  constructor
  · rintro ⟨settings, hsettings⟩
    obtain ⟨hagent, hrole, -⟩ := Settings.ofEnvironment_eq_ok_iff.mp hsettings
    refine ⟨?_, settings.defaultRole, hrole⟩
    rw [hagent]
    exact Option.some_ne_none _
  · rintro ⟨hagent, role, hrole⟩
    obtain ⟨userAgentExtra, hfound⟩ := Option.ne_none_iff_exists'.mp hagent
    exact ⟨⟨userAgentExtra, role, _, _⟩,
      Settings.ofEnvironment_eq_ok_iff.mpr ⟨hfound, hrole, rfl, rfl⟩⟩

theorem Settings.debugLogging_eq_true_iff
    (hsettings : Settings.ofEnvironment environment = .ok settings) :
    settings.debugLogging = true ↔ environment.Traces := by
  obtain ⟨-, -, -, hdebug⟩ := Settings.ofEnvironment_eq_ok_iff.mp hsettings
  rw [hdebug, Environment.Traces]
  cases environment.get? "TRACE" with
  | none => simp [show isTruthy "False" = false by decide]
  | some text => simp

theorem Environment.level_eq_ok_iff {level : LogLevel} :
    environment.level = .ok level ↔ LogLevel.ofName? environment.levelName = some level := by
  rw [Environment.level]
  split
  · rename_i hempty
    rw [String.isEmpty_iff.mp hempty]
    simp [LogLevel.ofName?]
  · exact LogLevel.named_eq_ok_iff

theorem Environment.level_eq_error_iff {unknown : UnknownLevel} :
    environment.level = .error unknown ↔
      environment.levelName ∉ LogLevel.names ∧ unknown = environment.unknownLevel := by
  rw [Environment.level, unknownLevel]
  split
  · rename_i hempty
    have hunnamed : environment.levelName ∉ LogLevel.names := by
      rw [String.isEmpty_iff.mp hempty]
      decide
    rw [Except.error.injEq, eq_comm]
    exact (and_iff_right hunnamed).symm
  · exact LogLevel.named_eq_error_iff

theorem Settings.ownLevel_eq_ok_iff {level : LogLevel}
    (hsettings : Settings.ofEnvironment environment = .ok settings) :
    settings.ownLevel environment = .ok level ↔ environment.AsksFor level := by
  have hdebug := debugLogging_eq_true_iff hsettings
  rw [ownLevel, Environment.AsksFor, ← hdebug, ← Environment.level_eq_ok_iff]
  cases settings.debugLogging <;> simp [eq_comm]

theorem Settings.ownLevel_eq_error_iff {unknown : UnknownLevel}
    (hsettings : Settings.ofEnvironment environment = .ok settings) :
    settings.ownLevel environment = .error unknown ↔
      ¬environment.LevelNamed ∧ unknown = environment.unknownLevel := by
  have hdebug := debugLogging_eq_true_iff hsettings
  rw [ownLevel, Environment.LevelNamed, ← hdebug, not_or, and_assoc,
    ← Environment.level_eq_error_iff]
  cases settings.debugLogging <;> simp

theorem Settings.threshold_eq_error_iff {error : LevelError}
    (hsettings : Settings.ofEnvironment environment = .ok settings) :
    settings.threshold environment = .error error ↔
      ¬environment.LevelNamed ∧ error = environment.levelError := by
  rw [Settings.threshold, Environment.levelError]
  cases hown : settings.ownLevel environment with
  | ok own =>
      have hnamed : ¬¬environment.LevelNamed := by
        intro hunnamed
        rw [(ownLevel_eq_error_iff hsettings).mpr ⟨hunnamed, rfl⟩] at hown
        cases hown
      simp [hnamed]
  | error unknown =>
      obtain ⟨hunnamed, rfl⟩ := (ownLevel_eq_error_iff hsettings).mp hown
      cases environment.hostLevel? <;> simp [hunnamed, eq_comm]

theorem Settings.exists_threshold_iff
    (hsettings : Settings.ofEnvironment environment = .ok settings) :
    (∃ level, settings.threshold environment = .ok level) ↔ environment.LevelNamed := by
  cases hthreshold : settings.threshold environment with
  | error error =>
      have hunnamed := ((threshold_eq_error_iff hsettings).mp hthreshold).1
      simp [hunnamed]
  | ok level =>
      refine iff_of_true ⟨level, rfl⟩ (Classical.byContradiction fun hunnamed => ?_)
      rw [(threshold_eq_error_iff hsettings).mpr ⟨hunnamed, rfl⟩] at hthreshold
      cases hthreshold

/-- A session without a partition is asked for it, and no client is created. -/
theorem RegionSession.Unlocated.connect_eq {opened : RegionSession} {unknown : UnknownRegion}
    (hunlocated : opened.Unlocated unknown) (userAgentExtra : String) :
    opened.connect userAgentExtra = ⟨.error unknown, [.findPartition unknown.region]⟩ := by
  have hregion : (opened.region.filter fun region => !region.isEmpty) = some unknown.region := by
    rw [hunlocated.region]
    simpa using hunlocated.not_empty
  simp only [connect, hregion, hunlocated.partition]

theorem RegionSession.unlocated_of_connect {opened : RegionSession} {userAgentExtra : String}
    {unknown : UnknownRegion}
    (houtcome : (opened.connect userAgentExtra).outcome = .error unknown) :
    opened.Unlocated unknown := by
  unfold connect at houtcome
  split at houtcome
  · cases houtcome
  · rename_i region hregion
    obtain ⟨hfound, hnonempty⟩ := Option.filter_eq_some_iff.mp hregion
    split at houtcome
    · rename_i reason hpartition
      cases houtcome
      exact ⟨hfound, by simpa using hnonempty, hpartition⟩
    · cases houtcome

theorem Settings.outcome_connect_eq_error_iff {unknown : UnknownRegion} :
    (settings.connect session).outcome = .error unknown ↔
      ∃ opened, session = some opened ∧ opened.Unlocated unknown := by
  cases session with
  | none => simp [connect]
  | some opened =>
      simp only [connect, Option.some.injEq, exists_eq_left']
      constructor
      · exact RegionSession.unlocated_of_connect
      · intro hunlocated
        rw [hunlocated.connect_eq]

namespace Deployment

/-- What a start reports that fails, and what it leaves. -/
structure FailedStart (deployment : Deployment) (environment : Environment)
    (session : Option RegionSession) (failure : Failure) (report : Report Startup) : Prop where
  answer : report.answer = .error failure
  requests : report.requests = []
  after : report.after = deployment.atLevel report.after.threshold
  level_kept : (∀ unknown, failure ≠ .unknownRegion unknown) →
    report.after.threshold = deployment.threshold
  level_set : ∀ unknown, failure = .unknownRegion unknown →
    ∃ own, environment.AsksFor own ∧
      report.after.threshold = environment.hostLevel?.getD own
  no_client : ∀ unknown settings options, failure = .unknownRegion unknown →
    Settings.ofEnvironment environment = .ok settings →
    SessionCall.createClient options ∉ (settings.connect session).calls

variable {deployment : Deployment} {failure : Failure}

/-- A start that fails before it sets the threshold leaves everything as it is. -/
theorem failedStart_unchanged (hunconnected : ∀ unknown, failure ≠ .unknownRegion unknown) :
    deployment.FailedStart environment session failure
      (deployment.unchanged (.error failure)) where
  answer := rfl
  requests := rfl
  after := rfl
  level_kept _ := rfl
  level_set unknown hfailure := absurd hfailure (hunconnected unknown)
  no_client unknown _ _ hfailure := absurd hfailure (hunconnected unknown)

theorem failedStart_of_unlocated {opened : RegionSession} {unknown : UnknownRegion}
    {threshold : LogLevel} (hsettings : Settings.ofEnvironment environment = .ok settings)
    (hthreshold : settings.threshold environment = .ok threshold)
    (hunlocated : opened.Unlocated unknown) :
    deployment.FailedStart environment (some opened) (.unknownRegion unknown)
      ⟨.error (.unknownRegion unknown), [], settings.startupEvents,
        { deployment with threshold }⟩ where
  answer := rfl
  requests := rfl
  after := rfl
  level_kept hunconnected := absurd rfl (hunconnected unknown)
  level_set _ _ := by
    obtain ⟨own, hown, hlevel⟩ := Settings.threshold_eq_ok_iff.mp hthreshold
    exact ⟨own, (Settings.ownLevel_eq_ok_iff hsettings).mp hown, hlevel⟩
  no_client _ settings _ _ _ := by
    simp [Settings.connect, hunlocated.connect_eq]

theorem failedStart_of_firstFailure (hfirst : environment.FirstFailure session failure) :
    deployment.FailedStart environment session failure (deployment.build environment session) := by
  cases hfirst with
  | userAgent hagent =>
      have hsettings := Settings.ofEnvironment_eq_missingUserAgent_iff.mpr hagent
      simp only [build, hsettings]
      exact failedStart_unchanged fun _ hfailure => by cases hfailure
  | defaultRole hagent hrole =>
      have hsettings := Settings.ofEnvironment_eq_invalidDefaultRole_iff.mpr ⟨hagent, hrole⟩
      simp only [build, hsettings]
      exact failedStart_unchanged fun _ hfailure => by cases hfailure
  | level hreadable hlevel =>
      obtain ⟨settings, hsettings⟩ := Environment.exists_settings_iff.mpr hreadable
      have hthreshold := (Settings.threshold_eq_error_iff hsettings).mpr ⟨hlevel, rfl⟩
      simp only [build, hsettings, hthreshold]
      exact failedStart_unchanged fun _ hfailure => by cases hfailure
  | region hreadable hlevel hsession hunlocated =>
      obtain ⟨settings, hsettings⟩ := Environment.exists_settings_iff.mpr hreadable
      have houtcome : (settings.connect session).outcome = .error _ :=
        Settings.outcome_connect_eq_error_iff.mpr ⟨_, hsession, hunlocated⟩
      obtain ⟨threshold, hthreshold⟩ := (Settings.exists_threshold_iff hsettings).mpr hlevel
      simp only [build, hsettings, hthreshold, houtcome]
      rw [hsession]
      exact failedStart_of_unlocated hsettings hthreshold hunlocated

theorem firstFailure_of_answer
    (hanswer : (deployment.build environment session).answer = .error failure) :
    environment.FirstFailure session failure := by
  cases deployment.buildCase environment session with
  | badSettings error hsettings hreport =>
      rw [hreport] at hanswer
      cases hanswer
      cases error with
      | missingUserAgent =>
          exact .userAgent (Settings.ofEnvironment_eq_missingUserAgent_iff.mp hsettings)
      | invalidDefaultRole error =>
          obtain ⟨hagent, hrole⟩ :=
            Settings.ofEnvironment_eq_invalidDefaultRole_iff.mp hsettings
          exact .defaultRole hagent hrole
  | badLevel settings error hsettings hthreshold hreport =>
      rw [hreport] at hanswer
      cases hanswer
      obtain ⟨hunnamed, rfl⟩ := (Settings.threshold_eq_error_iff hsettings).mp hthreshold
      exact .level (Environment.exists_settings_iff.mp ⟨settings, hsettings⟩) hunnamed
  | unconnected settings threshold error hsettings hthreshold houtcome hreport =>
      rw [hreport] at hanswer
      cases hanswer
      obtain ⟨opened, hsession, hunlocated⟩ := Settings.outcome_connect_eq_error_iff.mp houtcome
      exact .region (Environment.exists_settings_iff.mp ⟨settings, hsettings⟩)
        ((Settings.exists_threshold_iff hsettings).mp ⟨threshold, hthreshold⟩) hsession hunlocated
  | started settings threshold hsettings hthreshold houtcome hreport =>
      rw [hreport] at hanswer
      cases hanswer

/-- No later step can tell that a start was tried and failed, but by the log. -/
theorem FailedStart.sameButLog {report : Report Startup}
    (hfailed : deployment.FailedStart environment session failure report) (later : List Step)
    (step : Step) :
    SameButLog ((report.after.runTo later).step step) ((deployment.runTo later).step step) := by
  rw [hfailed.after]
  exact deployment.sameButLog_atLevel report.after.threshold deployment.threshold later step

/-- **Start-up.** A start fails exactly with the failure of the first of its checks that fails, and
succeeds where none does. The messages say what is missing, what is not accepted or which level is
not known; beside a level of the host they say no more than that the two cannot be weighed against
each other. No client is asked for where the region has no partition. A failed start
leaves the running broker and all that it works with as they were; the threshold is set only where
the start went on to connect; and all later steps report what they would have reported without it,
the log apart. -/
theorem start_decided_by_first_failed_check (deployment : Deployment) (environment : Environment)
    (session : Option RegionSession) :
    (∀ failure, (deployment.build environment session).answer = .error failure ↔
        environment.FirstFailure session failure) ∧
      ((∀ failure, ¬environment.FirstFailure session failure) →
        ∃ startup, (deployment.build environment session).answer = .ok startup) ∧
      (Failure.settings .missingUserAgent).message =
        "Missing required application environment variable: USER_AGENT_EXTRA" ∧
      (∀ error, (Failure.settings (.invalidDefaultRole error)).message =
        "Invalid default IAM role: " ++ error.message) ∧
      (∀ unknown : UnknownLevel, (Failure.level (.unknown unknown)).message =
        "Unknown level: " ++ Text.quoted unknown.name) ∧
      (∀ unknown : UnknownLevel, (∀ char ∈ unknown.name.toList, Text.IsPlain char) →
        (Failure.level (.unknown unknown)).message = "Unknown level: '" ++ unknown.name ++ "'") ∧
      (∀ unknown : UnknownLevel, (Failure.level (.incomparable unknown)).message =
        "'>' not supported between instances of 'int' and 'str'") ∧
      ∀ failure, environment.FirstFailure session failure →
        deployment.FailedStart environment session failure (deployment.build environment session) ∧
          ∀ later step,
            SameButLog
              (((deployment.build environment session).after.runTo later).step step)
              ((deployment.runTo later).step step) := by
  refine ⟨?_, ?_, rfl, fun _ => rfl, fun _ => rfl, fun _ => UnknownLevel.message_of_isPlain,
    fun _ => rfl, ?_⟩
  · intro failure
    exact ⟨firstFailure_of_answer, fun hfirst => (failedStart_of_firstFailure hfirst).answer⟩
  · intro hnone
    cases hanswer : (deployment.build environment session).answer with
    | error failure => exact absurd (firstFailure_of_answer hanswer) (hnone failure)
    | ok startup => exact ⟨startup, rfl⟩
  · intro failure hfirst
    have hfailed : deployment.FailedStart environment session failure _ :=
      failedStart_of_firstFailure hfirst
    exact ⟨hfailed, hfailed.sameButLog⟩

/-- A session in a region of no partition. -/
def lostSession : RegionSession :=
  ⟨some "mars-1", .error "No partition."⟩

/-- What the search for the partition of that region comes to. -/
def lostRegion : UnknownRegion :=
  ⟨"mars-1", "No partition."⟩

theorem start_decided_by_first_failed_check_lostRegion :
    (Trial.deployment.build Trial.environment (some lostSession)).answer =
        .error (.unknownRegion lostRegion) ∧
      (Trial.deployment.build Trial.environment (some lostSession)).after.threshold = .debug ∧
      Trial.deployment.FailedStart Trial.environment (some lostSession) (.unknownRegion lostRegion)
        (Trial.deployment.build Trial.environment (some lostSession)) ∧
      (∀ char ∈ "BOGUS".toList, Text.IsPlain char) ∧
      (Failure.level (.unknown ⟨"BOGUS"⟩)).message = "Unknown level: 'BOGUS'" := by
  have hfirst : Trial.environment.FirstFailure (some lostSession) (.unknownRegion lostRegion) := by
    refine .region ⟨by decide, ⟨"arn:aws:iam::1:role/shared"⟩, rfl⟩ (Or.inr ?_) rfl
      ⟨rfl, by decide, rfl⟩
    exact List.mem_cons_of_mem _ List.mem_cons_self
  obtain ⟨hanswer, -, -, -, -, hplain, -, hfailed⟩ :=
    start_decided_by_first_failed_check Trial.deployment Trial.environment (some lostSession)
  have hmisnamed : ∀ char ∈ "BOGUS".toList, Text.IsPlain char := by
    have hascii : ∀ char ∈ "BOGUS".toList, 0x20 ≤ char.toNat ∧ char.toNat ≤ 0x7E ∧
        char ≠ '\x27' ∧ char ≠ '\\' := by
      simp
    intro char hmem
    obtain ⟨hlow, hhigh, hplain⟩ := hascii char hmem
    exact ⟨Text.isPrintable_of_ascii hlow hhigh, hplain⟩
  exact ⟨(hanswer _).mpr hfirst, rfl, (hfailed _ hfirst).1, hmisnamed, hplain ⟨"BOGUS"⟩ hmisnamed⟩

/-- A text that names no level, beside a level of the host. -/
def misnamed : Environment :=
  ⟨[("USER_AGENT_EXTRA", "broker/1"), ("LOG_LEVEL", "bogus"), ("AWS_LAMBDA_LOG_LEVEL", "INFO")]⟩

theorem unknown_level_unnamed_beside_host_level :
    misnamed.Readable ∧ ¬misnamed.LevelNamed ∧
      (Trial.deployment.build misnamed none).answer =
        .error (.level (.incomparable ⟨"BOGUS"⟩)) ∧
      ∀ unknown, (Trial.deployment.build misnamed none).answer ≠
        .error (.level (.unknown unknown)) := by
  have hfails : (Trial.deployment.build misnamed none).answer =
      .error (.level (.incomparable ⟨"BOGUS"⟩)) := rfl
  refine ⟨⟨by decide, ⟨""⟩, rfl⟩, ?_, hfails, fun unknown hanswer => ?_⟩
  · rintro (⟨text, htext, -⟩ | hnamed)
    · cases htext
    · revert hnamed
      decide
  · rw [hfails] at hanswer
    cases hanswer

end Deployment

end CredentialBroker
