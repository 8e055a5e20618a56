import CredentialBroker.Deployment.Build

/-!
What starting a broker can come to, in the order of the checks. Main statements: a start that
succeeds puts a broker into service that has kept nothing yet, and one that fails leaves the running
broker in service.
-/

namespace CredentialBroker.Deployment

/-- All that a start can come to. -/
inductive BuildCase (deployment : Deployment) (environment : Environment)
    (session : Option RegionSession) (report : Report Startup) : Prop where
  | badSettings (error : SettingsError)
      (hsettings : Settings.ofEnvironment environment = .error error)
      (hreport : report = deployment.unchanged (.error (.settings error)))
  | badLevel (settings : Settings) (error : LevelError)
      (hsettings : Settings.ofEnvironment environment = .ok settings)
      (hthreshold : settings.threshold environment = .error error)
      (hreport : report = deployment.unchanged (.error (.level error)))
  | unconnected (settings : Settings) (threshold : LogLevel) (error : UnknownRegion)
      (hsettings : Settings.ofEnvironment environment = .ok settings)
      (hthreshold : settings.threshold environment = .ok threshold)
      (houtcome : (settings.connect session).outcome = .error error)
      (hreport : report =
        ⟨.error (.unknownRegion error), [], settings.startupEvents, { deployment with threshold }⟩)
  | started (settings : Settings) (threshold : LogLevel)
      (hsettings : Settings.ofEnvironment environment = .ok settings)
      (hthreshold : settings.threshold environment = .ok threshold)
      (houtcome : (settings.connect session).outcome = .ok ())
      (hreport : report =
        ⟨.ok ⟨settings, threshold, (settings.connect session).calls⟩, [], settings.startupEvents,
          { deployment with threshold, broker := .ofSettings settings }⟩)

theorem buildCase (deployment : Deployment) (environment : Environment)
    (session : Option RegionSession) :
    deployment.BuildCase environment session (deployment.build environment session) := by
  cases hsettings : Settings.ofEnvironment environment with
  | error error =>
      refine .badSettings error hsettings ?_
      simp only [build, hsettings]
  | ok settings =>
      cases hthreshold : settings.threshold environment with
      | error error =>
          refine .badLevel settings error hsettings hthreshold ?_
          simp only [build, hsettings, hthreshold]
      | ok threshold =>
          cases houtcome : (settings.connect session).outcome with
          | error error =>
              refine .unconnected settings threshold error hsettings hthreshold houtcome ?_
              simp only [build, hsettings, hthreshold, houtcome]
          | ok _ =>
              refine .started settings threshold hsettings hthreshold houtcome ?_
              simp only [build, hsettings, hthreshold, houtcome]

variable {deployment : Deployment} {environment : Environment} {session : Option RegionSession}

/-- A start that succeeds works with the settings that the environment is read as. -/
theorem settings_of_build {startup : Startup}
    (hanswer : (deployment.build environment session).answer = .ok startup) :
    Settings.ofEnvironment environment = .ok startup.settings := by
  cases deployment.buildCase environment session with
  | badSettings error hsettings hreport =>
      rw [hreport] at hanswer
      cases hanswer
  | badLevel settings error hsettings hthreshold hreport =>
      rw [hreport] at hanswer
      cases hanswer
  | unconnected settings threshold error hsettings hthreshold houtcome hreport =>
      rw [hreport] at hanswer
      cases hanswer
  | started settings threshold hsettings hthreshold houtcome hreport =>
      rw [hreport] at hanswer
      cases hanswer
      exact hsettings

theorem broker_build_of_ok {startup : Startup}
    (hanswer : (deployment.build environment session).answer = .ok startup) :
    (deployment.build environment session).after.broker = .ofSettings startup.settings := by
  cases deployment.buildCase environment session with
  | badSettings error hsettings hreport =>
      rw [hreport] at hanswer
      cases hanswer
  | badLevel settings error hsettings hthreshold hreport =>
      rw [hreport] at hanswer
      cases hanswer
  | unconnected settings threshold error hsettings hthreshold houtcome hreport =>
      rw [hreport] at hanswer
      cases hanswer
  | started settings threshold hsettings hthreshold houtcome hreport =>
      rw [hreport] at hanswer ⊢
      cases hanswer
      rfl

theorem broker_build_of_error {failure : Failure}
    (hanswer : (deployment.build environment session).answer = .error failure) :
    (deployment.build environment session).after.broker = deployment.broker := by
  cases deployment.buildCase environment session with
  | badSettings error hsettings hreport => rw [hreport]; rfl
  | badLevel settings error hsettings hthreshold hreport => rw [hreport]; rfl
  | unconnected settings threshold error hsettings hthreshold houtcome hreport => rw [hreport]
  | started settings threshold hsettings hthreshold houtcome hreport =>
      rw [hreport] at hanswer
      cases hanswer

end CredentialBroker.Deployment
