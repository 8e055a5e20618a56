import CredentialBroker.Proofs.Effect
import CredentialBroker.Proofs.Serial
import CredentialBroker.Proofs.WrittenTime
import Mathlib.Data.List.Forall2

/-!
The events as an audit trail. Main statement: a get puts at most one event on record, whose level says
how the get ended: from the cache, with new credentials, or with a refusal by the token service; a
get that fails in any other way is not on record. Over a run the records of issued credentials are
those of the writes into the cache, one for each and in the same order.

A get sends its request at most once, so the ways in which it can end exclude each other, and what
is on record follows from which of them it was. A run is compared with its writes step by step.
-/

namespace CredentialBroker

/-- The token service refuses by itself, or it cannot be reached. -/
inductive Refusal.Reported : Refusal → Prop where
  | client (code message : String) : Reported (.client code message)
  | endpoint (url : String) : Reported (.endpoint url)

/-- An entry that goes into the cache, with the address and the request that it was issued on. -/
structure CacheWrite where
  address : Address
  entry : CacheEntry
  request : AssumeRoleRequest

def CacheWrite.event (write : CacheWrite) : LogEvent :=
  .issued write.address write.entry.container.id write.request.role write.request.sessionName
    write.entry.credentials.expiration

/-- The record tells for whom, for which role and name, and until when credentials were issued. The
last is told by the only text that reads as the moment of their expiration. -/
structure LogEvent.Attests (event : LogEvent) (write : CacheWrite) : Prop where
  level : event.level = .info
  message : event.message = "Issued credentials for " ++ write.address
  details : ∃ expiration, event.details =
      ⟨some write.entry.container.id, some write.request.role, some write.request.sessionName,
        some expiration⟩ ∧
    ∀ text : String, text = expiration ↔
      Time.Moment.ofIsoChars? text.toList = some write.entry.credentials.expiration

def LogEvent.isIssue : LogEvent → Bool
  | .issued _ _ _ _ _ => true
  | _ => false

theorem CacheWrite.attests_event (write : CacheWrite) : write.event.Attests write where
  level := rfl
  message := rfl
  details := ⟨_, rfl, fun _ => Time.Moment.ofIsoChars?_toList_eq_some_iff.symm⟩

namespace Deployment

/-- A get of the address answers what is kept for it, and sends nothing. -/
structure AnswersFromCache (deployment : Deployment) (address : Address) (container : Container)
    (entry : CacheEntry) : Prop where
  found : deployment.lookup address = .ok container
  kept : deployment.broker.cache.get? address = some entry
  answered : (deployment.get address).answer = .ok entry.credentials
  not_sent : (deployment.get address).requests = []

/-- The step issues credentials and stores them. -/
structure Writes (deployment : Deployment) (step : Step) (write : CacheWrite) : Prop where
  step_eq : step = .get write.address
  issued : deployment.Issued write.address write.entry write.request
  stored : (deployment.step step).after.broker =
    deployment.broker.store write.address write.entry

/-- A request that is sent now is met with this refusal, which is one to be reported. -/
structure Refuses (deployment : Deployment) (refusal : Refusal) : Prop where
  reply : deployment.call.reply = .error (.refused refusal)
  reported : refusal.Reported

/-- All that a get can put on record. -/
inductive GetRecord (deployment : Deployment) (address : Address) : List LogEvent → Prop where
  | reused {container : Container} {entry : CacheEntry}
      (hcached : deployment.AnswersFromCache address container entry) :
      GetRecord deployment address [.reused address container.id]
  | issued {write : CacheWrite} (hwrites : deployment.Writes (.get address) write) :
      GetRecord deployment address [write.event]
  | refused {request : AssumeRoleRequest} {refusal : Refusal}
      (hsent : (deployment.get address).requests = [request])
      (hrefuses : deployment.Refuses refusal) :
      GetRecord deployment address [.assumeFailed request.role refusal request.sessionName]
  | nothing {failure : Failure} (hanswer : (deployment.get address).answer = .error failure)
      (hquiet : (deployment.get address).requests = [] ∨ ∀ refusal, ¬deployment.Refuses refusal) :
      GetRecord deployment address []

/-- How a get ends that puts a record of the level on record. -/
def EndsAt (deployment : Deployment) (address : Address) : LogLevel → Prop
  | .debug => ∃ container entry, deployment.AnswersFromCache address container entry
  | .info => ∃ write, deployment.Writes (.get address) write
  | .error => (deployment.get address).requests ≠ [] ∧ ∃ refusal, deployment.Refuses refusal
  | _ => False

/-- What is on record of a get, by the levels of the records. -/
structure AuditedGet (deployment : Deployment) (address : Address) : Prop where
  at_most_one : (deployment.get address).events.length ≤ 1
  debug_iff : (∃ event ∈ (deployment.get address).events, event.level = .debug) ↔
    ∃ container entry, deployment.AnswersFromCache address container entry
  info_iff : (∃ event ∈ (deployment.get address).events, event.level = .info) ↔
    ∃ write, deployment.Writes (.get address) write
  attested : ∀ write, deployment.Writes (.get address) write →
    ∃ event, (deployment.get address).events = [event] ∧ event.Attests write
  error_iff : (∃ event ∈ (deployment.get address).events, event.level = .error) ↔
    (deployment.get address).requests ≠ [] ∧ ∃ refusal, deployment.Refuses refusal
  other_failure : ∀ failure, (deployment.get address).answer = .error failure →
    ¬((deployment.get address).requests ≠ [] ∧ ∃ refusal, deployment.Refuses refusal) →
    (deployment.get address).events = []

/-- What is on record of a request that is sent directly. -/
structure AuditedRequest (deployment : Deployment) (events : List LogEvent) : Prop where
  at_most_one : events.length ≤ 1
  errors_only : ∀ event ∈ events, event.level = .error
  error_iff : events ≠ [] ↔ ∃ refusal, deployment.Refuses refusal

/-- The writes into the cache in the course of the steps, in their order. -/
inductive WrittenInTurn : Deployment → List Step → List CacheWrite → Prop where
  | done (deployment : Deployment) : WrittenInTurn deployment [] []
  | written {deployment : Deployment} {step : Step} {steps : List Step} {write : CacheWrite}
      {writes : List CacheWrite} (hwrites : deployment.Writes step write)
      (hrest : WrittenInTurn (deployment.step step).after steps writes) :
      WrittenInTurn deployment (step :: steps) (write :: writes)
  | passed {deployment : Deployment} {step : Step} {steps : List Step} {writes : List CacheWrite}
      (hnone : ∀ write, ¬deployment.Writes step write)
      (hrest : WrittenInTurn (deployment.step step).after steps writes) :
      WrittenInTurn deployment (step :: steps) writes

/-- The records of issued credentials in the course of the steps, whatever passes the log. -/
def issueRecords (deployment : Deployment) (steps : List Step) : List LogEvent :=
  ((deployment.run steps).flatMap Report.events).filter LogEvent.isIssue

variable {deployment : Deployment} {address : Address} {step : Step} {steps : List Step}
  {write other : CacheWrite} {writes : List CacheWrite} {refusal : Refusal}
  {request : AssumeRoleRequest}

/-! ### The record of a request -/

theorem events_send_of_refuses (hrefuses : deployment.Refuses refusal)
    (request : AssumeRoleRequest) :
    (deployment.send request).events =
      [.assumeFailed request.role refusal request.sessionName] := by
  rw [send_of_refused hrefuses.reply]
  cases hrefuses.reported with
  | client code message => rfl
  | endpoint url => rfl

theorem events_send_of_quiet (hquiet : ∀ refusal, ¬deployment.Refuses refusal)
    (request : AssumeRoleRequest) : (deployment.send request).events = [] := by
  cases deployment.sendCase request with
  | refused error hreply hreport =>
      rw [hreport]
      cases error with
      | overflow overflow => rfl
      | refused refusal =>
          cases refusal with
          | client code message => exact absurd ⟨hreply, .client code message⟩ (hquiet _)
          | endpoint url => exact absurd ⟨hreply, .endpoint url⟩ (hquiet _)
          | other message => rfl
  | rejected response error hreply hread hreport => rw [hreport]
  | accepted response credentials hreply hread hreport => rw [hreport]

theorem auditedRequest_send (deployment : Deployment) (request : AssumeRoleRequest) :
    deployment.AuditedRequest (deployment.send request).events := by
  by_cases hrefuses : ∃ refusal, deployment.Refuses refusal
  · obtain ⟨refusal, hrefuses⟩ := hrefuses
    rw [events_send_of_refuses hrefuses]
    refine ⟨Nat.le_refl 1, ?_, iff_of_true (List.cons_ne_nil _ _) ⟨refusal, hrefuses⟩⟩
    intro event hmem
    rw [List.mem_singleton.mp hmem]
    rfl
  · rw [events_send_of_quiet (not_exists.mp hrefuses)]
    refine ⟨Nat.zero_le 1, ?_, iff_of_false (not_not_intro rfl) hrefuses⟩
    intro event hmem
    cases hmem

/-! ### The record of a get -/

theorem RequestDue.getRecord {container : Container}
    (hdue : deployment.RequestDue address container request) :
    deployment.GetRecord address (deployment.get address).events := by
  cases issueCase hdue with
  | failed failure hsend hreport =>
      have hanswer : (deployment.get address).answer = .error failure := by
        rw [hreport, hsend]
      have hevents : (deployment.get address).events = (deployment.send request).events := by
        rw [hreport]
      rw [hevents]
      by_cases hrefuses : ∃ refusal, deployment.Refuses refusal
      · obtain ⟨refusal, hrefuses⟩ := hrefuses
        rw [events_send_of_refuses hrefuses]
        exact .refused (requests_get_of_requestDue hdue) hrefuses
      · rw [events_send_of_quiet (not_exists.mp hrefuses)]
        exact .nothing hanswer (Or.inr (not_exists.mp hrefuses))
  | accepted response credentials hreply hread hreport =>
      have hevents : (deployment.get address).events =
          [(CacheWrite.mk address ⟨container, credentials⟩ request).event] := by
        rw [hreport]
        rfl
      rw [hevents]
      refine .issued ⟨rfl, hdue.issued hreply hread, ?_⟩
      change (deployment.get address).after.broker = _
      rw [hreport]
      rfl

theorem getRecord (deployment : Deployment) (address : Address) :
    deployment.GetRecord address (deployment.get address).events := by
  rcases deployment.idleCase_or_requestDue address with hidle | ⟨container, request, hdue⟩
  · have hnone := hidle.requests_and_after.1
    -- the failures before a request differ in their answers only
    have hsilent {failure : Failure}
        (hreport : deployment.get address = deployment.unchanged (.error failure)) :
        deployment.GetRecord address (deployment.get address).events := by
      have hevents : (deployment.get address).events = [] := by
        rw [hreport]
        rfl
      have hanswer : (deployment.get address).answer = .error failure := by
        rw [hreport]
        rfl
      rw [hevents]
      exact .nothing hanswer (Or.inl hnone)
    cases hidle with
    | lookupFailed error hlookup hreport => exact hsilent hreport
    | overflowed container overflow hlookup hreusable hreport => exact hsilent hreport
    | noRole container hlookup hreusable hnoRole hreport => exact hsilent hreport
    | reused container credentials hlookup hreusable hreport =>
        obtain ⟨entry, hentry, rfl, -⟩ := Broker.reusable?_eq_some_iff.mp hreusable
        have hevents : (deployment.get address).events = [.reused address container.id] := by
          rw [hreport]
        rw [hevents]
        refine .reused ⟨hlookup, hentry, ?_, hnone⟩
        rw [hreport]
  · exact hdue.getRecord

theorem Writes.not_refuses (hwrites : deployment.Writes step write) :
    ¬deployment.Refuses refusal := by
  intro hrefuses
  obtain ⟨response, hreply, -⟩ := hwrites.issued.carried
  rw [hrefuses.reply] at hreply
  cases hreply

theorem Writes.sent (hwrites : deployment.Writes (.get address) write) :
    (deployment.get address).requests = [write.request] ∧
      (deployment.get address).answer = .ok write.entry.credentials := by
  have haddress : address = write.address := Step.get.inj hwrites.step_eq
  rw [haddress]
  exact ⟨hwrites.issued.sent, hwrites.issued.answered⟩

theorem Writes.unique (hwrites : deployment.Writes step write)
    (hother : deployment.Writes step other) : write = other := by
  obtain ⟨address, entry, request⟩ := write
  obtain ⟨otherAddress, otherEntry, otherRequest⟩ := other
  have haddress : address = otherAddress :=
    Step.get.inj (hwrites.step_eq.symm.trans hother.step_eq)
  subst haddress
  have hentry : entry = otherEntry := hwrites.issued.entry_eq hother.issued
  have hrequest : [request] = [otherRequest] := hwrites.issued.sent.symm.trans hother.issued.sent
  rw [hentry, List.singleton_inj.mp hrequest]

theorem events_get_of_writes (hwrites : deployment.Writes (.get address) write) :
    (deployment.get address).events = [write.event] := by
  obtain ⟨hsent, hanswered⟩ := hwrites.sent
  -- every other record goes with no request, with a refusal or with a failure
  have hrecord := deployment.getRecord address
  generalize (deployment.get address).events = events at hrecord ⊢
  cases hrecord with
  | reused hcached =>
      rw [hcached.not_sent] at hsent
      cases hsent
  | issued hfound => rw [hwrites.unique hfound]
  | refused _ hrefuses => exact absurd hrefuses hwrites.not_refuses
  | nothing hanswer =>
      rw [hanswer] at hanswered
      cases hanswered

theorem events_get_of_cached {container : Container} {entry : CacheEntry}
    (hcached : deployment.AnswersFromCache address container entry) :
    (deployment.get address).events = [.reused address container.id] := by
  have hrecord := deployment.getRecord address
  generalize (deployment.get address).events = events at hrecord ⊢
  cases hrecord with
  | reused hfound => rw [Except.ok.inj (hcached.found.symm.trans hfound.found)]
  | issued hwrites =>
      have hsent := hwrites.sent.1
      rw [hcached.not_sent] at hsent
      cases hsent
  | refused hsent =>
      rw [hcached.not_sent] at hsent
      cases hsent
  | nothing hanswer =>
      rw [hcached.answered] at hanswer
      cases hanswer

theorem exists_events_get_of_refuses (hsent : (deployment.get address).requests ≠ [])
    (hrefuses : deployment.Refuses refusal) :
    ∃ event, (deployment.get address).events = [event] ∧ event.level = .error := by
  have hrecord := deployment.getRecord address
  generalize (deployment.get address).events = events at hrecord ⊢
  cases hrecord with
  | reused hcached => exact absurd hcached.not_sent hsent
  | issued hwrites => exact absurd hrefuses hwrites.not_refuses
  | refused => exact ⟨_, rfl, rfl⟩
  | nothing _ hquiet =>
      rcases hquiet with hnone | hquiet
      · exact absurd hnone hsent
      · exact absurd hrefuses (hquiet refusal)

theorem GetRecord.length_le {events : List LogEvent}
    (hrecord : deployment.GetRecord address events) : events.length ≤ 1 := by
  cases hrecord with
  | nothing => exact Nat.zero_le 1
  | _ => exact Nat.le_refl 1

/-- The level of a record says how the get ended. -/
theorem GetRecord.endsAt {events : List LogEvent} {event : LogEvent}
    (hrecord : deployment.GetRecord address events) (hmem : event ∈ events) :
    deployment.EndsAt address event.level := by
  cases hrecord with
  | reused hcached =>
      rw [List.mem_singleton.mp hmem]
      exact ⟨_, _, hcached⟩
  | issued hwrites =>
      rw [List.mem_singleton.mp hmem]
      exact ⟨_, hwrites⟩
  | refused hsent hrefuses =>
      rw [List.mem_singleton.mp hmem]
      refine ⟨?_, _, hrefuses⟩
      rw [hsent]
      exact List.cons_ne_nil _ _
  | nothing => cases hmem

theorem EndsAt.exists_event {level : LogLevel} (hends : deployment.EndsAt address level) :
    ∃ event, (deployment.get address).events = [event] ∧ event.level = level := by
  cases level with
  | debug =>
      obtain ⟨container, entry, hcached⟩ := hends
      exact ⟨_, events_get_of_cached hcached, rfl⟩
  | info =>
      obtain ⟨write, hwrites⟩ := hends
      exact ⟨_, events_get_of_writes hwrites, rfl⟩
  | error =>
      obtain ⟨hsent, refusal, hrefuses⟩ := hends
      exact exists_events_get_of_refuses hsent hrefuses
  | _ => cases hends

theorem recorded_iff {level : LogLevel} :
    (∃ event ∈ (deployment.get address).events, event.level = level) ↔
      deployment.EndsAt address level := by
  constructor
  · rintro ⟨event, hmem, rfl⟩
    exact (deployment.getRecord address).endsAt hmem
  · intro hends
    obtain ⟨event, hevents, hlevel⟩ := hends.exists_event
    rw [hevents]
    exact ⟨event, List.mem_singleton_self _, hlevel⟩

theorem auditedGet (deployment : Deployment) (address : Address) :
    deployment.AuditedGet address where
  at_most_one := (deployment.getRecord address).length_le
  debug_iff := recorded_iff
  info_iff := recorded_iff
  attested write hwrites := ⟨_, events_get_of_writes hwrites, write.attests_event⟩
  error_iff := recorded_iff
  other_failure failure hanswer hother := by
    have hrecord := deployment.getRecord address
    generalize (deployment.get address).events = events at hrecord ⊢
    cases hrecord with
    | reused hcached =>
        rw [hcached.answered] at hanswer
        cases hanswer
    | issued hwrites =>
        rw [hwrites.sent.2] at hanswer
        cases hanswer
    | refused hsent hrefuses =>
        rw [hsent] at hother
        exact absurd ⟨List.cons_ne_nil _ _, _, hrefuses⟩ hother
    | nothing => rfl

/-! ### The records of a run -/

theorem isIssue_of_mem_send {event : LogEvent} (hmem : event ∈ (deployment.send request).events) :
    event.isIssue = false := by
  have herror := (deployment.auditedRequest_send request).errors_only event hmem
  cases event with
  | issued => cases herror
  | _ => rfl

theorem issues_step_of_writes (hwrites : deployment.Writes step write) :
    (deployment.step step).events.filter LogEvent.isIssue = [write.event] := by
  obtain rfl := hwrites.step_eq
  change (deployment.get write.address).events.filter LogEvent.isIssue = _
  rw [events_get_of_writes hwrites]
  rfl

/-- A step that writes nothing puts no issue on record, whatever kind of step it is. -/
theorem issues_step_of_not_writes (hnone : ∀ write, ¬deployment.Writes step write) :
    (deployment.step step).events.filter LogEvent.isIssue = [] := by
  cases step with
  | get address =>
      change (deployment.get address).events.filter LogEvent.isIssue = []
      have hrecord := deployment.getRecord address
      generalize (deployment.get address).events = events at hrecord ⊢
      cases hrecord with
      | issued hwrites => exact absurd hwrites (hnone _)
      | _ => rfl
  | assumeRole role policy sessionName =>
      change (deployment.send _).events.filter LogEvent.isIssue = []
      apply List.filter_eq_nil_iff.mpr
      intro event hmem
      rw [isIssue_of_mem_send hmem]
      exact Bool.false_ne_true
  | build environment session =>
      change (deployment.build environment session).events.filter LogEvent.isIssue = []
      -- a start has events of its own at the same level, so the level alone would not do here
      have hstartup (settings : Settings) :
          settings.startupEvents.filter LogEvent.isIssue = [] := by
        rw [Settings.startupEvents]
        split <;> rfl
      cases deployment.buildCase environment session with
      | badSettings error hsettings hreport =>
          rw [hreport]
          rfl
      | badLevel settings error hsettings hthreshold hreport =>
          rw [hreport]
          rfl
      | unconnected settings threshold error hsettings hthreshold houtcome hreport =>
          rw [hreport]
          exact hstartup settings
      | started settings threshold hsettings hthreshold houtcome hreport =>
          rw [hreport]
          exact hstartup settings
  | advance micros =>
      change (deployment.advance micros).events.filter LogEvent.isIssue = []
      rw [advance]
      split <;> rfl
  | addresses => rfl
  | platform => rfl
  | lookup address => rfl
  | put address container => rfl
  | remove address => rfl
  | setOutage message => rfl
  | setScript script => rfl

theorem issueRecords_cons (deployment : Deployment) (step : Step) (steps : List Step) :
    deployment.issueRecords (step :: steps) =
      (deployment.step step).events.filter LogEvent.isIssue ++
        (deployment.step step).after.issueRecords steps := by
  rw [issueRecords, run_cons, List.flatMap_cons, List.filter_append]
  rfl

theorem exists_writtenInTurn (deployment : Deployment) (steps : List Step) :
    ∃ writes, deployment.WrittenInTurn steps writes := by
  induction steps generalizing deployment with
  | nil => exact ⟨[], .done deployment⟩
  | cons step steps ih =>
      obtain ⟨writes, hrest⟩ := ih (deployment.step step).after
      by_cases hwrites : ∃ write, deployment.Writes step write
      · obtain ⟨write, hwrites⟩ := hwrites
        exact ⟨write :: writes, .written hwrites hrest⟩
      · exact ⟨writes, .passed (not_exists.mp hwrites) hrest⟩

theorem WrittenInTurn.attested (hwritten : deployment.WrittenInTurn steps writes) :
    List.Forall₂ LogEvent.Attests (deployment.issueRecords steps) writes := by
  induction hwritten with
  | done deployment => exact .nil
  | written hwrites _ ih =>
      rw [issueRecords_cons, issues_step_of_writes hwrites]
      exact .cons (CacheWrite.attests_event _) ih
  | passed hnone _ ih =>
      rw [issueRecords_cons, issues_step_of_not_writes hnone]
      exact ih

/-- Nothing goes into the cache but by a write, and it is given up only for that of another broker. -/
theorem broker_step_of_not_writes (hnone : ∀ write, ¬deployment.Writes step write) :
    (deployment.step step).after.broker = deployment.broker ∨ deployment.Restarts step := by
  have hcase := deployment.stepCase step
  generalize hafter : (deployment.step step).after = after at hcase
  cases hcase with
  | @issued address entry request hstep hissued =>
      have hstored : (deployment.step step).after.broker =
          deployment.broker.store address entry := by
        rw [hafter]
        rfl
      exact absurd ⟨hstep, hissued, hstored⟩ (hnone ⟨address, entry, request⟩)
  | restarted settings threshold hrestarts => exact Or.inr hrestarts
  | _ => exact Or.inl rfl

/-- **Audit trail.** Of every get there is at most one record, and its level tells how the get ended;
of a request that is sent directly there is none but that of a refusal. The records of issued
credentials are, over every run, those of the writes into the cache in their order, and by nothing
but these and a start of another broker does the cache change. -/
theorem log_is_audit_trail (deployment : Deployment) :
    (∀ address, deployment.AuditedGet address) ∧
      (∀ role policy sessionName, deployment.AuditedRequest
        (deployment.assumeRole role policy sessionName).events) ∧
      (∀ step, (∀ write, ¬deployment.Writes step write) →
        (deployment.step step).after.broker = deployment.broker ∨ deployment.Restarts step) ∧
      ∀ steps, (∃ writes, deployment.WrittenInTurn steps writes) ∧
        ∀ writes, deployment.WrittenInTurn steps writes →
          List.Forall₂ LogEvent.Attests (deployment.issueRecords steps) writes := by
  refine ⟨deployment.auditedGet, ?_, ?_, ?_⟩
  · intro role policy sessionName
    exact deployment.auditedRequest_send _
  · intro step
    exact broker_step_of_not_writes
  · intro steps
    exact ⟨deployment.exists_writtenInTurn steps, fun writes => WrittenInTurn.attested⟩

/-- Two gets of one address, one of another that is refused, a request sent directly, the other
address again, and the first once more on another broker. -/
def rounds : List Step :=
  [.get "10.0.0.7", .get "10.0.0.7", .put "10.0.0.8" Trial.web,
    .setScript ⟨0, .refuse (.client "AccessDenied" "no")⟩, .get "10.0.0.8", .setScript .standard,
    .assumeRole ⟨"arn:aws:iam::1:role/web"⟩ none "operator", .get "10.0.0.8",
    .build Trial.environment none, .get "10.0.0.7"]

theorem log_is_audit_trail_rounds :
    (∃ write, Trial.deployment.Writes (.get "10.0.0.7") write ∧
        (∃ event, (Trial.deployment.get "10.0.0.7").events = [event] ∧ event.Attests write ∧
          event.details.expiration = some "2024-03-01T13:00:00+00:00") ∧
        Time.Moment.ofIsoChars? "2024-03-01T13:00:00+00:00".toList =
          some write.entry.credentials.expiration) ∧
      (Trial.deployment.get "10.0.0.9").answer = .error (.directory (.notFound "10.0.0.9")) ∧
      (Trial.deployment.get "10.0.0.9").events = [] ∧
      (∀ write, ¬Trial.deployment.Writes (.remove "10.0.0.7") write) ∧
      ((Trial.deployment.step (.remove "10.0.0.7")).after.broker = Trial.deployment.broker ∨
        Trial.deployment.Restarts (.remove "10.0.0.7")) ∧
      (∃ writes, Trial.deployment.WrittenInTurn rounds writes ∧ writes.length = 3 ∧
        List.Forall₂ LogEvent.Attests (Trial.deployment.issueRecords rounds) writes) := by
  obtain ⟨haudited, -, hunwritten, hruns⟩ := log_is_audit_trail Trial.deployment
  obtain ⟨write, hwrites⟩ : ∃ write, Trial.deployment.Writes (.get "10.0.0.7") write :=
    (haudited "10.0.0.7").info_iff.mp ⟨_, List.mem_singleton_self _, rfl⟩
  obtain ⟨event, hevents, hattests⟩ := (haudited "10.0.0.7").attested write hwrites
  have hshown : event.details.expiration = some "2024-03-01T13:00:00+00:00" := by
    have hrecord : (Trial.deployment.get "10.0.0.7").events.map (·.details.expiration) =
        [some "2024-03-01T13:00:00+00:00"] := rfl
    rw [hevents] at hrecord
    exact List.head_eq_of_cons_eq hrecord
  have hreads : Time.Moment.ofIsoChars? "2024-03-01T13:00:00+00:00".toList =
      some write.entry.credentials.expiration := by
    obtain ⟨expiration, hdetails, hreads⟩ := hattests.details
    rw [hdetails] at hshown
    exact (hreads _).mp (Option.some.inj hshown).symm
  have hanswer : (Trial.deployment.get "10.0.0.9").answer =
      .error (.directory (.notFound "10.0.0.9")) := rfl
  have hsilent : (Trial.deployment.get "10.0.0.9").events = [] := by
    apply (haudited "10.0.0.9").other_failure _ hanswer
    rintro ⟨hsent, -⟩
    exact hsent rfl
  have hnone : ∀ write, ¬Trial.deployment.Writes (.remove "10.0.0.7") write := by
    rintro write ⟨hstep, -⟩
    cases hstep
  obtain ⟨⟨writes, hwritten⟩, hattested⟩ := hruns rounds
  have hrecords := hattested writes hwritten
  have hcount : (Trial.deployment.issueRecords rounds).length = 3 := rfl
  exact ⟨⟨write, hwrites, ⟨event, hevents, hattests, hshown⟩, hreads⟩, hanswer, hsilent, hnone,
    hunwritten _ hnone, writes, hwritten, hrecords.length_eq.symm.trans hcount, hrecords⟩

end Deployment

end CredentialBroker
