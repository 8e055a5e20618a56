import CredentialBroker.Proofs.Exchange
import CredentialBroker.Proofs.Reuse

/-!
The outcomes of a get. A get either comes to an end without a request or sends the one that is due,
and what each of the two can come to is said once. Main statements: a get without a request changes
nothing, one that fails leaves the broker as it was, and one that sends a request and succeeds keeps
what it answers.
-/

namespace CredentialBroker.Deployment

open Time

/-- A get of the address has this request to send: it finds the container, nothing that is kept may
be handed out again, and there is a role to ask for. -/
structure RequestDue (deployment : Deployment) (address : Address) (container : Container)
    (request : AssumeRoleRequest) : Prop where
  found : deployment.lookup address = .ok container
  not_reusable : deployment.broker.reusable? address container deployment.clock = .ok none
  request_eq : deployment.broker.requestFor deployment.directory.platform container = .ok request

/-- All that a get without a request can come to, in the order in which it is decided. -/
inductive IdleCase (deployment : Deployment) (address : Address) (report : Report Credentials) :
    Prop where
  | lookupFailed (error : DirectoryError)
      (hlookup : deployment.directory.lookup address = .error error)
      (hreport : report = deployment.unchanged (.error (.directory error)))
  | overflowed (container : Container) (overflow : CalendarOverflow)
      (hlookup : deployment.lookup address = .ok container)
      (hreusable :
        deployment.broker.reusable? address container deployment.clock = .error overflow)
      (hreport : report = deployment.unchanged (.error (.overflow overflow)))
  | reused (container : Container) (credentials : Credentials)
      (hlookup : deployment.lookup address = .ok container)
      (hreusable :
        deployment.broker.reusable? address container deployment.clock = .ok (some credentials))
      (hreport : report = ⟨.ok credentials, [], [.reused address container.id], deployment⟩)
  | noRole (container : Container) (hlookup : deployment.lookup address = .ok container)
      (hreusable : deployment.broker.reusable? address container deployment.clock = .ok none)
      (hnoRole : container.hasOwnRole = false ∧ deployment.broker.defaultRole.isEmpty = true)
      (hreport : report = deployment.unchanged (.error (.noRole container.id)))

/-- The deployment after an exchange whose credentials are kept. -/
def afterIssue (deployment : Deployment) (address : Address) (entry : CacheEntry) : Deployment :=
  { deployment.afterCall with broker := deployment.broker.store address entry }

/-- All that a get with a request can come to. One that fails is no more than the exchange. -/
inductive IssueCase (deployment : Deployment) (address : Address) (container : Container)
    (request : AssumeRoleRequest) (report : Report Credentials) : Prop where
  | failed (failure : Failure) (hsend : (deployment.send request).answer = .error failure)
      (hreport : report = deployment.send request)
  | accepted (response : TokenResponse) (credentials : Credentials)
      (hreply : deployment.call.reply = .ok response)
      (hread : response.toCredentials deployment.call.clock = .ok credentials)
      (hreport : report =
        ⟨.ok credentials, [request],
          [.issued address container.id request.role request.sessionName credentials.expiration],
          deployment.afterIssue address ⟨container, credentials⟩⟩)

variable {deployment : Deployment} {address : Address} {container : Container}
  {request : AssumeRoleRequest} {credentials : Credentials} {failure : Failure}

theorem get_of_reusable (hlookup : deployment.lookup address = .ok container)
    (hreusable :
      deployment.broker.reusable? address container deployment.clock = .ok (some credentials)) :
    deployment.get address =
      ⟨.ok credentials, [], [.reused address container.id], deployment⟩ := by
  simp only [get, hlookup, hreusable]

/-- An entry that may be handed out to the container that is found is handed out, and nothing else
happens. -/
theorem get_of_entry {entry : CacheEntry} (hlookup : deployment.lookup address = .ok container)
    (hentry : deployment.broker.cache.get? address = some entry)
    (hmatches : entry.Matches container)
    (hinside : (deployment.clock.micros : Int) + safetyMargin < calendarMicros)
    (hlasts : (deployment.clock.micros : Int) + safetyMargin ≤
      entry.credentials.expiration.instant) :
    deployment.get address =
      ⟨.ok entry.credentials, [], [.reused address container.id], deployment⟩ :=
  get_of_reusable hlookup
    (Broker.reusable?_eq_some_iff.mpr ⟨entry, hentry, rfl, hmatches, hinside, hlasts⟩)

theorem get_of_requestDue (hdue : deployment.RequestDue address container request) :
    deployment.get address = deployment.issue address container request := by
  simp only [get, hdue.found, hdue.not_reusable, hdue.request_eq]

theorem get_of_lookup_error {error : DirectoryError}
    (hlookup : deployment.directory.lookup address = .error error) :
    deployment.get address = deployment.unchanged (.error (.directory error)) := by
  rw [get, lookup, hlookup]
  rfl

theorem idleCase_or_requestDue (deployment : Deployment) (address : Address) :
    deployment.IdleCase address (deployment.get address) ∨
      ∃ container request, deployment.RequestDue address container request := by
  cases hlookup : deployment.directory.lookup address with
  | error error => exact Or.inl (.lookupFailed error hlookup (get_of_lookup_error hlookup))
  | ok container =>
      have hfound : deployment.lookup address = .ok container := by
        rw [lookup, hlookup]
        rfl
      cases hreusable : deployment.broker.reusable? address container deployment.clock with
      | error overflow =>
          refine Or.inl (.overflowed container overflow hfound hreusable ?_)
          simp only [get, hfound, hreusable]
      | ok kept =>
          cases kept with
          | some credentials =>
              exact Or.inl (.reused container credentials hfound hreusable
                (get_of_reusable hfound hreusable))
          | none =>
              cases hrequest :
                  deployment.broker.requestFor deployment.directory.platform container with
              | error failure =>
                  obtain ⟨hnoRole, rfl⟩ := Broker.requestFor_eq_error_iff.mp hrequest
                  refine Or.inl (.noRole container hfound hreusable hnoRole ?_)
                  simp only [get, hfound, hreusable, hrequest]
              | ok request => exact Or.inr ⟨container, request, hfound, hreusable, hrequest⟩

theorem issueCase (hdue : deployment.RequestDue address container request) :
    deployment.IssueCase address container request (deployment.get address) := by
  rw [get_of_requestDue hdue]
  cases deployment.sendCase request with
  | refused error hreply hreport =>
      refine .failed error.failure (by rw [hreport]) ?_
      simp only [issue, hreport]
  | rejected response error hreply hread hreport =>
      refine .failed (.response error) (by rw [hreport]) ?_
      simp only [issue, hreport]
  | accepted response credentials hreply hread hreport =>
      refine .accepted response credentials hreply hread ?_
      simp only [issue, hreport]
      rfl

theorem IdleCase.requests_and_after {report : Report Credentials}
    (hidle : deployment.IdleCase address report) :
    report.requests = [] ∧ report.after = deployment := by
  rcases hidle with ⟨_, _, rfl⟩ | ⟨_, _, _, _, rfl⟩ | ⟨_, _, _, _, rfl⟩ | ⟨_, _, _, _, rfl⟩ <;>
    exact ⟨rfl, rfl⟩

theorem requests_get_of_requestDue (hdue : deployment.RequestDue address container request) :
    (deployment.get address).requests = [request] := by
  cases issueCase hdue with
  | failed failure hsend hreport => rw [hreport, requests_send]
  | accepted response credentials hreply hread hreport => rw [hreport]

/-- A get sends the request that is due, and it sends none where none is due. -/
theorem requests_get_eq_singleton_iff :
    (deployment.get address).requests = [request] ↔
      ∃ container, deployment.RequestDue address container request := by
  constructor
  · intro hsent
    rcases deployment.idleCase_or_requestDue address with hidle | ⟨container, due, hdue⟩
    · rw [hidle.requests_and_after.1] at hsent
      cases hsent
    · rw [requests_get_of_requestDue hdue] at hsent
      cases hsent
      exact ⟨container, hdue⟩
  · rintro ⟨container, hdue⟩
    exact requests_get_of_requestDue hdue

theorem requests_get_eq_nil_iff :
    (deployment.get address).requests = [] ↔
      ¬∃ container request, deployment.RequestDue address container request := by
  constructor
  · rintro hnone ⟨container, request, hdue⟩
    rw [requests_get_of_requestDue hdue] at hnone
    cases hnone
  · intro hnotDue
    have hidle := (deployment.idleCase_or_requestDue address).resolve_right hnotDue
    exact hidle.requests_and_after.1

theorem mem_requests_get_iff :
    request ∈ (deployment.get address).requests ↔
      ∃ container, deployment.RequestDue address container request := by
  rw [← requests_get_eq_singleton_iff]
  constructor
  · intro hmem
    rcases deployment.idleCase_or_requestDue address with hidle | ⟨container, due, hdue⟩
    · rw [hidle.requests_and_after.1] at hmem
      cases hmem
    · rw [requests_get_of_requestDue hdue] at hmem ⊢
      rw [List.mem_singleton.mp hmem]
  · intro hsent
    rw [hsent]
    exact List.mem_singleton_self request

/-- A get that sends no request changes nothing, whatever it answers. -/
theorem after_get_of_requests_eq_nil (hnone : (deployment.get address).requests = []) :
    (deployment.get address).after = deployment := by
  have hnotDue := requests_get_eq_nil_iff.mp hnone
  have hidle := (deployment.idleCase_or_requestDue address).resolve_right hnotDue
  exact hidle.requests_and_after.2

theorem get_eq_send_of_error (hdue : deployment.RequestDue address container request)
    (hanswer : (deployment.get address).answer = .error failure) :
    deployment.get address = deployment.send request := by
  cases issueCase hdue with
  | failed found hsend hreport => exact hreport
  | accepted response credentials hreply hread hreport =>
      rw [hreport] at hanswer
      cases hanswer

theorem broker_get_of_error (hanswer : (deployment.get address).answer = .error failure) :
    (deployment.get address).after.broker = deployment.broker := by
  rcases deployment.idleCase_or_requestDue address with hidle | ⟨container, request, hdue⟩
  · rw [hidle.requests_and_after.2]
  · rw [get_eq_send_of_error hdue hanswer, after_send]
    rfl

/-- Credentials issued here: a get of the address looks the container up, sends the one request, and
answers what the response to it carries. -/
structure Issued (deployment : Deployment) (address : Address) (entry : CacheEntry)
    (request : AssumeRoleRequest) : Prop where
  found : deployment.lookup address = .ok entry.container
  sent : (deployment.get address).requests = [request]
  answered : (deployment.get address).answer = .ok entry.credentials
  carried : ∃ response, deployment.call.reply = .ok response ∧ response.Carries entry.credentials

/-- What is issued is kept, dated with the time at which the response arrived. -/
theorem Issued.after_get {entry : CacheEntry}
    (hissued : deployment.Issued address entry request) :
    (deployment.get address).after = deployment.afterIssue address entry ∧
      entry.credentials.generatedAt = .ofUtc deployment.call.clock := by
  obtain ⟨container, hdue⟩ := requests_get_eq_singleton_iff.mp hissued.sent
  have hcontainer : container = entry.container :=
    Except.ok.inj (hdue.found.symm.trans hissued.found)
  have hanswered := hissued.answered
  cases issueCase hdue with
  | failed failure hsend hreport =>
      rw [hreport, hsend] at hanswered
      cases hanswered
  | accepted response credentials hreply hread hreport =>
      rw [hreport] at hanswered
      have hcredentials : credentials = entry.credentials := Except.ok.inj hanswered
      rw [hreport, hcontainer, hcredentials]
      rw [hcredentials] at hread
      exact ⟨rfl, (TokenResponse.toCredentials_eq_ok_iff.mp hread).2⟩

/-- A request that is due and answered with credentials issues them. -/
theorem RequestDue.issued {response : TokenResponse}
    (hdue : deployment.RequestDue address container request)
    (hreply : deployment.call.reply = .ok response)
    (hread : response.toCredentials deployment.call.clock = .ok credentials) :
    deployment.Issued address ⟨container, credentials⟩ request := by
  have hsend : (deployment.send request).answer = .ok credentials := by
    rw [send_of_response hreply, hread]
    rfl
  have hanswer : (deployment.get address).answer = .ok credentials := by
    rw [get_of_requestDue hdue, issue]
    simp only [hsend]
  have hcarries := (TokenResponse.toCredentials_eq_ok_iff.mp hread).1
  exact ⟨hdue.found, requests_get_of_requestDue hdue, hanswer, response, hreply, hcarries⟩

theorem exists_issued_of_answer (hsent : (deployment.get address).requests ≠ [])
    (hanswer : (deployment.get address).answer = .ok credentials) :
    ∃ container request, deployment.Issued address ⟨container, credentials⟩ request := by
  rcases deployment.idleCase_or_requestDue address with hidle | ⟨container, request, hdue⟩
  · exact absurd hidle.requests_and_after.1 hsent
  · cases issueCase hdue with
    | failed failure hsend hreport =>
        rw [hreport, hsend] at hanswer
        cases hanswer
    | accepted response issued hreply hread hreport =>
        have hcredentials : issued = credentials := by
          rw [hreport] at hanswer
          exact Except.ok.inj hanswer
        rw [hcredentials] at hread
        exact ⟨container, request, hdue.issued hreply hread⟩

/-- A get that succeeds without a request answers what is kept for the address, which was made for a
container of the same role and the same id and has five minutes left. -/
theorem exists_reused_of_answer (hnone : (deployment.get address).requests = [])
    (hanswer : (deployment.get address).answer = .ok credentials) :
    ∃ container entry, deployment.lookup address = .ok container ∧
      deployment.broker.cache.get? address = some entry ∧ entry.credentials = credentials ∧
      entry.Matches container ∧
      (deployment.clock.micros : Int) + safetyMargin ≤ credentials.expiration.instant := by
  have hnotDue := requests_get_eq_nil_iff.mp hnone
  cases (deployment.idleCase_or_requestDue address).resolve_right hnotDue with
  | lookupFailed error hlookup hreport =>
      rw [hreport] at hanswer
      cases hanswer
  | overflowed container overflow hlookup hreusable hreport =>
      rw [hreport] at hanswer
      cases hanswer
  | noRole container hlookup hreusable hnoRole hreport =>
      rw [hreport] at hanswer
      cases hanswer
  | reused container kept hlookup hreusable hreport =>
      have hkept : kept = credentials := by
        rw [hreport] at hanswer
        exact Except.ok.inj hanswer
      obtain ⟨entry, hentry, hcredentials, hmatches, -, hlasts⟩ :=
        Broker.reusable?_eq_some_iff.mp hreusable
      have hanswered : entry.credentials = credentials := hcredentials.trans hkept
      rw [hanswered] at hlasts
      exact ⟨container, entry, hlookup, hentry, hanswered, hmatches, hlasts⟩

end CredentialBroker.Deployment
