import CredentialBroker.Proofs.Effect
import CredentialBroker.Proofs.Provenance

/-!
Numbers of issuing calls. Every issuing call uses up the next number, and credentials bear the number
of the call that they come from. Main statement: where different numbers have different access keys,
no two addresses ever share credentials, an address is never given older ones after newer ones, and
what was handed out on a direct request or rejected is never given to any address.

A number is used up at one point of a run only, so credentials are traced back to that point, and
points of one run are compared as the lists of steps before them.
-/

namespace CredentialBroker

/-- The texts of the credentials are those that go with the number. -/
structure Credentials.Bears (credentials : Credentials) (mint : Mint) (number : Nat) : Prop where
  accessKey : credentials.accessKey = mint.accessKey number
  secretKey : credentials.secretKey = mint.secretKey number
  token : credentials.token = mint.sessionToken number

theorem Mint.bears_of_carries {mint : Mint} {number : Nat} {expiration : Time.Timestamp}
    {omitted : List ResponseKey} {credentials : Credentials}
    (hcarries : (mint.respond number expiration omitted).Carries credentials) :
    credentials.Bears mint number := by
  have present {present : Bool} {text found : String}
      (hfound : (if present then some text else none) = some found) : found = text := by
    cases present
    · cases hfound
    · exact (Option.some.inj hfound).symm
  rw [TokenResponse.Carries, respond] at hcarries
  split at hcarries
  · have hblock := Option.some.inj hcarries
    rw [ResponseBlock.mk.injEq] at hblock
    obtain ⟨haccessKey, hsecretKey, htoken, -⟩ := hblock
    exact ⟨present haccessKey, present hsecretKey, present htoken⟩
  · cases hcarries

theorem Mint.injective_accessKey_standard : Function.Injective Mint.standard.accessKey := by
  intro one other hkey
  change "ASIA" ++ one.repr = "ASIA" ++ other.repr at hkey
  rw [String.append_right_inj] at hkey
  have hdigits : Nat.toDigits 10 one = Nat.toDigits 10 other := String.ofList_injective hkey
  calc one = Nat.ofDigitChars 10 (Nat.toDigits 10 one) 0 := Nat.ofDigitChars_ten_toDigits.symm
    _ = Nat.ofDigitChars 10 (Nat.toDigits 10 other) 0 := by rw [hdigits]
    _ = other := Nat.ofDigitChars_ten_toDigits

theorem TokenService.exists_respond_of_ok {service : TokenService} {start : Time.WallTime}
    {response : TokenResponse} (hreply : (service.call start).reply = .ok response) :
    ∃ expiration omitted,
      response = service.mint.respond (service.issued + 1) expiration omitted := by
  unfold call at hreply
  split at hreply
  · cases hreply
  · split at hreply
    · cases hreply
    · rename_i expiry omitted _
      cases htimestamp : expiry.timestamp start with
      | error overflow =>
          rw [htimestamp] at hreply
          cases hreply
      | ok expiration =>
          rw [htimestamp] at hreply
          cases hreply
          exact ⟨expiration, omitted, rfl⟩

/-- What a response is read as bears the number that the call used up. -/
theorem TokenService.bears_of_call {service : TokenService} {start : Time.WallTime}
    {response : TokenResponse} {credentials : Credentials}
    (hreply : (service.call start).reply = .ok response) (hcarries : response.Carries credentials) :
    credentials.Bears service.mint (service.issued + 1) := by
  obtain ⟨expiration, omitted, rfl⟩ := exists_respond_of_ok hreply
  exact Mint.bears_of_carries hcarries

namespace Deployment

/-- The step makes an issuing call, which uses up the next number. -/
structure Consumes (deployment : Deployment) (step : Step) (number : Nat) : Prop where
  next : number = deployment.service.issued + 1
  counted : (deployment.step step).after.service.issued = number

/-- The get of the address that comes after the earlier steps of the run answers the credentials. -/
structure Served (deployment : Deployment) (steps earlier : List Step) (address : Address)
    (credentials : Credentials) : Prop where
  taken : earlier ++ [.get address] <+: steps
  answered : ((deployment.runTo earlier).get address).answer = .ok credentials

/-- The number goes to no address: it is handed out on a direct request, or used up by a step that
fails all the same. -/
inductive Forfeits (deployment : Deployment) (step : Step) (number : Nat) : Prop where
  | handedOut {role : RoleArn} {policy : Option String} {sessionName : String}
      {credentials : Credentials} (hstep : step = .assumeRole role policy sessionName)
      (hanswer : (deployment.assumeRole role policy sessionName).answer = .ok credentials)
      (hbears : credentials.Bears deployment.service.mint number)
  | rejected {failure : Failure} (hconsumes : deployment.Consumes step number)
      (hanswer : (deployment.step step).answer = .error failure)

variable {deployment : Deployment} {step other : Step} {steps earlier later : List Step}
  {address : Address} {entry : CacheEntry} {credentials : Credentials}
  {request : AssumeRoleRequest} {number : Nat}

/-! ### Points of a run -/

/-- Of two points of a run the one with fewer steps before it has its own step before the other. -/
theorem append_singleton_prefix_of_length_lt {first second : List Step}
    (hfirst : first ++ [step] <+: steps) (hsecond : second <+: steps)
    (hlt : first.length < second.length) : first ++ [step] <+: second := by
  refine List.prefix_of_prefix_length_le hfirst hsecond ?_
  rw [List.length_append]
  exact hlt

theorem issued_le_of_extends {first second : List Step} (hextends : first <+: second) :
    (deployment.runTo first).service.issued ≤ (deployment.runTo second).service.issued := by
  obtain ⟨rest, rfl⟩ := hextends
  rw [runTo_append]
  exact issued_le_runTo _ rest

/-- A number that was used up is below every number used up later. -/
theorem Consumes.le_issued {first second : List Step}
    (hconsumes : (deployment.runTo first).Consumes step number)
    (hextends : first ++ [step] <+: second) :
    number ≤ (deployment.runTo second).service.issued := by
  have hcounted : (deployment.runTo (first ++ [step])).service.issued = number := by
    rw [runTo_append]
    exact hconsumes.counted
  rw [← hcounted]
  exact issued_le_of_extends hextends

/-- A number is used up at one point of a run only. -/
theorem Consumes.unique {first second : List Step} (hfirst : first ++ [step] <+: steps)
    (hsecond : second ++ [other] <+: steps)
    (hone : (deployment.runTo first).Consumes step number)
    (hother : (deployment.runTo second).Consumes other number) :
    first = second ∧ step = other := by
  have hfirst' : first <+: steps := (List.prefix_append _ _).trans hfirst
  have hsecond' : second <+: steps := (List.prefix_append _ _).trans hsecond
  have hlength : first.length = second.length := by
    rcases Nat.lt_trichotomy first.length second.length with hlt | heq | hgt
    · have hle := hone.le_issued (append_singleton_prefix_of_length_lt hfirst hsecond' hlt)
      have hnext := hother.next
      omega
    · exact heq
    · have hle := hother.le_issued (append_singleton_prefix_of_length_lt hsecond hfirst' hgt)
      have hnext := hone.next
      omega
  have hboth : first ++ [step] = second ++ [other] := by
    have hextends := List.prefix_of_prefix_length_le hfirst hsecond (by simp [hlength])
    exact hextends.eq_of_length (by simp [hlength])
  exact ⟨List.append_inj_left hboth hlength,
    List.singleton_inj.mp (List.append_inj_right hboth hlength)⟩

/-! ### Where served credentials come from -/

theorem Issued.consumes (hissued : deployment.Issued address entry request) :
    deployment.Consumes (.get address) (deployment.service.issued + 1) := by
  obtain ⟨response, hreply, -⟩ := hissued.carried
  refine ⟨rfl, ?_⟩
  change (deployment.get address).after.service.issued = _
  rw [hissued.after_get.1]
  exact TokenService.issued_call_of_ok hreply

theorem Issued.bears (hissued : deployment.Issued address entry request) :
    entry.credentials.Bears deployment.service.mint (deployment.service.issued + 1) := by
  obtain ⟨response, hreply, hcarries⟩ := hissued.carried
  exact TokenService.bears_of_call hreply hcarries

theorem Issued.entry_eq {found : CacheEntry} {due : AssumeRoleRequest}
    (hissued : deployment.Issued address entry request)
    (hfound : deployment.Issued address found due) : entry = found := by
  have hcontainer := Except.ok.inj (hissued.found.symm.trans hfound.found)
  have hcredentials := Except.ok.inj (hissued.answered.symm.trans hfound.answered)
  obtain ⟨container, credentials⟩ := entry
  obtain ⟨_, _⟩ := found
  cases hcontainer
  cases hcredentials
  rfl

theorem Issued.replaces (hissued : deployment.Issued address entry request) :
    deployment.Replaces address (.get address) := by
  refine Or.inl ⟨rfl, ?_, entry.credentials, hissued.answered⟩
  rw [hissued.sent]
  exact List.cons_ne_nil _ _

theorem Origin.taken (horigin : deployment.Origin steps address entry earlier later request) :
    earlier ++ [.get address] <+: steps :=
  ⟨later, by rw [horigin.split, List.append_assoc]; rfl⟩

theorem Origin.bears (horigin : deployment.Origin steps address entry earlier later request) :
    entry.credentials.Bears deployment.service.mint
      ((deployment.runTo earlier).service.issued + 1) := by
  rw [← deployment.mint_runTo earlier]
  exact horigin.issued.bears

theorem Served.exists_origin (hfresh : deployment.Fresh)
    (hserved : deployment.Served steps earlier address credentials) :
    ∃ entry start later request, entry.credentials = credentials ∧
      deployment.Origin (earlier ++ [.get address]) address entry start later request := by
  obtain ⟨_, entry, start, later, request, -, -, hcredentials, horigin⟩ :=
    hfresh.exists_origin_of_answer hserved.answered
  exact ⟨entry, start, later, request, hcredentials, horigin⟩

theorem Served.append_extends {first second : List Step} {found : Credentials}
    (hserved : deployment.Served steps first address credentials)
    (hfound : deployment.Served steps second address found) (hextends : first <+: second) :
    first ++ [.get address] <+: second ++ [.get address] := by
  refine List.prefix_of_prefix_length_le hserved.taken hfound.taken ?_
  rw [List.length_append, List.length_append]
  exact Nat.add_le_add_right hextends.length_le _

section Compared

variable {first second earlier' later' : List Step} {address' : Address} {entry' : CacheEntry}
  {request' : AssumeRoleRequest}

/-- Entries with one access key were issued at one point of the run. -/
theorem Origin.eq_of_accessKey_eq
    (hmint : Function.Injective deployment.service.mint.accessKey)
    (hone : deployment.Origin first address entry earlier later request)
    (hother : deployment.Origin second address' entry' earlier' later' request')
    (hfirst : first <+: steps) (hsecond : second <+: steps)
    (hkey : entry.credentials.accessKey = entry'.credentials.accessKey) :
    address = address' ∧ earlier = earlier' ∧ entry = entry' := by
  rw [hone.bears.accessKey, hother.bears.accessKey] at hkey
  have hconsumes := hother.issued.consumes
  rw [← hmint hkey] at hconsumes
  obtain ⟨rfl, hget⟩ := Consumes.unique (hone.taken.trans hfirst) (hother.taken.trans hsecond)
    hone.issued.consumes hconsumes
  cases hget
  exact ⟨rfl, rfl, hone.issued.entry_eq hother.issued⟩

/-- What is kept for an address later on was not issued earlier. -/
theorem Origin.prefix_of_extends
    (hone : deployment.Origin first address entry earlier later request)
    (hother : deployment.Origin second address entry' earlier' later' request')
    (hextends : first <+: second) : earlier <+: earlier' := by
  have htaken := hone.taken.trans hextends
  have hearlier : earlier <+: second := (List.prefix_append _ _).trans htaken
  have hearlier' : earlier' <+: second := (List.prefix_append _ _).trans hother.taken
  refine List.prefix_of_prefix_length_le hearlier hearlier' (Nat.le_of_not_lt fun hlt => ?_)
  -- the point at which the first entry was issued would lie among the steps that replace nothing
  obtain ⟨middle, hmiddle⟩ := append_singleton_prefix_of_length_lt hother.taken hearlier hlt
  obtain ⟨rest, hrest⟩ := htaken
  have hlater : later' = middle ++ .get address :: rest := by
    have hsplit := hother.split
    rw [← hrest, ← hmiddle] at hsplit
    simpa using hsplit.symm
  have hnot := hother.latest middle (.get address) rest hlater
  have hreplaces := hone.issued.replaces
  rw [← hmiddle, runTo_append, runTo_append] at hreplaces
  exact hnot hreplaces

end Compared

/-- The number that a step forfeits is the one that it uses up. -/
theorem Forfeits.consumes (hmint : Function.Injective deployment.service.mint.accessKey)
    (hforfeits : deployment.Forfeits step number) : deployment.Consumes step number := by
  cases hforfeits with
  | rejected hconsumes hanswer => exact hconsumes
  | handedOut hstep hanswer hbears =>
      rename_i role policy sessionName credentials
      subst hstep
      have hafter : (deployment.step (.assumeRole role policy sessionName)).after =
          deployment.afterCall := deployment.after_send _
      cases deployment.sendCase (.build role policy sessionName) with
      | refused error hreply hreport =>
          rw [assumeRole, hreport] at hanswer
          cases hanswer
      | rejected response error hreply hread hreport =>
          rw [assumeRole, hreport] at hanswer
          cases hanswer
      | accepted response found hreply hread hreport =>
          rw [assumeRole, hreport] at hanswer
          cases hanswer
          have hfound := TokenService.bears_of_call hreply
            (TokenResponse.toCredentials_eq_ok_iff.mp hread).1
          have hnumber := hmint (hbears.accessKey.symm.trans hfound.accessKey)
          refine ⟨hnumber, ?_⟩
          rw [hafter, hnumber]
          exact TokenService.issued_call_of_ok hreply

/-- A get that succeeds forfeits nothing. -/
theorem not_forfeits_get (hanswer : (deployment.get address).answer = .ok credentials) :
    ¬deployment.Forfeits (.get address) number := by
  rintro (⟨hstep, -, -⟩ | ⟨-, hfailed⟩)
  · cases hstep
  · change (deployment.get address).answer.map _ = _ at hfailed
    rw [hanswer] at hfailed
    cases hfailed

/-- Credentials that are given to an address before and after others are the same as those. -/
theorem Served.eq_of_between (hfresh : deployment.Fresh)
    (hmint : Function.Injective deployment.service.mint.accessKey)
    {first second third : List Step} {older newer : Credentials}
    (hfirst : deployment.Served steps first address older)
    (hsecond : deployment.Served steps second address newer)
    (hthird : deployment.Served steps third address older)
    (hbefore : first <+: second) (hafter : second <+: third) : newer = older := by
  obtain ⟨entry, start, _, _, hentry, hone⟩ := hfirst.exists_origin hfresh
  obtain ⟨entry', start', _, _, rfl, htwo⟩ := hsecond.exists_origin hfresh
  obtain ⟨entry'', start'', _, _, hentry'', hthree⟩ := hthird.exists_origin hfresh
  have hforward := hone.prefix_of_extends htwo (hfirst.append_extends hsecond hbefore)
  have hback := htwo.prefix_of_extends hthree (hsecond.append_extends hthird hafter)
  have hkey : entry.credentials.accessKey = entry''.credentials.accessKey := by
    rw [hentry, hentry'']
  obtain ⟨-, hsame, -⟩ := hone.eq_of_accessKey_eq hmint hthree hfirst.taken hthird.taken hkey
  -- the newer entry was issued between two points that are one
  rw [← hsame] at hback
  have hstart : start = start' :=
    hforward.eq_of_length (Nat.le_antisymm hforward.length_le hback.length_le)
  have hissued := htwo.issued
  rw [← hstart] at hissued
  rw [← hentry, hone.issued.entry_eq hissued]

theorem Forfeits.accessKey_ne (hfresh : deployment.Fresh)
    (hmint : Function.Injective deployment.service.mint.accessKey)
    (htaken : earlier ++ [step] <+: steps)
    (hforfeits : (deployment.runTo earlier).Forfeits step number) {point : List Step}
    (hserved : deployment.Served steps point address credentials) :
    credentials.accessKey ≠ deployment.service.mint.accessKey number := by
  intro hkey
  obtain ⟨entry, start, _, _, rfl, horigin⟩ := hserved.exists_origin hfresh
  have hmint' : Function.Injective (deployment.runTo earlier).service.mint.accessKey := by
    rw [mint_runTo]
    exact hmint
  rw [horigin.bears.accessKey] at hkey
  have hconsumes := horigin.issued.consumes
  rw [hmint hkey] at hconsumes
  obtain ⟨rfl, rfl⟩ := Consumes.unique htaken (horigin.taken.trans hserved.taken)
    (hforfeits.consumes hmint') hconsumes
  exact not_forfeits_get horigin.issued.answered hforfeits

/-- **Numbers stay apart.** At no point of a run do two addresses have entries of one access key. An
access key is only ever given to one address, and always in the same credentials. The numbers given
to an address never go down, so that credentials are not given out again once newer ones were. And a
number that was forfeited is never given to any address. -/
theorem issued_numbers_stay_apart (hfresh : deployment.Fresh)
    (hmint : Function.Injective deployment.service.mint.accessKey) (steps : List Step) :
    (∀ address other entry found,
        (deployment.runTo steps).broker.cache.get? address = some entry →
        (deployment.runTo steps).broker.cache.get? other = some found →
        entry.credentials.accessKey = found.credentials.accessKey → address = other) ∧
      (∀ first second address other credentials found,
        deployment.Served steps first address credentials →
        deployment.Served steps second other found →
        credentials.accessKey = found.accessKey → address = other ∧ credentials = found) ∧
      (∀ first second address credentials found,
        deployment.Served steps first address credentials →
        deployment.Served steps second address found → first <+: second →
        ∃ number next, credentials.Bears deployment.service.mint number ∧
          found.Bears deployment.service.mint next ∧ number ≤ next) ∧
      (∀ first second third address older newer,
        deployment.Served steps first address older →
        deployment.Served steps second address newer →
        deployment.Served steps third address older →
        first <+: second → second <+: third → newer = older) ∧
      ∀ earlier step number, earlier ++ [step] <+: steps →
        (deployment.runTo earlier).Forfeits step number →
        ∀ point address credentials, deployment.Served steps point address credentials →
          credentials.accessKey ≠ deployment.service.mint.accessKey number := by
  refine ⟨?_, ?_, ?_, ?_, ?_⟩
  · intro address other entry found hentry hfound hkey
    obtain ⟨_, _, _, hone⟩ := hfresh.exists_origin hentry
    obtain ⟨_, _, _, hother⟩ := hfresh.exists_origin hfound
    exact (hone.eq_of_accessKey_eq hmint hother List.prefix_rfl List.prefix_rfl hkey).1
  · intro first second address other credentials found hserved hfound hkey
    obtain ⟨entry, _, _, _, rfl, hone⟩ := hserved.exists_origin hfresh
    obtain ⟨entry', _, _, _, rfl, hother⟩ := hfound.exists_origin hfresh
    obtain ⟨haddress, -, hentry⟩ :=
      hone.eq_of_accessKey_eq hmint hother hserved.taken hfound.taken hkey
    exact ⟨haddress, congrArg CacheEntry.credentials hentry⟩
  · intro first second address credentials found hserved hfound hextends
    obtain ⟨entry, start, _, _, rfl, hone⟩ := hserved.exists_origin hfresh
    obtain ⟨entry', start', _, _, rfl, hother⟩ := hfound.exists_origin hfresh
    have hstarts := hone.prefix_of_extends hother (hserved.append_extends hfound hextends)
    exact ⟨_, _, hone.bears, hother.bears, Nat.succ_le_succ (issued_le_of_extends hstarts)⟩
  · intro first second third address older newer hfirst hsecond hthird hbefore hafter
    exact hfirst.eq_of_between hfresh hmint hsecond hthird hbefore hafter
  · intro earlier step number htaken hforfeits point address credentials hserved
    exact hforfeits.accessKey_ne hfresh hmint htaken hserved

/-- The second number is handed out on a direct request, and the third goes into a response without
an expiration. -/
def numbered : List Step :=
  [.get "10.0.0.7", .assumeRole ⟨"arn:aws:iam::1:role/web"⟩ none "direct",
    .setScript ⟨0, .issue (.after 3600000000) [.expiration]⟩, .advance 3300000001, .get "10.0.0.7",
    .setScript .standard, .get "10.0.0.7"]

theorem issued_numbers_stay_apart_numbered :
    Trial.deployment.Fresh ∧
      Function.Injective Trial.deployment.service.mint.accessKey ∧
      (Trial.deployment.runTo (numbered.take 1)).Forfeits
        (.assumeRole ⟨"arn:aws:iam::1:role/web"⟩ none "direct") 2 ∧
      (Trial.deployment.runTo (numbered.take 4)).Forfeits (.get "10.0.0.7") 3 ∧
      ∃ credentials, Trial.deployment.Served numbered (numbered.take 6) "10.0.0.7" credentials ∧
        credentials.accessKey = "ASIA4" ∧
        credentials.accessKey ≠ Mint.standard.accessKey 2 ∧
        credentials.accessKey ≠ Mint.standard.accessKey 3 := by
  have hdirect : (Trial.deployment.runTo (numbered.take 1)).Forfeits
      (.assumeRole ⟨"arn:aws:iam::1:role/web"⟩ none "direct") 2 :=
    .handedOut rfl rfl ⟨rfl, rfl, rfl⟩
  have hrejected : (Trial.deployment.runTo (numbered.take 4)).Forfeits (.get "10.0.0.7") 3 :=
    .rejected ⟨rfl, rfl⟩ rfl
  have hserved : Trial.deployment.Served numbered (numbered.take 6) "10.0.0.7"
      ⟨"ASIA4", "secret-4", "token-4", .ofUtc ⟨63844898100000001, by decide⟩,
        .ofUtc ⟨63844894500000001, by decide⟩, by decide⟩ :=
    ⟨⟨[], rfl⟩, rfl⟩
  have hapart := (issued_numbers_stay_apart Trial.fresh_deployment Mint.injective_accessKey_standard
    numbered).2.2.2.2
  exact ⟨Trial.fresh_deployment, Mint.injective_accessKey_standard, hdirect, hrejected, _, hserved, rfl,
    hapart (numbered.take 1) _ 2 ⟨_, rfl⟩ hdirect _ _ _ hserved,
    hapart (numbered.take 4) _ 3 ⟨_, rfl⟩ hrejected _ _ _ hserved⟩

end Deployment

end CredentialBroker
