import CredentialBroker.Proofs.Effect
import CredentialBroker.Proofs.Provenance
import Mathlib.Algebra.BigOperators.Group.Multiset.Basic
import Mathlib.Data.Finset.Sort
import Mathlib.Data.Multiset.Bind
import Mathlib.Data.String.Basic

/-!
One request for each address. Main statement: where every request is answered in full and what is
issued outlasts the whole run, the gets of any list of addresses send one request for each address,
and their order shows only in who waits for the response.

The invariant goes from get to get: each address that was asked for has an entry that lasts to the
end of the run and its margin, and the clock has moved by one delay for each of them. So a get of
an address that was asked for before finds its entry, and any other one sends a request.
-/

namespace CredentialBroker

open Time

theorem Time.WallTime.exists_shift {wall : WallTime} {micros : Int}
    (hstart : 0 ≤ wall.micros + micros) (hend : wall.micros + micros < calendarMicros) :
    ∃ shifted, wall.shift micros = .ok shifted := by
  cases hshift : wall.shift micros with
  | ok shifted => exact ⟨shifted, rfl⟩
  | error overflow =>
      have houtside := (WallTime.shift_eq_error_iff.mp hshift).2
      omega

/-- A service that leaves nothing out issues credentials, unless they would have expired on arrival
or live beyond the calendar. -/
theorem TokenService.exists_credentials_of_call {service : TokenService} {start : WallTime}
    {delay lifetime : Int} (hscript : service.script = ⟨delay, .issue (.after lifetime) []⟩)
    (hdelay : 0 ≤ delay) (hle : delay ≤ lifetime)
    (hinside : start.micros + lifetime < calendarMicros) :
    ∃ response credentials, (service.call start).reply = .ok response ∧
      response.toCredentials (service.call start).clock = .ok credentials ∧
      credentials.expiration.instant = start.micros + lifetime := by
  obtain ⟨arrival, harrival⟩ : ∃ arrival, start.shift delay = .ok arrival :=
    WallTime.exists_shift (by omega) (by omega)
  obtain ⟨expiration, hexpiration⟩ : ∃ expiration, start.shift lifetime = .ok expiration :=
    WallTime.exists_shift (by omega) (by omega)
  have harrives := WallTime.shift_eq_ok_iff.mp harrival
  have hexpires := WallTime.shift_eq_ok_iff.mp hexpiration
  have hordered : (Moment.ofUtc arrival).instant ≤ (Moment.ofUtc expiration).instant := by
    rw [Moment.instant_ofUtc, Moment.instant_ofUtc]
    omega
  have hcall : service.call start =
      ⟨.ok (service.mint.respond (service.issued + 1) (Moment.ofUtc expiration).timestamp []),
        { service with issued := service.issued + 1 }, arrival⟩ := by
    rw [call, hscript]
    simp only [harrival, Expiry.timestamp, hexpiration, Except.map, Except.mapError]
  rw [hcall]
  refine ⟨_, ⟨_, _, _, .ofUtc expiration, .ofUtc arrival, hordered⟩, rfl,
    TokenResponse.toCredentials_eq_ok_iff.mpr ⟨rfl, rfl⟩, ?_⟩
  rw [Moment.instant_ofUtc]
  exact hexpires

section Counting

variable {addresses done : List Address} {address : Address}

theorem toFinset_snoc (done : List Address) (address : Address) :
    (done ++ [address]).toFinset = insert address done.toFinset := by
  ext other
  rw [List.mem_toFinset, List.mem_append, List.mem_singleton, Finset.mem_insert,
    List.mem_toFinset, or_comm]

theorem card_snoc_of_mem (hmem : address ∈ done) :
    (done ++ [address]).toFinset.card = done.toFinset.card := by
  rw [toFinset_snoc, Finset.insert_eq_of_mem (List.mem_toFinset.mpr hmem)]

theorem card_snoc_of_not_mem (hnew : address ∉ done) :
    (done ++ [address]).toFinset.card = done.toFinset.card + 1 := by
  rw [toFinset_snoc, Finset.card_insert_of_notMem (mt List.mem_toFinset.mp hnew)]

theorem card_le_of_subset (hsub : done ⊆ addresses) :
    done.toFinset.card ≤ addresses.toFinset.card :=
  Finset.card_le_card fun _ hmem => List.mem_toFinset.mpr (hsub (List.mem_toFinset.mp hmem))

theorem delays_le_of_subset {delay : Int} (hdelay : 0 ≤ delay) (hsub : done ⊆ addresses) :
    (done.toFinset.card : Int) * delay ≤ addresses.toFinset.card * delay :=
  Int.mul_le_mul_of_nonneg_right (Int.ofNat_le.mpr (card_le_of_subset hsub)) hdelay

end Counting

namespace Deployment

def gets (addresses : List Address) : List Step :=
  addresses.map .get

/-- The requests that the gets of the addresses send, in turn. -/
def sent (deployment : Deployment) (addresses : List Address) : List AssumeRoleRequest :=
  (deployment.run (gets addresses)).flatMap Report.requests

/-- Nothing is kept yet, all addresses can be served, and what the token service issues lasts until
it has answered for each of them, with the margin to spare, and within the calendar. -/
structure Steady (deployment : Deployment) (addresses : List Address) (delay lifetime : Int) :
    Prop where
  nothing_kept : deployment.broker.cachedAddresses = []
  script : deployment.service.script = ⟨delay, .issue (.after lifetime) []⟩
  served : ∀ address ∈ addresses, ∃ container, deployment.lookup address = .ok container ∧
    (container.role.isEmpty = false ∨ deployment.broker.defaultRole.isEmpty = false)
  delay_nonneg : 0 ≤ delay
  outlasts : addresses.toFinset.card * delay + safetyMargin ≤ lifetime
  end_inside : deployment.clock.micros + addresses.toFinset.card * delay + safetyMargin <
    (calendarMicros : Int)
  expirations_inside : ∀ earlier < addresses.toFinset.card,
    deployment.clock.micros + (earlier : Int) * delay + lifetime < calendarMicros

/-- What the deployment has become once each of the addresses was asked for, and no other. -/
structure Stocked (start : Deployment) (addresses : List Address) (delay lifetime : Int)
    (current : Deployment) : Prop where
  directory : current.directory = start.directory
  script : current.service.script = start.service.script
  defaults : current.broker.emptied = start.broker.emptied
  clock : (current.clock.micros : Int) = start.clock.micros + addresses.toFinset.card * delay
  kept : ∀ address ∈ addresses, ∃ entry, current.broker.cache.get? address = some entry ∧
    start.lookup address = .ok entry.container ∧
    start.clock.micros + lifetime ≤ entry.credentials.expiration.instant
  unkept : ∀ address, address ∉ addresses → current.broker.cache.get? address = none

variable {start current : Deployment} {addresses done : List Address} {address : Address}
  {delay lifetime : Int}

/-! ### One get -/

theorem Steady.stocked_nil (hsteady : start.Steady addresses delay lifetime) :
    start.Stocked [] delay lifetime start := by
  refine ⟨rfl, rfl, rfl, by simp, fun address hmem => absurd hmem List.not_mem_nil, ?_⟩
  intro address _
  rw [← Option.not_isSome_iff_eq_none, ← AddressBook.mem_addresses_iff]
  have hnothing : start.broker.cache.addresses = [] := hsteady.nothing_kept
  rw [hnothing]
  exact List.not_mem_nil

theorem Stocked.lookup_eq (hstocked : start.Stocked done delay lifetime current)
    (address : Address) : current.lookup address = start.lookup address := by
  rw [lookup, lookup, hstocked.directory]

theorem Stocked.requestFor_eq (hstocked : start.Stocked done delay lifetime current)
    (container : Container) :
    current.broker.requestFor current.directory.platform container =
      start.broker.requestFor start.directory.platform container := by
  rw [← Broker.requestFor_emptied, hstocked.defaults, Broker.requestFor_emptied,
    hstocked.directory]

/-- An address that was asked for before is served from what is kept. -/
theorem Stocked.get_of_mem (hsteady : start.Steady addresses delay lifetime)
    (hstocked : start.Stocked done delay lifetime current) (hsub : done ⊆ addresses)
    (hmem : address ∈ done) :
    ∃ entry, current.broker.cache.get? address = some entry ∧
      current.get address =
        ⟨.ok entry.credentials, [], [.reused address entry.container.id], current⟩ := by
  obtain ⟨entry, hentry, hlookup, hexpiration⟩ := hstocked.kept address hmem
  have hclock := hstocked.clock
  have hdelays := delays_le_of_subset hsteady.delay_nonneg hsub
  have houtlasts := hsteady.outlasts
  have hinside := hsteady.end_inside
  rw [← hstocked.lookup_eq] at hlookup
  exact ⟨entry, hentry, get_of_entry hlookup hentry ⟨rfl, rfl⟩ (by omega) (by omega)⟩

/-- An address that was not asked for before is issued credentials that outlast the run. -/
theorem Stocked.issued_of_not_mem (hsteady : start.Steady addresses delay lifetime)
    (hstocked : start.Stocked done delay lifetime current) (hsub : done ++ [address] ⊆ addresses)
    (hnew : address ∉ done) :
    ∃ entry request, current.Issued address entry request ∧
      start.lookup address = .ok entry.container ∧
      start.broker.requestFor start.directory.platform entry.container = .ok request ∧
      start.clock.micros + lifetime ≤ entry.credentials.expiration.instant := by
  obtain ⟨container, hlookup, hrole⟩ := hsteady.served address (hsub (by simp))
  obtain ⟨request, hrequest⟩ := Broker.exists_requestFor_eq_ok_iff.mpr hrole
  have hdue : current.RequestDue address container request := by
    refine ⟨?_, ?_, ?_⟩
    · rw [hstocked.lookup_eq, hlookup]
    · rw [Broker.reusable?, hstocked.unkept address hnew]
    · rw [hstocked.requestFor_eq, hrequest]
  have hcard : done.toFinset.card < addresses.toFinset.card := by
    have hle := card_le_of_subset hsub
    rw [card_snoc_of_not_mem hnew] at hle
    exact hle
  have hclock := hstocked.clock
  have hinside := hsteady.expirations_inside _ hcard
  have hearlier : 0 ≤ (done.toFinset.card : Int) * delay :=
    Int.mul_nonneg (Int.natCast_nonneg _) hsteady.delay_nonneg
  have hle : delay ≤ lifetime := by
    have hone : 1 * delay ≤ addresses.toFinset.card * delay :=
      Int.mul_le_mul_of_nonneg_right (by omega) hsteady.delay_nonneg
    have houtlasts := hsteady.outlasts
    have hmargin := safetyMargin_nonneg
    omega
  have hends : (current.clock.micros : Int) + lifetime < calendarMicros := by omega
  obtain ⟨response, credentials, hreply, hread, hexpiration⟩ :=
    TokenService.exists_credentials_of_call (hstocked.script.trans hsteady.script)
      hsteady.delay_nonneg hle hends
  have hlasts : start.clock.micros + lifetime ≤ credentials.expiration.instant := by omega
  exact ⟨_, request, hdue.issued hreply hread, hlookup, hrequest, hlasts⟩

/-- The clock when the response to an issuing call has arrived. -/
theorem Issued.clock_eq {entry : CacheEntry} {request : AssumeRoleRequest}
    (hissued : current.Issued address entry request) :
    ((current.get address).after.clock.micros : Int) =
      current.clock.micros + current.service.script.delay := by
  obtain ⟨response, hreply, -⟩ := hissued.carried
  rw [hissued.after_get.1]
  exact TokenService.micros_clock_call hreply

/-- Asking again for an address changes nothing about who has been asked for. -/
theorem Stocked.again (hstocked : start.Stocked done delay lifetime current)
    (hmem : address ∈ done) : start.Stocked (done ++ [address]) delay lifetime current := by
  refine ⟨hstocked.directory, hstocked.script, hstocked.defaults, ?_, ?_, ?_⟩
  · rw [card_snoc_of_mem hmem, hstocked.clock]
  · intro other hother
    rcases List.mem_append.mp hother with hin | hlast
    · exact hstocked.kept other hin
    · rw [List.mem_singleton.mp hlast]
      exact hstocked.kept address hmem
  · intro other hother
    exact hstocked.unkept other fun hin => hother (List.mem_append_left _ hin)

theorem Stocked.afterIssue {entry : CacheEntry} {request : AssumeRoleRequest}
    (hstocked : start.Stocked done delay lifetime current)
    (hscript : start.service.script.delay = delay) (hnew : address ∉ done)
    (hissued : current.Issued address entry request)
    (hlookup : start.lookup address = .ok entry.container)
    (hlasts : start.clock.micros + lifetime ≤ entry.credentials.expiration.instant) :
    start.Stocked (done ++ [address]) delay lifetime (current.afterIssue address entry) := by
  have hservice := current.service.call_script current.clock
  refine ⟨hstocked.directory, hservice.trans hstocked.script, hstocked.defaults, ?_, ?_, ?_⟩
  · have hclock := hissued.clock_eq
    rw [hissued.after_get.1, hstocked.clock, hstocked.script, hscript] at hclock
    rw [hclock, card_snoc_of_not_mem hnew, Int.natCast_add, Int.natCast_one, Int.add_mul,
      Int.one_mul, Int.add_assoc]
  · intro other hother
    by_cases hsame : other = address
    · rw [hsame]
      exact ⟨entry, AddressBook.get?_put_self _ _ _, hlookup, hlasts⟩
    · have hin := (List.mem_append.mp hother).resolve_right (mt List.mem_singleton.mp hsame)
      obtain ⟨found, hfound, hrest⟩ := hstocked.kept other hin
      exact ⟨found, (AddressBook.get?_put_of_ne _ hsame _).trans hfound, hrest⟩
  · intro other hother
    have hsame : other ≠ address := fun heq => hother (heq ▸ List.mem_concat_self)
    have hunkept := hstocked.unkept other fun hin => hother (List.mem_append_left _ hin)
    exact (AddressBook.get?_put_of_ne _ hsame _).trans hunkept

theorem Stocked.get (hsteady : start.Steady addresses delay lifetime)
    (hstocked : start.Stocked done delay lifetime current)
    (hsub : done ++ [address] ⊆ addresses) :
    start.Stocked (done ++ [address]) delay lifetime (current.get address).after := by
  by_cases hmem : address ∈ done
  · obtain ⟨entry, -, hget⟩ :=
      hstocked.get_of_mem hsteady (List.append_subset.mp hsub).1 hmem
    rw [hget]
    exact hstocked.again hmem
  · obtain ⟨entry, request, hissued, hlookup, -, hlasts⟩ :=
      hstocked.issued_of_not_mem hsteady hsub hmem
    have hscript : start.service.script.delay = delay := congrArg Script.delay hsteady.script
    rw [hissued.after_get.1]
    exact hstocked.afterIssue hscript hmem hissued hlookup hlasts

/-! ### All gets -/

theorem gets_append (first second : List Address) :
    gets (first ++ second) = gets first ++ gets second :=
  List.map_append

theorem runTo_gets_snoc (deployment : Deployment) (done : List Address) (address : Address) :
    deployment.runTo (gets (done ++ [address])) =
      ((deployment.runTo (gets done)).get address).after := by
  rw [gets_append, runTo_append]
  rfl

theorem Steady.stocked (hsteady : start.Steady addresses delay lifetime)
    (hsub : done ⊆ addresses) : start.Stocked done delay lifetime (start.runTo (gets done)) := by
  induction done using List.reverseRecOn with
  | nil => exact hsteady.stocked_nil
  | append_singleton done address ih =>
      have hdone := ih (List.append_subset.mp hsub).1
      rw [runTo_gets_snoc]
      exact hdone.get hsteady hsub

/-- A get of any of the addresses answers what is kept for it from then on. -/
theorem Stocked.exists_kept_of_get (hsteady : start.Steady addresses delay lifetime)
    (hstocked : start.Stocked done delay lifetime current)
    (hsub : done ++ [address] ⊆ addresses) :
    ∃ entry, (current.get address).after.broker.cache.get? address = some entry ∧
      (current.get address).answer = .ok entry.credentials := by
  by_cases hmem : address ∈ done
  · obtain ⟨entry, hentry, hget⟩ :=
      hstocked.get_of_mem hsteady (List.append_subset.mp hsub).1 hmem
    rw [hget]
    exact ⟨entry, hentry, rfl⟩
  · obtain ⟨entry, request, hissued, -⟩ := hstocked.issued_of_not_mem hsteady hsub hmem
    refine ⟨entry, ?_, hissued.answered⟩
    rw [hissued.after_get.1]
    exact AddressBook.get?_put_self _ _ _

/-- What is kept for an address that was asked for stays there. -/
theorem Steady.get?_cache_runTo_append (hsteady : start.Steady addresses delay lifetime)
    {rest : List Address} (hsub : done ++ rest ⊆ addresses) (hmem : address ∈ done) :
    (start.runTo (gets (done ++ rest))).broker.cache.get? address =
      (start.runTo (gets done)).broker.cache.get? address := by
  induction rest using List.reverseRecOn with
  | nil => rw [List.append_nil]
  | append_singleton rest next ih =>
      rw [← List.append_assoc] at hsub ⊢
      have hearlier : done ++ rest ⊆ addresses := (List.append_subset.mp hsub).1
      have hnot : ¬(start.runTo (gets (done ++ rest))).Replaces address (.get next) := by
        rintro (⟨hstep, hsent, -⟩ | ⟨_, _, _, hstep, -⟩)
        · cases hstep
          obtain ⟨_, -, hget⟩ := (hsteady.stocked hearlier).get_of_mem hsteady hearlier
            (List.mem_append_left _ hmem)
          rw [hget] at hsent
          exact hsent rfl
        · cases hstep
      rw [runTo_gets_snoc]
      exact (get?_cache_step hnot).trans (ih hearlier)

theorem sent_snoc (deployment : Deployment) (done : List Address) (address : Address) :
    deployment.sent (done ++ [address]) =
      deployment.sent done ++ ((deployment.runTo (gets done)).get address).requests := by
  rw [sent, gets_append, run_append, List.flatMap_append]
  exact congrArg _ (List.append_nil _)

theorem Steady.requests_get (hsteady : start.Steady addresses delay lifetime)
    (hsub : done ++ [address] ⊆ addresses) (hnew : address ∉ done) :
    ((start.runTo (gets done)).get address).requests = (start.get address).requests := by
  have hfirst : [] ++ [address] ⊆ addresses := (List.append_subset.mp hsub).2
  obtain ⟨entry, request, hissued, hlookup, hrequest, -⟩ :=
    (hsteady.stocked (List.append_subset.mp hsub).1).issued_of_not_mem hsteady hsub hnew
  obtain ⟨entry', request', hissued', hlookup', hrequest', -⟩ :=
    hsteady.stocked_nil.issued_of_not_mem hsteady hfirst List.not_mem_nil
  have hcontainer : entry.container = entry'.container :=
    Except.ok.inj (hlookup.symm.trans hlookup')
  rw [hcontainer, hrequest'] at hrequest
  rw [hissued.sent, hissued'.sent, Except.ok.inj hrequest]

/-- Together the gets send what a get of each of the addresses would send on its own. -/
theorem Steady.coe_sent (hsteady : start.Steady addresses delay lifetime)
    (hsub : done ⊆ addresses) :
    (start.sent done : Multiset AssumeRoleRequest) =
      done.toFinset.val.bind fun address => (start.get address).requests := by
  induction done using List.reverseRecOn with
  | nil => rfl
  | append_singleton done address ih =>
      have hearlier : done ⊆ addresses := (List.append_subset.mp hsub).1
      rw [sent_snoc, ← Multiset.coe_add, ih hearlier, toFinset_snoc]
      by_cases hmem : address ∈ done
      · obtain ⟨_, -, hget⟩ := (hsteady.stocked hearlier).get_of_mem hsteady hearlier hmem
        rw [hget, Finset.insert_eq_of_mem (List.mem_toFinset.mpr hmem)]
        exact add_zero _
      · rw [hsteady.requests_get hsub hmem,
          Finset.insert_val_of_notMem (mt List.mem_toFinset.mp hmem), Multiset.cons_bind, add_comm]

theorem Steady.length_sent (hsteady : start.Steady addresses delay lifetime)
    (hsub : done ⊆ addresses) : (start.sent done).length = done.toFinset.card := by
  have hone (address : Address) (hmem : address ∈ done.toFinset.val) :
      (start.get address).requests.length = 1 := by
    have hin : [] ++ [address] ⊆ addresses :=
      List.cons_subset.mpr ⟨hsub (List.mem_toFinset.mp hmem), List.nil_subset _⟩
    obtain ⟨_, _, hissued, -⟩ :=
      hsteady.stocked_nil.issued_of_not_mem hsteady hin List.not_mem_nil
    rw [hissued.sent, List.length_singleton]
  calc
    (start.sent done).length = Multiset.card (start.sent done : Multiset AssumeRoleRequest) :=
      (Multiset.coe_card _).symm
    _ = (done.toFinset.val.map fun address => (start.get address).requests.length).sum := by
      rw [hsteady.coe_sent hsub, Multiset.card_bind]
      rfl
    _ = (done.toFinset.val.map fun _ => 1).sum := by
      rw [Multiset.map_congr rfl hone]
    _ = done.toFinset.card := by
      rw [Multiset.map_const', Multiset.sum_replicate]
      exact Nat.mul_one _

theorem Stocked.cachedAddresses_eq (hstocked : start.Stocked done delay lifetime current) :
    current.broker.cachedAddresses = done.toFinset.sort := by
  have hincreasing := current.broker.cache.addresses_increasing
  have hset : current.broker.cachedAddresses.toFinset = done.toFinset := by
    ext address
    rw [List.mem_toFinset, List.mem_toFinset, Broker.cachedAddresses,
      AddressBook.mem_addresses_iff]
    constructor
    · intro hkept
      by_contra hnew
      rw [hstocked.unkept address hnew] at hkept
      cases hkept
    · intro hmem
      obtain ⟨entry, hentry, -⟩ := hstocked.kept address hmem
      rw [hentry]
      rfl
  have hnodup : current.broker.cachedAddresses.Nodup := hincreasing.imp fun hlt => hlt.ne
  rw [← hset]
  exact ((List.toFinset_sort (· ≤ ·) hnodup).mpr (hincreasing.imp fun hlt => hlt.le)).symm

/-- Every get of the addresses answers what is kept for its address in the end, so that all gets of
one address answer the same, and the first of them alone sends the request for its container. -/
structure AskedOnce (deployment : Deployment) (addresses : List Address) : Prop where
  answered : ∀ earlier address later, addresses = earlier ++ address :: later →
    ∃ entry, (deployment.runTo (gets addresses)).broker.cache.get? address = some entry ∧
      ((deployment.runTo (gets earlier)).get address).answer = .ok entry.credentials
  sent_first : ∀ earlier address later, addresses = earlier ++ address :: later →
    address ∉ earlier → ∃ container request, deployment.lookup address = .ok container ∧
      deployment.broker.requestFor deployment.directory.platform container = .ok request ∧
      ((deployment.runTo (gets earlier)).get address).requests = [request]
  not_sent_again : ∀ earlier address later, addresses = earlier ++ address :: later →
    address ∈ earlier → ((deployment.runTo (gets earlier)).get address).requests = []
  length_sent : (deployment.sent addresses).length = addresses.toFinset.card
  cached : (deployment.runTo (gets addresses)).broker.cachedAddresses = addresses.toFinset.sort

theorem Steady.askedOnce (hsteady : start.Steady addresses delay lifetime) :
    start.AskedOnce addresses := by
  have hall : addresses ⊆ addresses := List.Subset.refl _
  have hwithin {earlier later : List Address} {address : Address}
      (hsplit : addresses = earlier ++ address :: later) : earlier ++ [address] ⊆ addresses := by
    rw [List.append_cons] at hsplit
    rw [hsplit]
    exact List.subset_append_left _ _
  refine ⟨?_, ?_, ?_, hsteady.length_sent hall, (hsteady.stocked hall).cachedAddresses_eq⟩
  · intro earlier address later hsplit
    have hsub := hwithin hsplit
    have hstocked := hsteady.stocked (List.append_subset.mp hsub).1
    obtain ⟨entry, hentry, hanswer⟩ := hstocked.exists_kept_of_get hsteady hsub
    rw [List.append_cons] at hsplit
    have hrest : earlier ++ [address] ++ later ⊆ addresses := by
      rw [← hsplit]
      exact hall
    have hend := hsteady.get?_cache_runTo_append hrest List.mem_concat_self
    rw [← hsplit, runTo_gets_snoc, hentry] at hend
    exact ⟨entry, hend, hanswer⟩
  · intro earlier address later hsplit hnew
    have hsub := hwithin hsplit
    have hstocked := hsteady.stocked (List.append_subset.mp hsub).1
    obtain ⟨entry, request, hissued, hlookup, hrequest, -⟩ :=
      hstocked.issued_of_not_mem hsteady hsub hnew
    exact ⟨entry.container, request, hlookup, hrequest, hissued.sent⟩
  · intro earlier address later hsplit hmem
    have hearlier := (List.append_subset.mp (hwithin hsplit)).1
    obtain ⟨_, -, hget⟩ := (hsteady.stocked hearlier).get_of_mem hsteady hearlier hmem
    rw [hget]

/-- **One request for each address.** Where all that is issued outlasts the run, each address is
asked for once, whatever the order of the gets and however often they are repeated. The order
changes neither which requests are sent, nor who has credentials in the end, nor how long it
takes. -/
theorem one_request_for_each_address (hsteady : start.Steady addresses delay lifetime) :
    start.AskedOnce addresses ∧
      ∀ one other, one.Perm addresses → other.Perm addresses →
        (start.sent one).Perm (start.sent other) ∧
        (start.runTo (gets one)).broker.cachedAddresses =
          (start.runTo (gets other)).broker.cachedAddresses ∧
        (start.runTo (gets one)).clock = (start.runTo (gets other)).clock := by
  refine ⟨hsteady.askedOnce, ?_⟩
  intro one other hone hother
  have hsame : one.toFinset = other.toFinset :=
    List.toFinset_eq_of_perm _ _ (hone.trans hother.symm)
  have hstocked := hsteady.stocked hone.subset
  have hstocked' := hsteady.stocked hother.subset
  refine ⟨?_, ?_, ?_⟩
  · rw [← Multiset.coe_eq_coe, hsteady.coe_sent hone.subset, hsteady.coe_sent hother.subset, hsame]
  · rw [hstocked.cachedAddresses_eq, hstocked'.cachedAddresses_eq, hsame]
  · apply WallTime.ext
    apply Int.ofNat.inj
    calc
      ((start.runTo (gets one)).clock.micros : Int) =
          start.clock.micros + one.toFinset.card * delay := hstocked.clock
      _ = start.clock.micros + other.toFinset.card * delay := by rw [hsame]
      _ = (start.runTo (gets other)).clock.micros := hstocked'.clock.symm

/-- Two containers, one of them without a role of its own, and a token service that takes a second
for each answer. -/
def courtyard (lifetime : Int) : Deployment where
  directory := .ofList "docker" [("10.0.0.7", Trial.web), ("10.0.0.8", Trial.bare)]
  service := { TokenService.start .standard with script := ⟨1000000, .issue (.after lifetime) []⟩ }
  clock := Trial.noon
  threshold := .info
  broker := .start ⟨"arn:aws:iam::1:role/default"⟩ none

def visits : List Address :=
  ["10.0.0.8", "10.0.0.7", "10.0.0.8", "10.0.0.7", "10.0.0.8"]

/-- The lifetime is the shortest one possible. With a microsecond less every get sends a request. -/
theorem one_request_for_each_address_courtyard :
    (courtyard 302000000).Steady visits 1000000 302000000 ∧
      (courtyard 302000000).AskedOnce visits ∧
      ((courtyard 302000000).runTo (gets visits)).broker.cachedAddresses =
        ["10.0.0.7", "10.0.0.8"] ∧
      ((courtyard 302000000).sent visits.mergeSort).Perm ((courtyard 302000000).sent visits) ∧
      ((courtyard 301999999).sent visits).length = 5 := by
  have hcard : visits.toFinset.card = 2 := by decide
  have hsteady : (courtyard 302000000).Steady visits 1000000 302000000 := by
    refine ⟨rfl, rfl, ?_, by decide, ?_, ?_, ?_⟩
    · intro address hmem
      simp only [visits, List.mem_cons, List.not_mem_nil, or_false] at hmem
      rcases hmem with rfl | rfl | rfl | rfl | rfl
      · exact ⟨Trial.bare, rfl, Or.inr rfl⟩
      · exact ⟨Trial.web, rfl, Or.inl rfl⟩
      · exact ⟨Trial.bare, rfl, Or.inr rfl⟩
      · exact ⟨Trial.web, rfl, Or.inl rfl⟩
      · exact ⟨Trial.bare, rfl, Or.inr rfl⟩
    · rw [hcard]
      decide
    · rw [hcard]
      decide
    · rw [hcard]
      decide
  obtain ⟨honce, hperm⟩ := one_request_for_each_address hsteady
  exact ⟨hsteady, honce, rfl, (hperm _ _ (List.mergeSort_perm _ _) (.refl _)).1, rfl⟩

end Deployment

end CredentialBroker
