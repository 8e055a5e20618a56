import CredentialBroker.Proofs.Effect
import CredentialBroker.Proofs.Provenance
import CredentialBroker.Text.Digits

/-!
The list of addresses for which credentials are kept. Main statement: at every point of every run it
is in strictly increasing order of code points, and on it are exactly the addresses of which a get
has succeeded since the broker in service was started.

A step either leaves the broker as it is, or is a get that keeps what it issues, or puts another
broker into service. So an address comes on the list with a get of it that succeeds and goes only
with all the others, when another broker starts.
-/

namespace CredentialBroker

/-- Addresses are in the order of their code points, of which the first that differ decide. -/
theorem Address.lt_iff_codePoints {left right : Address} :
    left < right ↔ left.toList.map Char.toNat < right.toList.map Char.toNat :=
  Text.lt_iff_codePoints

theorem Broker.mem_cachedAddresses_iff {broker : Broker} {address : Address} :
    address ∈ broker.cachedAddresses ↔ ∃ entry, broker.cache.get? address = some entry := by
  rw [cachedAddresses, AddressBook.mem_addresses_iff, Option.isSome_iff_exists]

namespace Deployment

/-- The step is a get of the address, and it succeeds. -/
def Serves (deployment : Deployment) (address : Address) (step : Step) : Prop :=
  step = .get address ∧ ∃ credentials, (deployment.get address).answer = .ok credentials

/-- In the course of the run a get of the address has succeeded, and no other broker was put into
service after it. -/
def ServedSinceStart (deployment : Deployment) (steps : List Step) (address : Address) : Prop :=
  ∃ earlier step later, steps = earlier ++ step :: later ∧
    (deployment.runTo earlier).Serves address step ∧
    ((deployment.runTo earlier).step step).after.Throughout
      (fun current next => ¬current.Restarts next) later

/-- What the step does to the list: another broker empties it, any other step keeps all addresses on
it, and one that is no successful get leaves it as it is. -/
structure ListingStep (deployment : Deployment) (step : Step) : Prop where
  emptied : deployment.Restarts step → (deployment.step step).after.broker.cachedAddresses = []
  kept : ¬deployment.Restarts step → ∀ address ∈ deployment.broker.cachedAddresses,
    address ∈ (deployment.step step).after.broker.cachedAddresses
  unchanged : ¬deployment.Restarts step → (∀ address, ¬deployment.Serves address step) →
    (deployment.step step).after.broker.cachedAddresses = deployment.broker.cachedAddresses

variable {deployment : Deployment} {address : Address} {step : Step} {steps : List Step}

theorem Serves.not_restarts (hserves : deployment.Serves address step) :
    ¬deployment.Restarts step := by
  obtain ⟨rfl, -⟩ := hserves
  rintro ⟨_, _, _, hstep, -⟩
  cases hstep

/-- What is kept for an address gives way to something else only in a get of it that succeeds or
together with the broker. -/
theorem Replaces.serves_or_restarts (hreplaces : deployment.Replaces address step) :
    deployment.Serves address step ∨ deployment.Restarts step := by
  apply Or.imp_left _ hreplaces
  rintro ⟨hstep, -, hanswer⟩
  exact ⟨hstep, hanswer⟩

/-! ### One step -/

theorem broker_step_of_not_serves (hrestarts : ¬deployment.Restarts step)
    (hserves : ∀ address, ¬deployment.Serves address step) :
    (deployment.step step).after.broker = deployment.broker := by
  have hcase := deployment.stepCase step
  generalize (deployment.step step).after = after at hcase ⊢
  cases hcase with
  | issued hstep hissued => exact absurd ⟨hstep, _, hissued.answered⟩ (hserves _)
  | restarted settings threshold hrestarted => exact absurd hrestarted hrestarts
  | _ => rfl

theorem cachedAddresses_step_of_restarts (hrestarts : deployment.Restarts step) :
    (deployment.step step).after.broker.cachedAddresses = [] := by
  obtain ⟨environment, session, startup, rfl, hanswer⟩ := hrestarts
  change (deployment.build environment session).after.broker.cachedAddresses = []
  rw [broker_build_of_ok hanswer]
  rfl

theorem Serves.mem_cachedAddresses (hserves : deployment.Serves address step) :
    address ∈ (deployment.step step).after.broker.cachedAddresses := by
  obtain ⟨rfl, credentials, hanswer⟩ := hserves
  obtain ⟨container, hlookup⟩ := exists_lookup_of_answer hanswer
  -- the entry is there whether the get issued it or found it
  obtain ⟨entry, hentry, -, -⟩ := exists_kept_of_answer hlookup hanswer
  exact Broker.mem_cachedAddresses_iff.mpr ⟨entry, hentry⟩

theorem mem_cachedAddresses_step_iff (hrestarts : ¬deployment.Restarts step) :
    address ∈ (deployment.step step).after.broker.cachedAddresses ↔
      address ∈ deployment.broker.cachedAddresses ∨ deployment.Serves address step := by
  by_cases hserves : deployment.Serves address step
  · exact iff_of_true hserves.mem_cachedAddresses (Or.inr hserves)
  · have hkept : ¬deployment.Replaces address step := by
      intro hreplaces
      rcases hreplaces.serves_or_restarts with hserved | hrestarted
      · exact hserves hserved
      · exact hrestarts hrestarted
    rw [Broker.mem_cachedAddresses_iff, Broker.mem_cachedAddresses_iff, get?_cache_step hkept]
    simp only [hserves, or_false]

theorem listingStep (deployment : Deployment) (step : Step) : deployment.ListingStep step where
  emptied := cachedAddresses_step_of_restarts
  kept hrestarts _ hmem := (mem_cachedAddresses_step_iff hrestarts).mpr (Or.inl hmem)
  unchanged hrestarts hserves := by
    rw [broker_step_of_not_serves hrestarts hserves]

/-! ### A whole run -/

theorem not_servedSinceStart_nil : ¬deployment.ServedSinceStart [] address := by
  rintro ⟨earlier, step, later, hsplit, -⟩
  simp at hsplit

theorem servedSinceStart_cons :
    deployment.ServedSinceStart (step :: steps) address ↔
      (deployment.Serves address step ∧
          (deployment.step step).after.Throughout
            (fun current next => ¬current.Restarts next) steps) ∨
        (deployment.step step).after.ServedSinceStart steps address := by
  constructor
  · rintro ⟨earlier, served, later, hsplit, hserves, hsince⟩
    cases earlier with
    | nil =>
        cases hsplit
        exact Or.inl ⟨hserves, hsince⟩
    | cons first earlier =>
        cases hsplit
        exact Or.inr ⟨earlier, served, later, rfl, hserves, hsince⟩
  · rintro (⟨hserves, hsince⟩ | ⟨earlier, served, later, rfl, hserves, hsince⟩)
    · exact ⟨[], step, steps, rfl, hserves, hsince⟩
    · exact ⟨step :: earlier, served, later, rfl, hserves, hsince⟩

/-- On the list after a run are the addresses that were on it before, if the broker has stayed, and
those that were served since it started. -/
theorem mem_cachedAddresses_runTo_iff :
    address ∈ (deployment.runTo steps).broker.cachedAddresses ↔
      (address ∈ deployment.broker.cachedAddresses ∧
          deployment.Throughout (fun current step => ¬current.Restarts step) steps) ∨
        deployment.ServedSinceStart steps address := by
  induction steps generalizing deployment with
  | nil => simp [not_servedSinceStart_nil]
  | cons step steps ih =>
      rw [runTo_cons, ih, servedSinceStart_cons, throughout_cons]
      by_cases hrestarts : deployment.Restarts step
      · have hserves : ¬deployment.Serves address step := fun hserves =>
          hserves.not_restarts hrestarts
        simp [cachedAddresses_step_of_restarts hrestarts, hrestarts, hserves]
      · rw [mem_cachedAddresses_step_iff hrestarts]
        simp only [hrestarts, not_false_eq_true, true_and, or_and_right, or_assoc]

theorem Fresh.mem_cachedAddresses_iff (hfresh : deployment.Fresh) :
    address ∈ (deployment.runTo steps).broker.cachedAddresses ↔
      deployment.ServedSinceStart steps address := by
  have hempty : address ∉ deployment.broker.cachedAddresses := by
    rw [Broker.mem_cachedAddresses_iff, hfresh.get?_cache]
    rintro ⟨entry, hentry⟩
    cases hentry
  rw [mem_cachedAddresses_runTo_iff]
  simp only [hempty, false_and, false_or]

/-- **Listing.** At every point of every run the list is strictly increasing by code points, and an
address is on it exactly when a get of it has succeeded since the broker in service was started. The
next step empties the list if it puts another broker into service, and otherwise takes no address
off it; unless it is a get that succeeds, it leaves the list as it is. -/
theorem listed_addresses_exact (hfresh : deployment.Fresh) (steps : List Step) :
    ((deployment.runTo steps).broker.cachedAddresses.Pairwise fun left right =>
        left.toList.map Char.toNat < right.toList.map Char.toNat) ∧
      (∀ address, address ∈ (deployment.runTo steps).broker.cachedAddresses ↔
        deployment.ServedSinceStart steps address) ∧
      ∀ step, (deployment.runTo steps).ListingStep step := by
  refine ⟨?_, fun address => hfresh.mem_cachedAddresses_iff, (deployment.runTo steps).listingStep⟩
  apply List.Pairwise.imp _ (AddressBook.addresses_increasing _)
  intro left right hlt
  exact Address.lt_iff_codePoints.mp hlt

/-- One address is served, another broker starts, and two more are served before the directory goes
down and a start fails. -/
def callers : List Step :=
  [.put "10.0.0.8" Trial.web, .get "10.0.0.8", .build Trial.environment none,
    .put "10.0.0.10" Trial.web, .get "10.0.0.7", .get "10.0.0.10", .setOutage (some "down"),
    .get "10.0.0.9", .build ⟨[]⟩ none]

theorem listed_addresses_exact_callers :
    Trial.deployment.Fresh ∧
      (Trial.deployment.runTo callers).broker.cachedAddresses = ["10.0.0.10", "10.0.0.7"] ∧
      Trial.deployment.ServedSinceStart callers "10.0.0.7" ∧
      ¬Trial.deployment.ServedSinceStart callers "10.0.0.8" := by
  have hlisted : (Trial.deployment.runTo callers).broker.cachedAddresses =
      ["10.0.0.10", "10.0.0.7"] := rfl
  obtain ⟨-, hexact, -⟩ := listed_addresses_exact Trial.fresh_deployment callers
  refine ⟨Trial.fresh_deployment, hlisted, ?_, ?_⟩
  · rw [← hexact, hlisted]
    decide
  · rw [← hexact, hlisted]
    decide

end Deployment

end CredentialBroker
