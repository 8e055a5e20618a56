import CredentialBroker.Directory
import CredentialBroker.Proofs.SettingsReading

/-!
What a directory finds after a history of operations. Main statement: it finds the container that
was put at the address last, unless that was removed since, and where the history does not touch the
address, the one that it held from the start; else it says which address has none.

Only the last operation that writes at the address counts, so what is found there does not change
with operations elsewhere, with lookups or with a removal where nothing is left to remove.
-/

namespace CredentialBroker

/-- A container as it is declared. The role and the policy may be left out. -/
structure Declaration where
  id : String
  role : Option String
  policy : Option String

def Declaration.container (declaration : Declaration) : Container :=
  .declared declaration.id declaration.role declaration.policy

/-- The container has the id and the role as declared, and the policy if there is more to it than
blanks. -/
structure Container.StandsFor (container : Container) (declaration : Declaration) : Prop where
  id : container.id = declaration.id
  role : container.role.text = declaration.role.getD ""
  policy : ∀ text, container.policy.map Policy.text = some text ↔
    declaration.policy = some text ∧ ∃ char ∈ text.toList, Text.isBlank char = false

/-- The last member of the list that has the property. -/
def LastWith {α : Type} (property : α → Prop) (list : List α) (last : α) : Prop :=
  ∃ earlier later, list = earlier ++ last :: later ∧ property last ∧
    ∀ other ∈ later, ¬property other

namespace Directory

inductive Operation where
  | put (address : Address) (declaration : Declaration)
  | remove (address : Address)
  | lookup (address : Address)

/-- The operation puts a container at the address or removes the one that is there. -/
def Operation.Writes (operation : Operation) (address : Address) : Prop :=
  (∃ declaration, operation = .put address declaration) ∨ operation = .remove address

/-- The directory after the operation. A lookup leaves it as it is. -/
def perform (directory : Directory) : Operation → Directory
  | .put address declaration => directory.put address declaration.container
  | .remove address => directory.remove address
  | .lookup _ => directory

def performAll (directory : Directory) (operations : List Operation) : Directory :=
  operations.foldl perform directory

/-- A directory that holds containers from the start. Of several at one address the last counts. -/
def holding (platform : String) (initial : List (Address × Declaration)) : Directory :=
  .ofList platform (initial.map fun entry => (entry.1, entry.2.container))

/-- The declaration whose container stands at the address: that of the last put, if nothing was
written there since, and the initial one if nothing was written there at all. -/
inductive Standing (initial : List (Address × Declaration)) (operations : List Operation)
    (address : Address) : Declaration → Prop where
  | lastPut {declaration : Declaration}
      (hlast : LastWith (·.Writes address) operations (.put address declaration)) :
      Standing initial operations address declaration
  | initial {declaration : Declaration}
      (huntouched : ∀ operation ∈ operations, ¬operation.Writes address)
      (hheld : LastWith (fun entry => entry.1 = address) initial (address, declaration)) :
      Standing initial operations address declaration

/-- The operation makes no difference at the address after those before it: it is a lookup, or
concerns another address, or removes once more what was removed and not put there again. -/
inductive Idle (address : Address) (earlier : List Operation) : Operation → Prop where
  | lookup (other : Address) : Idle address earlier (.lookup other)
  | putElsewhere {other : Address} (hne : other ≠ address) (declaration : Declaration) :
      Idle address earlier (.put other declaration)
  | removeElsewhere {other : Address} (hne : other ≠ address) :
      Idle address earlier (.remove other)
  | removeAgain {before since : List Operation}
      (hsplit : earlier = before ++ .remove address :: since)
      (hput : ∀ declaration, .put address declaration ∉ since) :
      Idle address earlier (.remove address)

end Directory

/-! ### The last member with a property -/

section LastWith

variable {α : Type} {property : α → Prop} {list : List α} {first last : α}

theorem LastWith.mem (hlast : LastWith property list last) : last ∈ list := by
  obtain ⟨earlier, later, rfl, -⟩ := hlast
  simp

theorem not_lastWith_nil : ¬LastWith property [] last := by
  intro hlast
  cases hlast.mem

theorem lastWith_cons :
    LastWith property (first :: list) last ↔
      LastWith property list last ∨
        (last = first ∧ property first ∧ ∀ other ∈ list, ¬property other) := by
  constructor
  · rintro ⟨earlier, later, hsplit, hholds, hlater⟩
    cases earlier with
    | nil =>
        cases hsplit
        exact Or.inr ⟨rfl, hholds, hlater⟩
    | cons _ earlier =>
        cases hsplit
        exact Or.inl ⟨earlier, later, rfl, hholds, hlater⟩
  · rintro (⟨earlier, later, rfl, hholds, hlater⟩ | ⟨rfl, hholds, hlater⟩)
    · exact ⟨first :: earlier, later, rfl, hholds, hlater⟩
    · exact ⟨[], list, rfl, hholds, hlater⟩

end LastWith

/-! ### Declared containers -/

theorem Container.standsFor_iff {container : Container} {declaration : Declaration} :
    container.StandsFor declaration ↔ container = declaration.container := by
  have hpolicy (text : String) : declaration.container.policy.map Policy.text = some text ↔
      declaration.policy = some text ∧ ∃ char ∈ text.toList, Text.isBlank char = false :=
    Policy.normalize_eq_some_iff
  constructor
  · intro hstands
    have htexts : container.policy.map Policy.text =
        declaration.container.policy.map Policy.text := by
      apply Option.ext
      intro text
      rw [hpolicy, ← hstands.policy]
    have hpolicies : container.policy = declaration.container.policy := by
      rw [← Policy.bind_ofText?_map_text container.policy, htexts, Policy.bind_ofText?_map_text]
    obtain ⟨id, ⟨role⟩, policy⟩ := container
    obtain ⟨rfl, rfl, -⟩ := hstands
    cases hpolicies
    rfl
  · rintro rfl
    exact ⟨rfl, rfl, hpolicy⟩

namespace Directory

variable {directory left right : Directory} {address : Address} {operation : Operation}
  {operations : List Operation} {container : Container}

/-! ### One operation -/

@[simp]
theorem writes_put_iff {written : Address} {declaration : Declaration} :
    (Operation.put written declaration).Writes address ↔ written = address := by
  simp [Operation.Writes]

theorem get?_perform_of_not_writes (hwrites : ¬operation.Writes address) :
    (directory.perform operation).containers.get? address = directory.containers.get? address := by
  cases operation with
  | put written declaration =>
      apply AddressBook.get?_put_of_ne
      rintro rfl
      exact hwrites (writes_put_iff.mpr rfl)
  | remove written =>
      apply AddressBook.get?_remove_of_ne
      rintro rfl
      exact hwrites (Or.inr rfl)
  | lookup read => rfl

theorem get?_perform_of_writes (hwrites : operation.Writes address) :
    (directory.perform operation).containers.get? address = some container ↔
      ∃ declaration, operation = .put address declaration ∧ container = declaration.container := by
  rcases hwrites with ⟨declaration, rfl⟩ | rfl
  · rw [perform, put, AddressBook.get?_put_self]
    simp [eq_comm]
  · rw [perform, remove, AddressBook.get?_remove_self]
    simp

theorem outage_perform (directory : Directory) (operation : Operation) :
    (directory.perform operation).outage = directory.outage := by
  cases operation <;> rfl

/-! ### A whole history -/

@[simp]
theorem performAll_nil (directory : Directory) : directory.performAll [] = directory := rfl

@[simp]
theorem performAll_cons (directory : Directory) (operation : Operation)
    (operations : List Operation) :
    directory.performAll (operation :: operations) =
      (directory.perform operation).performAll operations := rfl

theorem performAll_append (directory : Directory) (first second : List Operation) :
    directory.performAll (first ++ second) = (directory.performAll first).performAll second :=
  List.foldl_append

theorem outage_performAll (directory : Directory) (operations : List Operation) :
    (directory.performAll operations).outage = directory.outage := by
  induction operations generalizing directory with
  | nil => rfl
  | cons operation operations ih => rw [performAll_cons, ih, outage_perform]

/-- A container is at the address after a history if its last write there is the put of the
container, or if the history does not write there and the container was there before. -/
theorem get?_performAll_iff :
    (directory.performAll operations).containers.get? address = some container ↔
      (∃ declaration, LastWith (·.Writes address) operations (.put address declaration) ∧
          container = declaration.container) ∨
        ((∀ operation ∈ operations, ¬operation.Writes address) ∧
          directory.containers.get? address = some container) := by
  induction operations generalizing directory with
  | nil => simp [not_lastWith_nil]
  | cons operation operations ih =>
      rw [performAll_cons, ih]
      simp only [lastWith_cons, List.forall_mem_cons]
      by_cases hwrites : operation.Writes address
      · rw [get?_perform_of_writes hwrites]
        grind
      · rw [get?_perform_of_not_writes hwrites]
        grind

theorem get?_performAll_congr
    (hagrees : left.containers.get? address = right.containers.get? address) :
    (left.performAll operations).containers.get? address =
      (right.performAll operations).containers.get? address := by
  apply Option.ext
  intro container
  rw [get?_performAll_iff, get?_performAll_iff, hagrees]

theorem get?_performAll_of_removed (hremoved : directory.containers.get? address = none)
    (hput : ∀ declaration, .put address declaration ∉ operations) :
    (directory.performAll operations).containers.get? address = none := by
  apply Option.eq_none_iff_forall_ne_some.mpr
  intro container hfound
  rcases get?_performAll_iff.mp hfound with ⟨declaration, hlast, -⟩ | ⟨-, hheld⟩
  · exact hput declaration hlast.mem
  · rw [hremoved] at hheld
    cases hheld

theorem Idle.get?_perform {earlier : List Operation} (hidle : Idle address earlier operation)
    (directory : Directory) :
    ((directory.performAll earlier).perform operation).containers.get? address =
      (directory.performAll earlier).containers.get? address := by
  cases hidle with
  | lookup other => rfl
  | putElsewhere hne declaration => exact AddressBook.get?_put_of_ne _ hne.symm _
  | removeElsewhere hne => exact AddressBook.get?_remove_of_ne _ hne.symm
  | removeAgain hsplit hput =>
      have hnone : (directory.performAll earlier).containers.get? address = none := by
        rw [hsplit, performAll_append]
        apply get?_performAll_of_removed _ hput
        exact AddressBook.get?_remove_self _ _
      rw [hnone]
      exact AddressBook.get?_remove_self _ _

/-! ### The initial containers -/

section Holding

variable {platform : String} {initial : List (Address × Declaration)}

/-- To hold containers from the start is to have put them one after another. -/
theorem holding_eq_performAll :
    holding platform initial =
      (ofList platform []).performAll (initial.map fun entry => .put entry.1 entry.2) := by
  have hputs (book : AddressBook Container) :
      Directory.mk platform
          (initial.foldl (fun book entry => book.put entry.1 entry.2.container) book) none =
        (mk platform book none).performAll (initial.map fun entry => .put entry.1 entry.2) := by
    induction initial generalizing book with
    | nil => rfl
    | cons entry initial ih => exact ih _
  rw [holding, ofList, AddressBook.ofList, List.foldl_map, hputs]
  rfl

theorem lastWith_put_iff {declaration : Declaration} :
    LastWith (·.Writes address) (initial.map fun entry => Operation.put entry.1 entry.2)
        (.put address declaration) ↔
      LastWith (fun entry => entry.1 = address) initial (address, declaration) := by
  induction initial with
  | nil => simp [not_lastWith_nil]
  | cons entry initial ih =>
      simp only [List.map_cons, lastWith_cons, ih, List.forall_mem_map, writes_put_iff,
        Operation.put.injEq, Prod.ext_iff]

theorem get?_holding_iff :
    (holding platform initial).containers.get? address = some container ↔
      ∃ declaration, LastWith (fun entry => entry.1 = address) initial (address, declaration) ∧
        container = declaration.container := by
  have hnone : (ofList platform []).containers.get? address = none := rfl
  rw [holding_eq_performAll, get?_performAll_iff, hnone]
  simp [lastWith_put_iff]

/-! ### Lookups -/

theorem lookup_eq_error_iff {error : DirectoryError} (hup : directory.outage = none) :
    directory.lookup address = .error error ↔
      error = .notFound address ∧ ∀ container, directory.lookup address ≠ .ok container := by
  rw [lookup, hup]
  cases directory.containers.get? address <;> simp [eq_comm]

theorem lookup_congr (houtage : left.outage = right.outage)
    (hagrees : left.containers.get? address = right.containers.get? address) :
    left.lookup address = right.lookup address := by
  rw [lookup, lookup, houtage, hagrees]

theorem outage_performAll_holding :
    ((holding platform initial).performAll operations).outage = none :=
  outage_performAll _ _

theorem lookup_performAll_eq_ok_iff :
    ((holding platform initial).performAll operations).lookup address = .ok container ↔
      ∃ declaration, Standing initial operations address declaration ∧
        container.StandsFor declaration := by
  rw [lookup_eq_ok_iff, get?_performAll_iff, get?_holding_iff]
  simp only [outage_performAll_holding, true_and, Container.standsFor_iff]
  constructor
  · rintro (⟨declaration, hlast, hcontainer⟩ | ⟨huntouched, declaration, hheld, hcontainer⟩)
    · exact ⟨declaration, .lastPut hlast, hcontainer⟩
    · exact ⟨declaration, .initial huntouched hheld, hcontainer⟩
  · rintro ⟨declaration, hstanding, hcontainer⟩
    cases hstanding with
    | lastPut hlast => exact Or.inl ⟨declaration, hlast, hcontainer⟩
    | initial huntouched hheld => exact Or.inr ⟨huntouched, declaration, hheld, hcontainer⟩

theorem lookup_performAll_eq_error_iff {error : DirectoryError} :
    ((holding platform initial).performAll operations).lookup address = .error error ↔
      error = .notFound address ∧
        ∀ declaration, ¬Standing initial operations address declaration := by
  rw [lookup_eq_error_iff outage_performAll_holding]
  apply and_congr_right
  intro _
  constructor
  · intro hnone declaration hstanding
    have hstands := Container.standsFor_iff.mpr (rfl : declaration.container = _)
    exact hnone _ (lookup_performAll_eq_ok_iff.mpr ⟨declaration, hstanding, hstands⟩)
  · intro hnone container hfound
    obtain ⟨declaration, hstanding, -⟩ := lookup_performAll_eq_ok_iff.mp hfound
    exact hnone declaration hstanding

theorem Idle.lookup_performAll {earlier : List Operation}
    (hidle : Idle address earlier operation) (later : List Operation) :
    (directory.performAll (earlier ++ operation :: later)).lookup address =
      (directory.performAll (earlier ++ later)).lookup address := by
  apply lookup_congr
  · rw [outage_performAll, outage_performAll]
  · rw [performAll_append, performAll_append]
    exact get?_performAll_congr (hidle.get?_perform directory)

/-- **Last put.** Whatever a directory holds from the start, after any history a lookup finds the
container of the declaration that stands at the address, and only where none does it fails and says
for which address. Leaving out an idle operation of the history makes no difference to it. -/
theorem lookup_finds_last_put (platform : String) (initial : List (Address × Declaration))
    (operations : List Operation) (address : Address) :
    (∀ container,
        ((holding platform initial).performAll operations).lookup address = .ok container ↔
          ∃ declaration, Standing initial operations address declaration ∧
            container.StandsFor declaration) ∧
      (∀ error,
        ((holding platform initial).performAll operations).lookup address = .error error ↔
          error = .notFound address ∧
            ∀ declaration, ¬Standing initial operations address declaration) ∧
      (DirectoryError.notFound address).message = "no container found for ip " ++ address ∧
      ∀ earlier operation later, operations = earlier ++ operation :: later →
        Idle address earlier operation →
        ((holding platform initial).performAll operations).lookup address =
          ((holding platform initial).performAll (earlier ++ later)).lookup address := by
  refine ⟨fun _ => lookup_performAll_eq_ok_iff, fun _ => lookup_performAll_eq_error_iff, rfl, ?_⟩
  rintro earlier operation later rfl hidle
  exact hidle.lookup_performAll later

end Holding

/-- Two containers are there from the start. -/
def residents : List (Address × Declaration) :=
  [("10.0.0.2", ⟨"abc", none, none⟩), ("10.0.0.3", ⟨"def", none, none⟩)]

/-- The first one is replaced, and the second one is removed twice. -/
def moves : List Operation :=
  [.remove "10.0.0.3", .put "10.0.0.2" ⟨"ghi", some "arn:aws:iam::1:role/web", some " \n"⟩,
    .remove "10.0.0.3", .lookup "10.0.0.2"]

theorem lookup_finds_last_put_moves :
    Standing residents moves "10.0.0.2" ⟨"ghi", some "arn:aws:iam::1:role/web", some " \n"⟩ ∧
      ((holding "docker" residents).performAll moves).lookup "10.0.0.2" =
        .ok ⟨"ghi", ⟨"arn:aws:iam::1:role/web"⟩, none⟩ ∧
      (∀ declaration, ¬Standing residents moves "10.0.0.3" declaration) ∧
      Idle "10.0.0.3" (moves.take 2) (.remove "10.0.0.3") ∧
      ((holding "docker" residents).performAll moves).lookup "10.0.0.3" =
        ((holding "docker" residents).performAll (moves.take 2 ++ moves.drop 3)).lookup
          "10.0.0.3" := by
  obtain ⟨hfinds, -, -, -⟩ := lookup_finds_last_put "docker" residents moves "10.0.0.2"
  obtain ⟨-, hfails, -, hidle⟩ := lookup_finds_last_put "docker" residents moves "10.0.0.3"
  have hput : Standing residents moves "10.0.0.2"
      ⟨"ghi", some "arn:aws:iam::1:role/web", some " \n"⟩ := by
    apply Standing.lastPut
    refine ⟨moves.take 1, moves.drop 2, rfl, Or.inl ⟨_, rfl⟩, ?_⟩
    simp [moves, Operation.Writes]
  have hagain : Idle "10.0.0.3" (moves.take 2) (.remove "10.0.0.3") := by
    have hsplit : moves.take 2 = [] ++ .remove "10.0.0.3" :: (moves.take 2).drop 1 := rfl
    apply Idle.removeAgain hsplit
    simp [moves]
  refine ⟨hput, ?_, ?_, hagain, hidle _ _ (moves.drop 3) rfl hagain⟩
  · apply (hfinds _).mpr
    exact ⟨_, hput, Container.standsFor_iff.mpr rfl⟩
  · exact ((hfails (.notFound "10.0.0.3")).mp rfl).2

end Directory

end CredentialBroker
