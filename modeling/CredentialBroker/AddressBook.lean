/-!
A map from network addresses to values, kept in increasing order of address. Main statements: a
looked-up value is the last one put there, removing forgets exactly one address, and `addresses` is
strictly increasing and lists the addresses that have a value.
-/

namespace CredentialBroker

/-- The network address a container is reached at, compared by code point. -/
abbrev Address := String

def Entries.Increasing {α : Type} (entries : List (Address × α)) : Prop :=
  entries.Pairwise fun left right => left.1 < right.1

def Entries.put {α : Type} (address : Address) (value : α) :
    List (Address × α) → List (Address × α)
  | [] => [(address, value)]
  | (head, current) :: rest =>
    if address < head then (address, value) :: (head, current) :: rest
    else if address = head then (address, value) :: rest
    else (head, current) :: Entries.put address value rest

namespace Entries

variable {α : Type}

theorem mem_put {address : Address} {value : α} {entries : List (Address × α)}
    {entry : Address × α} (hmem : entry ∈ put address value entries) :
    entry = (address, value) ∨ entry ∈ entries := by
  induction entries with
  | nil => exact Or.inl (List.mem_singleton.mp hmem)
  | cons first rest ih =>
      obtain ⟨head, current⟩ := first
      rw [put] at hmem
      split at hmem
      · exact List.mem_cons.mp hmem
      · split at hmem
        · exact (List.mem_cons.mp hmem).imp_right (List.mem_cons_of_mem _)
        · rcases List.mem_cons.mp hmem with hfirst | hrest
          · exact Or.inr (hfirst ▸ List.mem_cons_self)
          · exact (ih hrest).imp_right (List.mem_cons_of_mem _)

theorem Increasing.put {entries : List (Address × α)} (hentries : Increasing entries)
    (address : Address) (value : α) : Increasing (Entries.put address value entries) := by
  induction entries with
  | nil => exact List.pairwise_singleton _ _
  | cons first rest ih =>
      obtain ⟨head, current⟩ := first
      obtain ⟨hhead, hrest⟩ := List.pairwise_cons.mp hentries
      rw [Entries.put]
      split
      · rename_i hlt
        refine List.pairwise_cons.mpr ⟨fun entry hentry => ?_, hentries⟩
        rcases List.mem_cons.mp hentry with heq | hmem
        · exact heq ▸ hlt
        · exact String.lt_trans hlt (hhead entry hmem)
      · rename_i hnotlt
        split
        · rename_i heq
          exact List.pairwise_cons.mpr ⟨fun entry hentry => heq ▸ hhead entry hentry, hrest⟩
        · rename_i hne
          refine List.pairwise_cons.mpr ⟨fun entry hentry => ?_, ih hrest⟩
          rcases mem_put hentry with heq | hmem
          · rw [heq]
            rcases Std.lt_trichotomy address head with hlt | heq | hgt
            · exact absurd hlt hnotlt
            · exact absurd heq hne
            · exact hgt
          · exact hhead entry hmem

end Entries

structure AddressBook (α : Type) where
  entries : List (Address × α)
  increasing : Entries.Increasing entries

namespace AddressBook

variable {α : Type}

def empty : AddressBook α :=
  ⟨[], List.Pairwise.nil⟩

def get? (book : AddressBook α) (address : Address) : Option α :=
  book.entries.lookup address

def put (book : AddressBook α) (address : Address) (value : α) : AddressBook α :=
  ⟨Entries.put address value book.entries, book.increasing.put address value⟩

/-- Forgets an address, and leaves the book as it is when the address has no value. -/
def remove (book : AddressBook α) (address : Address) : AddressBook α :=
  ⟨book.entries.filter fun entry => entry.1 != address, book.increasing.filter _⟩

def addresses (book : AddressBook α) : List Address :=
  book.entries.map Prod.fst

/-- Puts the entries of a list one after another, so the last one for an address counts. -/
def ofList (entries : List (Address × α)) : AddressBook α :=
  entries.foldl (fun book entry => book.put entry.1 entry.2) empty

@[simp]
theorem get?_empty (address : Address) : (empty : AddressBook α).get? address = none := rfl

@[simp]
theorem get?_put_self (book : AddressBook α) (address : Address) (value : α) :
    (book.put address value).get? address = some value := by
  obtain ⟨entries, hentries⟩ := book
  simp only [get?, put]
  induction entries with
  | nil => simp [Entries.put]
  | cons first rest ih =>
      obtain ⟨head, current⟩ := first
      rw [Entries.put]
      split
      · simp
      · split
        · simp
        · rename_i hne
          rw [List.lookup_cons, beq_eq_false_iff_ne.mpr hne]
          exact ih (List.pairwise_cons.mp hentries).2

theorem get?_put_of_ne (book : AddressBook α) {address other : Address} (hne : other ≠ address)
    (value : α) : (book.put address value).get? other = book.get? other := by
  obtain ⟨entries, hentries⟩ := book
  simp only [get?, put]
  induction entries with
  | nil => simp [Entries.put, List.lookup_cons, beq_eq_false_iff_ne.mpr hne]
  | cons first rest ih =>
      obtain ⟨head, current⟩ := first
      rw [Entries.put]
      split
      · rw [List.lookup_cons, beq_eq_false_iff_ne.mpr hne]
      · split
        · rename_i heq
          subst heq
          simp only [List.lookup_cons, beq_eq_false_iff_ne.mpr hne]
        · rw [List.lookup_cons, List.lookup_cons, ih (List.pairwise_cons.mp hentries).2]

@[simp]
theorem get?_remove_self (book : AddressBook α) (address : Address) :
    (book.remove address).get? address = none := by
  rw [get?, remove, List.lookup_eq_none_iff]
  intro entry hentry
  simpa using Ne.symm (bne_iff_ne.mp (List.mem_filter.mp hentry).2)

theorem get?_remove_of_ne (book : AddressBook α) {address other : Address}
    (hne : other ≠ address) : (book.remove address).get? other = book.get? other := by
  obtain ⟨entries, hentries⟩ := book
  simp only [get?, remove]
  clear hentries
  induction entries with
  | nil => rfl
  | cons first rest ih =>
      obtain ⟨head, current⟩ := first
      by_cases hhead : head = address
      · subst hhead
        simp only [List.filter_cons, bne_self_eq_false, Bool.false_eq_true, ↓reduceIte,
          List.lookup_cons, beq_eq_false_iff_ne.mpr hne, ih]
      · simp only [List.filter_cons, bne_iff_ne.mpr hhead, ↓reduceIte, List.lookup_cons, ih]

theorem addresses_increasing (book : AddressBook α) :
    book.addresses.Pairwise fun left right => left < right :=
  List.pairwise_map.mpr book.increasing

theorem mem_addresses_iff {book : AddressBook α} {address : Address} :
    address ∈ book.addresses ↔ (book.get? address).isSome = true := by
  obtain ⟨entries, hentries⟩ := book
  simp only [addresses, get?]
  clear hentries
  induction entries with
  | nil => simp
  | cons first rest ih =>
      obtain ⟨head, current⟩ := first
      by_cases hhead : address = head
      · simp [hhead]
      · rw [List.lookup_cons, beq_eq_false_iff_ne.mpr hhead, List.map_cons, List.mem_cons, ← ih]
        simp [hhead]

end AddressBook

end CredentialBroker
