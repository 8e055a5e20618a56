import CredentialBroker.AddressBook
import CredentialBroker.Container

/-!
The directory that finds the container behind an address. Main statements: a lookup answers the last
container put at the address, unless it was removed since, and an outage answers every lookup alike.
-/

namespace CredentialBroker

structure Directory where
  platform : String
  containers : AddressBook Container
  outage : Option String

inductive DirectoryError where
  | notFound (address : Address)
  | outage (message : String)
deriving DecidableEq

def DirectoryError.message : DirectoryError → String
  | .notFound address => s!"no container found for ip {address}"
  | .outage message => message

namespace Directory

def defaultPlatform : String := "memory"

def ofList (platform : String) (containers : List (Address × Container)) : Directory :=
  ⟨platform, .ofList containers, none⟩

def put (directory : Directory) (address : Address) (container : Container) : Directory :=
  { directory with containers := directory.containers.put address container }

def remove (directory : Directory) (address : Address) : Directory :=
  { directory with containers := directory.containers.remove address }

def setOutage (directory : Directory) (message : Option String) : Directory :=
  { directory with outage := message }

def lookup (directory : Directory) (address : Address) : Except DirectoryError Container :=
  match directory.outage with
  | some message => .error (.outage message)
  | none =>
    match directory.containers.get? address with
    | some container => .ok container
    | none => .error (.notFound address)

theorem lookup_eq_ok_iff {directory : Directory} {address : Address} {container : Container} :
    directory.lookup address = .ok container ↔
      directory.outage = none ∧ directory.containers.get? address = some container := by
  rw [lookup]
  cases directory.outage with
  | some message => simp
  | none => cases directory.containers.get? address <;> simp

/-- In an outage every lookup fails alike, whatever the directory holds. -/
theorem lookup_eq_outage_iff {directory : Directory} {address : Address} {message : String} :
    directory.lookup address = .error (.outage message) ↔ directory.outage = some message := by
  rw [lookup]
  cases directory.outage with
  | some found => simp
  | none => cases directory.containers.get? address <;> simp

theorem lookup_eq_notFound_iff {directory : Directory} {address missing : Address} :
    directory.lookup address = .error (.notFound missing) ↔
      missing = address ∧ directory.outage = none ∧ directory.containers.get? address = none := by
  rw [lookup]
  cases directory.outage with
  | some found => simp
  | none => cases directory.containers.get? address <;> simp [eq_comm]

@[simp]
theorem lookup_put_self (directory : Directory) (address : Address) (container : Container)
    (hup : directory.outage = none) :
    (directory.put address container).lookup address = .ok container :=
  lookup_eq_ok_iff.mpr ⟨hup, AddressBook.get?_put_self _ _ _⟩

theorem lookup_put_of_ne (directory : Directory) {address other : Address} (hne : other ≠ address)
    (container : Container) :
    (directory.put address container).lookup other = directory.lookup other := by
  simp only [lookup, put, AddressBook.get?_put_of_ne directory.containers hne]

@[simp]
theorem lookup_remove_self (directory : Directory) (address : Address)
    (hup : directory.outage = none) :
    (directory.remove address).lookup address = .error (.notFound address) :=
  lookup_eq_notFound_iff.mpr ⟨rfl, hup, AddressBook.get?_remove_self _ _⟩

theorem lookup_remove_of_ne (directory : Directory) {address other : Address}
    (hne : other ≠ address) : (directory.remove address).lookup other = directory.lookup other := by
  simp only [lookup, remove, AddressBook.get?_remove_of_ne directory.containers hne]

end Directory

end CredentialBroker
