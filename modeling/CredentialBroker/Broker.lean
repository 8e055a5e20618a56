import CredentialBroker.AddressBook
import CredentialBroker.Failure
import CredentialBroker.SessionName

/-!
The broker: its defaults, and the credentials it keeps for each address. Main statements: an entry
is reused for a container only if role and id are the same and five minutes of life are left, and
what is requested for a container does not depend on what is kept.
-/

namespace CredentialBroker

open Time

/-- Credentials that have less than five minutes to live are not handed out again. -/
def safetyMargin : Int := 300000000

structure CacheEntry where
  container : Container
  credentials : Credentials
deriving DecidableEq

/-- The life left is looked at only for a container with the same role and the same id. -/
def CacheEntry.isValidFor (entry : CacheEntry) (container : Container) (clock : WallTime) :
    Except CalendarOverflow Bool :=
  if entry.container.role = container.role ∧ entry.container.id = container.id then
    (entry.credentials.expiresWithin clock safetyMargin).map fun expires => !expires
  else .ok false

structure Broker where
  defaultRole : RoleArn
  defaultPolicy : Option Policy
  cache : AddressBook CacheEntry

namespace Broker

def start (defaultRole : RoleArn) (defaultPolicy : Option Policy) : Broker :=
  ⟨defaultRole, defaultPolicy, .empty⟩

def ofSettings (settings : Settings) : Broker :=
  start settings.defaultRole settings.defaultPolicy

def cachedAddresses (broker : Broker) : List Address :=
  broker.cache.addresses

def store (broker : Broker) (address : Address) (entry : CacheEntry) : Broker :=
  { broker with cache := broker.cache.put address entry }

/-- The credentials kept for the address, if they may be handed to the container. -/
def reusable? (broker : Broker) (address : Address) (container : Container) (clock : WallTime) :
    Except CalendarOverflow (Option Credentials) :=
  match broker.cache.get? address with
  | none => .ok none
  | some entry =>
    (entry.isValidFor container clock).map fun valid =>
      if valid then some entry.credentials else none

/-- A container's own role goes with its own policy only; the default role takes the default policy for a container without one. -/
def roleAndPolicy (broker : Broker) (container : Container) :
    Except Failure (RoleArn × Option Policy) :=
  if container.hasOwnRole then .ok (container.role, container.policy)
  else if broker.defaultRole.isEmpty then .error (.noRole container.id)
  else .ok (broker.defaultRole, container.policy.or broker.defaultPolicy)

def requestFor (broker : Broker) (platform : String) (container : Container) :
    Except Failure AssumeRoleRequest :=
  (broker.roleAndPolicy container).map fun choice =>
    .build choice.1 (choice.2.map Policy.text) (SessionName.ofContainer platform container.id)

@[simp]
theorem requestFor_store (broker : Broker) (address : Address) (entry : CacheEntry)
    (platform : String) (container : Container) :
    (broker.store address entry).requestFor platform container =
      broker.requestFor platform container := rfl

theorem roleAndPolicy_eq_ok_iff {broker : Broker} {container : Container} {role : RoleArn}
    {policy : Option Policy} :
    broker.roleAndPolicy container = .ok (role, policy) ↔
      (container.hasOwnRole = true ∧ role = container.role ∧ policy = container.policy) ∨
        (container.hasOwnRole = false ∧ broker.defaultRole.isEmpty = false ∧
          role = broker.defaultRole ∧ policy = container.policy.or broker.defaultPolicy) := by
  rw [roleAndPolicy]
  cases container.hasOwnRole <;> cases broker.defaultRole.isEmpty <;> simp [eq_comm]

end Broker

theorem CacheEntry.isValidFor_eq_error_iff {entry : CacheEntry} {container : Container}
    {clock : WallTime} {overflow : CalendarOverflow} :
    entry.isValidFor container clock = .error overflow ↔
      (entry.container.role = container.role ∧ entry.container.id = container.id) ∧
        entry.credentials.expiresWithin clock safetyMargin = .error overflow := by
  rw [isValidFor]
  split
  · rename_i hsame
    cases entry.credentials.expiresWithin clock safetyMargin <;> simp [Except.map, hsame]
  · rename_i hother
    simp [hother]

/-- An entry may be reused exactly for a container of the same role and id, while its expiration is not before the clock plus the margin. -/
theorem CacheEntry.isValidFor_eq_ok_true_iff {entry : CacheEntry} {container : Container}
    {clock : WallTime} :
    entry.isValidFor container clock = .ok true ↔
      (entry.container.role = container.role ∧ entry.container.id = container.id) ∧
        entry.credentials.expiresWithin clock safetyMargin = .ok false := by
  rw [isValidFor]
  split
  · rename_i hsame
    cases entry.credentials.expiresWithin clock safetyMargin with
    | error overflow => simp [Except.map]
    | ok expires => cases expires <;> simp [Except.map, hsame]
  · rename_i hother
    simp [hother]

end CredentialBroker
