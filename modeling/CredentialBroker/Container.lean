import CredentialBroker.RoleArn

/-!
Containers as the platform reports them, and the policies they may declare. A policy is never blank,
so a blank text declares none.
-/

namespace CredentialBroker

structure Policy where
  text : String
  not_blank : Text.isBlankText text = false
deriving DecidableEq

def Policy.ofText? (text : String) : Option Policy :=
  if hblank : Text.isBlankText text = false then some ⟨text, hblank⟩ else none

structure Container where
  id : String
  role : RoleArn
  policy : Option Policy
deriving DecidableEq

/-- A container that leaves out its role declares the empty one. -/
def Container.declared (id : String) (role policy : Option String) : Container :=
  ⟨id, ⟨role.getD ""⟩, policy.bind Policy.ofText?⟩

def Container.hasOwnRole (container : Container) : Bool :=
  !container.role.isEmpty

theorem Policy.exists_not_blank (policy : Policy) :
    ∃ char ∈ policy.text.toList, Text.isBlank char = false := by
  simpa [Text.isBlankText] using policy.not_blank

theorem Policy.text_ofText? {text : String} {policy : Policy}
    (hpolicy : Policy.ofText? text = some policy) : policy.text = text := by
  rw [Policy.ofText?] at hpolicy
  split at hpolicy
  · cases hpolicy
    rfl
  · cases hpolicy

theorem Policy.ofText?_eq_none_iff {text : String} :
    Policy.ofText? text = none ↔ Text.isBlankText text = true := by
  rw [Policy.ofText?]
  split
  · rename_i hblank
    simp [hblank]
  · rename_i hblank
    simpa using hblank

@[simp]
theorem Policy.ofText?_text (policy : Policy) : Policy.ofText? policy.text = some policy := by
  rw [Policy.ofText?, dif_pos policy.not_blank]

end CredentialBroker
