import CredentialBroker.Text.Blank
import CredentialBroker.Text.Cut

/-!
Role ARNs: references to a role of the identity service, held as their text. An empty one stands for
no role. Main statements: a text has parts exactly when it is built from them with colons, and the
type and the name of a resource are what stands before its first and after its last slash.
-/

namespace CredentialBroker

open Text

structure RoleArn where
  text : String
deriving DecidableEq

/-- Why a text is not accepted as a role ARN: it has no ARN parts, or they do not name a role. -/
inductive RoleArnError where
  | malformed (text : String)
  | notRole (text : String)
deriving DecidableEq

def RoleArnError.message : RoleArnError → String
  | .malformed text => s!"Invalid ARN format: {text}"
  | .notRole text => s!"Not an IAM role ARN: {text}"

/-- The fields of an ARN after its scheme; the resource keeps any further colons. -/
structure ArnParts where
  partition : String
  service : String
  region : String
  account : String
  resource : String
deriving DecidableEq

/-- What an ARN can be asked for: some of its parts, and the two that are cut from the resource. -/
inductive ArnField where
  | partition
  | service
  | account
  | resource
  | resourceType
  | roleName
deriving DecidableEq

namespace ArnParts

def scheme : List Char := ['a', 'r', 'n']

def ofChars? (text : List Char) : Option ArnParts := do
  let (first, text) ← cutFirst ':' text
  let (partition, text) ← cutFirst ':' text
  let (service, text) ← cutFirst ':' text
  let (region, text) ← cutFirst ':' text
  let (account, resource) ← cutFirst ':' text
  if first = scheme then
    some ⟨String.ofList partition, String.ofList service, String.ofList region,
      String.ofList account, String.ofList resource⟩
  else none

def toChars (parts : ArnParts) : List Char :=
  scheme ++ ':' :: parts.partition.toList ++ ':' :: parts.service.toList ++
    ':' :: parts.region.toList ++ ':' :: parts.account.toList ++ ':' :: parts.resource.toList

def toList (parts : ArnParts) : List String :=
  [String.ofList scheme, parts.partition, parts.service, parts.region, parts.account,
    parts.resource]

/-- The part of the resource before its first slash, empty when it has no slash. -/
def resourceType (parts : ArnParts) : String :=
  match cutFirst '/' parts.resource.toList with
  | some (before, _) => String.ofList before
  | none => ""

/-- The part of the resource after its last slash, empty when it has no slash. -/
def roleName (parts : ArnParts) : String :=
  match cutLast '/' parts.resource.toList with
  | some (_, after) => String.ofList after
  | none => ""

def read (parts : ArnParts) : ArnField → String
  | .partition => parts.partition
  | .service => parts.service
  | .account => parts.account
  | .resource => parts.resource
  | .resourceType => parts.resourceType
  | .roleName => parts.roleName

def NamesRole (parts : ArnParts) : Prop :=
  parts.service = "iam" ∧ parts.resourceType = "role" ∧ parts.roleName ≠ ""

instance (parts : ArnParts) : Decidable parts.NamesRole :=
  inferInstanceAs (Decidable (_ ∧ _))

/-- The fields between colons have no colon of their own. -/
def Colonless (parts : ArnParts) : Prop :=
  ':' ∉ parts.partition.toList ∧ ':' ∉ parts.service.toList ∧ ':' ∉ parts.region.toList ∧
    ':' ∉ parts.account.toList

/-- A text has parts exactly when it is those parts, without colons of their own, joined by colons. -/
theorem ofChars?_eq_some_iff {text : List Char} {parts : ArnParts} :
    ofChars? text = some parts ↔ text = parts.toChars ∧ parts.Colonless := by
  constructor
  · intro hparts
    simp only [ofChars?, Option.bind_eq_bind, Option.bind_eq_some_iff, Prod.exists,
      cutFirst_eq_some_iff, Option.ite_none_right_eq_some, Option.some.injEq] at hparts
    obtain ⟨first, _, ⟨rfl, _⟩, partition, _, ⟨rfl, hpartition⟩, service, _, ⟨rfl, hservice⟩,
      region, _, ⟨rfl, hregion⟩, account, resource, ⟨rfl, haccount⟩, hfirst, rfl⟩ := hparts
    subst hfirst
    simp [toChars, Colonless, hpartition, hservice, hregion, haccount]
  · rintro ⟨rfl, hpartition, hservice, hregion, haccount⟩
    have hscheme : ':' ∉ scheme := by decide
    simp only [toChars, List.append_assoc, List.cons_append, ofChars?, cutFirst_append hscheme,
      cutFirst_append hpartition, cutFirst_append hservice, cutFirst_append hregion,
      cutFirst_append haccount, Option.bind_eq_bind, Option.bind_some, ↓reduceIte,
      String.ofList_toList]

theorem resourceType_eq_of_append {parts : ArnParts} {before after : List Char}
    (hresource : parts.resource.toList = before ++ '/' :: after) (hbefore : '/' ∉ before) :
    parts.resourceType = String.ofList before := by
  rw [resourceType, hresource, cutFirst_append hbefore]

theorem roleName_eq_of_append {parts : ArnParts} {before after : List Char}
    (hresource : parts.resource.toList = before ++ '/' :: after) (hafter : '/' ∉ after) :
    parts.roleName = String.ofList after := by
  rw [roleName, hresource, cutLast_append hafter]

theorem resourceType_and_roleName_of_not_mem {parts : ArnParts}
    (hslash : '/' ∉ parts.resource.toList) : parts.resourceType = "" ∧ parts.roleName = "" := by
  rw [resourceType, roleName, cutFirst_eq_none_iff.mpr hslash, cutLast_eq_none_iff.mpr hslash]
  exact ⟨rfl, rfl⟩

end ArnParts

namespace RoleArn

def none : RoleArn := ⟨""⟩

def isEmpty (arn : RoleArn) : Bool :=
  arn.text.isEmpty

def parts (arn : RoleArn) : Except RoleArnError ArnParts :=
  match ArnParts.ofChars? arn.text.toList with
  | some parts => .ok parts
  | .none => .error (.malformed arn.text)

def partList (arn : RoleArn) : Except RoleArnError (List String) :=
  arn.parts.map ArnParts.toList

def read (arn : RoleArn) (field : ArnField) : Except RoleArnError String :=
  arn.parts.map fun parts => parts.read field

/-- Accepts a text from outside: blanks at its ends are dropped, and what is left is empty or names a role. -/
def parse (text : String) : Except RoleArnError RoleArn :=
  let arn : RoleArn := ⟨stripped text⟩
  if arn.isEmpty then .ok arn
  else
    match arn.parts with
    | .error error => .error error
    | .ok parts => if parts.NamesRole then .ok arn else .error (.notRole arn.text)

theorem text_of_parse {text : String} {arn : RoleArn} (hparse : parse text = .ok arn) :
    arn.text = stripped text := by
  rw [parse] at hparse
  split at hparse
  · cases hparse
    rfl
  · split at hparse
    · cases hparse
    · split at hparse
      · cases hparse
        rfl
      · cases hparse

theorem parse_stripped (text : String) : parse (stripped text) = parse text := by
  rw [parse, parse, stripped_stripped]

/-- What is accepted is accepted again, as it stands. -/
theorem parse_text_of_parse {text : String} {arn : RoleArn} (hparse : parse text = .ok arn) :
    parse arn.text = .ok arn := by
  rw [text_of_parse hparse, parse_stripped, hparse]

end RoleArn

end CredentialBroker
