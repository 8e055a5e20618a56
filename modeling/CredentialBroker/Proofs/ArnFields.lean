import CredentialBroker.Proofs.RoleGrammar

/-!
The fields of an ARN. Main statement: a text that begins as an ARN and has five colons is cut into
six parts, which joined by colons give it back; whatever is joined so is cut into the same parts
again; and any other text is refused with one error, whichever field it is asked for.

Each part but the resource ends at a colon, so it has none of its own, and the resource may have any
number of them. The type and the name of a resource are cut from it at different slashes, and the two
agree only where it has a single one.
-/

namespace CredentialBroker

open Text

/-- The text begins as an ARN and has colons enough to end the five parts before the resource. -/
def RoleArn.Delimited (text : String) : Prop :=
  "arn:".toList <+: text.toList ∧ 5 ≤ text.toList.count ':'

instance (text : String) : Decidable (RoleArn.Delimited text) :=
  inferInstanceAs (Decidable (_ ∧ _))

/-- The type and the name of a resource: what stands before its first slash and what stands after
its last one. A resource without a slash has neither. -/
inductive NamedBy (resource : String) : String → String → Prop where
  | slashed {kind rest path name : String} (hfirst : resource = kind ++ "/" ++ rest)
      (hkind : '/' ∉ kind.toList) (hlast : resource = path ++ "/" ++ name)
      (hname : '/' ∉ name.toList) : NamedBy resource kind name
  | plain (hslash : '/' ∉ resource.toList) : NamedBy resource "" ""

namespace ArnParts

variable {parts : ArnParts}

theorem toList_intercalate (parts : ArnParts) :
    (":".intercalate parts.toList).toList = parts.toChars := by
  simp [toList, toChars]

theorem colonless_iff : parts.Colonless ↔ ∀ part ∈ parts.toList.take 5, ':' ∉ part.toList := by
  have hscheme : ':' ∉ scheme := by decide
  simp [Colonless, toList, hscheme]

theorem ofChars?_eq_some_iff_intercalate {text : String} :
    ofChars? text.toList = some parts ↔ ":".intercalate parts.toList = text ∧ parts.Colonless := by
  rw [ofChars?_eq_some_iff, ← toList_intercalate, String.toList_inj]
  exact and_congr_left fun _ => eq_comm

theorem namedBy (parts : ArnParts) :
    NamedBy parts.resource parts.resourceType parts.roleName := by
  by_cases hslash : '/' ∈ parts.resource.toList
  · obtain ⟨⟨kind, rest⟩, hfirst⟩ : ∃ cut, cutFirst '/' parts.resource.toList = some cut := by
      apply Option.ne_none_iff_exists'.mp
      intro hnone
      exact cutFirst_eq_none_iff.mp hnone hslash
    obtain ⟨⟨path, name⟩, hlast⟩ : ∃ cut, cutLast '/' parts.resource.toList = some cut := by
      apply Option.ne_none_iff_exists'.mp
      intro hnone
      exact cutLast_eq_none_iff.mp hnone hslash
    obtain ⟨hfirst, hkind⟩ := cutFirst_eq_some_iff.mp hfirst
    obtain ⟨hlast, hname⟩ := cutLast_eq_some_iff.mp hlast
    rw [resourceType_eq_of_append hfirst hkind, roleName_eq_of_append hlast hname]
    have hbefore : parts.resource = String.ofList kind ++ "/" ++ String.ofList rest := by
      rw [← String.toList_inj, hfirst]
      simp
    have hafter : parts.resource = String.ofList path ++ "/" ++ String.ofList name := by
      rw [← String.toList_inj, hlast]
      simp
    apply NamedBy.slashed hbefore _ hafter
    · rw [String.toList_ofList]
      exact hname
    · rw [String.toList_ofList]
      exact hkind
  · obtain ⟨hkind, hname⟩ := resourceType_and_roleName_of_not_mem hslash
    rw [hkind, hname]
    exact .plain hslash

end ArnParts

namespace RoleArn

variable {arn : RoleArn} {parts : ArnParts}

theorem parts_eq_ok_iff :
    arn.parts = .ok parts ↔ ":".intercalate parts.toList = arn.text ∧ parts.Colonless := by
  rw [← ArnParts.ofChars?_eq_some_iff_intercalate, RoleArn.parts]
  cases ArnParts.ofChars? arn.text.toList <;> simp

theorem parts_of_not_delimited (hdelimited : ¬Delimited arn.text) :
    arn.parts = .error (.malformed arn.text) := by
  have hlacks : LacksParts arn.text := by
    by_cases hfew : arn.text.toList.count ':' < 5
    · exact Or.inl hfew
    · right
      intro hscheme
      exact hdelimited ⟨hscheme, Nat.le_of_not_lt hfew⟩
  rw [RoleArn.parts, ArnParts.ofChars?_eq_none_iff_lacksParts.mpr hlacks]

theorem exists_parts_of_delimited (hdelimited : Delimited arn.text) :
    ∃ parts, arn.parts = .ok parts := by
  obtain ⟨hscheme, hcolons⟩ := hdelimited
  obtain ⟨parts, hparts⟩ := ArnParts.exists_ofChars?_of_colons hcolons hscheme
  refine ⟨parts, ?_⟩
  rw [RoleArn.parts, hparts]

theorem partList_of_parts (hparts : arn.parts = .ok parts) : arn.partList = .ok parts.toList := by
  rw [partList, hparts]
  rfl

theorem read_of_parts (hparts : arn.parts = .ok parts) (field : ArnField) :
    arn.read field = .ok (parts.read field) := by
  rw [read, hparts]
  rfl

theorem parts_of_join {partition service region account resource : String}
    (hpartition : ':' ∉ partition.toList) (hservice : ':' ∉ service.toList)
    (hregion : ':' ∉ region.toList) (haccount : ':' ∉ account.toList)
    (htext : arn.text = "arn:" ++ partition ++ ":" ++ service ++ ":" ++ region ++ ":" ++ account ++
      ":" ++ resource) :
    arn.parts = .ok ⟨partition, service, region, account, resource⟩ := by
  apply parts_eq_ok_iff.mpr
  refine ⟨?_, hpartition, hservice, hregion, haccount⟩
  rw [htext, ← String.toList_inj, ArnParts.toList_intercalate]
  simp [ArnParts.toChars, ArnParts.scheme]

theorem exists_named_of_read {resource : String} (hresource : arn.read .resource = .ok resource) :
    ∃ kind name, arn.read .resourceType = .ok kind ∧ arn.read .roleName = .ok name ∧
      NamedBy resource kind name := by
  cases hparts : arn.parts with
  | error error =>
      rw [read, hparts] at hresource
      cases hresource
  | ok parts =>
      rw [read_of_parts hparts] at hresource
      cases hresource
      exact ⟨_, _, read_of_parts hparts _, read_of_parts hparts _, parts.namedBy⟩

/-- **Decomposition.** A text that begins as an ARN and has five colons has six parts, of which the
first five have no colon, and their join is the text. What is put together from such parts is read
as them. The type and the name that an ARN is read to have are those of its resource. Of any other
text neither the parts nor any field can be read, always for the same reason. -/
theorem arn_decomposed (arn : RoleArn) :
    (Delimited arn.text → ∃ parts, arn.partList = .ok parts ∧ parts.length = 6 ∧
        (∀ part ∈ parts.take 5, ':' ∉ part.toList) ∧ ":".intercalate parts = arn.text) ∧
      (∀ partition service region account resource : String, ':' ∉ partition.toList →
        ':' ∉ service.toList → ':' ∉ region.toList → ':' ∉ account.toList →
        arn.text = "arn:" ++ partition ++ ":" ++ service ++ ":" ++ region ++ ":" ++ account ++
          ":" ++ resource →
        arn.partList = .ok ["arn", partition, service, region, account, resource] ∧
          arn.read .partition = .ok partition ∧ arn.read .service = .ok service ∧
          arn.read .account = .ok account ∧ arn.read .resource = .ok resource) ∧
      (∀ resource, arn.read .resource = .ok resource →
        ∃ kind name, arn.read .resourceType = .ok kind ∧ arn.read .roleName = .ok name ∧
          NamedBy resource kind name) ∧
      (¬Delimited arn.text → arn.partList = .error (.malformed arn.text) ∧
        ∀ field, arn.read field = .error (.malformed arn.text)) := by
  refine ⟨?_, ?_, ?_, ?_⟩
  · intro hdelimited
    obtain ⟨parts, hparts⟩ := exists_parts_of_delimited hdelimited
    obtain ⟨hjoined, hcolonless⟩ := parts_eq_ok_iff.mp hparts
    exact ⟨parts.toList, partList_of_parts hparts, rfl, ArnParts.colonless_iff.mp hcolonless,
      hjoined⟩
  · intro partition service region account resource hpartition hservice hregion haccount htext
    have hparts := parts_of_join hpartition hservice hregion haccount htext
    exact ⟨partList_of_parts hparts, read_of_parts hparts _, read_of_parts hparts _,
      read_of_parts hparts _, read_of_parts hparts _⟩
  · intro resource
    exact exists_named_of_read
  · intro hdelimited
    have hparts := parts_of_not_delimited hdelimited
    constructor
    · rw [partList, hparts]
      rfl
    · intro field
      rw [read, hparts]
      rfl

/-- A resource with two slashes and a colon of its own. -/
def nested : RoleArn :=
  ⟨"arn:aws:iam::1:role/team:a/web"⟩

theorem arn_decomposed_nested :
    Delimited nested.text ∧
      (∃ parts, nested.partList = .ok parts ∧ parts.length = 6 ∧
        (∀ part ∈ parts.take 5, ':' ∉ part.toList) ∧ ":".intercalate parts = nested.text) ∧
      nested.partList = .ok ["arn", "aws", "iam", "", "1", "role/team:a/web"] ∧
      (∃ kind name, nested.read .resourceType = .ok kind ∧ nested.read .roleName = .ok name ∧
        NamedBy "role/team:a/web" kind name) ∧
      ¬Delimited "arn:aws:iam::1" ∧
      ∀ field, (mk "arn:aws:iam::1").read field = .error (.malformed "arn:aws:iam::1") := by
  have hdelimited : Delimited nested.text := by decide
  have hshort : ¬Delimited "arn:aws:iam::1" := by decide
  have hcolonless : ':' ∉ "aws".toList ∧ ':' ∉ "iam".toList ∧ ':' ∉ "".toList ∧ ':' ∉ "1".toList := by
    decide
  obtain ⟨hpartition, hservice, hregion, haccount⟩ := hcolonless
  obtain ⟨hsplit, hjoin, hnamed, -⟩ := arn_decomposed nested
  obtain ⟨hparts, -, -, -, hresource⟩ :=
    hjoin "aws" "iam" "" "1" "role/team:a/web" hpartition hservice hregion haccount rfl
  obtain ⟨-, -, -, hrefused⟩ := arn_decomposed ⟨"arn:aws:iam::1"⟩
  exact ⟨hdelimited, hsplit hdelimited, hparts, hnamed _ hresource, hshort, (hrefused hshort).2⟩

end RoleArn

end CredentialBroker
