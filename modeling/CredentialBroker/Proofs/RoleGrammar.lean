import CredentialBroker.RoleArn

/-!
The texts that are read as role ARNs. Main statements: what is accepted is the stripped text,
exactly when it is empty or written by one rule, and what is refused is reported by whether it has
the fields of an ARN at all. What is accepted names a role of the identity service, but it need not
belong to an account or to a partition, nor be free of a region.

The rule speaks of the text as it is put together from its fields, and reading cuts the text at its
marks. The two meet in the parts: a text has them exactly when it is built from them, and it has
them as soon as there are colons enough.
-/

namespace CredentialBroker

open Text

/-- The rule for role ARNs: a name in the identity service, perhaps behind a path. -/
inductive RoleArn.Written : String → Prop where
  | empty : Written ""
  | role {partition region account path : String} (hpartition : ':' ∉ partition.toList)
      (hregion : ':' ∉ region.toList) (haccount : ':' ∉ account.toList) (hpath : path ≠ "")
      (hlast : path.toList.getLast? ≠ some '/') :
      Written ("arn:" ++ partition ++ ":iam:" ++ region ++ ":" ++ account ++ ":role/" ++ path)

/-- The text has too few colons for an ARN, or does not begin as one. -/
def RoleArn.LacksParts (text : String) : Prop :=
  text.toList.count ':' < 5 ∨ ¬"arn:".toList <+: text.toList

namespace ArnParts

variable {parts : ArnParts} {text : List Char}

/-! ### The parts of a text -/

theorem colons_of_ofChars? (hparts : ofChars? text = some parts) :
    5 ≤ text.count ':' ∧ "arn:".toList <+: text := by
  obtain ⟨rfl, -⟩ := ofChars?_eq_some_iff.mp hparts
  constructor
  · simp only [toChars, List.count_append, List.count_cons_self]
    omega
  · simp [toChars, scheme]

theorem exists_ofChars?_of_colons (hcolons : 5 ≤ text.count ':')
    (hscheme : "arn:".toList <+: text) : ∃ parts, ofChars? text = some parts := by
  obtain ⟨rest, rfl⟩ := hscheme
  have hrest : 3 < rest.count ':' := by
    have hone : "arn:".toList.count ':' = 1 := by decide
    rw [List.count_append, hone] at hcolons
    omega
  -- each of the next four colons ends a field, and what is left is the resource
  obtain ⟨partition, rest, rfl, hpartition, hrest⟩ := exists_cut_of_lt_count 3 hrest
  obtain ⟨service, rest, rfl, hservice, hrest⟩ := exists_cut_of_lt_count 2 hrest
  obtain ⟨region, rest, rfl, hregion, hrest⟩ := exists_cut_of_lt_count 1 hrest
  obtain ⟨account, resource, rfl, haccount, -⟩ := exists_cut_of_lt_count 0 hrest
  refine ⟨⟨String.ofList partition, String.ofList service, String.ofList region,
    String.ofList account, String.ofList resource⟩, ofChars?_eq_some_iff.mpr ⟨?_, ?_⟩⟩
  · simp [toChars, scheme]
  · simpa [Colonless] using ⟨hpartition, hservice, hregion, haccount⟩

theorem ofChars?_eq_none_iff_lacksParts {text : String} :
    ofChars? text.toList = none ↔ RoleArn.LacksParts text := by
  constructor
  · intro hnone
    by_cases hcolons : text.toList.count ':' < 5
    · exact Or.inl hcolons
    · right
      intro hscheme
      obtain ⟨parts, hparts⟩ := exists_ofChars?_of_colons (Nat.le_of_not_lt hcolons) hscheme
      rw [hnone] at hparts
      cases hparts
  · intro hlacks
    cases hparts : ofChars? text.toList with
    | none => rfl
    | some parts =>
        obtain ⟨hcolons, hscheme⟩ := colons_of_ofChars? hparts
        rcases hlacks with hfew | hother
        · exact absurd hfew (Nat.not_lt.mpr hcolons)
        · exact absurd hscheme hother

/-! ### The parts of a resource -/

theorem resourceType_eq_iff {kind : String} (hkind : kind ≠ "") (hslash : '/' ∉ kind.toList) :
    parts.resourceType = kind ↔ ∃ path, parts.resource = kind ++ "/" ++ path := by
  constructor
  · intro htype
    rw [resourceType] at htype
    split at htype
    · rename_i before after hcut
      obtain ⟨hresource, -⟩ := cutFirst_eq_some_iff.mp hcut
      refine ⟨String.ofList after, ?_⟩
      rw [← htype, ← String.toList_inj, hresource]
      simp
    · exact absurd htype.symm hkind
  · rintro ⟨path, hresource⟩
    have hsplit : parts.resource.toList = kind.toList ++ '/' :: path.toList := by
      simp [hresource]
    rw [resourceType_eq_of_append hsplit hslash, String.ofList_toList]

theorem roleName_ne_empty_iff :
    parts.roleName ≠ "" ↔
      '/' ∈ parts.resource.toList ∧ parts.resource.toList.getLast? ≠ some '/' := by
  rw [roleName]
  split
  · rename_i before after hcut
    obtain ⟨hresource, hafter⟩ := cutLast_eq_some_iff.mp hcut
    rw [hresource]
    cases after with
    | nil => simp
    | cons char rest =>
        have hlast : (char :: rest).getLast? ≠ some '/' := fun hlast =>
          hafter (List.mem_of_getLast? hlast)
        simp [hlast]
  · rename_i hcut
    have hslash := cutLast_eq_none_iff.mp hcut
    simp [hslash]

/-- Parts name a role exactly when the resource is one with something after its last slash. -/
theorem namesRole_iff :
    parts.NamesRole ↔ parts.service = "iam" ∧
      ∃ path, parts.resource = "role/" ++ path ∧ path ≠ "" ∧ path.toList.getLast? ≠ some '/' := by
  rw [NamesRole, resourceType_eq_iff (by decide) (by decide), roleName_ne_empty_iff]
  refine and_congr_right fun _ => ?_
  -- the last slash is the one before the path only when the path is empty
  have hlast (path : String) : ("role/" ++ path).toList.getLast? ≠ some '/' ↔
      path ≠ "" ∧ path.toList.getLast? ≠ some '/' := by
    rw [String.toList_append, List.getLast?_append]
    cases hpath : path.toList.getLast? with
    | none => simp [String.toList_eq_nil_iff.mp (List.getLast?_eq_none_iff.mp hpath)]
    | some char =>
        have hnonempty : path ≠ "" := by
          rintro rfl
          cases hpath
        simp [hnonempty]
  constructor
  · rintro ⟨⟨path, hresource⟩, -, hend⟩
    rw [hresource] at hend
    exact ⟨path, hresource, (hlast path).mp hend⟩
  · rintro ⟨path, hresource, hend⟩
    rw [hresource]
    exact ⟨⟨path, rfl⟩, by simp, (hlast path).mpr hend⟩

theorem exists_path_of_namesRole {text : String} (hparts : ofChars? text.toList = some parts)
    (hrole : parts.NamesRole) :
    ∃ path, text = "arn:" ++ parts.partition ++ ":iam:" ++ parts.region ++ ":" ++ parts.account ++
      ":role/" ++ path ∧ path ≠ "" ∧ path.toList.getLast? ≠ some '/' := by
  obtain ⟨hservice, path, hresource, hpath, hlast⟩ := namesRole_iff.mp hrole
  obtain ⟨htext, -⟩ := ofChars?_eq_some_iff.mp hparts
  refine ⟨path, ?_, hpath, hlast⟩
  rw [← String.toList_inj, htext]
  simp [toChars, scheme, hservice, hresource]

theorem ofChars?_of_role {partition region account path : String}
    (hpartition : ':' ∉ partition.toList) (hregion : ':' ∉ region.toList)
    (haccount : ':' ∉ account.toList) :
    ofChars? ("arn:" ++ partition ++ ":iam:" ++ region ++ ":" ++ account ++ ":role/" ++
      path).toList = some ⟨partition, "iam", region, account, "role/" ++ path⟩ := by
  have hservice : ':' ∉ "iam".toList := by decide
  refine ofChars?_eq_some_iff.mpr ⟨?_, hpartition, hservice, hregion, haccount⟩
  simp [toChars, scheme]

end ArnParts

namespace RoleArn

variable {text : String} {arn : RoleArn}

theorem written_iff :
    Written text ↔
      text = "" ∨ ∃ parts, ArnParts.ofChars? text.toList = some parts ∧ parts.NamesRole := by
  constructor
  · intro hwritten
    cases hwritten with
    | empty => exact Or.inl rfl
    | role hpartition hregion haccount hpath hlast =>
        refine Or.inr ⟨_, ArnParts.ofChars?_of_role hpartition hregion haccount, ?_⟩
        exact ArnParts.namesRole_iff.mpr ⟨rfl, _, rfl, hpath, hlast⟩
  · rintro (rfl | ⟨parts, hparts, hrole⟩)
    · exact .empty
    · obtain ⟨-, hpartition, -, hregion, haccount⟩ := ArnParts.ofChars?_eq_some_iff.mp hparts
      obtain ⟨path, hwritten, hpath, hlast⟩ := ArnParts.exists_path_of_namesRole hparts hrole
      rw [hwritten]
      exact .role hpartition hregion haccount hpath hlast

/-- All that reading a text can come to. -/
inductive ParseCase (text : String) : Except RoleArnError RoleArn → Prop where
  | accepted (hwritten : Written (stripped text)) : ParseCase text (.ok ⟨stripped text⟩)
  | malformed (hwritten : ¬Written (stripped text)) (hlacks : LacksParts (stripped text)) :
      ParseCase text (.error (.malformed (stripped text)))
  | notRole (hwritten : ¬Written (stripped text)) (hlacks : ¬LacksParts (stripped text)) :
      ParseCase text (.error (.notRole (stripped text)))

theorem parseCase (text : String) : ParseCase text (parse text) := by
  have hwritten : Written (stripped text) ↔ _ := written_iff
  have hlacks : _ ↔ LacksParts (stripped text) := ArnParts.ofChars?_eq_none_iff_lacksParts
  simp only [parse, isEmpty, parts]
  split
  · rename_i hempty
    exact .accepted (hwritten.mpr (Or.inl (String.isEmpty_iff.mp hempty)))
  · rename_i hnonempty
    have hne : stripped text ≠ "" := mt String.isEmpty_iff.mpr hnonempty
    cases hparts : ArnParts.ofChars? (stripped text).toList with
    | none =>
        refine .malformed ?_ (hlacks.mp hparts)
        rw [hwritten, hparts]
        simp [hne]
    | some parts =>
        rw [hparts] at hwritten hlacks
        dsimp only
        split
        · rename_i hrole
          exact .accepted (hwritten.mpr (Or.inr ⟨parts, rfl, hrole⟩))
        · rename_i hother
          refine .notRole ?_ (by rw [← hlacks]; exact Option.some_ne_none _)
          rw [hwritten]
          simp [hne, hother]

/-- **Grammar.** A text is accepted exactly when its stripped form is written by the rule, and that
form is what is accepted. A text that is refused is reported, with its stripped form, as malformed
when that has too few colons or does not begin as an ARN, and otherwise as no role. -/
theorem parse_accepts_written (text : String) :
    (∀ arn, parse text = .ok arn ↔ arn.text = stripped text ∧ Written (stripped text)) ∧
      (∀ error, parse text = .error error ↔ ¬Written (stripped text) ∧
        ((LacksParts (stripped text) ∧ error = .malformed (stripped text)) ∨
          (¬LacksParts (stripped text) ∧ error = .notRole (stripped text)))) ∧
      (∀ found, (RoleArnError.malformed found).message = "Invalid ARN format: " ++ found) ∧
      ∀ found, (RoleArnError.notRole found).message = "Not an IAM role ARN: " ++ found := by
  have hcase := parseCase text
  generalize parse text = outcome at hcase
  refine ⟨?_, ?_, fun _ => rfl, fun _ => rfl⟩
  · rintro ⟨accepted⟩
    cases hcase with
    | accepted hwritten => simp [hwritten, eq_comm]
    | malformed hwritten hlacks => simp [hwritten]
    | notRole hwritten hlacks => simp [hwritten]
  · intro error
    cases hcase with
    | accepted hwritten => simp [hwritten]
    | malformed hwritten hlacks => simp [hwritten, hlacks, eq_comm]
    | notRole hwritten hlacks => simp [hwritten, hlacks, eq_comm]

/-! ### Complete role ARNs -/

theorem exists_parts_of_parse (hparse : parse text = .ok arn) (hnonempty : arn.isEmpty = false) :
    ∃ parts, ArnParts.ofChars? arn.text.toList = some parts ∧ parts.NamesRole := by
  have hcase := parseCase text
  rw [hparse] at hcase
  cases hcase with
  | accepted hwritten =>
      rcases written_iff.mp hwritten with hempty | hparts
      · simp [isEmpty, hempty] at hnonempty
      · exact hparts

end RoleArn

/-- The parts of a role ARN with all its fields. A role has a partition and an account, and no
region. -/
structure ArnParts.Complete (parts : ArnParts) : Prop where
  partition : parts.partition ≠ ""
  service : parts.service = "iam"
  region : parts.region = ""
  account : parts.account ≠ ""
  resourceType : parts.resourceType = "role"
  roleName : parts.roleName ≠ ""

/-- The narrower rule: the partition and the account are there, and a region is not. -/
inductive RoleArn.WrittenInFull : String → Prop where
  | role {partition account path : String} (hpartition : partition ≠ "") (haccount : account ≠ "")
      (hpartitionColons : ':' ∉ partition.toList) (haccountColons : ':' ∉ account.toList) :
      WrittenInFull ("arn:" ++ partition ++ ":iam::" ++ account ++ ":role/" ++ path)

namespace RoleArn

variable {text : String} {arn : RoleArn}

theorem complete_iff_writtenInFull {parts : ArnParts}
    (hparts : ArnParts.ofChars? text.toList = some parts) (hrole : parts.NamesRole) :
    parts.Complete ↔ WrittenInFull text := by
  have hregionless (partition account path : String) :
      "arn:" ++ partition ++ ":iam:" ++ "" ++ ":" ++ account ++ ":role/" ++ path =
        "arn:" ++ partition ++ ":iam::" ++ account ++ ":role/" ++ path := by
    rw [← String.toList_inj]
    simp
  constructor
  · intro hcomplete
    obtain ⟨-, hpartition, -, -, haccount⟩ := ArnParts.ofChars?_eq_some_iff.mp hparts
    obtain ⟨path, htext, -⟩ := ArnParts.exists_path_of_namesRole hparts hrole
    rw [hcomplete.region, hregionless] at htext
    rw [htext]
    exact .role hcomplete.partition hcomplete.account hpartition haccount
  · intro hfull
    obtain ⟨hservice, htype, hname⟩ := hrole
    cases hfull with
    | role hpartition haccount hpartitionColons haccountColons =>
        have hnone : ':' ∉ "".toList := by decide
        rw [← hregionless,
          ArnParts.ofChars?_of_role hpartitionColons hnone haccountColons] at hparts
        cases hparts
        exact ⟨hpartition, hservice, rfl, haccount, htype, hname⟩

/-- **Shape.** What is accepted and is not the empty text names a role of the identity service. It
need not be complete: it is so exactly when it is written by the narrower rule. -/
theorem accepted_role_shape (hparse : parse text = .ok arn) (hnonempty : arn.isEmpty = false) :
    ∃ parts, arn.parts = .ok parts ∧ parts.service = "iam" ∧ parts.resourceType = "role" ∧
      parts.roleName ≠ "" ∧ (parts.Complete ↔ WrittenInFull arn.text) := by
  obtain ⟨parts, hparts, hrole⟩ := exists_parts_of_parse hparse hnonempty
  have hfound : arn.parts = .ok parts := by
    rw [RoleArn.parts, hparts]
  exact ⟨parts, hfound, hrole.1, hrole.2.1, hrole.2.2, complete_iff_writtenInFull hparts hrole⟩

theorem accepted_role_shape_team :
    parse " arn:aws:iam::1:role/team/web\n" = .ok ⟨"arn:aws:iam::1:role/team/web"⟩ ∧
      (RoleArn.mk "arn:aws:iam::1:role/team/web").isEmpty = false ∧
      ∃ parts, (RoleArn.mk "arn:aws:iam::1:role/team/web").parts = .ok parts ∧
        parts.service = "iam" ∧ parts.resourceType = "role" ∧ parts.roleName ≠ "" ∧
        (parts.Complete ↔ WrittenInFull "arn:aws:iam::1:role/team/web") := by
  have hparse : parse " arn:aws:iam::1:role/team/web\n" = .ok ⟨"arn:aws:iam::1:role/team/web"⟩ :=
    rfl
  have hnonempty : (RoleArn.mk "arn:aws:iam::1:role/team/web").isEmpty = false := by decide
  exact ⟨hparse, hnonempty, accepted_role_shape hparse hnonempty⟩

/-- An ARN with a region, and without a partition or an account, is accepted. -/
theorem incomplete_role_accepted :
    parse "arn::iam:us-east-1::role/web" = .ok ⟨"arn::iam:us-east-1::role/web"⟩ ∧
      ∃ parts, (RoleArn.mk "arn::iam:us-east-1::role/web").parts = .ok parts ∧
        parts.partition = "" ∧ parts.region = "us-east-1" ∧ parts.account = "" ∧
        ¬parts.Complete := by
  refine ⟨rfl, _, rfl, rfl, rfl, rfl, ?_⟩
  intro hcomplete
  exact hcomplete.partition rfl

end RoleArn

end CredentialBroker
