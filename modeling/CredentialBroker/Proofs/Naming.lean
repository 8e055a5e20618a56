import CredentialBroker.SessionName

/-!
The names of sessions. Main statement: a name is the platform and the id of the container with a dash
between them, cut to 32 characters, in which every character but letters and digits of ASCII and
seven marks is shown as an underscore.

A name is made character by character, so it does not matter whether a text is cut, joined or made
into a name first, and what is a name already stays as it is. Of the id only so much counts as there
is room for beside the platform.
-/

namespace CredentialBroker.SessionName

/-- The letters and digits of ASCII and seven marks. -/
def IsNameChar (char : Char) : Prop :=
  ('A' ≤ char ∧ char ≤ 'Z') ∨ ('a' ≤ char ∧ char ≤ 'z') ∨ ('0' ≤ char ∧ char ≤ '9') ∨
    char ∈ ['_', '+', '=', ',', '.', '@', '-']

/-- How a character is shown in a name. -/
inductive ShownAs (char : Char) : Char → Prop where
  | itself (hname : IsNameChar char) : ShownAs char char
  | underscore (hother : ¬IsNameChar char) : ShownAs char '_'

/-- The first characters of a text, or all where it has fewer. -/
def cut (count : Nat) (text : String) : String :=
  String.ofList (text.toList.take count)

/-- The laws of a sanitizer that looks at each character alone and keeps those of names. -/
structure SanitizerLaws (sanitizer : String → String) : Prop where
  length : ∀ text, (sanitizer text).length = text.length
  append : ∀ left right, sanitizer (left ++ right) = sanitizer left ++ sanitizer right
  cut : ∀ count text, sanitizer (cut count text) = cut count (sanitizer text)
  idempotent : ∀ text, sanitizer (sanitizer text) = sanitizer text
  unchanged_iff : ∀ text, sanitizer text = text ↔ ∀ char ∈ text.toList, IsNameChar char

variable {platform containerId : String}

theorem shownAs_sanitizeChar (char : Char) : ShownAs char (sanitizeChar char) := by
  by_cases hallowed : isAllowed char = true
  · rw [sanitizeChar, if_pos hallowed]
    exact .itself (isAllowed_iff.mp hallowed)
  · rw [sanitizeChar, if_neg hallowed]
    apply ShownAs.underscore
    intro hname
    exact hallowed (isAllowed_iff.mpr hname)

@[simp]
theorem toList_sanitizeText (text : String) :
    (sanitizeText text).toList = sanitize text.toList :=
  String.toList_ofList

@[simp]
theorem toList_cut (count : Nat) (text : String) : (cut count text).toList = text.toList.take count :=
  String.toList_ofList

theorem sanitizeText_eq_self_iff {text : String} :
    sanitizeText text = text ↔ ∀ char ∈ text.toList, IsNameChar char := by
  rw [← String.toList_inj, toList_sanitizeText, sanitize_eq_self_iff]
  simp only [isAllowed_iff, IsNameChar]

theorem isNameChar_of_mem_sanitizeText {text : String} {char : Char}
    (hmem : char ∈ (sanitizeText text).toList) : IsNameChar char := by
  rw [toList_sanitizeText] at hmem
  obtain ⟨original, -, rfl⟩ := List.mem_map.mp hmem
  exact isAllowed_iff.mp (isAllowed_sanitizeChar original)

theorem sanitizerLaws : SanitizerLaws sanitizeText where
  length text := by
    rw [← String.length_toList, toList_sanitizeText, length_sanitize, String.length_toList]
  append left right := by
    rw [← String.toList_inj]
    simp
  cut count text := by
    rw [← String.toList_inj]
    simp [sanitize_take]
  idempotent text := by
    apply sanitizeText_eq_self_iff.mpr
    intro char hmem
    exact isNameChar_of_mem_sanitizeText hmem
  unchanged_iff _ := sanitizeText_eq_self_iff

/-- A name is the cut form of the sanitized text that it is made from. -/
theorem ofContainer_eq_cut (platform containerId : String) :
    ofContainer platform containerId =
      cut 32 (sanitizeText (platform ++ "-" ++ containerId)) := by
  rw [← String.toList_inj, toList_ofContainer]
  simp [maxLength]

theorem exists_shownAs_of_ofContainer {position : Nat} {char : Char}
    (hchar : (ofContainer platform containerId).toList[position]? = some char) :
    ∃ original, (platform ++ "-" ++ containerId).toList[position]? = some original ∧
      ShownAs original char := by
  rw [ofContainer_eq_cut, toList_cut, toList_sanitizeText, List.getElem?_take] at hchar
  split at hchar
  · rw [sanitize, List.getElem?_map, Option.map_eq_some_iff] at hchar
    obtain ⟨original, horiginal, rfl⟩ := hchar
    exact ⟨original, horiginal, shownAs_sanitizeChar original⟩
  · cases hchar

/-- The platform and the dash come first, and leave the rest of the 32 characters for the id. -/
theorem cut_append_id (platform containerId : String) :
    (platform ++ "-" ++ containerId).toList.take 32 =
      (platform ++ "-").toList.take 32 ++ containerId.toList.take (31 - platform.length) := by
  have hroom : 32 - (platform ++ "-").toList.length = 31 - platform.length := by
    have hdash : "-".length = 1 := rfl
    rw [String.length_toList, String.length_append, hdash]
    omega
  rw [String.toList_append, List.take_append, hroom]

theorem ofContainer_congr {other : String}
    (hid : containerId.toList.take (31 - platform.length) =
      other.toList.take (31 - platform.length)) :
    ofContainer platform containerId = ofContainer platform other := by
  have hcut : cut 32 (platform ++ "-" ++ containerId) = cut 32 (platform ++ "-" ++ other) := by
    rw [cut, cut, cut_append_id, cut_append_id, hid]
  calc ofContainer platform containerId
      = sanitizeText (cut 32 (platform ++ "-" ++ containerId)) := by
        rw [ofContainer_eq_cut, sanitizerLaws.cut]
    _ = sanitizeText (cut 32 (platform ++ "-" ++ other)) := by rw [hcut]
    _ = ofContainer platform other := by rw [ofContainer_eq_cut, sanitizerLaws.cut]

/-- **Session names.** A name has the length of platform, dash and id together, but at most 32, and
at each position it shows the character that they have there. The sanitizer obeys its laws, so that
it leaves a name as it is, and ids that agree as far as there is room have the same name. -/
theorem session_name_shape (platform containerId : String) :
    (ofContainer platform containerId).length =
        min 32 (platform.length + 1 + containerId.length) ∧
      (∀ (position : Nat) (char : Char),
        (ofContainer platform containerId).toList[position]? = some char →
        ∃ original, (platform ++ "-" ++ containerId).toList[position]? = some original ∧
          ShownAs original char) ∧
      SanitizerLaws sanitizeText ∧
      sanitizeText (ofContainer platform containerId) = ofContainer platform containerId ∧
      ∀ other : String, containerId.toList.take (31 - platform.length) =
          other.toList.take (31 - platform.length) →
        ofContainer platform containerId = ofContainer platform other := by
  refine ⟨length_ofContainer platform containerId, ?_, sanitizerLaws, ?_, ?_⟩
  · intro position char
    exact exists_shownAs_of_ofContainer
  · apply sanitizeText_eq_self_iff.mpr
    intro char hmem
    exact isAllowed_iff.mp (isAllowed_of_mem_ofContainer hmem)
  · intro other
    exact ofContainer_congr

/-- The platform and the dash leave room for 24 characters, which the two ids have in common. -/
theorem session_name_shape_crowded :
    (ofContainer "docker§" "3f4e1a9c2b7d3f4e1a9c2b7d one").toList[6]? = some '_' ∧
      (∃ original, ("docker§" ++ "-" ++ "3f4e1a9c2b7d3f4e1a9c2b7d one").toList[6]? =
        some original ∧ ShownAs original '_') ∧
      "3f4e1a9c2b7d3f4e1a9c2b7d one".toList.take (31 - "docker§".length) =
        "3f4e1a9c2b7d3f4e1a9c2b7d other".toList.take (31 - "docker§".length) ∧
      ofContainer "docker§" "3f4e1a9c2b7d3f4e1a9c2b7d one" =
        ofContainer "docker§" "3f4e1a9c2b7d3f4e1a9c2b7d other" := by
  have hposition : (ofContainer "docker§" "3f4e1a9c2b7d3f4e1a9c2b7d one").toList[6]? = some '_' := by
    decide
  have hid : "3f4e1a9c2b7d3f4e1a9c2b7d one".toList.take (31 - "docker§".length) =
      "3f4e1a9c2b7d3f4e1a9c2b7d other".toList.take (31 - "docker§".length) := by
    decide
  obtain ⟨-, hshown, -, -, hsame⟩ :=
    session_name_shape "docker§" "3f4e1a9c2b7d3f4e1a9c2b7d one"
  exact ⟨hposition, hshown 6 '_' hposition, hid, hsame _ hid⟩

end CredentialBroker.SessionName
