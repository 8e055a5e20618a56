/-!
Role session names. They keep a small set of characters, show every other one as an underscore and
have at most 32. Main statements: `sanitize` works on each character alone, and changes nothing in a
text that has only allowed characters.
-/

namespace CredentialBroker.SessionName

def maxLength : Nat := 32

/-- Letters and digits of ASCII and seven marks are allowed. -/
def isAllowed (char : Char) : Bool :=
  char.isAlphanum || ['_', '+', '=', ',', '.', '@', '-'].contains char

def sanitizeChar (char : Char) : Char :=
  if isAllowed char then char else '_'

def sanitize (text : List Char) : List Char :=
  text.map sanitizeChar

def sanitizeText (text : String) : String :=
  String.ofList (sanitize text.toList)

/-- The session name that identifies a container on a platform. -/
def ofContainer (platform containerId : String) : String :=
  String.ofList ((sanitize (platform.toList ++ '-' :: containerId.toList)).take maxLength)

theorem isAlphanum_iff {char : Char} :
    char.isAlphanum = true ↔
      ('A' ≤ char ∧ char ≤ 'Z') ∨ ('a' ≤ char ∧ char ≤ 'z') ∨ ('0' ≤ char ∧ char ≤ '9') := by
  have hclasses : char.isAlphanum =
      (decide ('A' ≤ char ∧ char ≤ 'Z') || (decide ('a' ≤ char) && decide (char ≤ 'z')) ||
        (decide ('0' ≤ char) && decide (char ≤ '9'))) := rfl
  rw [hclasses, Bool.or_eq_true, Bool.or_eq_true, Bool.and_eq_true, Bool.and_eq_true, or_assoc]
  simp only [decide_eq_true_eq]

theorem isAllowed_iff {char : Char} :
    isAllowed char = true ↔
      ('A' ≤ char ∧ char ≤ 'Z') ∨ ('a' ≤ char ∧ char ≤ 'z') ∨ ('0' ≤ char ∧ char ≤ '9') ∨
        char ∈ ['_', '+', '=', ',', '.', '@', '-'] := by
  rw [isAllowed, Bool.or_eq_true, isAlphanum_iff, List.contains_iff_mem, or_assoc, or_assoc]

theorem isAllowed_sanitizeChar (char : Char) : isAllowed (sanitizeChar char) = true := by
  rw [sanitizeChar]
  split
  · assumption
  · decide

theorem sanitizeChar_eq_self_iff {char : Char} :
    sanitizeChar char = char ↔ isAllowed char = true := by
  refine ⟨fun heq => heq ▸ isAllowed_sanitizeChar char, fun hallowed => ?_⟩
  rw [sanitizeChar, if_pos hallowed]

@[simp]
theorem sanitize_append (left right : List Char) :
    sanitize (left ++ right) = sanitize left ++ sanitize right :=
  List.map_append

theorem sanitize_take (count : Nat) (text : List Char) :
    sanitize (text.take count) = (sanitize text).take count :=
  List.map_take

@[simp]
theorem length_sanitize (text : List Char) : (sanitize text).length = text.length :=
  List.length_map _

theorem sanitize_eq_self_iff {text : List Char} :
    sanitize text = text ↔ ∀ char ∈ text, isAllowed char = true := by
  induction text with
  | nil => simp [sanitize]
  | cons char rest ih =>
      rw [sanitize, List.map_cons, List.cons_eq_cons, sanitizeChar_eq_self_iff, List.forall_mem_cons]
      exact and_congr_right fun _ => ih

theorem toList_ofContainer (platform containerId : String) :
    (ofContainer platform containerId).toList =
      (sanitize (platform.toList ++ '-' :: containerId.toList)).take maxLength :=
  String.toList_ofList

theorem length_ofContainer (platform containerId : String) :
    (ofContainer platform containerId).length =
      min maxLength (platform.length + 1 + containerId.length) := by
  rw [← String.length_toList, toList_ofContainer, List.length_take, length_sanitize,
    List.length_append, List.length_cons, String.length_toList, String.length_toList]
  omega

theorem isAllowed_of_mem_ofContainer {platform containerId : String} {char : Char}
    (hmem : char ∈ (ofContainer platform containerId).toList) : isAllowed char = true := by
  rw [toList_ofContainer] at hmem
  obtain ⟨original, -, rfl⟩ := List.mem_map.mp (List.mem_of_mem_take hmem)
  exact isAllowed_sanitizeChar original

end CredentialBroker.SessionName
