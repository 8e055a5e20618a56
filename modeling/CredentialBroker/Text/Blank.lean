/-!
Blank characters and the strip that removes them from both ends of a text. Main statements: what is
left by `strip` neither starts nor ends with a blank, and blanks added at the ends change nothing.
-/

namespace CredentialBroker.Text

/-- The blank characters are the spaces, the line and paragraph breaks and the four information separators. -/
def isBlank (char : Char) : Bool :=
  let code := char.toNat
  (0x09 ≤ code && code ≤ 0x0D) || (0x1C ≤ code && code ≤ 0x20) || code == 0x85 || code == 0xA0 ||
    code == 0x1680 || (0x2000 ≤ code && code ≤ 0x200A) || code == 0x2028 || code == 0x2029 ||
    code == 0x202F || code == 0x205F || code == 0x3000

/-- Drops the blanks at the end of a text. -/
def stripEnd (text : List Char) : List Char :=
  (text.reverse.dropWhile isBlank).reverse

/-- Drops the blanks at both ends of a text and keeps those inside it. -/
def strip (text : List Char) : List Char :=
  stripEnd (text.dropWhile isBlank)

/-- A blank text has nothing but blanks. -/
def isBlankText (text : String) : Bool :=
  text.toList.all isBlank

def stripped (text : String) : String :=
  String.ofList (strip text.toList)

theorem dropWhile_append_left {left : List Char} (hleft : ∀ char ∈ left, isBlank char = true)
    (text : List Char) : (left ++ text).dropWhile isBlank = text.dropWhile isBlank := by
  induction left with
  | nil => rfl
  | cons char left ih =>
      rw [List.cons_append, List.dropWhile_cons, if_pos (hleft char List.mem_cons_self)]
      exact ih fun other hother => hleft other (List.mem_cons_of_mem char hother)

theorem dropWhile_eq_nil_iff {text : List Char} :
    text.dropWhile isBlank = [] ↔ ∀ char ∈ text, isBlank char = true := by
  induction text with
  | nil => simp
  | cons char rest ih =>
      cases hchar : isBlank char <;> simp [hchar, ih]

theorem isBlank_head_dropWhile {text rest : List Char} {char : Char}
    (hdrop : text.dropWhile isBlank = char :: rest) : isBlank char = false := by
  induction text with
  | nil => simp at hdrop
  | cons first text ih =>
      cases hfirst : isBlank first with
      | true => exact ih (by simpa [List.dropWhile_cons, hfirst] using hdrop)
      | false =>
          rw [List.dropWhile_cons, hfirst] at hdrop
          cases hdrop
          exact hfirst

theorem stripEnd_append_right {right : List Char} (hright : ∀ char ∈ right, isBlank char = true)
    (text : List Char) : stripEnd (text ++ right) = stripEnd text := by
  rw [stripEnd, List.reverse_append,
    dropWhile_append_left (fun char hchar => hright char (List.mem_reverse.mp hchar))]
  rfl

theorem stripEnd_of_last {text : List Char} {char : Char} (hchar : isBlank char = false) :
    stripEnd (text ++ [char]) = text ++ [char] := by
  simp [stripEnd, hchar]

/-- Every text is its stripped form between two runs of blanks. -/
theorem exists_blanks_around_strip (text : List Char) :
    ∃ left right : List Char, text = left ++ strip text ++ right ∧
      (∀ char ∈ left, isBlank char = true) ∧ (∀ char ∈ right, isBlank char = true) := by
  refine ⟨text.takeWhile isBlank, ((text.dropWhile isBlank).reverse.takeWhile isBlank).reverse,
    ?_, ?_, ?_⟩
  · have hinner : strip text ++ ((text.dropWhile isBlank).reverse.takeWhile isBlank).reverse =
        text.dropWhile isBlank := by
      rw [strip, stripEnd, ← List.reverse_append, List.takeWhile_append_dropWhile,
        List.reverse_reverse]
    rw [List.append_assoc, hinner, List.takeWhile_append_dropWhile]
  · intro char hchar
    have htake := List.all_takeWhile (l := text) (p := isBlank)
    exact List.all_eq_true.mp htake char hchar
  · intro char hchar
    have htake := List.all_takeWhile (l := (text.dropWhile isBlank).reverse) (p := isBlank)
    exact List.all_eq_true.mp htake char (List.mem_reverse.mp hchar)

/-- A text with no blank at its ends is its own stripped form. -/
theorem strip_eq_self {text : List Char}
    (hhead : ∀ char ∈ text.head?, isBlank char = false)
    (hlast : ∀ char ∈ text.getLast?, isBlank char = false) : strip text = text := by
  cases text with
  | nil => rfl
  | cons first rest =>
      have hfirst : isBlank first = false := hhead first rfl
      rw [strip, List.dropWhile_cons, hfirst]
      rcases List.eq_nil_or_concat (first :: rest) with hnil | ⟨init, last, hinit⟩
      · cases hnil
      · rw [if_neg (by decide), hinit, List.concat_eq_append]
        refine stripEnd_of_last (hlast last ?_)
        rw [hinit, List.concat_eq_append, List.getLast?_concat]
        rfl

theorem isBlank_head_strip {text : List Char} {char : Char} (hhead : char ∈ (strip text).head?) :
    isBlank char = false := by
  obtain ⟨right, hright⟩ : ∃ right, strip text ++ right = text.dropWhile isBlank := by
    refine ⟨((text.dropWhile isBlank).reverse.takeWhile isBlank).reverse, ?_⟩
    rw [strip, stripEnd, ← List.reverse_append, List.takeWhile_append_dropWhile,
      List.reverse_reverse]
  cases hstrip : strip text with
  | nil => rw [hstrip] at hhead; cases hhead
  | cons first rest =>
      rw [hstrip] at hhead hright
      cases hhead
      exact isBlank_head_dropWhile hright.symm

theorem isBlank_last_strip {text : List Char} {char : Char}
    (hlast : char ∈ (strip text).getLast?) : isBlank char = false := by
  rw [strip, stripEnd, List.getLast?_reverse] at hlast
  cases hdrop : (text.dropWhile isBlank).reverse.dropWhile isBlank with
  | nil => rw [hdrop] at hlast; cases hlast
  | cons first rest =>
      rw [hdrop] at hlast
      cases hlast
      exact isBlank_head_dropWhile hdrop

theorem strip_strip (text : List Char) : strip (strip text) = strip text :=
  strip_eq_self (fun _ hhead => isBlank_head_strip hhead) fun _ hlast => isBlank_last_strip hlast

theorem stripped_stripped (text : String) : stripped (stripped text) = stripped text := by
  rw [stripped, stripped, String.toList_ofList, strip_strip]

/-- Blanks added before and after a text do not change its stripped form. -/
theorem strip_append_blanks {left right : List Char}
    (hleft : ∀ char ∈ left, isBlank char = true) (hright : ∀ char ∈ right, isBlank char = true)
    (text : List Char) : strip (left ++ text ++ right) = strip text := by
  rw [List.append_assoc, strip, dropWhile_append_left hleft, strip]
  by_cases hnil : text.dropWhile isBlank = []
  · have hall : ∀ char ∈ text ++ right, isBlank char = true := by
      intro char hchar
      rcases List.mem_append.mp hchar with htext | hmem
      · exact dropWhile_eq_nil_iff.mp hnil char htext
      · exact hright char hmem
    rw [dropWhile_eq_nil_iff.mpr hall, hnil]
  · have hdrop : (text ++ right).dropWhile isBlank = text.dropWhile isBlank ++ right := by
      rw [List.dropWhile_append, if_neg (by simpa using hnil)]
    rw [hdrop, stripEnd_append_right hright]

end CredentialBroker.Text
