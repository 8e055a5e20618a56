/-!
Cutting a text in two at a mark. Main statements: the cut at the first mark is the only one with no
mark before it, the cut at the last mark the only one with no mark after it, and there is no cut
exactly where the mark does not occur.
-/

namespace CredentialBroker.Text

/-- What stands before the first mark and what stands after it. -/
def cutFirst (mark : Char) : List Char → Option (List Char × List Char)
  | [] => none
  | char :: rest =>
    if char = mark then some ([], rest)
    else (cutFirst mark rest).map fun parts => (char :: parts.1, parts.2)

/-- What stands before the last mark and what stands after it. -/
def cutLast (mark : Char) : List Char → Option (List Char × List Char)
  | [] => none
  | char :: rest =>
    match cutLast mark rest with
    | some parts => some (char :: parts.1, parts.2)
    | none => if char = mark then some ([], rest) else none

theorem cutFirst_append {mark : Char} {before : List Char} (hbefore : mark ∉ before)
    (after : List Char) : cutFirst mark (before ++ mark :: after) = some (before, after) := by
  induction before with
  | nil => simp [cutFirst]
  | cons char before ih =>
      have hne : char ≠ mark := fun heq => hbefore (heq ▸ List.mem_cons_self)
      have hrest : mark ∉ before := fun hmem => hbefore (List.mem_cons_of_mem char hmem)
      simp [cutFirst, hne, ih hrest]

theorem cutFirst_eq_none_iff {mark : Char} {text : List Char} :
    cutFirst mark text = none ↔ mark ∉ text := by
  induction text with
  | nil => simp [cutFirst]
  | cons char rest ih =>
      by_cases heq : char = mark
      · simp [cutFirst, heq]
      · simp [cutFirst, heq, ih, Ne.symm heq]

theorem cutFirst_eq_some_iff {mark : Char} {text before after : List Char} :
    cutFirst mark text = some (before, after) ↔ text = before ++ mark :: after ∧ mark ∉ before := by
  refine ⟨fun hcut => ?_, fun hsplit => hsplit.1 ▸ cutFirst_append hsplit.2 after⟩
  induction text generalizing before with
  | nil => simp [cutFirst] at hcut
  | cons char rest ih =>
      by_cases heq : char = mark
      · simp only [cutFirst, heq, ↓reduceIte, Option.some.injEq, Prod.mk.injEq] at hcut
        obtain ⟨rfl, rfl⟩ := hcut
        simp [heq]
      · simp only [cutFirst, heq, ↓reduceIte, Option.map_eq_some_iff, Prod.exists,
          Prod.mk.injEq] at hcut
        obtain ⟨inner, _, hinner, rfl, rfl⟩ := hcut
        obtain ⟨hrest, hmark⟩ := ih hinner
        simp [hrest, hmark, Ne.symm heq]

/-- A cut at the first mark leaves all the others behind it. -/
theorem exists_cut_of_lt_count {mark : Char} {text : List Char} (least : Nat)
    (hcount : least < text.count mark) :
    ∃ before after, text = before ++ mark :: after ∧ mark ∉ before ∧ least ≤ after.count mark := by
  cases hcut : cutFirst mark text with
  | none =>
      have habsent : text.count mark = 0 := List.count_eq_zero.mpr (cutFirst_eq_none_iff.mp hcut)
      omega
  | some parts =>
      obtain ⟨before, after⟩ := parts
      obtain ⟨rfl, hbefore⟩ := cutFirst_eq_some_iff.mp hcut
      rw [List.count_append, List.count_eq_zero.mpr hbefore, List.count_cons_self] at hcount
      exact ⟨before, after, rfl, hbefore, by omega⟩

theorem cutLast_eq_none_iff {mark : Char} {text : List Char} :
    cutLast mark text = none ↔ mark ∉ text := by
  induction text with
  | nil => simp [cutLast]
  | cons char rest ih =>
      cases hrest : cutLast mark rest with
      | none =>
          have hmark := ih.mp hrest
          by_cases heq : char = mark
          · simp [cutLast, hrest, heq]
          · simp [cutLast, hrest, heq, hmark, Ne.symm heq]
      | some parts =>
          have hmark : mark ∈ rest := by
            by_cases hmem : mark ∈ rest
            · exact hmem
            · rw [ih.mpr hmem] at hrest
              cases hrest
          simp [cutLast, hrest, hmark]

theorem cutLast_append {mark : Char} {after : List Char} (hafter : mark ∉ after)
    (before : List Char) : cutLast mark (before ++ mark :: after) = some (before, after) := by
  induction before with
  | nil => simp [cutLast, cutLast_eq_none_iff.mpr hafter]
  | cons char before ih => simp [cutLast, ih]

theorem cutLast_eq_some_iff {mark : Char} {text before after : List Char} :
    cutLast mark text = some (before, after) ↔ text = before ++ mark :: after ∧ mark ∉ after := by
  refine ⟨fun hcut => ?_, fun hsplit => hsplit.1 ▸ cutLast_append hsplit.2 before⟩
  induction text generalizing before with
  | nil => simp [cutLast] at hcut
  | cons char rest ih =>
      cases hrest : cutLast mark rest with
      | some parts =>
          simp only [cutLast, hrest, Option.some.injEq, Prod.mk.injEq] at hcut
          obtain ⟨rfl, rfl⟩ := hcut
          obtain ⟨hsplit, hmark⟩ := ih hrest
          exact ⟨by rw [hsplit]; rfl, hmark⟩
      | none =>
          by_cases heq : char = mark
          · simp only [cutLast, hrest, heq, ↓reduceIte, Option.some.injEq, Prod.mk.injEq] at hcut
            obtain ⟨rfl, rfl⟩ := hcut
            exact ⟨by rw [heq]; rfl, cutLast_eq_none_iff.mp hrest⟩
          · simp [cutLast, hrest, heq] at hcut

end CredentialBroker.Text
