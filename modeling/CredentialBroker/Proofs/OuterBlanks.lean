import CredentialBroker.Proofs.RoleGrammar

/-!
Blanks around the text of a role ARN. Main statement: texts are read with the same outcome exactly
when they are one text between blanks, and a role that is accepted has no blanks around it and is
accepted again as it stands.

Every outcome tells a text, that of the role or the one in the message, and it is the stripped one.
So blanks at the ends never come through, while those inside the text always do.
-/

namespace CredentialBroker

open Text

/-- The inner text with blanks before and after it, of which there may be none. -/
inductive Text.Padded (inner : String) : String → Prop where
  | intro {before after : String} (hbefore : isBlankText before = true)
      (hafter : isBlankText after = true) : Padded inner (before ++ inner ++ after)

namespace Text

variable {inner padded : String}

theorem isBlankText_iff {text : String} :
    isBlankText text = true ↔ ∀ char ∈ text.toList, isBlank char = true :=
  List.all_eq_true

theorem Padded.stripped_eq (hpadded : Padded inner padded) : stripped padded = stripped inner := by
  cases hpadded with
  | intro hbefore hafter =>
      rw [stripped, String.toList_append, String.toList_append,
        strip_append_blanks (isBlankText_iff.mp hbefore) (isBlankText_iff.mp hafter), stripped]

theorem padded_stripped (text : String) : Padded (stripped text) text := by
  obtain ⟨before, after, htext, hbefore, hafter⟩ := exists_blanks_around_strip text.toList
  have hsplit : text = String.ofList before ++ stripped text ++ String.ofList after := by
    rw [← String.toList_inj]
    simpa [stripped] using htext
  have hpadded : Padded (stripped text)
      (String.ofList before ++ stripped text ++ String.ofList after) := by
    apply Padded.intro
    · rw [isBlankText_iff, String.toList_ofList]
      exact hbefore
    · rw [isBlankText_iff, String.toList_ofList]
      exact hafter
  rw [← hsplit] at hpadded
  exact hpadded

/-- Blanks at the ends are all that texts with the same stripped form can differ in. -/
theorem stripped_eq_stripped_iff {left right : String} :
    stripped left = stripped right ↔ ∃ inner, Padded inner left ∧ Padded inner right := by
  constructor
  · intro hsame
    refine ⟨stripped left, padded_stripped left, ?_⟩
    rw [hsame]
    exact padded_stripped right
  · rintro ⟨inner, hleft, hright⟩
    rw [hleft.stripped_eq, hright.stripped_eq]

end Text

namespace RoleArn

variable {text : String} {arn : RoleArn}

/-- The text that an outcome of reading tells, as the role or in the message of the error. -/
def toldText : Except RoleArnError RoleArn → String
  | .ok arn => arn.text
  | .error (.malformed text) => text
  | .error (.notRole text) => text

theorem toldText_parse (text : String) : toldText (parse text) = stripped text := by
  have hcase := parseCase text
  generalize parse text = outcome at hcase
  cases hcase with
  | accepted hwritten => rfl
  | malformed hwritten hlacks => rfl
  | notRole hwritten hlacks => rfl

theorem parse_eq_parse_iff {left right : String} :
    parse left = parse right ↔ stripped left = stripped right := by
  constructor
  · intro hsame
    rw [← toldText_parse, hsame, toldText_parse]
  · intro hsame
    rw [← parse_stripped, hsame, parse_stripped]

theorem isBlank_head_of_parse (hparse : parse text = .ok arn) :
    ∀ char ∈ arn.text.toList.head?, isBlank char = false := by
  intro char hhead
  rw [text_of_parse hparse, stripped, String.toList_ofList] at hhead
  exact isBlank_head_strip hhead

theorem isBlank_last_of_parse (hparse : parse text = .ok arn) :
    ∀ char ∈ arn.text.toList.getLast?, isBlank char = false := by
  intro char hlast
  rw [text_of_parse hparse, stripped, String.toList_ofList] at hlast
  exact isBlank_last_strip hlast

/-- **Blanks around.** Blanks before and after a text change nothing of what it is read as, be it a
role or an error with its message, and nothing else can be changed without a change of the outcome.
A role that is accepted neither starts nor ends with a blank, and its text is accepted as that same
role. -/
theorem parse_blind_to_outer_blanks (text : String) :
    (∀ before after : String, isBlankText before = true → isBlankText after = true →
        parse (before ++ text ++ after) = parse text) ∧
      (∀ other, parse other = parse text ↔ ∃ inner, Padded inner other ∧ Padded inner text) ∧
      ∀ arn, parse text = .ok arn →
        (∀ char ∈ arn.text.toList.head?, isBlank char = false) ∧
          (∀ char ∈ arn.text.toList.getLast?, isBlank char = false) ∧
          parse arn.text = .ok arn := by
  refine ⟨?_, ?_, ?_⟩
  · intro before after hbefore hafter
    exact parse_eq_parse_iff.mpr (Padded.intro hbefore hafter).stripped_eq
  · intro other
    rw [parse_eq_parse_iff, stripped_eq_stripped_iff]
  · intro arn hparse
    exact ⟨isBlank_head_of_parse hparse, isBlank_last_of_parse hparse, parse_text_of_parse hparse⟩

/-- The name of the role has a blank inside, which stays, and other blanks stand around the text. -/
def spaced : String := "\u2009arn:aws:iam::1:role/my role\n"

theorem parse_blind_to_outer_blanks_spaced :
    isBlankText "\u00a0\t" = true ∧ isBlankText "\u3000" = true ∧
      parse spaced = .ok ⟨"arn:aws:iam::1:role/my role"⟩ ∧
      parse ("\u00a0\t" ++ spaced ++ "\u3000") = parse spaced ∧
      (∀ char ∈ "arn:aws:iam::1:role/my role".toList.head?, isBlank char = false) ∧
      (∀ char ∈ "arn:aws:iam::1:role/my role".toList.getLast?, isBlank char = false) ∧
      parse "arn:aws:iam::1:role/my role" = .ok ⟨"arn:aws:iam::1:role/my role"⟩ ∧
      parse "my role" = .error (.malformed "my role") ∧
      parse ("\u00a0\t" ++ "my role" ++ "\u3000") = parse "my role" := by
  have hbefore : isBlankText "\u00a0\t" = true := by decide
  have hafter : isBlankText "\u3000" = true := by decide
  have hparse : parse spaced = .ok ⟨"arn:aws:iam::1:role/my role"⟩ := rfl
  obtain ⟨haround, -, haccepted⟩ := parse_blind_to_outer_blanks spaced
  obtain ⟨hrefused, -, -⟩ := parse_blind_to_outer_blanks "my role"
  obtain ⟨hhead, hlast, hagain⟩ := haccepted _ hparse
  exact ⟨hbefore, hafter, hparse, haround _ _ hbefore hafter, hhead, hlast, hagain, rfl,
    hrefused _ _ hbefore hafter⟩

end RoleArn

end CredentialBroker
