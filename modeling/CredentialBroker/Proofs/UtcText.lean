import CredentialBroker.Credentials.Document
import CredentialBroker.Proofs.WrittenTime

/-!
Texts of moments in UTC. Main statement: the text of a moment reads back as its instant rounded down
to the whole second, so that texts are equal exactly where the rounded instants are, and from year
1000 on texts are in the order of the rounded instants.

The year is written without leading zeros. That does no harm to reading it back, since the first
mark ends it, but below year 1000 it is shorter than four digits and the order of texts is lost. From
there on every field has its full width, and a text is compared field by field as a date and a time
of day are.
-/

namespace CredentialBroker

open Text Time

namespace Time.WallTime

variable {left right wall : WallTime}

@[simp]
theorem utcChars_wholeSecond (wall : WallTime) : wall.wholeSecond.utcChars = wall.utcChars := by
  simp only [utcChars, hour, minute, second, date_wholeSecond, secondOfDay_wholeSecond]

/-- The text keeps the second and nothing smaller. -/
theorem utcText_eq_iff : left.utcText = right.utcText ↔ left.wholeSecond = right.wholeSecond := by
  rw [utcText, utcText, String.ofList_inj]
  constructor
  · intro htext
    have hread := congrArg ofUtcChars? htext
    simpa only [ofUtcChars?_utcChars, Option.some.injEq] using hread
  · intro hsecond
    rw [← utcChars_wholeSecond left, hsecond, utcChars_wholeSecond]

theorem utcChars_of_le_year (hyear : 1000 ≤ wall.date.year) :
    wall.utcChars =
      fixedDigits 10 4 wall.date.year ++ '-' :: (fixedDigits 10 2 wall.date.month ++
        '-' :: (fixedDigits 10 2 wall.date.day ++ 'T' :: (fixedDigits 10 2 wall.hour ++
          ':' :: (fixedDigits 10 2 wall.minute ++
            ':' :: (fixedDigits 10 2 wall.second ++ ['Z']))))) := by
  have hlow : 10 ^ 3 ≤ wall.date.year := hyear
  rw [utcChars_eq, toDigits_eq_fixedDigits hlow wall.year_lt]

theorem length_utcText (hyear : 1000 ≤ wall.date.year) : wall.utcText.length = 20 := by
  rw [utcText, String.length_ofList, utcChars_of_le_year hyear]
  simp only [List.length_append, List.length_cons, List.length_nil, length_fixedDigits]

/-- From year 1000 on texts are compared as their dates are, then as their times of day. -/
theorem utcChars_lt_iff (hleft : 1000 ≤ left.date.year) (hright : 1000 ≤ right.date.year) :
    left.utcChars < right.utcChars ↔ left.wholeSecond.micros < right.wholeSecond.micros := by
  obtain ⟨hmonth, hday, hhour, hminute, hsecond⟩ := left.fields_lt
  obtain ⟨hmonth', hday', hhour', hminute', hsecond'⟩ := right.fields_lt
  rw [utcChars_of_le_year hleft, utcChars_of_le_year hright,
    field_lt_field_iff left.year_lt right.year_lt, field_lt_field_iff hmonth hmonth',
    field_lt_field_iff hday hday', field_lt_field_iff hhour hhour',
    field_lt_field_iff hminute hminute', field_lt_field_iff hsecond hsecond',
    wholeSecond_lt_iff, secondOfDay_lt_iff, Date.Precedes, Date.eq_iff]
  simp only [List.lt_irrefl, and_false, or_false, and_or_left, or_assoc, and_assoc]

/-- The start of year 999 is written after that of year 1000. -/
example : utcChars ⟨31525372800000000, by decide⟩ < utcChars ⟨31493836800000000, by decide⟩ := by
  decide

theorem codePoints_utcText_lt_iff (hleft : 1000 ≤ left.date.year)
    (hright : 1000 ≤ right.date.year) :
    left.utcText.toList.map Char.toNat < right.utcText.toList.map Char.toNat ↔
      left.wholeSecond.micros < right.wholeSecond.micros := by
  rw [← Text.lt_iff_codePoints, ← utcChars_lt_iff hleft hright]
  change left.utcText.toList < right.utcText.toList ↔ _
  rw [utcText, utcText, String.toList_ofList, String.toList_ofList]

end Time.WallTime

namespace Time.Moment

variable {moment other : Moment} {wall : WallTime} {text otherText : String}

/-- The instant rounded down to the whole second. -/
def wholeSecond (moment : Moment) : Int :=
  moment.instant / microsPerSecond * microsPerSecond

/-- In UTC the moment falls into one of the years from 1000 on. -/
def HasFourDigitYear (moment : Moment) : Prop :=
  ∃ wall, moment.utcWall = .ok wall ∧ 1000 ≤ wall.date.year

theorem wholeSecond_eq (hwall : (wall.micros : Int) = moment.instant) :
    moment.wholeSecond = wall.wholeSecond.micros := by
  rw [wholeSecond, ← hwall, WallTime.wholeSecond, Int.natCast_mul, Int.natCast_ediv]

theorem wholeSecond_le (moment : Moment) : moment.wholeSecond ≤ moment.instant :=
  Int.ediv_mul_le _ (by decide)

theorem wholeSecond_mono (hle : moment.instant ≤ other.instant) :
    moment.wholeSecond ≤ other.wholeSecond :=
  Int.mul_le_mul_of_nonneg_right (Int.ediv_le_ediv (by decide) hle) (by decide)

theorem HasFourDigitYear.le_year (hlong : moment.HasFourDigitYear)
    (hwall : (wall.micros : Int) = moment.instant) : 1000 ≤ wall.date.year := by
  obtain ⟨found, hfound, hyear⟩ := hlong
  rw [utcWall_eq_ok_iff.mpr hwall, Except.ok.injEq] at hfound
  rwa [hfound]

theorem exists_utcText_eq_error_iff :
    (∃ overflow, moment.utcText = .error overflow) ↔
      moment.instant < (ofUtc .first).instant ∨ (ofUtc .last).instant < moment.instant := by
  simp only [utcText_eq_error_iff, utcWall_eq_error_iff, exists_eq_left, instant_ofUtc,
    WallTime.first, WallTime.last, calendarMicros]
  omega

theorem ofUtcChars?_of_utcText (htext : moment.utcText = .ok text) :
    ∃ wall, WallTime.ofUtcChars? text.toList = some wall ∧
      (ofUtc wall).instant = moment.wholeSecond := by
  obtain ⟨wall, hwall, rfl⟩ := utcText_eq_ok_iff.mp htext
  refine ⟨wall.wholeSecond, ?_, ?_⟩
  · rw [WallTime.utcText, String.toList_ofList, WallTime.ofUtcChars?_utcChars]
  · rw [instant_ofUtc, wholeSecond_eq hwall]

theorem text_eq_iff (htext : moment.utcText = .ok text) (hother : other.utcText = .ok otherText) :
    text = otherText ↔ moment.wholeSecond = other.wholeSecond := by
  obtain ⟨wall, hwall, rfl⟩ := utcText_eq_ok_iff.mp htext
  obtain ⟨otherWall, hotherWall, rfl⟩ := utcText_eq_ok_iff.mp hother
  rw [WallTime.utcText_eq_iff, wholeSecond_eq hwall, wholeSecond_eq hotherWall, Int.natCast_inj]
  exact ⟨congrArg WallTime.micros, WallTime.ext⟩

theorem HasFourDigitYear.exists_utcText (hlong : moment.HasFourDigitYear) :
    ∃ text, moment.utcText = .ok text ∧ text.length = 20 := by
  obtain ⟨wall, hwall, hyear⟩ := hlong
  exact ⟨wall.utcText, utcText_eq_ok_iff.mpr ⟨wall, utcWall_eq_ok_iff.mp hwall, rfl⟩,
    WallTime.length_utcText hyear⟩

theorem HasFourDigitYear.codePoints_lt_iff (hlong : moment.HasFourDigitYear)
    (hotherLong : other.HasFourDigitYear) (htext : moment.utcText = .ok text)
    (hother : other.utcText = .ok otherText) :
    text.toList.map Char.toNat < otherText.toList.map Char.toNat ↔
      moment.wholeSecond < other.wholeSecond := by
  obtain ⟨wall, hwall, rfl⟩ := utcText_eq_ok_iff.mp htext
  obtain ⟨otherWall, hotherWall, rfl⟩ := utcText_eq_ok_iff.mp hother
  rw [WallTime.codePoints_utcText_lt_iff (hlong.le_year hwall) (hotherLong.le_year hotherWall),
    wholeSecond_eq hwall, wholeSecond_eq hotherWall, Int.ofNat_lt]

/-- Years are not written shorter as time goes on. -/
theorem HasFourDigitYear.mono (hlong : moment.HasFourDigitYear)
    (hle : moment.instant ≤ other.instant) (hother : other.utcText = .ok otherText) :
    other.HasFourDigitYear := by
  obtain ⟨wall, hwall, hyear⟩ := hlong
  obtain ⟨otherWall, hotherWall, -⟩ := utcText_eq_ok_iff.mp hother
  have hmicros : wall.micros ≤ otherWall.micros := by
    have hinstant := utcWall_eq_ok_iff.mp hwall
    omega
  exact ⟨otherWall, utcWall_eq_ok_iff.mpr hotherWall,
    Nat.le_trans hyear (WallTime.year_le_of_micros_le hmicros)⟩

/-- All there is to say about the text of a moment in UTC, by itself and beside another text. -/
structure DecodesToSecond (moment : Moment) : Prop where
  overflows : (∃ overflow, moment.utcText = .error overflow) ↔
    moment.instant < (ofUtc .first).instant ∨ (ofUtc .last).instant < moment.instant
  reads_back : (ofUtc .first).instant ≤ moment.instant → moment.instant ≤ (ofUtc .last).instant →
    ∃ text wall, moment.utcText = .ok text ∧ WallTime.ofUtcChars? text.toList = some wall ∧
      (ofUtc wall).instant = moment.wholeSecond
  same_text : ∀ (other : Moment) text otherText,
    moment.utcText = .ok text → other.utcText = .ok otherText →
      (text = otherText ↔ moment.wholeSecond = other.wholeSecond)
  length : moment.HasFourDigitYear → ∃ text, moment.utcText = .ok text ∧ text.length = 20
  ordered : moment.HasFourDigitYear → ∀ (other : Moment) text otherText, other.HasFourDigitYear →
    moment.utcText = .ok text → other.utcText = .ok otherText →
      (text.toList.map Char.toNat < otherText.toList.map Char.toNat ↔
        moment.wholeSecond < other.wholeSecond)

theorem decodesToSecond (moment : Moment) : moment.DecodesToSecond where
  overflows := exists_utcText_eq_error_iff
  reads_back hfirst hlast := by
    cases htext : moment.utcText with
    | ok text =>
        obtain ⟨wall, hreads, hinstant⟩ := ofUtcChars?_of_utcText htext
        exact ⟨text, wall, rfl, hreads, hinstant⟩
    | error overflow =>
        have houtside := exists_utcText_eq_error_iff.mp ⟨overflow, htext⟩
        omega
  same_text _ _ _ := text_eq_iff
  length := HasFourDigitYear.exists_utcText
  ordered hlong _ _ _ := hlong.codePoints_lt_iff

end Time.Moment

namespace Credentials

variable {credentials : Credentials} {document : MetadataDocument}

/-- What a container reads in the document is no later than what is true of the credentials. -/
structure ShownInOrder (credentials : Credentials) (document : MetadataDocument) : Prop where
  expiration : ∃ text wall, document.fields.lookup "Expiration" = some text ∧
    WallTime.ofUtcChars? text.toList = some wall ∧
      (Moment.ofUtc wall).instant ≤ credentials.expiration.instant
  lastUpdated : credentials.generatedAt.HasFourDigitYear →
    ∃ lastUpdated expiration, document.fields.lookup "LastUpdated" = some lastUpdated ∧
      document.fields.lookup "Expiration" = some expiration ∧
        ¬expiration.toList.map Char.toNat < lastUpdated.toList.map Char.toNat

theorem shownInOrder (hdocument : credentials.document = .ok document) :
    credentials.ShownInOrder document := by
  obtain ⟨lastUpdated, expiration, hlastUpdated, hexpiration, rfl⟩ :=
    document_eq_ok_iff.mp hdocument
  refine ⟨?_, ?_⟩
  · obtain ⟨wall, hreads, hinstant⟩ := Moment.ofUtcChars?_of_utcText hexpiration
    refine ⟨expiration, wall, rfl, hreads, ?_⟩
    rw [hinstant]
    exact Moment.wholeSecond_le _
  · intro hlong
    have hlater := hlong.mono credentials.ordered hexpiration
    refine ⟨lastUpdated, expiration, rfl, rfl, ?_⟩
    rw [hlater.codePoints_lt_iff hlong hexpiration hlastUpdated, Int.not_lt]
    exact Moment.wholeSecond_mono credentials.ordered

end Credentials

/-- **Texts in UTC.** A text is missing exactly for instants outside the years 1 to 9999 of UTC. It
reads back as the instant rounded down to the second, and those of moments from year 1000 on are in
the order of the rounded instants. So a metadata document shows times in order, and none too late. -/
theorem utc_text_decodes_to_second :
    WallTime.ofFields? ⟨1, 1, 1⟩ 0 0 0 0 = some .first ∧
      WallTime.ofFields? ⟨9999, 12, 31⟩ 23 59 59 999999 = some .last ∧
      (∀ moment : Moment, moment.DecodesToSecond) ∧
      ∀ (credentials : Credentials) document, credentials.document = .ok document →
        credentials.ShownInOrder document :=
  ⟨WallTime.ofFields?_first, WallTime.ofFields?_last, Moment.decodesToSecond,
    fun _ _ => Credentials.shownInOrder⟩

namespace Credentials

/-- Generated in the evening of a leap day, three hours west of UTC, and good for an hour, which
ends half an hour after midnight one hour east of UTC. -/
def leapDay : Credentials :=
  ⟨"ASIA1", "secret-1", "token-1",
    ⟨⟨63844849800500000, by decide⟩, ⟨3600, by decide, by decide⟩⟩,
    ⟨⟨63844831800250000, by decide⟩, ⟨-10800, by decide, by decide⟩⟩, by decide⟩

def leapDayDocument : MetadataDocument :=
  ⟨"2024-02-29T22:30:00Z", "ASIA1", "secret-1", "token-1", "2024-02-29T23:30:00Z"⟩

theorem utc_text_decodes_to_second_leapDay :
    leapDay.document = .ok leapDayDocument ∧ leapDay.ShownInOrder leapDayDocument ∧
      leapDay.generatedAt.HasFourDigitYear ∧ leapDay.expiration.HasFourDigitYear ∧
      leapDayDocument.lastUpdated.toList.map Char.toNat <
        leapDayDocument.expiration.toList.map Char.toNat ∧
      (Moment.ofUtc ⟨63844846200999999, by decide⟩).utcText = .ok leapDayDocument.expiration ∧
      leapDay.expiration.wholeSecond =
        (Moment.ofUtc ⟨63844846200999999, by decide⟩).wholeSecond := by
  obtain ⟨-, -, hdecodes, hshown⟩ := utc_text_decodes_to_second
  have hdocument : leapDay.document = .ok leapDayDocument := rfl
  have hgenerated : leapDay.generatedAt.HasFourDigitYear :=
    ⟨⟨63844842600250000, by decide⟩, rfl, by decide⟩
  have hexpires : leapDay.expiration.HasFourDigitYear :=
    ⟨⟨63844846200500000, by decide⟩, rfl, by decide⟩
  have hlastUpdated : leapDay.generatedAt.utcText = .ok leapDayDocument.lastUpdated := rfl
  have hexpiration : leapDay.expiration.utcText = .ok leapDayDocument.expiration := rfl
  have hlate : (Moment.ofUtc ⟨63844846200999999, by decide⟩).utcText =
      .ok leapDayDocument.expiration := rfl
  have hordered := (hdecodes leapDay.generatedAt).ordered hgenerated leapDay.expiration _ _ hexpires
    hlastUpdated hexpiration
  refine ⟨hdocument, hshown leapDay leapDayDocument hdocument, hgenerated, hexpires,
    hordered.mpr (by decide), hlate, ?_⟩
  exact ((hdecodes leapDay.expiration).same_text _ _ _ hexpiration hlate).mp rfl

end Credentials

end CredentialBroker
