import EduEbook.Pages.HtmlTags

/-!
# Shortened titles and descriptions

Titles and descriptions are cut at a number of code units and get three dots.  The
detail page strips the tags after it has cut the description, the description page
strips them only.  The cut may go through a tag, which then stays, and between the
two halves of a surrogate pair.
-/

namespace EduEbook.Preview

open EduEbook.Tags
open EduEbook.Utf16
open EduEbook.HtmlTags

def dots : List CodeUnit := [0x2E, 0x2E, 0x2E]

/-- `this.length > limit ? '${this.substring(0, limit)}...' : this`. -/
def shortened (limit : ℕ) (text : List CodeUnit) : List CodeUnit :=
  if text.length > limit then text.take limit ++ dots else text

namespace TextExtension

def titleCustom : List CodeUnit → List CodeUnit := shortened 15

def titleHead : List CodeUnit → List CodeUnit := shortened 35

def bookDescription : List CodeUnit → List CodeUnit := shortened 300

end TextExtension

open TextExtension

/-- What the detail page shows of a description. -/
def preview (description : List CodeUnit) : List CodeUnit :=
  EbookDetail.removeAllHtmlTags [] (bookDescription description)

/-- What the description page shows of it. -/
def fullText (description : List CodeUnit) : List CodeUnit :=
  EbookDetailDescription.removeAllHtmlTags description

/-- The dots behind a description that was cut. -/
def addedDots (description : List CodeUnit) : List CodeUnit :=
  if description.length > 300 then dots else []

/-- Up to the dots that were added, the preview is the beginning of the full text. -/
def PreviewBeginsFullText (description : List CodeUnit) : Prop :=
  ∃ shown, preview description = shown ++ addedDots description ∧
    shown <+: fullText description

/-- The piece of a tag that the cut leaves at its end. -/
def cutPiece (description : List CodeUnit) : List CodeUnit :=
  openPiece lessThan greaterThan (description.take 300)

/-- The cut leaves no piece of a tag; or the piece is never closed, so that it is
text; or the text behind the closed tag has the same piece in front, after whole
tags, and there it is text. -/
def CutsNoTag (description : List CodeUnit) : Prop :=
  cutPiece description = [] ∨ greaterThan ∉ description.drop 300 ∨
    ∃ tags after, OnlyTags lessThan greaterThan tags ∧ greaterThan ∉ after ∧
      behind greaterThan (description.drop 300) =
        tags ++ (cutPiece description ++ after)

theorem lessThan_ne_greaterThan : lessThan ≠ greaterThan := by decide

/-- The dots are stripped like any text without a closing symbol: they stay. -/
theorem preview_eq (description : List CodeUnit) :
    preview description =
      strip lessThan greaterThan (description.take 300) ++ addedDots description := by
  rw [preview, EbookDetail.removeAllHtmlTags, List.nil_append, bookDescription, shortened,
    addedDots]
  split_ifs with hlength
  · calc TextPattern.replaceAll exp [] (description.take 300 ++ dots)
      _ = strip lessThan greaterThan (description.take 300 ++ dots) := replaceAll_tag _
      _ = strip lessThan greaterThan (description.take 300) ++ dots :=
          strip_append_of_notMem lessThan_ne_greaterThan _ (by decide)
  · rw [List.append_nil, List.take_of_length_le (Nat.le_of_not_lt hlength)]
    exact replaceAll_tag description

theorem previewBeginsFullText_iff (description : List CodeUnit) :
    PreviewBeginsFullText description ↔ CutsNoTag description := by
  have hshown : PreviewBeginsFullText description ↔
      strip lessThan greaterThan (description.take 300) <+: fullText description := by
    rw [PreviewBeginsFullText, preview_eq]
    constructor
    · rintro ⟨shown, hpreview, hprefix⟩
      rwa [List.append_cancel_right hpreview]
    · exact fun hprefix => ⟨_, rfl, hprefix⟩
  have hfull : fullText description =
      strip lessThan greaterThan (description.take 300 ++ description.drop 300) := by
    rw [List.take_append_drop]
    exact removeAllHtmlTags_eq_strip description
  rw [hshown, hfull, strip_prefix_strip_append_iff lessThan_ne_greaterThan]
  rfl

/-- Just before the cut a tag `<b>` begins. -/
def tagAtCut : List CodeUnit := List.replicate 299 97 ++ [0x3C, 98, 0x3E]

theorem not_previewBeginsFullText_tagAtCut : ¬PreviewBeginsFullText tagAtCut := by
  rintro ⟨shown, hpreview, hprefix⟩
  have hpreviewLength : (preview tagAtCut).length = 303 := by decide +kernel
  have hdotsLength : (addedDots tagAtCut).length = 3 := by decide +kernel
  have hfullLength : (fullText tagAtCut).length = 299 := by decide +kernel
  rw [hpreview, List.length_append, hdotsLength] at hpreviewLength
  have hshown := hprefix.length_le
  omega

/-- A shortened text can be shown, is the text itself within the limit, and otherwise
a beginning of it with three dots. -/
structure Displayable (limit : ℕ) (text shown : List CodeUnit) : Prop where
  wellFormed : WellFormed shown
  within : text.length ≤ limit → shown = text
  beyond : limit < text.length → ∃ start, start <+: text ∧ shown = start ++ dots
  length_le : shown.length ≤ limit + 3

/-- The cut is between the two halves of a surrogate pair. -/
def SplitsPair (limit : ℕ) (text : List CodeUnit) : Prop :=
  limit < text.length ∧ HighAt text (limit - 1)

def StaysDisplayable (text : List CodeUnit) : Prop :=
  Displayable 15 text (titleCustom text) ∧ Displayable 35 text (titleHead text) ∧
    Displayable 300 text (bookDescription text) ∧
    WellFormed (EbookDetail.removeAllHtmlTags [] (bookDescription text))

theorem wellFormed_append_dots_iff (start : List CodeUnit) :
    WellFormed (start ++ dots) ↔ WellFormed start := by
  have hdots : WellFormed [0x2E, 0x2E] := by decide
  rw [WellFormed, dots, paired_append_cons (by decide), and_iff_left hdots, WellFormed]

theorem wellFormed_shortened_iff {limit : ℕ} {text : List CodeUnit}
    (hlimit : 0 < limit) (htext : WellFormed text) :
    WellFormed (shortened limit text) ↔ ¬SplitsPair limit text := by
  rw [shortened, SplitsPair]
  split_ifs with hlength
  · rw [wellFormed_append_dots_iff, wellFormed_take_iff htext hlength.le,
      or_iff_right hlimit.ne', not_and, imp_iff_right hlength]
  · exact iff_of_true htext fun h => hlength h.1

theorem displayable_shortened_iff {limit : ℕ} {text : List CodeUnit}
    (hlimit : 0 < limit) (htext : WellFormed text) :
    Displayable limit text (shortened limit text) ↔ ¬SplitsPair limit text := by
  rw [← wellFormed_shortened_iff hlimit htext]
  constructor
  · exact Displayable.wellFormed
  · intro hshown
    refine ⟨hshown, fun hlength => ?_, fun hlength => ?_, ?_⟩
    · rw [shortened, if_neg (Nat.not_lt.2 hlength)]
    · rw [shortened, if_pos hlength]
      exact ⟨text.take limit, List.take_prefix limit text, rfl⟩
    · rw [shortened]
      split_ifs with hlength
      · rw [List.length_append, List.length_take, Nat.min_eq_left (Nat.le_of_lt hlength)]
        rfl
      · omega

/-- Tags begin and end with units that are no surrogates, so that stripping them
takes no half of a pair away. -/
theorem paired_strip {opening closing : CodeUnit} (hopening : Ordinary opening)
    (hclosing : Ordinary closing) {pending : Prop} {text : List CodeUnit}
    (htext : Paired pending text) : Paired pending (strip opening closing text) := by
  fun_induction strip opening closing text generalizing pending with
  | case1 => exact htext
  | case2 symbol text htag ih =>
      obtain ⟨inner, -, hsplit⟩ := exists_behind htag.2
      rw [htag.1, hsplit, ← List.nil_append (opening :: _), paired_append_cons hopening,
        WellFormed, paired_append_cons hclosing, paired_nil] at htext
      rw [eq_false htext.1]
      exact ih htext.2.2
  | case3 symbol text _ ih =>
      rw [paired_cons] at htext ⊢
      exact ⟨htext.1, ih htext.2⟩

theorem wellFormed_removeAllHtmlTags {text : List CodeUnit} (htext : WellFormed text) :
    WellFormed (EbookDetail.removeAllHtmlTags [] text) := by
  have hstrip : EbookDetail.removeAllHtmlTags [] text = strip lessThan greaterThan text :=
    replaceAll_tag text
  rw [hstrip]
  exact paired_strip (by decide) (by decide) htext

theorem staysDisplayable_iff {text : List CodeUnit} (htext : WellFormed text) :
    StaysDisplayable text ↔
      ¬SplitsPair 15 text ∧ ¬SplitsPair 35 text ∧ ¬SplitsPair 300 text := by
  rw [StaysDisplayable, titleCustom, titleHead, bookDescription,
    displayable_shortened_iff (by decide) htext, displayable_shortened_iff (by decide) htext,
    displayable_shortened_iff (by decide) htext]
  apply and_congr_right'
  apply and_congr_right'
  apply and_iff_left_of_imp
  intro hcut
  apply wellFormed_removeAllHtmlTags
  exact (wellFormed_shortened_iff (by decide) htext).2 hcut

/-- Thirteen letters, a surrogate pair and a letter: the pair ends at the cut. -/
def pairBeforeCut : List CodeUnit := List.replicate 13 97 ++ [0xD83D, 0xDE00, 98]

theorem staysDisplayable_pairBeforeCut : StaysDisplayable pairBeforeCut :=
  (staysDisplayable_iff (by decide)).2
    ⟨fun h => absurd h.2 (by decide), fun h => absurd h.1 (by decide),
      fun h => absurd h.1 (by decide)⟩

/-- One letter more in front, so that the cut goes through the pair. -/
def pairAtCut : List CodeUnit := 97 :: pairBeforeCut

theorem not_staysDisplayable_pairAtCut :
    WellFormed pairAtCut ∧ ¬StaysDisplayable pairAtCut := by
  refine ⟨by decide, fun hshown => ?_⟩
  have htitle : ¬WellFormed (titleCustom pairAtCut) := by decide
  exact htitle hshown.1.wellFormed

end EduEbook.Preview
