import EduEbook.Library.FirstSymbol
import EduEbook.Library.TextPattern
import Mathlib.Data.List.Infix

/-!
# Stripping tags from a text

A tag begins with an opening symbol and ends with the first closing symbol behind
it.  Stripping passes over the tags from left to right and copies the rest, an
opening symbol without a closing one included.  This module compares it with the
replacement of a pattern and says what it does to two texts that are joined: the
first one may end inside a tag.
-/

namespace EduEbook.Tags

open EduEbook.FirstSymbol
open EduEbook.TextPattern

variable {Symbol : Type*} {opening closing : Symbol}

/-- Nothing but whole tags. -/
inductive OnlyTags (opening closing : Symbol) : List Symbol → Prop
  | nil : OnlyTags opening closing []
  | cons {inner rest : List Symbol} (hinner : closing ∉ inner)
      (hrest : OnlyTags opening closing rest) :
      OnlyTags opening closing (opening :: inner ++ closing :: rest)

/-- An opening symbol that a closing one follows somewhere. -/
def HasTag (opening closing : Symbol) (text : List Symbol) : Prop :=
  [opening, closing].Sublist text

theorem hasTag_cons_iff {symbol : Symbol} {text : List Symbol} :
    HasTag opening closing (symbol :: text) ↔
      symbol = opening ∧ closing ∈ text ∨ HasTag opening closing text := by
  constructor
  · intro htag
    cases htag with
    | cons _ hrest => exact .inr hrest
    | cons_cons _ hrest => exact .inl ⟨rfl, List.singleton_sublist.1 hrest⟩
  · rintro (⟨rfl, hrest⟩ | hrest)
    · exact (List.singleton_sublist.2 hrest).cons_cons symbol
    · exact hrest.cons symbol

theorem not_hasTag_of_notMem {text : List Symbol} (htext : closing ∉ text) :
    ¬HasTag opening closing text := by
  intro htag
  exact htext (htag.subset (by simp))

variable [DecidableEq Symbol]

/-- The text behind the first closing symbol. -/
def behind (closing : Symbol) (text : List Symbol) : List Symbol :=
  (text.dropWhile fun symbol => symbol ≠ closing).tail

theorem length_behind_le (closing : Symbol) (text : List Symbol) :
    (behind closing text).length ≤ text.length :=
  calc (behind closing text).length
    _ = (text.dropWhile fun symbol => symbol ≠ closing).length - 1 := List.length_tail
    _ ≤ (text.dropWhile fun symbol => symbol ≠ closing).length := Nat.sub_le _ 1
    _ ≤ text.length := (List.dropWhile_sublist _).length_le

def strip (opening closing : Symbol) : List Symbol → List Symbol
  | [] => []
  | symbol :: text =>
      if symbol = opening ∧ closing ∈ text then
        strip opening closing (behind closing text)
      else symbol :: strip opening closing text
  termination_by text => text.length
  decreasing_by
    · exact Nat.lt_succ_of_le (length_behind_le closing text)
    · exact Nat.lt_succ_self _

/-- An opening symbol, anything but a closing one, and a closing one. -/
def tag (opening closing : Symbol) : List (Item Symbol) :=
  [.one fun symbol => symbol = opening, .many fun symbol => symbol ≠ closing,
    .one fun symbol => symbol = closing]

/-- The text from the first opening symbol that no closing one follows. -/
def openPiece (opening closing : Symbol) : List Symbol → List Symbol
  | [] => []
  | symbol :: text =>
      if symbol = opening ∧ closing ∉ text then symbol :: text
      else openPiece opening closing text

theorem behind_append {inner : List Symbol} (hinner : closing ∉ inner)
    (rest : List Symbol) : behind closing (inner ++ closing :: rest) = rest := by
  rw [behind, dropWhile_ne hinner, List.tail_cons]

theorem exists_behind {text : List Symbol} (htext : closing ∈ text) :
    ∃ inner, closing ∉ inner ∧ text = inner ++ closing :: behind closing text := by
  obtain ⟨inner, rest, htext, hinner⟩ := List.eq_append_cons_of_mem htext
  refine ⟨inner, hinner, ?_⟩
  rw [htext, behind_append hinner]

theorem strip_nil : strip opening closing [] = [] := by
  rw [strip]

theorem strip_cons_of_tag {text : List Symbol} (htext : closing ∈ text) :
    strip opening closing (opening :: text) =
      strip opening closing (behind closing text) := by
  rw [strip, if_pos ⟨rfl, htext⟩]

theorem strip_cons {symbol : Symbol} {text : List Symbol}
    (htext : ¬(symbol = opening ∧ closing ∈ text)) :
    strip opening closing (symbol :: text) = symbol :: strip opening closing text := by
  rw [strip, if_neg htext]

theorem strip_tag {inner : List Symbol} (hinner : closing ∉ inner)
    (rest : List Symbol) :
    strip opening closing (opening :: inner ++ closing :: rest) =
      strip opening closing rest := by
  rw [List.cons_append, strip_cons_of_tag (by simp), behind_append hinner]

theorem strip_sublist (opening closing : Symbol) (text : List Symbol) :
    (strip opening closing text).Sublist text := by
  fun_induction strip opening closing text with
  | case1 => exact List.Sublist.refl []
  | case2 symbol text htag ih =>
      calc (strip opening closing (behind closing text)).Sublist (behind closing text) := ih
        _ |>.Sublist (text.dropWhile fun symbol => symbol ≠ closing) :=
          List.tail_sublist _
        _ |>.Sublist text := List.dropWhile_sublist _
        _ |>.Sublist (symbol :: text) := List.sublist_cons_self symbol text
  | case3 symbol text htext ih =>
      exact ih.cons_cons symbol

/-- Stripping leaves no tag, not even one that joins what was apart. -/
theorem not_hasTag_strip (text : List Symbol) :
    ¬HasTag opening closing (strip opening closing text) := by
  fun_induction strip opening closing text with
  | case1 =>
      intro htag
      cases htag
  | case2 symbol text htag ih => exact ih
  | case3 symbol text htext ih =>
      rw [hasTag_cons_iff, not_or]
      refine ⟨?_, ih⟩
      rintro ⟨hsymbol, hmem⟩
      exact htext ⟨hsymbol, (strip_sublist opening closing text).subset hmem⟩

theorem strip_of_not_hasTag {text : List Symbol} (htext : ¬HasTag opening closing text) :
    strip opening closing text = text := by
  induction text with
  | nil => exact strip_nil
  | cons symbol text ih =>
      rw [hasTag_cons_iff, not_or] at htext
      rw [strip_cons htext.1, ih htext.2]

theorem dropWhile_closing (text : List Symbol) :
    (text.dropWhile fun symbol => symbol ≠ closing) =
      if closing ∈ text then closing :: behind closing text else [] := by
  split_ifs with htext
  · obtain ⟨inner, hinner, hsplit⟩ := exists_behind htext
    rw [hsplit, dropWhile_ne hinner, behind_append hinner]
  · exact dropWhile_ne_of_notMem htext

/-- The match of a tag ends behind the first closing symbol. -/
theorem matchLength_tag (symbol : Symbol) (text : List Symbol) :
    matchLength (tag opening closing) (symbol :: text) =
      if symbol = opening ∧ closing ∈ text then
        some ((text.takeWhile fun other => other ≠ closing).length + 2)
      else none := by
  have hlast : ∀ other rest, decide (other ≠ closing) = true →
      matchLength [.one fun other => other = closing] (other :: rest) = none := by
    intro other rest hother
    rw [matchLength, single, if_neg]
    simpa using hother
  rw [tag, matchLength, single, matchLength, greedy_of_disjoint hlast, dropWhile_closing]
  by_cases hsymbol : symbol = opening
  · by_cases htext : closing ∈ text
    · rw [if_pos (decide_eq_true hsymbol), if_pos htext, if_pos ⟨hsymbol, htext⟩,
        matchLength, single, if_pos (decide_eq_true rfl), matchLength]
      simp only [Option.map_some]
      congr 1
      omega
    · rw [if_pos (decide_eq_true hsymbol), if_neg htext, if_neg fun h => htext h.2]
      rfl
  · rw [if_neg (by simpa using hsymbol), if_neg fun h => hsymbol h.1]

/-- Replacing the pattern of a tag by nothing strips the tags. -/
theorem replaceAll_tag (text : List Symbol) :
    replaceAll (tag opening closing) [] text = strip opening closing text := by
  fun_induction strip opening closing text with
  | case1 => rfl
  | case2 symbol text htag ih =>
      obtain ⟨inner, hinner, htext⟩ := exists_behind htag.2
      have htake : (text.takeWhile fun other => other ≠ closing) = inner := by
        rw [htext, takeWhile_ne hinner]
      have hdrop : text.drop (inner.length + 1) = behind closing text := by
        rw [htext, behind_append hinner, List.drop_length_add_append]
        rfl
      have hlength : inner.length + 1 ≤ text.length := by
        rw [htext, List.length_append, List.length_cons]
        omega
      rw [replaceAll, replaceFrom, matchLength_tag, if_pos htag, htake]
      simp only [List.nil_append]
      rw [replaceFrom_eq_drop _ _ hlength, hdrop, ih]
  | case3 symbol text htext ih =>
      rw [replaceAll, replaceFrom, matchLength_tag, if_neg htext]
      exact congrArg (symbol :: ·) ih

section Joined

theorem openPiece_eq_nil_or (opening closing : Symbol) (text : List Symbol) :
    openPiece opening closing text = [] ∨
      ∃ inner, openPiece opening closing text = opening :: inner ∧ closing ∉ inner := by
  induction text with
  | nil => exact .inl rfl
  | cons symbol text ih =>
      rw [openPiece]
      split_ifs with hsymbol
      · exact .inr ⟨text, by rw [hsymbol.1], hsymbol.2⟩
      · exact ih

theorem strip_openPiece_append {text rest : List Symbol} (hrest : closing ∉ rest) :
    strip opening closing (openPiece opening closing text ++ rest) =
      openPiece opening closing text ++ rest := by
  apply strip_of_not_hasTag
  rcases openPiece_eq_nil_or opening closing text with
    hpiece | ⟨inner, hpiece, hinner⟩
  · rw [hpiece]
    exact not_hasTag_of_notMem hrest
  · have hmem : closing ∉ inner ++ rest := by
      rw [List.mem_append]
      exact not_or.2 ⟨hinner, hrest⟩
    rw [hpiece, List.cons_append, hasTag_cons_iff]
    exact not_or.2 ⟨fun h => hmem h.2, not_hasTag_of_notMem hmem⟩

theorem openPiece_append_closing (hne : opening ≠ closing) (inner rest : List Symbol) :
    openPiece opening closing (inner ++ closing :: rest) =
      openPiece opening closing rest := by
  induction inner with
  | nil => rw [List.nil_append, openPiece, if_neg fun h => hne h.1.symm]
  | cons symbol inner ih =>
      rw [List.cons_append, openPiece, if_neg fun h => h.2 (by simp), ih]

/-- A text is stripped up to the piece of a tag at its end, whatever is joined to
it. -/
theorem exists_head_strip_append (hne : opening ≠ closing) (text : List Symbol) :
    ∃ head, ∀ rest, strip opening closing (text ++ rest) =
      head ++ strip opening closing (openPiece opening closing text ++ rest) := by
  fun_induction strip opening closing text with
  | case1 => exact ⟨[], fun rest => rfl⟩
  | case2 symbol text htag ih =>
      obtain ⟨head, hhead⟩ := ih
      obtain ⟨inner, hinner, htext⟩ := exists_behind htag.2
      refine ⟨head, fun rest => ?_⟩
      have hpiece : openPiece opening closing (symbol :: text) =
          openPiece opening closing (behind closing text) := by
        rw [openPiece, if_neg fun h => h.2 htag.2, htext,
          openPiece_append_closing hne, ← htext]
      calc strip opening closing (symbol :: text ++ rest)
        _ = strip opening closing
              (opening :: inner ++ closing :: (behind closing text ++ rest)) := by
            rw [htag.1, htext, behind_append hinner]
            simp
        _ = strip opening closing (behind closing text ++ rest) := strip_tag hinner _
        _ = head ++ strip opening closing
              (openPiece opening closing (behind closing text) ++ rest) := hhead rest
        _ = head ++ strip opening closing
              (openPiece opening closing (symbol :: text) ++ rest) := by rw [hpiece]
  | case3 symbol text htext ih =>
      obtain ⟨head, hhead⟩ := ih
      by_cases hsymbol : symbol = opening
      · refine ⟨[], fun rest => ?_⟩
        rw [openPiece, if_pos ⟨hsymbol, fun hmem => htext ⟨hsymbol, hmem⟩⟩]
        rfl
      · refine ⟨symbol :: head, fun rest => ?_⟩
        rw [openPiece, if_neg fun h => hsymbol h.1, List.cons_append,
          strip_cons fun h => hsymbol h.1, hhead rest]
        rfl

theorem strip_eq_head_append (hne : opening ≠ closing) (text : List Symbol) :
    ∃ head, strip opening closing text = head ++ openPiece opening closing text ∧
      ∀ rest, strip opening closing (text ++ rest) =
        head ++ strip opening closing (openPiece opening closing text ++ rest) := by
  obtain ⟨head, hhead⟩ := exists_head_strip_append hne text
  refine ⟨head, ?_, hhead⟩
  calc strip opening closing text
    _ = strip opening closing (text ++ []) := by rw [List.append_nil]
    _ = head ++ strip opening closing (openPiece opening closing text ++ []) := hhead []
    _ = head ++ (openPiece opening closing text ++ []) := by
        rw [strip_openPiece_append List.not_mem_nil]
    _ = head ++ openPiece opening closing text := by rw [List.append_nil]

/-- Without a closing symbol behind it a text is stripped alone. -/
theorem strip_append_of_notMem (hne : opening ≠ closing) (text : List Symbol)
    {rest : List Symbol} (hrest : closing ∉ rest) :
    strip opening closing (text ++ rest) = strip opening closing text ++ rest := by
  obtain ⟨head, htext, hhead⟩ := strip_eq_head_append hne text
  rw [hhead rest, strip_openPiece_append hrest, htext, List.append_assoc]

/-- What is left after stripping begins with a piece of a tag only if the text
shows the piece behind whole tags and no tag is closed after it. -/
theorem prefix_strip_iff {inner : List Symbol} (hinner : closing ∉ inner)
    (text : List Symbol) :
    opening :: inner <+: strip opening closing text ↔
      ∃ tags after, OnlyTags opening closing tags ∧ closing ∉ after ∧
        text = tags ++ (opening :: inner ++ after) := by
  fun_induction strip opening closing text with
  | case1 =>
      constructor
      · intro hprefix
        cases List.prefix_nil.1 hprefix
      · rintro ⟨tags, after, -, -, htext⟩
        simp at htext
  | case2 symbol text htag ih =>
      obtain ⟨other, hother, htext⟩ := exists_behind htag.2
      rw [ih, htag.1]
      constructor
      · rintro ⟨tags, after, htags, hafter, hbehind⟩
        refine ⟨opening :: other ++ closing :: tags, after, .cons hother htags, hafter, ?_⟩
        rw [htext, hbehind]
        simp
      · rintro ⟨tags, after, htags, hafter, hcons⟩
        cases htags with
        | nil =>
            have htail : text = inner ++ after := (List.cons.inj hcons).2
            have hmem : closing ∉ inner ++ after := by simp [hinner, hafter]
            exact absurd (htail ▸ htag.2) hmem
        | @cons first rest hfirst hrest =>
            refine ⟨rest, after, hrest, hafter, ?_⟩
            rw [(List.cons.inj hcons).2]
            simp only [List.append_eq, List.append_assoc, List.cons_append]
            rw [behind_append hfirst]
  | case3 symbol text htext ih =>
      rw [List.cons_prefix_cons]
      constructor
      · rintro ⟨rfl, hprefix⟩
        have hmem : closing ∉ text := fun hmem => htext ⟨rfl, hmem⟩
        rw [strip_of_not_hasTag (not_hasTag_of_notMem hmem)] at hprefix
        obtain ⟨after, rfl⟩ := hprefix
        exact ⟨[], after, .nil, fun h => hmem (by simp [h]), rfl⟩
      · rintro ⟨tags, after, htags, hafter, hcons⟩
        cases htags with
        | nil =>
            obtain ⟨rfl, rfl⟩ := List.cons.inj hcons
            have hmem : closing ∉ inner ++ after := fun hmem => htext ⟨rfl, hmem⟩
            rw [List.append_eq, strip_of_not_hasTag (not_hasTag_of_notMem hmem)]
            exact ⟨rfl, List.prefix_append inner after⟩
        | @cons first rest hfirst hrest =>
            obtain ⟨rfl, rfl⟩ := List.cons.inj hcons
            exact absurd ⟨rfl, by simp⟩ htext

/-- The stripped text is a beginning of the stripped longer text, except where a tag
lies across the joint and the text behind that tag does not show its first piece
again. -/
theorem strip_prefix_strip_append_iff (hne : opening ≠ closing)
    (text rest : List Symbol) :
    strip opening closing text <+: strip opening closing (text ++ rest) ↔
      openPiece opening closing text = [] ∨ closing ∉ rest ∨
        ∃ tags after, OnlyTags opening closing tags ∧ closing ∉ after ∧
          behind closing rest = tags ++ (openPiece opening closing text ++ after) := by
  obtain ⟨head, htext, hhead⟩ := strip_eq_head_append hne text
  rw [htext, hhead rest, List.prefix_append_right_inj]
  rcases openPiece_eq_nil_or opening closing text with
    hpiece | ⟨inner, hpiece, hinner⟩
  · rw [hpiece]
    exact iff_of_true List.nil_prefix (.inl rfl)
  · by_cases hrest : closing ∈ rest
    · have hbehind : behind closing (inner ++ rest) = behind closing rest := by
        obtain ⟨other, hother, hsplit⟩ := exists_behind hrest
        rw [hsplit, ← List.append_assoc, behind_append hother,
          behind_append (by simp [hinner, hother])]
      rw [hpiece, List.cons_append, strip_cons_of_tag (by simp [hrest]), hbehind,
        prefix_strip_iff hinner]
      simp [hrest]
    · rw [strip_openPiece_append hrest]
      exact iff_of_true (List.prefix_append _ _) (.inr (.inl hrest))

end Joined

end EduEbook.Tags
