import Mathlib.Data.UInt
import Mathlib.Data.List.Basic

/-!
# Well-formed UTF-16

A text is a list of code units.  It is well formed if the low surrogates are
exactly the units that stand right behind a high one.  A text read from the middle
is described with the condition under which the unit before it was a high surrogate.
-/

namespace EduEbook.Utf16

abbrev CodeUnit := UInt16

def High (unit : CodeUnit) : Prop := 0xD800 ≤ unit ∧ unit ≤ 0xDBFF

def Low (unit : CodeUnit) : Prop := 0xDC00 ≤ unit ∧ unit ≤ 0xDFFF

instance (unit : CodeUnit) : Decidable (High unit) := inferInstanceAs (Decidable (_ ∧ _))

instance (unit : CodeUnit) : Decidable (Low unit) := inferInstanceAs (Decidable (_ ∧ _))

def HighAt (text : List CodeUnit) (index : ℕ) : Prop := ∃ unit ∈ text[index]?, High unit

def LowAt (text : List CodeUnit) (index : ℕ) : Prop := ∃ unit ∈ text[index]?, Low unit

/-- The text is well formed behind a unit that is a high surrogate if `pending`
holds. -/
structure Paired (pending : Prop) (text : List CodeUnit) : Prop where
  first : LowAt text 0 ↔ pending
  next : ∀ index, LowAt text (index + 1) ↔ HighAt text index

def WellFormed (text : List CodeUnit) : Prop := Paired False text

/-- A unit that is no surrogate. -/
def Ordinary (unit : CodeUnit) : Prop := ¬High unit ∧ ¬Low unit

instance (unit : CodeUnit) : Decidable (Ordinary unit) :=
  inferInstanceAs (Decidable (_ ∧ _))

instance (text : List CodeUnit) (index : ℕ) : Decidable (HighAt text index) :=
  inferInstanceAs (Decidable (∃ unit ∈ text[index]?, High unit))

variable {pending : Prop} {unit : CodeUnit} {text first second : List CodeUnit}

@[simp]
theorem paired_nil : Paired pending [] ↔ ¬pending := by
  constructor
  · intro hpaired hpending
    obtain ⟨unit, hunit, -⟩ := hpaired.first.2 hpending
    cases hunit
  · intro hpending
    refine ⟨iff_of_false ?_ hpending, fun index => iff_of_false ?_ ?_⟩
    all_goals
      rintro ⟨unit, hunit, -⟩
      cases hunit

@[simp]
theorem paired_cons :
    Paired pending (unit :: text) ↔ (Low unit ↔ pending) ∧ Paired (High unit) text := by
  have hlow : LowAt (unit :: text) 0 ↔ Low unit := by simp [LowAt]
  have hhigh : HighAt (unit :: text) 0 ↔ High unit := by simp [HighAt]
  constructor
  · intro hpaired
    refine ⟨hlow.symm.trans hpaired.first, (hpaired.next 0).trans hhigh, fun index => ?_⟩
    exact hpaired.next (index + 1)
  · rintro ⟨hunit, hfirst, hnext⟩
    refine ⟨hlow.trans hunit, fun index => ?_⟩
    cases index with
    | zero => exact hfirst.trans hhigh.symm
    | succ index => exact hnext index

instance decidablePaired : (pending : Prop) → [Decidable pending] →
    (text : List CodeUnit) → Decidable (Paired pending text)
  | _, _, [] => decidable_of_iff _ paired_nil.symm
  | _, _, unit :: text =>
      have := decidablePaired (High unit) text
      decidable_of_iff _ paired_cons.symm

instance (text : List CodeUnit) : Decidable (WellFormed text) := decidablePaired False text

/-- A unit that is no surrogate parts a text in two. -/
theorem paired_append_cons (hunit : Ordinary unit) :
    Paired pending (first ++ unit :: second) ↔
      Paired pending first ∧ WellFormed second := by
  induction first generalizing pending with
  | nil =>
      rw [List.nil_append, paired_cons, paired_nil, WellFormed]
      simp [hunit.1, hunit.2]
  | cons head first ih =>
      rw [List.cons_append, paired_cons, paired_cons, ih, and_assoc]

/-- A beginning of a well-formed text is well formed unless it ends with a high
surrogate. -/
theorem paired_left_iff (htext : Paired pending (first ++ second)) (hfirst : first ≠ []) :
    Paired pending first ↔ ¬HighAt first (first.length - 1) := by
  induction first generalizing pending with
  | nil => exact absurd rfl hfirst
  | cons head first ih =>
      rw [List.cons_append, paired_cons] at htext
      rw [paired_cons, and_iff_right htext.1]
      cases first with
      | nil => simp [HighAt]
      | cons next rest => exact ih htext.2 (List.cons_ne_nil next rest)

/-- A well-formed text is cut between two halves of a pair exactly if the unit before
the cut is a high surrogate. -/
theorem wellFormed_take_iff {length : ℕ} (htext : WellFormed text)
    (hlength : length ≤ text.length) :
    WellFormed (text.take length) ↔ length = 0 ∨ ¬HighAt text (length - 1) := by
  cases length with
  | zero => simp [WellFormed]
  | succ last =>
      have hjoined : Paired False (text.take (last + 1) ++ text.drop (last + 1)) := by
        rw [List.take_append_drop]
        exact htext
      have hnonempty : text.take (last + 1) ≠ [] := by
        apply List.ne_nil_of_length_pos
        rw [List.length_take]
        omega
      have hlast : HighAt (text.take (last + 1)) last ↔ HighAt text last := by
        simp [HighAt]
      rw [WellFormed, paired_left_iff hjoined hnonempty, List.length_take,
        Nat.min_eq_left hlength, Nat.add_sub_cancel, hlast]
      simp

end EduEbook.Utf16
