import Mathlib.Algebra.Order.BigOperators.Group.List
import Mathlib.Algebra.Order.Ring.Nat
import Mathlib.Data.List.Nodup

/-!
# Removal by an index taken from an older list

A list that only loses elements is a sublist of each of its earlier versions.
An index remembered from an earlier version then points at the same element or
at one further back, never at an earlier one.  If the elements removed are, all
together, the ones that were meant, no removal can have missed its own.
-/

namespace EduEbook.StaleIndex

variable {Row : Type*} (position : Row → ℕ)

/-- The rows stand in the order of their positions. -/
def Ordered (rows : List Row) : Prop :=
  rows.Pairwise fun first second => position first < position second

variable {position}

theorem Ordered.sublist {part whole : List Row} (hwhole : Ordered position whole)
    (hpart : part.Sublist whole) : Ordered position part :=
  List.Pairwise.sublist hpart hwhole

theorem Ordered.nodup {rows : List Row} (hrows : Ordered position rows) :
    rows.Nodup :=
  List.Pairwise.imp (fun hlt heq => hlt.ne (congrArg position heq)) hrows

/-- A position belongs to one row only. -/
theorem Ordered.eq_of_position_eq {rows : List Row} (hrows : Ordered position rows)
    {first second : Row} (hfirst : first ∈ rows) (hsecond : second ∈ rows)
    (heq : position first = position second) : first = second := by
  have hnodup : (rows.map position).Nodup :=
    List.pairwise_map.2 (List.Pairwise.imp (fun hlt => hlt.ne) hrows)
  exact List.inj_on_of_nodup_map hnodup hfirst hsecond heq

/-- At the same index, a sublist has the same row as the list or a later one. -/
theorem position_le_of_sublist {part whole : List Row} {index : ℕ}
    {captured current : Row} (hordered : Ordered position whole)
    (hsublist : part.Sublist whole) (hcaptured : whole[index]? = some captured)
    (hcurrent : part[index]? = some current) :
    position captured ≤ position current := by
  induction hsublist generalizing index captured current with
  | slnil => cases hcurrent
  | @cons part whole row hsublist ih =>
      obtain ⟨hrow, hrest⟩ := List.pairwise_cons.1 hordered
      cases index with
      | zero =>
          obtain rfl := Option.some.inj hcaptured
          have hmem := hsublist.subset (List.mem_of_getElem? hcurrent)
          exact (hrow current hmem).le
      | succ index =>
          obtain ⟨hlength, hlast⟩ := List.getElem?_eq_some_iff.1 hcurrent
          have hprevious : part[index]? = some part[index] :=
            List.getElem?_eq_getElem (Nat.lt_of_succ_lt hlength)
          have hle := ih hrest hcaptured hprevious
          have hlt := List.pairwise_iff_getElem.1 (hrest.sublist hsublist) index
            (index + 1) (Nat.lt_of_succ_lt hlength) hlength (Nat.lt_succ_self index)
          rw [hlast] at hlt
          exact hle.trans hlt.le
  | cons_cons row hsublist ih =>
      cases index with
      | zero =>
          obtain rfl := Option.some.inj hcaptured
          obtain rfl := Option.some.inj hcurrent
          exact le_rfl
      | succ index =>
          exact ih (List.pairwise_cons.1 hordered).2 hcaptured hcurrent

/-- Pairs of a meant and a removed row, the removed one never in front: if the
removed rows are the meant ones in some order, each pair is one row's. -/
theorem position_eq_of_perm {pairs : List (Row × Row)}
    (hle : ∀ pair ∈ pairs, position pair.1 ≤ position pair.2)
    (hperm : (pairs.map Prod.fst).Perm (pairs.map Prod.snd)) :
    ∀ pair ∈ pairs, position pair.1 = position pair.2 := by
  by_contra hdifferent
  push Not at hdifferent
  obtain ⟨pair, hpair, hne⟩ := hdifferent
  have hlt : (pairs.map fun pair => position pair.1).sum <
      (pairs.map fun pair => position pair.2).sum :=
    List.sum_lt_sum _ _ hle ⟨pair, hpair, lt_of_le_of_ne (hle pair hpair) hne⟩
  have hsum := (hperm.map position).sum_eq
  rw [List.map_map, List.map_map] at hsum
  exact hlt.ne hsum

/-- The rows before and after an index, with the row that is there and without it. -/
theorem eq_append_of_getElem? {rows : List Row} {index : ℕ} {row : Row}
    (hrow : rows[index]? = some row) :
    rows = rows.take index ++ row :: rows.drop (index + 1) ∧
      rows.eraseIdx index = rows.take index ++ rows.drop (index + 1) := by
  obtain ⟨hlength, rfl⟩ := List.getElem?_eq_some_iff.1 hrow
  refine ⟨?_, List.eraseIdx_eq_take_drop_succ ..⟩
  rw [← List.drop_eq_getElem_cons hlength, List.take_append_drop]

/-- What is left by the removal at an index, and the row that was there. -/
theorem perm_eraseIdx {rows : List Row} {index : ℕ} {row : Row}
    (hrow : rows[index]? = some row) : (row :: rows.eraseIdx index).Perm rows := by
  obtain ⟨hlength, rfl⟩ := List.getElem?_eq_some_iff.1 hrow
  exact List.getElem_cons_eraseIdx_perm hlength

variable [DecidableEq Row]

/-- What is left of an ordered list when the rows `gone` are taken out of it. -/
theorem eq_filter_of_perm_append {part gone whole : List Row}
    (hordered : Ordered position whole) (hpart : part.Sublist whole)
    (hperm : (part ++ gone).Perm whole) :
    part = whole.filter fun row => row ∉ gone := by
  have hdisjoint := List.disjoint_of_nodup_append (hperm.nodup_iff.2 hordered.nodup)
  have hsame : part.Perm (whole.filter fun row => row ∉ gone) := by
    rw [List.perm_ext_iff_of_nodup (hordered.nodup.sublist hpart)
      (hordered.nodup.filter _)]
    intro row
    rw [List.mem_filter, decide_eq_true_iff, ← hperm.mem_iff, List.mem_append]
    constructor
    · intro hrow
      exact ⟨Or.inl hrow, fun hgone => hdisjoint hrow hgone⟩
    · rintro ⟨hrow | hgone, hnot⟩
      · exact hrow
      · exact absurd hgone hnot
  refine hsame.eq_of_pairwise ?_ (hordered.sublist hpart)
    (hordered.sublist List.filter_sublist)
  intro first second _ _ hlt hgt
  exact absurd hlt hgt.asymm

/-- If a list has lost exactly these rows, they are the ones taken out of it. -/
theorem perm_of_filter_append {dismissed gone whole : List Row}
    (hordered : Ordered position whole) (hnodup : dismissed.Nodup)
    (hsubset : ∀ row ∈ dismissed, row ∈ whole)
    (hperm : ((whole.filter fun row => row ∉ dismissed) ++ gone).Perm whole) :
    dismissed.Perm gone := by
  have hwhole := List.filter_append_perm (fun row => decide (row ∉ dismissed)) whole
  have hgone := (List.perm_append_left_iff _).1 (hperm.trans hwhole.symm)
  refine List.Perm.trans ?_ hgone.symm
  rw [List.perm_ext_iff_of_nodup hnodup (hordered.nodup.filter _)]
  intro row
  rw [List.mem_filter, Bool.not_eq_true', decide_eq_false_iff_not, not_not]
  exact (and_iff_right_of_imp (hsubset row)).symm

end EduEbook.StaleIndex
