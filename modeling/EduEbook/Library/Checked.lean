import Mathlib.Data.List.Forall2

/-!
# Computations that may throw

A chain of decoding steps returns only if each step does, and a loop that
decodes the elements of a list returns only if each element does, in order.
-/

namespace EduEbook.Checked

universe u

variable {Thrown : Type*} {Value Result : Type u}

theorem bind_eq_ok_iff {first : Except Thrown Value}
    {next : Value → Except Thrown Result} {result : Result} :
    first >>= next = .ok result ↔
      ∃ value, first = .ok value ∧ next value = .ok result := by
  cases first with
  | error thrown =>
      constructor
      · intro h
        cases h
      · rintro ⟨value, h, -⟩
        cases h
  | ok value =>
      constructor
      · intro h
        exact ⟨value, rfl, h⟩
      · rintro ⟨other, h, hnext⟩
        cases h
        exact hnext

theorem pure_eq_ok_iff {value result : Value} :
    (pure value : Except Thrown Value) = .ok result ↔ value = result :=
  Except.ok.injEq value result ▸ Iff.rfl

/-- The loop returns the results of the elements. -/
theorem mapM_eq_ok_iff {decode : Value → Except Thrown Result}
    {values : List Value} {results : List Result} :
    values.mapM decode = .ok results ↔
      List.Forall₂ (fun value result => decode value = .ok result) values results := by
  induction values generalizing results with
  | nil =>
      rw [List.mapM_nil, pure_eq_ok_iff, List.forall₂_nil_left_iff]
      exact eq_comm
  | cons value values ih =>
      rw [List.mapM_cons, bind_eq_ok_iff, List.forall₂_cons_left_iff]
      constructor
      · rintro ⟨result, hresult, hrest⟩
        obtain ⟨rest, hvalues, hresults⟩ := bind_eq_ok_iff.1 hrest
        exact ⟨result, rest, hresult, ih.1 hvalues, (pure_eq_ok_iff.1 hresults).symm⟩
      · rintro ⟨result, rest, hresult, hvalues, rfl⟩
        exact ⟨result, hresult,
          bind_eq_ok_iff.2 ⟨rest, ih.2 hvalues, pure_eq_ok_iff.2 rfl⟩⟩

/-- A list has a related one exactly if each of its elements is related to
something. -/
theorem exists_related_iff {Left Right : Type*} {relation : Left → Right → Prop}
    {lefts : List Left} :
    (∃ rights, List.Forall₂ relation lefts rights) ↔
      ∀ left ∈ lefts, ∃ right, relation left right := by
  induction lefts with
  | nil => exact iff_of_true ⟨[], List.Forall₂.nil⟩ (List.forall_mem_nil _)
  | cons left lefts ih =>
      rw [List.forall_mem_cons, ← ih]
      constructor
      · rintro ⟨rights, hrights⟩
        obtain ⟨right, rest, hright, hrest, -⟩ := List.forall₂_cons_left_iff.1 hrights
        exact ⟨⟨right, hright⟩, rest, hrest⟩
      · rintro ⟨⟨right, hright⟩, rest, hrest⟩
        exact ⟨right :: rest, List.Forall₂.cons hright hrest⟩

/-- One list of witnesses between two lists is a witness for each pair of their
elements. -/
theorem exists_forall₂_iff {Left Middle Right : Type*}
    {first : Left → Middle → Prop} {second : Middle → Right → Prop}
    {lefts : List Left} {rights : List Right} :
    (∃ middles, List.Forall₂ first lefts middles ∧
        List.Forall₂ second middles rights) ↔
      List.Forall₂ (fun left right => ∃ middle, first left middle ∧
        second middle right) lefts rights := by
  induction lefts generalizing rights with
  | nil =>
      constructor
      · rintro ⟨middles, hfirst, hsecond⟩
        obtain rfl := List.forall₂_nil_left_iff.1 hfirst
        obtain rfl := List.forall₂_nil_left_iff.1 hsecond
        exact List.Forall₂.nil
      · intro hnil
        exact ⟨[], List.Forall₂.nil, List.forall₂_nil_left_iff.1 hnil ▸ List.Forall₂.nil⟩
  | cons left lefts ih =>
      constructor
      · rintro ⟨middles, hfirst, hsecond⟩
        cases hfirst with
        | cons hleft hlefts =>
            cases hsecond with
            | cons hright hrights =>
                exact List.Forall₂.cons ⟨_, hleft, hright⟩
                  (ih.1 ⟨_, hlefts, hrights⟩)
      · intro hcons
        cases hcons with
        | cons hpair hpairs =>
            obtain ⟨middle, hleft, hright⟩ := hpair
            obtain ⟨middles, hlefts, hrights⟩ := ih.2 hpairs
            exact ⟨middle :: middles, List.Forall₂.cons hleft hlefts,
              List.Forall₂.cons hright hrights⟩

end EduEbook.Checked
