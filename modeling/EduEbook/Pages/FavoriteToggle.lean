import EduEbook.Pages.FavoriteButton

/-!
# Taps one after the other

On one page each tap waits until all work of the tap before it has finished.
`addFavorite` awaits its insertion before it checks, but `removeFavorite` starts
the removal and the check together, so the check may read the record that is
about to go and set the flag again.
-/

namespace EduEbook.FavoriteToggle

open EduEbook.BookId
open EduEbook.DetailPages (IsFavorite favFound favFound_iff)
open EduEbook.FavoriteButton
open EduEbook.Records
open EduEbook.Runs

/-- A tap and all the work it starts, with the order of the completions. -/
def roundStep (state : State) (order : List ℕ) : Option State :=
  (run step state (.tap :: order.map .complete)).filter fun next =>
    next.pending.isEmpty

/-- A round leaves the flag in agreement with the store, and flips whether the
book is a favorite. -/
def Toggles (page : Page) (state : State) (order : List ℕ) : Prop :=
  ∀ next ∈ roundStep state order,
    (next.favorite = true ↔ IsFavorite next.favorites page.id) ∧
      (IsFavorite next.favorites page.id ↔ ¬ IsFavorite state.favorites page.id)

/-- If the tap removes, the removal, which it starts first, completes first. -/
def RemovalFirst (state : State) (order : List ℕ) : Prop :=
  state.favorite = true → order.head? = some 0

section Completions

variable {state next : State} {order : List ℕ} {task first second : Task}

theorem run_of_pending_nil (hpending : state.pending = [])
    (hrun : run step state (order.map .complete) = some next) :
    order = [] ∧ next = state := by
  cases order with
  | nil => exact ⟨rfl, (Option.some.inj hrun).symm⟩
  | cons index rest =>
      obtain ⟨middle, hmiddle, -⟩ := run_cons_eq_some_iff.1 hrun
      rw [step, hpending, List.getElem?_nil] at hmiddle
      cases hmiddle

/-- While work is outstanding, some of it completes first. -/
theorem run_of_pending (hpending : state.pending ≠ [])
    (hrun : run step state (order.map .complete) = some next)
    (hdone : next.pending = []) :
    ∃ index rest task, state.pending[index]? = some task ∧ order = index :: rest ∧
      run step (completeTask state index task) (rest.map .complete) = some next := by
  cases order with
  | nil =>
      obtain rfl := Option.some.inj hrun
      exact absurd hdone hpending
  | cons index rest =>
      obtain ⟨middle, hmiddle, hrest⟩ := run_cons_eq_some_iff.1 hrun
      cases htask : state.pending[index]? with
      | none =>
          rw [step, htask] at hmiddle
          cases hmiddle
      | some task =>
          rw [step_complete htask, Option.some.injEq] at hmiddle
          exact ⟨index, rest, task, htask, rfl, hmiddle ▸ hrest⟩

theorem run_of_pending_singleton (hpending : state.pending = [task])
    (hrun : run step state (order.map .complete) = some next)
    (hdone : next.pending = []) :
    ∃ rest, order = 0 :: rest ∧
      run step (completeTask state 0 task) (rest.map .complete) = some next := by
  obtain ⟨index, rest, other, htask, horder, hrest⟩ :=
    run_of_pending (hpending ▸ List.cons_ne_nil _ _) hrun hdone
  rw [hpending] at htask
  match index with
  | 0 =>
      cases htask
      exact ⟨rest, horder, hrest⟩
  | index + 1 => cases htask

theorem run_of_pending_pair (hpending : state.pending = [first, second])
    (hrun : run step state (order.map .complete) = some next)
    (hdone : next.pending = []) :
    ∃ rest,
      (order = 0 :: rest ∧
        run step (completeTask state 0 first) (rest.map .complete) = some next) ∨
      (order = 1 :: rest ∧
        run step (completeTask state 1 second) (rest.map .complete) = some next) := by
  obtain ⟨index, rest, other, htask, horder, hrest⟩ :=
    run_of_pending (hpending ▸ List.cons_ne_nil _ _) hrun hdone
  rw [hpending] at htask
  match index with
  | 0 =>
      cases htask
      exact ⟨rest, Or.inl ⟨horder, hrest⟩⟩
  | 1 =>
      cases htask
      exact ⟨rest, Or.inr ⟨horder, hrest⟩⟩
  | index + 2 => cases htask

end Completions

theorem isFavorite_addFavorites (page : Page) (favorites : List FavoriteRecord) :
    IsFavorite
      (addFavorites (favoriteRecord page.id page.ebookModel) favorites) page.id :=
  ⟨_, List.mem_append_right _ (List.mem_singleton_self _), rfl⟩

theorem not_isFavorite_removeFavorites (id : ℤ) (favorites : List FavoriteRecord) :
    ¬ IsFavorite (removeFavorites (idString id) favorites) id := by
  rintro ⟨record, hrecord, hid⟩
  exact of_decide_eq_true (List.mem_filter.1 hrecord).2 hid

variable {page : Page} {favorites : List FavoriteRecord} {next : State}
  {order : List ℕ}

theorem roundStep_eq_some {state : State} (hround : roundStep state order = some next)
    (hpages : state.pages = [page]) :
    run step (tap page state) (order.map .complete) = some next ∧
      next.pending = [] := by
  obtain ⟨hrun, hdone⟩ := Option.filter_eq_some_iff.1 hround
  obtain ⟨middle, hmiddle, hrest⟩ := run_cons_eq_some_iff.1 hrun
  rw [step, hpages, Option.some.injEq] at hmiddle
  exact ⟨hmiddle ▸ hrest, List.isEmpty_iff.1 hdone⟩

/-- A tap that inserts has one order of completions. -/
theorem round_inserting
    (hround : roundStep ⟨favorites, false, [page], []⟩ order = some next) :
    next = ⟨addFavorites (favoriteRecord page.id page.ebookModel) favorites, true,
      [page], []⟩ := by
  obtain ⟨hrun, hdone⟩ := roundStep_eq_some hround rfl
  obtain ⟨rest, -, hinsert⟩ := run_of_pending_singleton rfl hrun hdone
  obtain ⟨rest, -, hquery⟩ := run_of_pending_singleton rfl hinsert hdone
  obtain ⟨rest, -, hset⟩ := run_of_pending_singleton rfl hquery hdone
  obtain ⟨-, hnext⟩ := run_of_pending_nil rfl hset
  have hfound : favFound (addFavorites (favoriteRecord page.id page.ebookModel)
      favorites) page.id = true :=
    favFound_iff.2 (isFavorite_addFavorites page favorites)
  rw [hnext, ← hfound]
  rfl

/-- A tap that removes sets the flag to what its check reads: before the removal
or after it. -/
theorem round_removing
    (hround : roundStep ⟨favorites, true, [page], []⟩ order = some next) :
    next = ⟨removeFavorites (idString page.id) favorites,
      if order.head? = some 0 then false else favFound favorites page.id,
      [page], []⟩ := by
  obtain ⟨hrun, hdone⟩ := roundStep_eq_some hround rfl
  obtain ⟨rest, ⟨horder, hremove⟩ | ⟨horder, hquery⟩⟩ :=
    run_of_pending_pair rfl hrun hdone
  · -- The removal is over before the check reads.
    obtain ⟨rest, -, hquery⟩ := run_of_pending_singleton rfl hremove hdone
    obtain ⟨rest, -, hset⟩ := run_of_pending_singleton rfl hquery hdone
    obtain ⟨-, hnext⟩ := run_of_pending_nil rfl hset
    have hfound : favFound (removeFavorites (idString page.id) favorites)
        page.id = false := by
      rw [Bool.eq_false_iff, ne_eq, favFound_iff]
      exact not_isFavorite_removeFavorites page.id favorites
    rw [hnext, horder, List.head?_cons, if_pos rfl, ← hfound]
    rfl
  · -- The check has read the record, and the flag is set before or after it goes.
    rw [horder, List.head?_cons, if_neg (by decide)]
    obtain ⟨rest, ⟨-, hremove⟩ | ⟨-, hset⟩⟩ := run_of_pending_pair rfl hquery hdone
    · obtain ⟨rest, -, hset⟩ := run_of_pending_singleton rfl hremove hdone
      obtain ⟨-, hnext⟩ := run_of_pending_nil rfl hset
      rw [hnext]
      rfl
    · obtain ⟨rest, -, hremove⟩ := run_of_pending_singleton rfl hset hdone
      obtain ⟨-, hnext⟩ := run_of_pending_nil rfl hremove
      rw [hnext]
      rfl

/-- One page, no work pending, and a flag that agrees with the store. -/
structure Ready (page : Page) (state : State) : Prop where
  pages_eq : state.pages = [page]
  pending_eq : state.pending = []
  agrees : state.favorite = true ↔ IsFavorite state.favorites page.id

/-- From a ready state a round toggles exactly if its removal comes first. -/
theorem toggles_round {state : State} (hready : Ready page state)
    (hround : roundStep state order = some next) :
    Toggles page state order ↔ RemovalFirst state order := by
  obtain ⟨favorites, favorite, pages, pending⟩ := state
  obtain ⟨hpages, hpending, hagrees⟩ := hready
  dsimp only at hpages hpending hagrees
  subst hpages hpending
  have hnext : Toggles page ⟨favorites, favorite, [page], []⟩ order ↔
      (next.favorite = true ↔ IsFavorite next.favorites page.id) ∧
        (IsFavorite next.favorites page.id ↔ ¬ IsFavorite favorites page.id) := by
    rw [Toggles, hround]
    exact ⟨fun htoggles => htoggles next rfl,
      fun htoggles other hother => Option.some.inj hother ▸ htoggles⟩
  rw [hnext, RemovalFirst]
  cases favorite with
  | false =>
      obtain rfl := round_inserting hround
      have hrecorded := isFavorite_addFavorites page favorites
      have habsent : ¬ IsFavorite favorites page.id := by
        rw [← hagrees]
        exact Bool.false_ne_true
      exact iff_of_true ⟨iff_of_true rfl hrecorded, iff_of_true hrecorded habsent⟩
        nofun
  | true =>
      obtain rfl := round_removing hround
      have hfound : favFound favorites page.id = true :=
        favFound_iff.2 (hagrees.1 rfl)
      have hremoved := not_isFavorite_removeFavorites page.id favorites
      by_cases hfirst : order.head? = some 0
      · refine iff_of_true ⟨?_, ?_⟩ fun _ => hfirst
        · rw [if_pos hfirst]
          exact iff_of_false Bool.false_ne_true hremoved
        · exact iff_of_false hremoved (not_not.2 (hagrees.1 rfl))
      · rw [if_neg hfirst, hfound]
        refine iff_of_false ?_ fun hremovalFirst => hfirst (hremovalFirst rfl)
        rintro ⟨hflag, -⟩
        exact hremoved (hflag.1 rfl)

theorem ready_round {state : State} (hready : Ready page state)
    (hround : roundStep state order = some next)
    (htoggles : Toggles page state order) : Ready page next := by
  obtain ⟨hagrees, -⟩ := htoggles next hround
  obtain ⟨favorites, favorite, pages, pending⟩ := state
  obtain ⟨hpages, hpending, -⟩ := hready
  dsimp only at hpages hpending
  subst hpages hpending
  cases favorite with
  | false =>
      obtain rfl := round_inserting hround
      exact ⟨rfl, rfl, hagrees⟩
  | true =>
      obtain rfl := round_removing hround
      exact ⟨rfl, rfl, hagrees⟩

/-- In a sequence of taps every tap leaves flag and store in agreement and flips
the book once, exactly if in every tap that removes the removal completes before
the check reads. -/
theorem toggles_iff (page : Page) (start final : State) (rounds : List (List ℕ))
    (hready : Ready page start) (hrun : run roundStep start rounds = some final) :
    Meets roundStep (Toggles page) start rounds ↔
      Meets roundStep RemovalFirst start rounds := by
  induction rounds generalizing start with
  | nil => exact Iff.rfl
  | cons order rounds ih =>
      obtain ⟨next, hnext, hrest⟩ := run_cons_eq_some_iff.1 hrun
      have hround := toggles_round hready hnext
      constructor
      · rintro ⟨htoggles, hmeets⟩
        have hreadyNext := ready_round hready hnext htoggles
        exact meets_cons (hround.1 htoggles) hnext
          ((ih next hreadyNext hrest).1 (hmeets next hnext))
      · rintro ⟨hfirst, hmeets⟩
        have hreadyNext := ready_round hready hnext (hround.2 hfirst)
        exact meets_cons (hround.2 hfirst) hnext
          ((ih next hreadyNext hrest).2 (hmeets next hnext))

/-- The page of a book that is no favorite. -/
def emptyStart : State := ⟨[], false, [seerahPage], []⟩

theorem ready_emptyStart : Ready seerahPage emptyStart := by
  refine ⟨rfl, rfl, iff_of_false Bool.false_ne_true ?_⟩
  rintro ⟨record, hrecord, -⟩
  cases hrecord

/-- Two taps, the second of which removes before it checks. -/
theorem toggles_twice :
    Meets roundStep (Toggles seerahPage) emptyStart [[0, 0, 0], [0, 0, 0]] ↔
      Meets roundStep RemovalFirst emptyStart [[0, 0, 0], [0, 0, 0]] :=
  toggles_iff seerahPage emptyStart ⟨[], false, [seerahPage], []⟩
    [[0, 0, 0], [0, 0, 0]] ready_emptyStart rfl

/-- The check of a tap that removes reads before the removal: the book is gone
and the flag still set. -/
theorem check_before_removal :
    ¬ ∀ (page : Page) (start final : State) (rounds : List (List ℕ)),
      Ready page start → run roundStep start rounds = some final →
      Meets roundStep (Toggles page) start rounds := by
  intro hall
  obtain ⟨-, hmeets⟩ := hall seerahPage emptyStart ⟨[], true, [seerahPage], []⟩
    [[0, 0, 0], [1, 0, 0]] ready_emptyStart rfl
  obtain ⟨htoggles, -⟩ := hmeets _ rfl
  obtain ⟨hflag, -⟩ := htoggles _ rfl
  obtain ⟨record, hrecord, -⟩ := hflag.1 rfl
  cases hrecord

end EduEbook.FavoriteToggle
