import EduEbook.Pages.FavoriteButton

/-!
# Hasty taps whose work is done in order

The heart button starts its work without waiting for that of the tap before.  This
module follows a page on which any number of taps overlap, while the store does the
work that is pending first come, first served and the flags are set in the order of
their queries.  A removal is queued together with the check that follows it and an
insertion queues its check when it is done, so no check reads the store ahead of a
change that was asked for before it.
-/

namespace EduEbook.FavoriteButton

open EduEbook.DetailPages (IsFavorite favFound favFound_iff)
open EduEbook.Records
open EduEbook.Runs
open EduEbook.StaleIndex (eq_append_of_getElem?)

/-- The task is work for the store; the other tasks set the flag after a query. -/
def Task.onStore : Task → Bool
  | .setFav _ => false
  | _ => true

/-- The store completes first what was asked for first, and the flags are set in the
order of the queries, each with any store work before it.  A page is opened only when
no store work is pending.  No page is closed. -/
def InOrder (state : State) : Event → Prop
  | .openPage _ => ∀ task ∈ state.pending, task.onStore = false
  | .closePage => False
  | .tap => True
  | .complete index => ∀ task ∈ state.pending[index]?,
      ∀ earlier ∈ state.pending.take index, earlier.onStore ≠ task.onStore

/-- Another check of the book follows the task: it is one, or it queues one. -/
def Task.checks : Task → Bool
  | .insert _ _ => true
  | .query _ => true
  | _ => false

def Task.bookId : Task → Option ℤ
  | .insert id _ => some id
  | .remove id => some id
  | .query id => some id
  | .setFav _ => none

/-- Every removal is followed by a check. -/
def Checked : List Task → Prop
  | [] => True
  | .remove _ :: rest => rest.any Task.checks = true ∧ Checked rest
  | _ :: rest => Checked rest

/-- The flag once the pending tasks are done, as far as they are decided. -/
def lastFlag (favorite : Bool) (pending : List Task) : Bool :=
  pending.foldl
    (fun flag task =>
      match task with
      | .setFav value => value
      | _ => flag) favorite

/-- The pending tasks are about the page on top, and will leave the flag as the
store has it. -/
structure Settling (state : State) : Prop where
  checked : Checked state.pending
  flag_eq : ∀ page ∈ state.pages.head?, state.pending.any Task.checks = false →
    lastFlag state.favorite state.pending = favFound state.favorites page.id
  bookId_eq : ∀ page ∈ state.pages.head?, ∀ task ∈ state.pending,
    ∀ id ∈ task.bookId, id = page.id

theorem checked_append {first second : List Task} (hfirst : Checked first)
    (hsecond : Checked second) : Checked (first ++ second) := by
  induction first with
  | nil => exact hsecond
  | cons task rest ih =>
      rw [List.cons_append]
      cases task with
      | remove id =>
          refine ⟨?_, ih hfirst.2⟩
          rw [List.any_append, hfirst.1, Bool.true_or]
      | insert id ebookModel => exact ih hfirst
      | query id => exact ih hfirst
      | setFav value => exact ih hfirst

/-- Flags that are still to be set do not matter to the store work behind them. -/
theorem checked_flags_append_iff {before rest : List Task}
    (hflags : ∀ task ∈ before, task.onStore = false) :
    Checked (before ++ rest) ↔ Checked rest := by
  induction before with
  | nil => rfl
  | cons task before ih =>
      have hrest := ih fun other hother => hflags other (List.mem_cons_of_mem _ hother)
      cases task with
      | setFav value => exact hrest
      | insert id ebookModel => exact absurd (hflags _ List.mem_cons_self) nofun
      | remove id => exact absurd (hflags _ List.mem_cons_self) nofun
      | query id => exact absurd (hflags _ List.mem_cons_self) nofun

theorem any_checks_setFav (before rest : List Task) (value : Bool) :
    (before ++ .setFav value :: rest).any Task.checks =
      (before ++ rest).any Task.checks := by
  rw [List.any_append, List.any_append, List.any_cons]
  rfl

/-- Setting a flag leaves the store work checked. -/
theorem checked_of_setFav {before rest : List Task} {value : Bool}
    (hchecked : Checked (before ++ .setFav value :: rest)) : Checked (before ++ rest) := by
  induction before with
  | nil => exact hchecked
  | cons task before ih =>
      cases task with
      | remove id =>
          have hany := (any_checks_setFav before rest value).symm.trans hchecked.1
          exact ⟨hany, ih hchecked.2⟩
      | insert id ebookModel => exact ih hchecked
      | query id => exact ih hchecked
      | setFav value => exact ih hchecked

/-- A flag that is set first counts as the one before. -/
theorem lastFlag_setFav {before : List Task} (favorite value : Bool) (rest : List Task)
    (hstore : ∀ task ∈ before, task.onStore = true) :
    lastFlag favorite (before ++ .setFav value :: rest) =
      lastFlag value (before ++ rest) := by
  induction before with
  | nil => rfl
  | cons task before ih =>
      have hrest := ih fun other hother => hstore other (List.mem_cons_of_mem _ hother)
      cases task with
      | insert id ebookModel => exact hrest
      | remove id => exact hrest
      | query id => exact hrest
      | setFav flag => exact absurd (hstore _ List.mem_cons_self) nofun

theorem lastFlag_concat_setFav (favorite value : Bool) (pending : List Task) :
    lastFlag favorite (pending ++ [.setFav value]) = value := by
  rw [lastFlag, List.foldl_append]
  rfl

section Step

variable {state : State} {page : Page} {pages : List Page} {task : Task}
  {before rest : List Task}

/-- Work that is queued with a check at its end leaves nothing decided. -/
theorem settling_queue (hpages : state.pages = page :: pages) {tasks : List Task}
    (hchecked : Checked tasks) (hany : tasks.any Task.checks = true)
    (hids : ∀ task ∈ tasks, ∀ id ∈ task.bookId, id = page.id)
    (hsettling : Settling state) :
    Settling { state with pending := state.pending ++ tasks } where
  checked := checked_append hsettling.checked hchecked
  flag_eq := by
    intro _ _ hnone
    rw [List.any_append, hany, Bool.or_true] at hnone
    exact Bool.noConfusion hnone
  bookId_eq := by
    intro top htop task hmem
    rcases List.mem_append.1 hmem with hold | hnew
    · exact hsettling.bookId_eq top htop task hold
    · rw [hpages, List.head?_cons, Option.mem_some_iff] at htop
      exact htop ▸ hids task hnew

theorem settling_tap (hpages : state.pages = page :: pages)
    (hsettling : Settling state) : Settling (tap page state) := by
  rw [tap]
  split
  · rw [removeFavorite, checkFav, List.append_assoc]
    refine settling_queue hpages ⟨rfl, trivial⟩ rfl ?_ hsettling
    intro task hmem id hid
    rcases List.mem_pair.1 hmem with rfl | rfl <;> exact (Option.mem_some_iff.1 hid).symm
  · refine settling_queue hpages trivial rfl ?_ hsettling
    intro task hmem id hid
    obtain rfl := List.mem_singleton.1 hmem
    exact (Option.mem_some_iff.1 hid).symm

/-- The task that is the first of its kind is done. -/
theorem settling_perform (hpending : state.pending = before ++ task :: rest)
    (hfirst : ∀ earlier ∈ before, earlier.onStore ≠ task.onStore)
    (hsettling : Settling state) :
    Settling (perform { state with pending := before ++ rest } task) := by
  obtain ⟨hchecked, hflag, hids⟩ := hsettling
  rw [hpending] at hchecked hflag hids
  have hbook : ∀ top ∈ state.pages.head?, ∀ id ∈ task.bookId, id = top.id :=
    fun top htop => hids top htop task (List.mem_append_right _ List.mem_cons_self)
  have hrestIds : ∀ top ∈ state.pages.head?, ∀ other ∈ before ++ rest,
      ∀ id ∈ other.bookId, id = top.id := by
    intro top htop other hother
    refine hids top htop other ?_
    rcases List.mem_append.1 hother with hbefore | hrest
    · exact List.mem_append_left _ hbefore
    · exact List.mem_append_right _ (List.mem_cons_of_mem _ hrest)
  -- Only flags can be pending before work for the store.
  have hflags : task.onStore = true → ∀ earlier ∈ before, earlier.onStore = false :=
    fun htask earlier hearlier =>
      Bool.eq_false_iff.2 fun hstore => hfirst earlier hearlier (hstore.trans htask.symm)
  cases task with
  | insert id ebookModel =>
      rw [checked_flags_append_iff (hflags rfl)] at hchecked
      have hrest : Checked (before ++ rest) :=
        (checked_flags_append_iff (hflags rfl)).2 hchecked
      refine ⟨checked_append hrest trivial, fun top _ hnone => ?_, fun top htop => ?_⟩
      · rw [perform, checkFav, List.any_append] at hnone
        have hcheck : true = false := (Bool.or_eq_false_iff.1 hnone).2
        cases hcheck
      · have hnew : ∀ bookId ∈ (Task.query id).bookId, bookId = top.id := hbook top htop
        exact List.forall_mem_append.2
          ⟨hrestIds top htop, List.forall_mem_singleton.2 hnew⟩
  | remove id =>
      rw [checked_flags_append_iff (hflags rfl)] at hchecked
      obtain ⟨hany, hrest⟩ := hchecked
      refine ⟨(checked_flags_append_iff (hflags rfl)).2 hrest, fun top _ hnone => ?_,
        hrestIds⟩
      -- The check that was queued with the removal is still ahead.
      rw [perform, List.any_append, hany, Bool.or_true] at hnone
      exact Bool.noConfusion hnone
  | query id =>
      rw [checked_flags_append_iff (hflags rfl)] at hchecked
      have hrest : Checked (before ++ rest) :=
        (checked_flags_append_iff (hflags rfl)).2 hchecked
      refine ⟨checked_append hrest trivial, fun top htop _ => ?_, fun top htop => ?_⟩
      · rw [← hbook top htop id rfl]
        exact lastFlag_concat_setFav _ _ _
      · have hnew : ∀ bookId ∈ (Task.setFav (favFound state.favorites id)).bookId,
            bookId = top.id := fun bookId hbookId => by cases hbookId
        exact List.forall_mem_append.2
          ⟨hrestIds top htop, List.forall_mem_singleton.2 hnew⟩
  | setFav value =>
      have hstore : ∀ earlier ∈ before, earlier.onStore = true :=
        fun earlier hearlier => Bool.eq_true_of_not_eq_false (hfirst earlier hearlier)
      refine ⟨checked_of_setFav hchecked, fun top htop hnone => ?_, hrestIds⟩
      have hlast := hflag top htop ((any_checks_setFav before rest value).trans hnone)
      rw [lastFlag_setFav state.favorite value rest hstore] at hlast
      exact hlast

/-- What is pending first may always complete. -/
theorem inOrder_head (state : State) : InOrder state (.complete 0) :=
  fun _ _ _ hearlier => absurd hearlier List.not_mem_nil

theorem settling_step {next : State} {event : Event} (hsettling : Settling state)
    (horder : InOrder state event) (hstep : step state event = some next) :
    Settling next := by
  cases event with
  | openPage page =>
      have hflags : ∀ task ∈ state.pending, task.onStore = false := horder
      rw [step, Option.some.injEq] at hstep
      subst hstep
      refine ⟨?_, fun top _ hnone => ?_, fun top htop => ?_⟩
      · exact (checked_flags_append_iff hflags).2 trivial
      · rw [checkFav, List.any_append] at hnone
        have hcheck : true = false := (Bool.or_eq_false_iff.1 hnone).2
        cases hcheck
      · intro task hmem id hid
        rcases List.mem_append.1 hmem with hold | hnew
        · have hflag := hflags task hold
          cases task with
          | setFav value => cases hid
          | _ => cases hflag
        · obtain rfl := List.mem_singleton.1 hnew
          obtain rfl := Option.mem_some_iff.1 hid
          exact congrArg Page.id (Option.mem_some_iff.1 htop)
  | closePage => exact horder.elim
  | tap =>
      rw [step] at hstep
      split at hstep
      · cases hstep
      · rename_i page pages hpages
        rw [Option.some.injEq] at hstep
        exact hstep ▸ settling_tap hpages hsettling
  | complete index =>
      rw [step] at hstep
      split at hstep
      · cases hstep
      · rename_i task htask
        rw [Option.some.injEq] at hstep
        obtain ⟨hpending, hleft⟩ := eq_append_of_getElem? htask
        rw [← hstep, completeTask, hleft]
        exact settling_perform hpending (horder task htask) hsettling

end Step

/-- However many taps overlap, once all work is done the heart of the page on top
says what the store does, if the store did its work in the order in which it was asked
for, the flags were set in the order of the queries, and each page was opened when no
store work was pending. -/
theorem heart_of_inOrder (favorites : List FavoriteRecord) (favorite : Bool)
    (events : List Event) (final : State) (page : Page)
    (hrun : run step ⟨favorites, favorite, [], []⟩ events = some final)
    (horder : Meets step InOrder ⟨favorites, favorite, [], []⟩ events)
    (hdone : final.pending = []) (htop : final.pages.head? = some page) :
    final.favorite = true ↔ IsFavorite final.favorites page.id := by
  have hstart : Settling ⟨favorites, favorite, [], []⟩ := by
    refine ⟨trivial, fun top htop => ?_, fun top htop => ?_⟩
    · cases htop
    · cases htop
  have hfinal : Settling final := run_invariant_of_meets
    (fun state event next hsettling hnow hstep =>
      settling_step hsettling hnow hstep) hstart horder hrun
  have hflag := hfinal.flag_eq page htop (by rw [hdone]; rfl)
  rw [hdone] at hflag
  rw [← favFound_iff, ← hflag]
  rfl

/-- A second tap finds the removal of the first still pending, and the flag of the
first check is set before the second removal. -/
theorem heart_two_removals :
    (State.favorite ⟨[], false, [seerahPage], []⟩ = true ↔
      IsFavorite (State.favorites ⟨[], false, [seerahPage], []⟩) seerahPage.id) :=
  heart_of_inOrder [favoriteRecord 1 seerahPage.ebookModel] false
    [.openPage seerahPage, .complete 0, .complete 0, .tap, .tap, .complete 0, .complete 0,
      .complete 2, .complete 0, .complete 0, .complete 0] _ seerahPage rfl
    (meets_cons (List.forall_mem_nil _) rfl (meets_cons (inOrder_head _) rfl
      (meets_cons (inOrder_head _) rfl
      (meets_cons trivial rfl (meets_cons trivial rfl (meets_cons (inOrder_head _) rfl
        (meets_cons (inOrder_head _) rfl (meets_cons (by unfold InOrder; decide) rfl
          (meets_cons (inOrder_head _) rfl (meets_cons (inOrder_head _) rfl
            (meets_cons (inOrder_head _) rfl trivial)))))))))))
    rfl rfl

end EduEbook.FavoriteButton
