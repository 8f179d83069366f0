import EduEbook.Library.Runs
import EduEbook.Library.StaleIndex
import EduEbook.Pages.DetailPages

/-!
# The heart button

A tap removes or inserts according to the flag that was set by the last check,
and nothing stops a second tap while the work of the first is pending.  Each
store operation is atomic and the pending ones complete in any order.
-/

namespace EduEbook.FavoriteButton

open EduEbook.BookId
open EduEbook.DetailPages (favFound)
open EduEbook.Models
open EduEbook.Records
open EduEbook.Runs
open EduEbook.StaleIndex (perm_eraseIdx)

/-- What is left of a call between two of its atomic steps: an insertion is
followed by a check, and a check is a query followed by setting the flag. -/
inductive Task
  | insert (id : ℤ) (ebookModel : EbookModel)
  | remove (id : ℤ)
  | query (id : ℤ)
  | setFav (value : Bool)

structure Page where
  id : ℤ
  ebookModel : EbookModel

structure State where
  favorites : List FavoriteRecord
  favorite : Bool
  pages : List Page
  pending : List Task

/-- A page is opened or closed, the button of the top page is tapped, or a
pending task completes. -/
inductive Event
  | openPage (page : Page)
  | closePage
  | tap
  | complete (index : ℕ)

/-- `checkFav(id)`, as far as it runs at once. -/
def checkFav (id : ℤ) (state : State) : State :=
  { state with pending := state.pending ++ [.query id] }

/-- `removeFavorite` starts the removal and the check together. -/
def removeFavorite (id : ℤ) (state : State) : State :=
  checkFav id { state with pending := state.pending ++ [.remove id] }

/-- `addFavorite` awaits the insertion before it starts the check. -/
def addFavorite (id : ℤ) (ebookModel : EbookModel) (state : State) : State :=
  { state with pending := state.pending ++ [.insert id ebookModel] }

/-- The record that a tap on the page of a book inserts. -/
def favoriteRecord (id : ℤ) (ebookModel : EbookModel) : FavoriteRecord :=
  ⟨idString id, ebookModel⟩

def perform (state : State) : Task → State
  | .insert id ebookModel =>
      checkFav id
        { state with
          favorites := addFavorites (favoriteRecord id ebookModel) state.favorites }
  | .remove id =>
      { state with favorites := removeFavorites (idString id) state.favorites }
  | .query id =>
      { state with pending := state.pending ++ [.setFav (favFound state.favorites id)] }
  | .setFav value => { state with favorite := value }

def completeTask (state : State) (index : ℕ) (task : Task) : State :=
  perform { state with pending := state.pending.eraseIdx index } task

def tap (page : Page) (state : State) : State :=
  if state.favorite then removeFavorite page.id state
  else addFavorite page.id page.ebookModel state

def step (state : State) : Event → Option State
  | .openPage page =>
      some (checkFav page.id { state with pages := page :: state.pages })
  | .closePage =>
      match state.pages with
      | [] => none
      | _ :: pages => some { state with pages := pages }
  | .tap =>
      match state.pages with
      | [] => none
      | page :: _ => some (tap page state)
  | .complete index =>
      match state.pending[index]? with
      | none => none
      | some task => some (completeTask state index task)

/-- The id that a pending insertion is going to record. -/
def Task.insertId : Task → Option String
  | .insert id _ => some (idString id)
  | _ => none

/-- The ids that are recorded or about to be. -/
def claimedIds (state : State) : List String :=
  state.favorites.map (·.id) ++ state.pending.filterMap Task.insertId

/-- No id occurs in two records. -/
def NoDuplicates (state : State) : Prop := (state.favorites.map (·.id)).Nodup

/-- A tap that inserts finds its book neither recorded nor about to be. -/
def FreshTap (state : State) : Event → Prop
  | .tap => ∀ page ∈ state.pages.head?, state.favorite = false →
      idString page.id ∉ claimedIds state
  | _ => True

theorem claimedIds_checkFav (id : ℤ) (state : State) :
    claimedIds (checkFav id state) = claimedIds state := by
  rw [claimedIds, claimedIds, checkFav, List.filterMap_append]
  exact congrArg _ (List.append_nil _)

theorem claimedIds_removeFavorite (id : ℤ) (state : State) :
    claimedIds (removeFavorite id state) = claimedIds state := by
  rw [removeFavorite, claimedIds_checkFav, claimedIds, claimedIds,
    List.filterMap_append]
  exact congrArg _ (List.append_nil _)

theorem claimedIds_addFavorite (id : ℤ) (ebookModel : EbookModel) (state : State) :
    claimedIds (addFavorite id ebookModel state) =
      claimedIds state ++ [idString id] := by
  rw [claimedIds, claimedIds, addFavorite, List.filterMap_append, List.append_assoc]
  rfl

/-- Completing a task claims no new id. -/
theorem claimedIds_complete {state : State} {index : ℕ} {task : Task}
    (hclaimed : (claimedIds state).Nodup)
    (htask : state.pending[index]? = some task) :
    (claimedIds (completeTask state index task)).Nodup := by
  have hperm := (perm_eraseIdx htask).filterMap Task.insertId
  rw [claimedIds] at hclaimed
  cases task with
  | insert id ebookModel =>
      rw [completeTask, perform, claimedIds_checkFav, claimedIds, addFavorites, List.map_append,
        List.append_assoc]
      have hmoved := hperm.append_left (state.favorites.map (·.id))
      exact hmoved.nodup_iff.2 hclaimed
  | remove id =>
      rw [completeTask, perform, claimedIds]
      have hsame := hperm.append_left (state.favorites.map (·.id))
      have hsub : List.Sublist
          ((removeFavorites (idString id) state.favorites).map (·.id))
          (state.favorites.map (·.id)) := List.filter_sublist.map _
      exact (hsame.nodup_iff.2 hclaimed).sublist (hsub.append_right _)
  | query id =>
      rw [completeTask, perform, claimedIds, List.filterMap_append]
      have hsame := hperm.append_left (state.favorites.map (·.id))
      have hnodup := hsame.nodup_iff.2 hclaimed
      exact (List.append_nil _).symm ▸ hnodup
  | setFav value =>
      have hsame := hperm.append_left (state.favorites.map (·.id))
      exact hsame.nodup_iff.2 hclaimed

theorem claimedIds_step {state next : State} {event : Event}
    (hclaimed : (claimedIds state).Nodup) (hfresh : FreshTap state event)
    (hstep : step state event = some next) : (claimedIds next).Nodup := by
  cases event with
  | openPage page =>
      rw [step, Option.some.injEq] at hstep
      rw [← hstep, claimedIds_checkFav]
      exact hclaimed
  | closePage =>
      rw [step] at hstep
      split at hstep
      · cases hstep
      · rw [Option.some.injEq] at hstep
        exact hstep ▸ hclaimed
  | tap =>
      rw [step] at hstep
      split at hstep
      · cases hstep
      · rename_i page pages hpages
        rw [Option.some.injEq] at hstep
        rw [← hstep, tap]
        split
        · rw [claimedIds_removeFavorite]
          exact hclaimed
        · rename_i hfavorite
          have hnew : idString page.id ∉ claimedIds state :=
            hfresh page (by rw [hpages]; rfl) (Bool.eq_false_iff.2 hfavorite)
          rw [claimedIds_addFavorite, List.nodup_append_comm]
          exact List.nodup_cons.2 ⟨hnew, hclaimed⟩
  | complete index =>
      rw [step] at hstep
      split at hstep
      · cases hstep
      · rename_i task htask
        rw [Option.some.injEq] at hstep
        exact hstep ▸ claimedIds_complete hclaimed htask

/-- A run keeps the ids distinct if every tap that inserts does so for a book
that is neither recorded nor about to be. -/
theorem noDuplicates_of_freshTaps (favorites : List FavoriteRecord)
    (favorite : Bool) (events : List Event) (final : State)
    (hstart : (favorites.map (·.id)).Nodup)
    (hfresh : Meets step FreshTap ⟨favorites, favorite, [], []⟩ events)
    (hrun : run step ⟨favorites, favorite, [], []⟩ events = some final) :
    NoDuplicates final := by
  have hclaimed : (claimedIds ⟨favorites, favorite, [], []⟩).Nodup := by
    rw [claimedIds]
    exact (List.append_nil _).symm ▸ hstart
  have hfinal := run_invariant_of_meets
    (fun state event next hstate hevent hstep => claimedIds_step hstate hevent hstep)
    hclaimed hfresh hrun
  exact (List.nodup_append.1 hfinal).1

theorem not_noDuplicates_append {favorites : List FavoriteRecord}
    {record : FavoriteRecord} (hmem : record.id ∈ favorites.map (·.id)) :
    ¬ ((addFavorites record favorites).map (·.id)).Nodup := by
  rw [addFavorites, List.map_append, List.nodup_append_comm]
  intro hnodup
  exact (List.nodup_cons.1 hnodup).1 hmem

theorem step_complete {state : State} {index : ℕ} {task : Task}
    (htask : state.pending[index]? = some task) :
    step state (.complete index) = some (completeTask state index task) := by
  rw [step, htask]

/-- The condition cannot be weakened: after any other tap that inserts, the
pending insertions of the book can complete first. -/
theorem duplicates_of_staleTap {state : State} {page : Page} {pages : List Page}
    (hpages : state.pages = page :: pages) (hfavorite : state.favorite = false)
    (hstale : idString page.id ∈ claimedIds state) :
    ∃ (completions : List ℕ) (final : State),
      run step state (.tap :: completions.map .complete) = some final ∧
        ¬ NoDuplicates final := by
  have htap : step state .tap = some (addFavorite page.id page.ebookModel state) := by
    rw [step, hpages]
    change some (tap page state) = _
    rw [tap, hfavorite]
    rfl
  rw [claimedIds] at hstale
  rcases List.mem_append.1 hstale with hrecorded | hpending
  · have hlast : (addFavorite page.id page.ebookModel state).pending[
        state.pending.length]? = some (.insert page.id page.ebookModel) :=
      List.getElem?_concat_length
    have hrun : run step state
        (.tap :: [state.pending.length].map .complete) = some
          (completeTask (addFavorite page.id page.ebookModel state)
            state.pending.length (.insert page.id page.ebookModel)) := by
      rw [run_cons, htap, Option.bind_some, List.map_singleton, run_cons,
        step_complete hlast]
      rfl
    exact ⟨_, _, hrun, not_noDuplicates_append hrecorded⟩
  · obtain ⟨task, hmem, htask⟩ := List.mem_filterMap.1 hpending
    obtain ⟨index, hlength, hindex⟩ := List.mem_iff_getElem.1 hmem
    cases task with
    | insert id ebookModel =>
        have hid : idString id = idString page.id := Option.some.inj htask
        have hfirst : (addFavorite page.id page.ebookModel state).pending[index]? =
            some (.insert id ebookModel) := by
          rw [addFavorite, List.getElem?_append_left hlength,
            List.getElem?_eq_getElem hlength, hindex]
        have hsecond : (completeTask (addFavorite page.id page.ebookModel state) index
            (.insert id ebookModel)).pending[(state.pending.eraseIdx index).length]? =
              some (.insert page.id page.ebookModel) := by
          simp only [completeTask, perform, checkFav, addFavorite]
          rw [List.eraseIdx_append_of_lt_length hlength, List.append_assoc,
            List.getElem?_append_right le_rfl, Nat.sub_self]
          rfl
        have hrun : run step state (.tap ::
            [index, (state.pending.eraseIdx index).length].map .complete) = some
              (completeTask (completeTask
                  (addFavorite page.id page.ebookModel state) index
                  (.insert id ebookModel)) (state.pending.eraseIdx index).length
                (.insert page.id page.ebookModel)) := by
          rw [run_cons, htap, Option.bind_some, List.map_cons, run_cons,
            step_complete hfirst, Option.bind_some, List.map_singleton, run_cons,
            step_complete hsecond]
          rfl
        have hmem : (favoriteRecord page.id page.ebookModel).id ∈
            (addFavorites (favoriteRecord id ebookModel) state.favorites).map
              (·.id) := by
          rw [addFavorites, List.map_append]
          exact List.mem_append_right _ (List.mem_singleton.2 hid.symm)
        exact ⟨_, _, hrun, not_noDuplicates_append hmem⟩
    | remove id => cases htask
    | query id => cases htask
    | setFav value => cases htask

def seerahPage : Page where
  id := 1
  ebookModel := ⟨some 1, some "Seerah", none, none, none, none, none, none, none, none,
    none, none, none, none⟩

def tafsirPage : Page where
  id := 2
  ebookModel := ⟨some 2, some "Tafsir", none, none, none, none, none, none, none, none,
    none, none, none, none⟩

/-- The page of another book is opened and tapped while the first insertion is
pending, and the second insertion completes first. -/
theorem noDuplicates_twoPages :
    NoDuplicates
      ⟨[favoriteRecord 2 tafsirPage.ebookModel, favoriteRecord 1 seerahPage.ebookModel],
        false, [tafsirPage, seerahPage], [.query 2, .query 1]⟩ :=
  noDuplicates_of_freshTaps [] false
    [.openPage seerahPage, .complete 0, .complete 0, .tap, .openPage tafsirPage,
      .complete 1, .complete 1, .tap, .complete 1, .complete 0] _
    List.nodup_nil
    (meets_cons trivial rfl (meets_cons trivial rfl (meets_cons trivial rfl
      (meets_cons (fun _ _ _ => List.not_mem_nil) rfl (meets_cons trivial rfl
        (meets_cons trivial rfl (meets_cons trivial rfl
          (meets_cons (by unfold FreshTap; decide) rfl (meets_cons trivial rfl
            (meets_cons trivial rfl trivial))))))))))
    rfl

/-- Two taps before the first insertion has completed insert twice. -/
theorem two_taps_duplicate :
    ¬ ∀ (favorites : List FavoriteRecord) (favorite : Bool) (events : List Event)
      (final : State), (favorites.map (·.id)).Nodup →
      run step ⟨favorites, favorite, [], []⟩ events = some final →
      NoDuplicates final := by
  intro hall
  have hnodup := hall [] false
    [.openPage seerahPage, .complete 0, .complete 0, .tap, .tap, .complete 0,
      .complete 0] _ List.nodup_nil rfl
  rw [NoDuplicates] at hnodup
  exact absurd hnodup (by decide)

end EduEbook.FavoriteButton
