import EduEbook.Library.Runs
import EduEbook.Store.Records

/-!
# Reloading the favorites

`getEbooksFavorites` clears the shared list, awaits a listing of the store and
appends what it returns.  A call that appends between the clearing and the
appending of another leaves its entries in the list, so what the list holds is
everything that was appended since the last clearing.
-/

namespace EduEbook.FavoritesList

open EduEbook.Records
open EduEbook.Runs

variable {Entry : Type*}

/-- The favorites store, the fields of the notifier, and the calls that are still
waiting, each with its listing once the store has been read for it. -/
structure State (Entry : Type*) where
  store : List Entry
  list : List Entry
  loading : Bool
  pending : List (Option (List Entry))
  deriving DecidableEq

/-- The store changes, the method is called, the store is read for a waiting
call, or a waiting call resumes with its listing. -/
inductive Event (Entry : Type*)
  | change (store : List Entry)
  | call
  | read (index : ℕ)
  | resume (index : ℕ) (listAll : List Entry)

/-- A notifier as it is constructed. -/
def start (store : List Entry) : State Entry := ⟨store, [], true, []⟩

/-- `getEbooksFavorites` until its `await`. -/
def getEbooksFavorites (state : State Entry) : State Entry :=
  { state with loading := true, list := [], pending := state.pending ++ [none] }

/-- The rest of `getEbooksFavorites`, for the call at a position. -/
def resumeCall (index : ℕ) (listAll : List Entry) (state : State Entry) : State Entry :=
  { state with
    list := state.list ++ listAll
    loading := false
    pending := state.pending.eraseIdx index }

def step [DecidableEq Entry] (state : State Entry) : Event Entry → Option (State Entry)
  | .change store => some { state with store := store }
  | .call => some (getEbooksFavorites state)
  | .read index =>
      if state.pending[index]? = some none then
        some { state with pending := state.pending.set index (some state.store) }
      else none
  | .resume index listAll =>
      if state.pending[index]? = some (some listAll) then
        some (resumeCall index listAll state)
      else none

/-- The listings that were appended after the last call cleared the list; none
before the first call. -/
def record (appended : Option (List (List Entry))) :
    Event Entry → Option (List (List Entry))
  | .call => some []
  | .resume _ listAll => appended.map (· ++ [listAll])
  | _ => appended

def appended (events : List (Event Entry)) : Option (List (List Entry)) :=
  events.foldl record none

/-- The listing of a call that completes. -/
def completedListing : Event Entry → Option (List Entry)
  | .resume _ listAll => some listAll
  | _ => none

/-- The listing of the call that completed last. -/
def lastListing (events : List (Event Entry)) : Option (List Entry) :=
  (events.filterMap completedListing).getLast?

/-- The list is that of the call that completed last, and loading is over. -/
def Reloaded (events : List (Event Entry)) (state : State Entry) : Prop :=
  state.loading = false ∧ lastListing events = some state.list

/-- What the listings appended so far say about the notifier. -/
structure Consistent (appended : Option (List (List Entry))) (state : State Entry) :
    Prop where
  list_eq : state.list = (appended.getD []).flatten
  loading_iff : state.loading = true ↔ appended.getD [] = []
  pending_of_none : appended = none → state.pending = []
  pending_of_nil : appended = some [] → state.pending ≠ []

theorem consistent_start (store : List Entry) : Consistent none (start store) where
  list_eq := rfl
  loading_iff := iff_of_true rfl rfl
  pending_of_none := fun _ => rfl
  pending_of_nil := nofun

theorem consistent_resume {listings : List (List Entry)} {state : State Entry}
    (index : ℕ) (listAll : List Entry) (hstate : Consistent (some listings) state) :
    Consistent (some (listings ++ [listAll])) (resumeCall index listAll state) where
  list_eq := by
    rw [resumeCall, hstate.list_eq, Option.getD_some, Option.getD_some,
      List.flatten_append, List.flatten_singleton]
  loading_iff := by
    rw [Option.getD_some, resumeCall]
    exact iff_of_false Bool.false_ne_true
      (List.append_ne_nil_of_right_ne_nil listings (List.cons_ne_nil listAll []))
  pending_of_none := nofun
  pending_of_nil := by
    intro hnil
    rw [Option.some.injEq] at hnil
    exact absurd hnil
      (List.append_ne_nil_of_right_ne_nil listings (List.cons_ne_nil listAll []))

variable [DecidableEq Entry]

theorem consistent_step {listings : Option (List (List Entry))}
    {state next : State Entry} {event : Event Entry}
    (hstate : Consistent listings state) (hstep : step state event = some next) :
    Consistent (record listings event) next := by
  cases event with
  | change store =>
      cases hstep
      exact ⟨hstate.list_eq, hstate.loading_iff, hstate.pending_of_none,
        hstate.pending_of_nil⟩
  | call =>
      cases hstep
      refine ⟨rfl, iff_of_true rfl rfl, nofun, fun _ => ?_⟩
      exact List.append_ne_nil_of_right_ne_nil _ (List.cons_ne_nil _ _)
  | read index =>
      rw [step] at hstep
      split at hstep
      · cases hstep
        refine ⟨hstate.list_eq, hstate.loading_iff, fun hnone => ?_, fun hnil => ?_⟩
        · change state.pending.set index _ = []
          rw [hstate.pending_of_none hnone]
          rfl
        · exact fun hset => hstate.pending_of_nil hnil ((List.set_eq_nil_iff _ _).1 hset)
      · cases hstep
  | resume index listAll =>
      rw [step] at hstep
      split at hstep
      · next hpending =>
        cases hstep
        cases listings with
        | none =>
            rw [hstate.pending_of_none rfl] at hpending
            cases hpending
        | some listings => exact consistent_resume index listAll hstate
      · cases hstep

theorem consistent_run {listings : Option (List (List Entry))}
    {state final : State Entry} {events : List (Event Entry)}
    (hstate : Consistent listings state) (hrun : run step state events = some final) :
    Consistent (events.foldl record listings) final := by
  induction events generalizing listings state with
  | nil =>
      rw [run_nil, Option.some.injEq] at hrun
      exact hrun ▸ hstate
  | cons event events ih =>
      obtain ⟨next, hnext, hrest⟩ := run_cons_eq_some_iff.1 hrun
      exact ih (consistent_step hstate hnext) hrest

omit [DecidableEq Entry] in
/-- The last listing appended is that of the call that completed last. -/
theorem lastListing_eq {events : List (Event Entry)} {listings : List (List Entry)}
    (happended : appended events = some listings) (hlistings : listings ≠ []) :
    lastListing events = listings.getLast? := by
  induction events using List.reverseRecOn generalizing listings with
  | nil => cases happended
  | append_singleton events event ih =>
      rw [appended, List.foldl_append, ← appended] at happended
      rw [lastListing, List.filterMap_append]
      cases event with
      | call =>
          cases happended
          exact absurd rfl hlistings
      | resume index listAll =>
          obtain ⟨before, -, rfl⟩ := Option.map_eq_some_iff.1 happended
          change (events.filterMap completedListing ++ [listAll]).getLast? = _
          rw [List.getLast?_concat, List.getLast?_concat]
      | change store | read index =>
          change (events.filterMap completedListing ++ []).getLast? = _
          rw [List.append_nil]
          exact ih happended hlistings

/-- Once no call is waiting, the list is that of the last call to complete
exactly if a call was made and the calls that completed between the last
clearing and that one found an empty store. -/
theorem reloaded_iff (store : List Entry) (events : List (Event Entry))
    (final : State Entry) (hrun : run step (start store) events = some final)
    (hidle : final.pending = []) :
    Reloaded events final ↔
      ∃ listings, appended events = some listings ∧
        ∀ listing ∈ listings.dropLast, listing = [] := by
  have hfinal : Consistent (appended events) final :=
    consistent_run (consistent_start store) hrun
  cases happended : appended events with
  | none =>
      rw [happended] at hfinal
      constructor
      · rintro ⟨hloading, -⟩
        rw [hfinal.loading_iff.2 rfl] at hloading
        cases hloading
      · rintro ⟨listings, hlistings, -⟩
        cases hlistings
  | some listings =>
      rw [happended] at hfinal
      have hnonempty : listings ≠ [] := by
        rintro rfl
        exact hfinal.pending_of_nil rfl hidle
      obtain ⟨before, last, rfl⟩ :=
        (List.eq_nil_or_concat' listings).resolve_left hnonempty
      have hloading : final.loading = false := by
        rw [← Bool.not_eq_true, hfinal.loading_iff]
        exact hnonempty
      have hlist : final.list = before.flatten ++ last := by
        rw [hfinal.list_eq, Option.getD_some, List.flatten_append,
          List.flatten_singleton]
      rw [Reloaded, lastListing_eq happended hnonempty, List.getLast?_concat, hlist,
        Option.some.injEq, List.self_eq_append_left, List.flatten_eq_nil_iff]
      constructor
      · rintro ⟨-, hempty⟩
        refine ⟨_, rfl, ?_⟩
        rwa [List.dropLast_concat]
      · rintro ⟨other, hother, hempty⟩
        cases hother
        rw [List.dropLast_concat] at hempty
        exact ⟨hloading, hempty⟩

/-- A favorite of book 1. -/
def favoriteOne : FavoriteRecord :=
  ⟨"1", ⟨some 1, some "Tafsir", none, none, none, none, none, none, none, none, none,
    none, none, none⟩⟩

/-- The first page reads an empty store, and the second one calls, after a book was
marked, before that listing arrives. -/
def laterReload : List (Event FavoriteRecord) :=
  [.call, .read 0, .change [favoriteOne], .call, .read 1, .resume 0 [],
    .resume 0 [favoriteOne]]

theorem reloaded_laterReload :
    Reloaded laterReload ⟨[favoriteOne], [favoriteOne], false, []⟩ :=
  (reloaded_iff [] laterReload ⟨[favoriteOne], [favoriteOne], false, []⟩
    (by decide) rfl).2 ⟨[[], [favoriteOne]], rfl, List.forall_mem_singleton.2 rfl⟩

/-- Both pages call before either listing arrives. -/
def twoReloads : List (Event FavoriteRecord) :=
  [.call, .call, .read 0, .read 1, .resume 0 [favoriteOne], .resume 0 [favoriteOne]]

theorem overlapping_reloads_duplicate :
    ¬∀ (store : List FavoriteRecord) (events : List (Event FavoriteRecord)) final,
      run step (start store) events = some final → final.pending = [] →
        Reloaded events final := by
  intro hall
  have hlast := (hall [favoriteOne] twoReloads
    ⟨[favoriteOne], [favoriteOne, favoriteOne], false, []⟩ (by decide) rfl).2
  exact absurd hlast (by decide)

end EduEbook.FavoritesList
