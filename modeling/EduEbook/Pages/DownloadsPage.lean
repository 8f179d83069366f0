import EduEbook.Library.Runs
import EduEbook.Library.StaleIndex
import EduEbook.Store.Records

/-!
# Deleting rows on the downloads page

A dismissed row is removed from the store by its id and, once that is done, from
the page's list by the index it had at the last rebuild.  Several deletions can
be pending, and each that completes shifts the rows behind it.
-/

namespace EduEbook.DownloadsPage

open EduEbook.Records
open EduEbook.Runs
open EduEbook.StaleIndex

/-- A row of the page, with its position in the list as it was loaded. -/
structure Row where
  position : ℕ
  record : DownloadRecord
  deriving DecidableEq

/-- The arguments of `_deleteEbook(map, index)`. -/
structure Deletion where
  row : Row
  index : ℕ

/-- The store, the list and the rows of the last rebuild; the deletions whose
store operation is pending, those that have yet to remove their row from the
list, and for each finished one its row and the row it removed, if any. -/
structure State where
  store : List DownloadRecord
  list : List Row
  built : List Row
  removing : List Deletion
  removed : List Deletion
  finished : List (Row × Option Row)

/-- The rows of a loaded list of records. -/
def loadedRows (records : List DownloadRecord) : List Row :=
  records.mapIdx Row.mk

/-- The page has loaded all records of the store. -/
def start (records : List DownloadRecord) : State where
  store := records
  list := loadedRows records
  built := loadedRows records
  removing := []
  removed := []
  finished := []

def State.dismissed (state : State) : List Row :=
  state.removing.map (·.row) ++ state.removed.map (·.row) ++
    state.finished.map (·.1)

/-- The ids whose records have been removed from the store. -/
def State.removedIds (state : State) : List String :=
  (state.removed.map (·.row) ++ state.finished.map (·.1)).map (·.record.id)

inductive Event
  | dismiss (index : ℕ)
  | removeStored (index : ℕ)
  | removeAt (index : ℕ)
  | rebuild

def step (state : State) : Event → Option State
  | .dismiss index =>
      match state.built[index]? with
      | none => none
      | some row =>
          if row ∈ state.dismissed then none
          else some { state with removing := state.removing ++ [⟨row, index⟩] }
  | .removeStored index =>
      match state.removing[index]? with
      | none => none
      | some deletion => some
          { state with
            store := removeDownload deletion.row.record.id state.store
            removing := state.removing.eraseIdx index
            removed := state.removed ++ [deletion] }
  | .removeAt index =>
      match state.removed[index]? with
      | none => none
      | some deletion => some
          { state with
            -- Out of range, `removeAt` throws and leaves the list as it is.
            list := state.list.eraseIdx deletion.index
            removed := state.removed.eraseIdx index
            finished := state.finished ++
              [(deletion.row, state.list[deletion.index]?)] }
  | .rebuild => some { state with built := state.list }

/-- A deletion that completes finds its own row at the index it captured. -/
def OwnRow (state : State) : Event → Prop
  | .removeAt index => ∀ deletion ∈ state.removed[index]?,
      state.list[deletion.index]? = some deletion.row
  | _ => True

/-- With a row, all rows of the same id have been dismissed. -/
def ClosedIds (rows dismissed : List Row) : Prop :=
  ∀ row ∈ dismissed, ∀ other ∈ rows, other.record.id = row.record.id →
    other ∈ dismissed

/-- No index was out of range, and the list is the loaded one without the
dismissed rows and has the records of the store. -/
structure ShowsStore (records : List DownloadRecord) (state : State) : Prop where
  inRange : ∀ pair ∈ state.finished, pair.2 ≠ none
  list_eq : state.list =
    (loadedRows records).filter fun row => row ∉ state.dismissed
  store_eq : state.list.map (·.record) = state.store

/-- What holds in every run. -/
structure Consistent (records : List DownloadRecord) (state : State) : Prop where
  built_sublist : state.built.Sublist (loadedRows records)
  list_sublist : state.list.Sublist state.built
  conserved : (state.list ++ state.finished.filterMap (·.2)).Perm
    (loadedRows records)
  dismissed_nodup : state.dismissed.Nodup
  dismissed_subset : ∀ row ∈ state.dismissed, row ∈ loadedRows records
  captured : ∀ deletion ∈ state.removing ++ state.removed,
    ∃ rows, rows.Sublist (loadedRows records) ∧ state.list.Sublist rows ∧
      rows[deletion.index]? = some deletion.row
  not_before : ∀ pair ∈ state.finished, ∀ row ∈ pair.2,
    pair.1.position ≤ row.position
  store_eq : state.store =
    ((loadedRows records).filter fun row =>
      row.record.id ∉ state.removedIds).map (·.record)

theorem ordered_loadedRows (records : List DownloadRecord) :
    Ordered Row.position (loadedRows records) := by
  rw [Ordered, loadedRows, List.pairwise_iff_getElem]
  intro first second hfirst hsecond hlt
  rw [List.getElem_mapIdx, List.getElem_mapIdx]
  exact hlt

theorem records_loadedRows (records : List DownloadRecord) :
    (loadedRows records).map (·.record) = records := by
  refine List.ext_getElem ?_ fun index hleft hright => ?_
  · rw [List.length_map, loadedRows, List.length_mapIdx]
  · simp only [loadedRows, List.getElem_map, List.getElem_mapIdx]

theorem consistent_start (records : List DownloadRecord) :
    Consistent records (start records) where
  built_sublist := List.Sublist.refl _
  list_sublist := List.Sublist.refl _
  conserved := List.append_nil _ ▸ List.Perm.refl _
  dismissed_nodup := List.nodup_nil
  dismissed_subset := nofun
  captured := nofun
  not_before := nofun
  store_eq := by
    simp [start, State.removedIds, records_loadedRows]

variable {records : List DownloadRecord} {state next : State}

/-- A deletion whose store operation completes is still that of its row. -/
theorem dismissed_removeStored {index : ℕ} {deletion : Deletion}
    (hdeletion : state.removing[index]? = some deletion) :
    ((state.removing.eraseIdx index).map (·.row) ++
        (state.removed ++ [deletion]).map (·.row) ++
        state.finished.map (·.1)).Perm state.dismissed := by
  apply List.Perm.append_right
  have hperm := (perm_eraseIdx hdeletion).map (·.row)
  calc (state.removing.eraseIdx index).map (·.row) ++
          (state.removed ++ [deletion]).map (·.row)
      = (state.removing.eraseIdx index).map (·.row) ++
          (state.removed.map (·.row) ++ [deletion.row]) := by
        rw [List.map_append, List.map_singleton]
    _ = (state.removing.eraseIdx index).map (·.row) ++
          state.removed.map (·.row) ++ [deletion.row] :=
        (List.append_assoc _ _ _).symm
    _ |>.Perm (deletion.row :: ((state.removing.eraseIdx index).map (·.row) ++
          state.removed.map (·.row))) := List.perm_append_singleton _ _
    _ |>.Perm (state.removing.map (·.row) ++ state.removed.map (·.row)) :=
        hperm.append_right _

/-- A deletion whose row is removed from the list has finished. -/
theorem dismissed_removeAt {index : ℕ} {deletion : Deletion} (hit : Option Row)
    (hdeletion : state.removed[index]? = some deletion) :
    (state.removing.map (·.row) ++ (state.removed.eraseIdx index).map (·.row) ++
        (state.finished ++ [(deletion.row, hit)]).map (·.1)).Perm
      state.dismissed := by
  have hperm := (perm_eraseIdx hdeletion).map (·.row)
  calc state.removing.map (·.row) ++ (state.removed.eraseIdx index).map (·.row) ++
          (state.finished ++ [(deletion.row, hit)]).map (·.1)
      = state.removing.map (·.row) ++ ((state.removed.eraseIdx index).map (·.row) ++
          (state.finished.map (·.1) ++ [deletion.row])) := by
        rw [List.map_append, List.map_singleton, List.append_assoc]
    _ = state.removing.map (·.row) ++ ((state.removed.eraseIdx index).map (·.row) ++
          state.finished.map (·.1) ++ [deletion.row]) := by
        rw [← List.append_assoc _ _ [deletion.row]]
    _ |>.Perm (state.removing.map (·.row) ++ (deletion.row ::
          ((state.removed.eraseIdx index).map (·.row) ++
            state.finished.map (·.1)))) :=
        (List.perm_append_singleton _ _).append_left _
    _ |>.Perm (state.removing.map (·.row) ++ (state.removed.map (·.row) ++
          state.finished.map (·.1))) := (hperm.append_right _).append_left _
    _ = state.dismissed := (List.append_assoc _ _ _).symm

theorem consistent_dismiss {index : ℕ} {row : Row}
    (hrow : state.built[index]? = some row) (hnew : row ∉ state.dismissed)
    (hstate : Consistent records state) :
    Consistent records
      { state with removing := state.removing ++ [⟨row, index⟩] } := by
  have hperm : (State.dismissed
      { state with removing := state.removing ++ [⟨row, index⟩] }).Perm
        (row :: state.dismissed) := by
    rw [State.dismissed, State.dismissed, List.map_append, List.map_singleton,
      List.append_assoc, List.append_assoc, List.append_assoc]
    exact List.perm_middle
  have hloaded : row ∈ loadedRows records :=
    hstate.built_sublist.subset (List.mem_of_getElem? hrow)
  refine { hstate with dismissed_nodup := ?_, dismissed_subset := ?_, captured := ?_ }
  · exact hperm.nodup_iff.2 (List.nodup_cons.2 ⟨hnew, hstate.dismissed_nodup⟩)
  · intro other hother
    rcases List.mem_cons.1 (hperm.mem_iff.1 hother) with rfl | hold
    · exact hloaded
    · exact hstate.dismissed_subset other hold
  · intro deletion hdeletion
    rw [List.append_assoc, List.mem_append, List.singleton_append, List.mem_cons,
      ← or_assoc, or_right_comm] at hdeletion
    rcases hdeletion with hold | rfl
    · exact hstate.captured deletion (List.mem_append.2 hold)
    · exact ⟨state.built, hstate.built_sublist, hstate.list_sublist, hrow⟩

/-- The store loses all records of the id. -/
theorem consistent_removeStored {index : ℕ} {deletion : Deletion}
    (hdeletion : state.removing[index]? = some deletion)
    (hstate : Consistent records state) :
    Consistent records
      { state with
        store := removeDownload deletion.row.record.id state.store
        removing := state.removing.eraseIdx index
        removed := state.removed ++ [deletion] } := by
  have hperm := dismissed_removeStored hdeletion
  refine { hstate with dismissed_nodup := ?_, dismissed_subset := ?_, captured := ?_,
                       store_eq := ?_ }
  · exact hperm.nodup_iff.2 hstate.dismissed_nodup
  · intro row hrow
    exact hstate.dismissed_subset row (hperm.mem_iff.1 hrow)
  · intro other hother
    apply hstate.captured other
    rcases List.mem_append.1 hother with hremoving | hremoved
    · exact List.mem_append_left _ (List.mem_of_mem_eraseIdx hremoving)
    · rcases List.mem_append.1 hremoved with hold | hmoved
      · exact List.mem_append_right _ hold
      · obtain rfl := List.mem_singleton.1 hmoved
        exact List.mem_append_left _ (List.mem_of_getElem? hdeletion)
  · dsimp only
    rw [hstate.store_eq, removeDownload, List.filter_map, List.filter_filter]
    apply congrArg (List.map _)
    apply List.filter_congr
    intro row _
    have hids : row.record.id ∈ ((state.removed ++ [deletion]).map (·.row) ++
          state.finished.map (·.1)).map (·.record.id) ↔
        row.record.id = deletion.row.record.id ∨ row.record.id ∈ state.removedIds := by
      simp only [State.removedIds, List.map_append, List.mem_append, List.map_singleton,
        List.mem_singleton]
      tauto
    rw [Bool.eq_iff_iff, Function.comp_apply, Bool.and_eq_true, decide_eq_true_iff,
      decide_eq_true_iff, decide_eq_true_iff]
    exact not_or.symm.trans (not_congr hids.symm)

theorem consistent_removeAt {index : ℕ} {deletion : Deletion}
    (hdeletion : state.removed[index]? = some deletion)
    (hstate : Consistent records state) :
    Consistent records
      { state with
        list := state.list.eraseIdx deletion.index
        removed := state.removed.eraseIdx index
        finished := state.finished ++
          [(deletion.row, state.list[deletion.index]?)] } := by
  have hperm := dismissed_removeAt state.list[deletion.index]? hdeletion
  have hshrunk : (state.list.eraseIdx deletion.index).Sublist state.list :=
    List.eraseIdx_sublist _ _
  obtain ⟨rows, hrows, hlist, hcaptured⟩ := hstate.captured deletion
    (List.mem_append_right _ (List.mem_of_getElem? hdeletion))
  refine { built_sublist := hstate.built_sublist
           list_sublist := hshrunk.trans hstate.list_sublist
           conserved := ?_, dismissed_nodup := ?_, dismissed_subset := ?_,
           captured := ?_, not_before := ?_, store_eq := ?_ }
  · refine List.Perm.trans ?_ hstate.conserved
    rw [List.filterMap_append]
    cases hhit : state.list[deletion.index]? with
    | none =>
        rw [List.eraseIdx_of_length_le (List.getElem?_eq_none_iff.1 hhit)]
        exact List.append_nil _ ▸ List.Perm.refl _
    | some row =>
        change (state.list.eraseIdx deletion.index ++
          (state.finished.filterMap (·.2) ++ [row])).Perm _
        rw [← List.append_assoc]
        exact (List.perm_append_singleton _ _).trans
          ((perm_eraseIdx hhit).append_right _)
  · exact hperm.nodup_iff.2 hstate.dismissed_nodup
  · intro row hrow
    exact hstate.dismissed_subset row (hperm.mem_iff.1 hrow)
  · intro other hother
    have hold : other ∈ state.removing ++ state.removed := by
      rcases List.mem_append.1 hother with hremoving | hremoved
      · exact List.mem_append_left _ hremoving
      · exact List.mem_append_right _ (List.mem_of_mem_eraseIdx hremoved)
    obtain ⟨rows, hrows, hlist, hcaptured⟩ := hstate.captured other hold
    exact ⟨rows, hrows, hshrunk.trans hlist, hcaptured⟩
  · intro pair hpair row hrow
    rcases List.mem_append.1 hpair with hold | hnew
    · exact hstate.not_before pair hold row hrow
    · obtain rfl := List.mem_singleton.1 hnew
      exact position_le_of_sublist ((ordered_loadedRows records).sublist hrows) hlist
        hcaptured hrow
  · dsimp only
    rw [hstate.store_eq]
    apply congrArg (List.map _)
    apply List.filter_congr
    intro row _
    have hmoved : (((state.removed.eraseIdx index).map (·.row)) ++
        (state.finished ++ [(deletion.row, state.list[deletion.index]?)]).map
          (·.1)).Perm (state.removed.map (·.row) ++ state.finished.map (·.1)) := by
      rw [List.map_append, ← List.append_assoc]
      exact (List.perm_append_singleton _ _).trans
        (((perm_eraseIdx hdeletion).map (·.row)).append_right _)
    rw [decide_eq_decide, State.removedIds, State.removedIds,
      (hmoved.map (·.record.id)).mem_iff]

/-- What one step does. -/
theorem step_cases {event : Event} (hstep : step state event = some next) :
    (∃ index row, event = .dismiss index ∧ state.built[index]? = some row ∧
      row ∉ state.dismissed ∧
      next = { state with removing := state.removing ++ [⟨row, index⟩] }) ∨
    (∃ index deletion, event = .removeStored index ∧
      state.removing[index]? = some deletion ∧
      next =
        { state with
          store := removeDownload deletion.row.record.id state.store
          removing := state.removing.eraseIdx index
          removed := state.removed ++ [deletion] }) ∨
    (∃ index deletion, event = .removeAt index ∧
      state.removed[index]? = some deletion ∧
      next =
        { state with
          list := state.list.eraseIdx deletion.index
          removed := state.removed.eraseIdx index
          finished := state.finished ++
            [(deletion.row, state.list[deletion.index]?)] }) ∨
    (event = .rebuild ∧ next = { state with built := state.list }) := by
  cases event with
  | dismiss index =>
      rw [step] at hstep
      split at hstep
      · cases hstep
      · rename_i row hrow
        split at hstep
        · cases hstep
        · rename_i hnew
          exact Or.inl ⟨index, row, rfl, hrow, hnew, (Option.some.inj hstep).symm⟩
  | removeStored index =>
      rw [step] at hstep
      split at hstep
      · cases hstep
      · rename_i deletion hdeletion
        exact Or.inr (Or.inl ⟨index, deletion, rfl, hdeletion,
          (Option.some.inj hstep).symm⟩)
  | removeAt index =>
      rw [step] at hstep
      split at hstep
      · cases hstep
      · rename_i deletion hdeletion
        exact Or.inr (Or.inr (Or.inl ⟨index, deletion, rfl, hdeletion,
          (Option.some.inj hstep).symm⟩))
  | rebuild =>
      exact Or.inr (Or.inr (Or.inr ⟨rfl, (Option.some.inj hstep).symm⟩))

theorem consistent_step {event : Event} (hstate : Consistent records state)
    (hstep : step state event = some next) : Consistent records next := by
  rcases step_cases hstep with ⟨index, row, -, hrow, hnew, rfl⟩ |
    ⟨index, deletion, -, hdeletion, rfl⟩ | ⟨index, deletion, -, hdeletion, rfl⟩ |
    ⟨-, rfl⟩
  · exact consistent_dismiss hrow hnew hstate
  · exact consistent_removeStored hdeletion hstate
  · exact consistent_removeAt hdeletion hstate
  · exact { hstate with
      built_sublist := hstate.list_sublist.trans hstate.built_sublist
      list_sublist := List.Sublist.refl _ }

/-- Every finished deletion has removed its own row. -/
def AllOwn (state : State) : Prop :=
  ∀ pair ∈ state.finished, pair.2 = some pair.1

theorem ownRow_iff_allOwn {event : Event} (hstep : step state event = some next)
    (hown : AllOwn state) : OwnRow state event ↔ AllOwn next := by
  rcases step_cases hstep with ⟨index, row, rfl, hrow, hnew, rfl⟩ |
    ⟨index, deletion, rfl, hdeletion, rfl⟩ |
    ⟨index, deletion, rfl, hdeletion, rfl⟩ | ⟨rfl, rfl⟩
  · exact iff_of_true trivial hown
  · exact iff_of_true trivial hown
  · rw [OwnRow, hdeletion, AllOwn]
    constructor
    · intro hrow pair hpair
      rcases List.mem_append.1 hpair with hold | hnew
      · exact hown pair hold
      · obtain rfl := List.mem_singleton.1 hnew
        exact hrow deletion rfl
    · intro hall other hother
      obtain rfl := Option.some.inj hother
      exact hall _ (List.mem_append_right _ (List.mem_singleton_self _))
  · exact iff_of_true trivial hown

theorem finished_subset_step {event : Event} (hstep : step state event = some next) :
    state.finished ⊆ next.finished := by
  rcases step_cases hstep with ⟨index, row, -, -, -, rfl⟩ |
    ⟨index, deletion, -, -, rfl⟩ | ⟨index, deletion, -, -, rfl⟩ | ⟨-, rfl⟩
  · exact List.Subset.refl _
  · exact List.Subset.refl _
  · exact List.subset_append_left _ _
  · exact List.Subset.refl _

theorem allOwn_of_run {events : List Event}
    (hrun : run step state events = some next) (hown : AllOwn next) :
    AllOwn state := by
  induction events generalizing state with
  | nil =>
      rw [run_nil, Option.some.injEq] at hrun
      exact hrun ▸ hown
  | cons event events ih =>
      obtain ⟨middle, hmiddle, hrest⟩ := run_cons_eq_some_iff.1 hrun
      exact fun pair hpair => ih hrest pair (finished_subset_step hmiddle hpair)

/-- The steps of a run all hit their rows exactly if at its end every finished
deletion has. -/
theorem meets_ownRow_iff {events : List Event}
    (hrun : run step state events = some next) (hown : AllOwn state) :
    Meets step OwnRow state events ↔ AllOwn next := by
  induction events generalizing state with
  | nil =>
      rw [run_nil, Option.some.injEq] at hrun
      exact iff_of_true trivial (hrun ▸ hown)
  | cons event events ih =>
      obtain ⟨middle, hmiddle, hrest⟩ := run_cons_eq_some_iff.1 hrun
      have hevent := ownRow_iff_allOwn hmiddle hown
      constructor
      · rintro ⟨hrow, hmeets⟩
        exact (ih hrest (hevent.1 hrow)).1 (hmeets middle hmiddle)
      · intro hfinal
        have hmiddleOwn := allOwn_of_run hrest hfinal
        exact meets_cons (hevent.2 hmiddleOwn) hmiddle
          ((ih hrest hmiddleOwn).2 hfinal)

/-- No deletion is pending. -/
structure State.Idle (state : State) : Prop where
  removing_eq : state.removing = []
  removed_eq : state.removed = []

theorem State.Idle.dismissed_eq (hidle : state.Idle) :
    state.dismissed = state.finished.map (·.1) := by
  rw [State.dismissed, hidle.removing_eq, hidle.removed_eq]
  rfl

theorem State.Idle.removedIds_eq (hidle : state.Idle) :
    state.removedIds = state.dismissed.map (·.record.id) := by
  rw [State.removedIds, hidle.dismissed_eq, hidle.removed_eq]
  rfl

/-- Deletions that were in range, as pairs of rows. -/
theorem exists_pairs {finished : List (Row × Option Row)}
    (hinRange : ∀ pair ∈ finished, pair.2 ≠ none) :
    ∃ pairs : List (Row × Row), finished = pairs.map fun pair =>
      (pair.1, some pair.2) := by
  induction finished with
  | nil => exact ⟨[], rfl⟩
  | cons pair finished ih =>
      obtain ⟨pairs, rfl⟩ := ih fun other hother =>
        hinRange other (List.mem_cons_of_mem pair hother)
      obtain ⟨row, hrow⟩ := Option.ne_none_iff_exists'.1
        (hinRange pair List.mem_cons_self)
      exact ⟨(pair.1, row) :: pairs, by rw [List.map_cons, ← hrow]⟩

/-- Wrong rows cannot make up for each other: if the list has lost the dismissed
rows, each deletion has removed its own. -/
theorem allOwn_of_showsStore (hidle : state.Idle) (hstate : Consistent records state)
    (hshows : ShowsStore records state) : AllOwn state := by
  obtain ⟨pairs, hpairs⟩ := exists_pairs hshows.inRange
  have hmeant : state.dismissed = pairs.map (·.1) := by
    rw [hidle.dismissed_eq, hpairs, List.map_map]
    rfl
  have hgone : state.finished.filterMap (·.2) = pairs.map (·.2) := by
    rw [hpairs, List.filterMap_map]
    change pairs.filterMap (some ∘ fun pair => pair.2) = _
    rw [List.filterMap_eq_map]
  have hconserved := hstate.conserved
  rw [hshows.list_eq, hgone] at hconserved
  have hperm := perm_of_filter_append (ordered_loadedRows records)
    hstate.dismissed_nodup hstate.dismissed_subset hconserved
  have hposition := position_eq_of_perm
    (fun pair hpair => hstate.not_before (pair.1, some pair.2)
      (hpairs ▸ List.mem_map_of_mem hpair) pair.2 rfl)
    (hmeant ▸ hperm)
  intro pair hpair
  rw [hpairs] at hpair
  obtain ⟨⟨meant, hit⟩, hmem, rfl⟩ := List.mem_map.1 hpair
  have hmeantMem : meant ∈ state.dismissed := hmeant ▸ List.mem_map_of_mem hmem
  have hhitMem : hit ∈ state.dismissed :=
    hperm.mem_iff.2 (List.mem_map_of_mem hmem)
  exact congrArg some ((ordered_loadedRows records).eq_of_position_eq
    (hstate.dismissed_subset meant hmeantMem) (hstate.dismissed_subset hit hhitMem)
    (hposition _ hmem)).symm

theorem closedIds_of_showsStore (hidle : state.Idle)
    (hstate : Consistent records state) (hshows : ShowsStore records state) :
    ClosedIds (loadedRows records) state.dismissed := by
  intro row hrow other hother hid
  by_contra hkept
  have hlist : other ∈ state.list := by
    rw [hshows.list_eq]
    exact List.mem_filter.2 ⟨hother, decide_eq_true hkept⟩
  have hstored : other.record ∈ state.store :=
    hshows.store_eq ▸ List.mem_map_of_mem hlist
  rw [hstate.store_eq] at hstored
  obtain ⟨stored, hstored, hrecord⟩ := List.mem_map.1 hstored
  have hnot := of_decide_eq_true (List.mem_filter.1 hstored).2
  rw [hidle.removedIds_eq, hrecord, hid] at hnot
  exact hnot (List.mem_map_of_mem hrow)

theorem showsStore_of_allOwn (hidle : state.Idle) (hstate : Consistent records state)
    (hown : AllOwn state)
    (hclosed : ClosedIds (loadedRows records) state.dismissed) :
    ShowsStore records state := by
  have hgone : state.finished.filterMap (·.2) = state.dismissed := by
    rw [hidle.dismissed_eq, ← List.filterMap_eq_map]
    exact List.filterMap_congr hown
  have hconserved := hstate.conserved
  rw [hgone] at hconserved
  have hlist := eq_filter_of_perm_append (ordered_loadedRows records)
    (hstate.list_sublist.trans hstate.built_sublist) hconserved
  refine ⟨?_, hlist, ?_⟩
  · intro pair hpair hnone
    rw [hown pair hpair] at hnone
    cases hnone
  · rw [hlist, hstate.store_eq]
    apply congrArg (List.map _)
    apply List.filter_congr
    intro row hrow
    rw [decide_eq_decide, hidle.removedIds_eq]
    apply not_congr
    constructor
    · intro hdismissed
      exact List.mem_map_of_mem hdismissed
    · intro hid
      obtain ⟨other, hother, hsame⟩ := List.mem_map.1 hid
      exact hclosed other hother row hrow hsame.symm

/-- Once no deletion is pending, the page shows the store exactly if every
deletion found its row at the index it captured and, with each dismissed row, all
rows of its id were dismissed. -/
theorem showsStore_iff (records : List DownloadRecord) (events : List Event)
    (final : State) (hrun : run step (start records) events = some final)
    (hidle : final.Idle) :
    ShowsStore records final ↔
      Meets step OwnRow (start records) events ∧
        ClosedIds (loadedRows records) final.dismissed := by
  have hfinal : Consistent records final := run_invariant
    (fun state event next hstate hstep => consistent_step hstate hstep)
    (consistent_start records) hrun
  have hstart : AllOwn (start records) := nofun
  rw [meets_ownRow_iff hrun hstart]
  constructor
  · intro hshows
    exact ⟨allOwn_of_showsStore hidle hfinal hshows,
      closedIds_of_showsStore hidle hfinal hshows⟩
  · rintro ⟨hown, hclosed⟩
    exact showsStore_of_allOwn hidle hfinal hown hclosed

def threeDownloads : List DownloadRecord :=
  [⟨"1", "/docs/Tafsir.epub", "1.png", "1.0 KB", "Tafsir"⟩,
    ⟨"2", "/docs/Seerah.epub", "2.png", "1.0 KB", "Seerah"⟩,
    ⟨"3", "/docs/Fiqh.epub", "3.png", "1.0 KB", "Fiqh"⟩]

/-- One row is dismissed and its deletion completes. -/
theorem showsStore_oneDismissed :
    ShowsStore threeDownloads
        ⟨threeDownloads.eraseIdx 0, (loadedRows threeDownloads).eraseIdx 0,
          loadedRows threeDownloads, [], [],
          [(⟨0, ⟨"1", "/docs/Tafsir.epub", "1.png", "1.0 KB", "Tafsir"⟩⟩,
            some ⟨0, ⟨"1", "/docs/Tafsir.epub", "1.png", "1.0 KB", "Tafsir"⟩⟩)]⟩ ↔
      Meets step OwnRow (start threeDownloads)
          [.dismiss 0, .removeStored 0, .removeAt 0] ∧
        ClosedIds (loadedRows threeDownloads)
          [⟨0, ⟨"1", "/docs/Tafsir.epub", "1.png", "1.0 KB", "Tafsir"⟩⟩] :=
  showsStore_iff threeDownloads [.dismiss 0, .removeStored 0, .removeAt 0] _ rfl
    ⟨rfl, rfl⟩

/-- The first two of three rows are dismissed between two rebuilds: the second
deletion removes the third row. -/
theorem second_deletion_misses :
    ¬ ∀ (records : List DownloadRecord) (events : List Event) (final : State),
      run step (start records) events = some final → final.Idle →
      ShowsStore records final := by
  intro hall
  have hshows := hall threeDownloads
    [.dismiss 0, .dismiss 1, .removeStored 0, .removeStored 0, .removeAt 0,
      .removeAt 0] _ rfl ⟨rfl, rfl⟩
  exact absurd hshows.store_eq (by decide)

end EduEbook.DownloadsPage
