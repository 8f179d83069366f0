import EduEbook.Store.EbookStores

/-!
# Removing downloads one by one

`EbookDownload.remove` removes what its map selects.  `EbookDownload.removeById`
finds with the empty map and removes every element that it finds: its own map is
never read.  What the stores rely on of the database is a hypothesis here, since a
found element is the stored map itself and so matches in every field, those that
hold lists and maps included.
-/

namespace EduEbook.RemoveById

open EduEbook.EbookStores
open EduEbook.Json
open EduEbook.LogStore
open EduEbook.ObjectDb

/-- The steps of `removeById`, given the list that `find` returns. -/
def removeByIdSteps (val : List DartMap) : Steps :=
  .open :: .find ∅ :: val.map (fun element => .mutate (.remove element)) ++ [.tidy, .close]

variable (sem : Semantics DartMap DartMap)

/-- The file after `removeById(map)`. -/
def removeById (file : File) (_map : DartMap) : File :=
  let val := (load sem file).filter (sem.selects ∅)
  ((removeByIdSteps val).foldl (perform sem) (file, {})).1

/-- The file after `remove(map)`. -/
def remove (file : File) (map : DartMap) : File :=
  runAlone sem file (EbookDownload.remove map).call

/-- The map `{'id': id}`. -/
def byId (id : String) : DartMap := field "id" (.string id)

def hasId (id : String) (record : DartMap) : Bool :=
  match record.lookup "id" with
  | some (.string other) => other == id
  | _ => false

/-- The database selects the records that match all fields of a map. -/
structure SelectsMatching (records : List DartMap) : Prop where
  empty : ∀ record ∈ records, sem.selects ∅ record = true
  own : ∀ record ∈ records, sem.selects record record = true
  byId : ∀ record ∈ records, ∀ id, sem.selects (byId id) record = hasId id record

/-- Both methods leave the records whose id is another one, in their order. -/
structure RemovalsAgree (file : File) (id : String) : Prop where
  same : load sem (removeById sem file (byId id)) = load sem (remove sem file (byId id))
  others : load sem (removeById sem file (byId id)) =
    (load sem file).filter fun record => !hasId id record

/-- The loop leaves the records that no element selects. -/
theorem records_removeEach (val : List DartMap) (state : File × Handle DartMap) :
    ((val.map fun element => HandleStep.mutate (.remove element)).foldl (perform sem)
        state).2.records =
      state.2.records.filter fun record => val.all fun element =>
        !sem.selects element record := by
  induction val generalizing state with
  | nil => simp
  | cons element val ih =>
      rw [List.map_cons, List.foldl_cons, ih]
      change (state.2.records.filter fun record => !sem.selects element record).filter _ = _
      rw [List.filter_filter]
      apply List.filter_congr
      intro record _
      rw [List.all_cons, Bool.and_comm]

theorem load_removeById (file : File) (map : DartMap) :
    load sem (removeById sem file map) =
      (load sem file).filter fun record =>
        ((load sem file).filter (sem.selects ∅)).all fun element =>
          !sem.selects element record := by
  rw [removeById, removeByIdSteps, List.cons_append, List.cons_append, List.foldl_cons,
    List.foldl_cons, List.foldl_append]
  change load sem (rewrite (List.foldl (perform sem) _ _).2.records) = _
  rw [load_rewrite, records_removeEach]
  rfl

variable {sem} {file : File}

/-- Every record is found and then removed, whatever the map is. -/
theorem load_removeById_eq_nil (hmatch : SelectsMatching sem (load sem file))
    (map : DartMap) : load sem (removeById sem file map) = [] := by
  rw [load_removeById, List.filter_eq_nil_iff]
  intro record hrecord hkept
  have hfound : record ∈ (load sem file).filter (sem.selects ∅) :=
    List.mem_filter.2 ⟨hrecord, hmatch.empty record hrecord⟩
  have hunmatched := List.all_eq_true.1 hkept record hfound
  rw [hmatch.own record hrecord] at hunmatched
  cases hunmatched

theorem load_remove_byId (hmatch : SelectsMatching sem (load sem file)) (id : String) :
    load sem (remove sem file (byId id)) =
      (load sem file).filter fun record => !hasId id record := by
  rw [remove, load_runAlone]
  apply List.filter_congr
  intro record hrecord
  rw [hmatch.byId record hrecord]

/-- The two methods agree exactly if every record has the id that is removed. -/
theorem removalsAgree_iff (hmatch : SelectsMatching sem (load sem file)) (id : String) :
    RemovalsAgree sem file id ↔ ∀ record ∈ load sem file, hasId id record = true := by
  have hempty : (load sem file).filter (fun record => !hasId id record) = [] ↔
      ∀ record ∈ load sem file, hasId id record = true := by
    simp only [List.filter_eq_nil_iff, Bool.not_eq_true', Bool.not_eq_false]
  rw [← hempty]
  constructor
  · intro hagree
    rw [← hagree.others, load_removeById_eq_nil hmatch]
  · intro hnone
    refine ⟨?_, ?_⟩
    · rw [load_removeById_eq_nil hmatch, load_remove_byId hmatch, hnone]
    · rw [load_removeById_eq_nil hmatch, hnone]

/-- The equality of the model serves for records that hold no lists or maps. -/
theorem selectsMatching_objectDb {records : List DartMap}
    (hown : ∀ record ∈ records, selects record record = true) :
    SelectsMatching objectDb records := by
  refine ⟨fun record _ => rfl, hown, fun record _ id => ?_⟩
  change selects (field "id" (.string id)) record = hasId id record
  rw [selects_field, hasId]
  cases record.lookup "id" with
  | none => rfl
  | some stored => cases stored <;> simp [sameValue]

/-- Two downloads of one book, under two titles. -/
def sameBook : File :=
  [.insert ((byId "1").insert "path" (.string "/docs/Seerah.epub")),
    .insert ((byId "1").insert "path" (.string "/docs/Seerah_2.epub"))]

theorem removalsAgree_sameBook : RemovalsAgree objectDb sameBook "1" := by
  refine (removalsAgree_iff (selectsMatching_objectDb ?_) "1").2 ?_
  · intro record hrecord
    rcases List.mem_pair.1 hrecord with rfl | rfl
    · rfl
    · rfl
  · intro record hrecord
    rcases List.mem_pair.1 hrecord with rfl | rfl
    · rfl
    · rfl

def twoDownloads : File := [.insert (byId "1"), .insert (byId "2")]

/-- Removing the first book by id takes the second one along. -/
theorem not_removalsAgree_twoDownloads :
    SelectsMatching objectDb (load objectDb twoDownloads) ∧
      ¬RemovalsAgree objectDb twoDownloads "1" := by
  have hmatch : SelectsMatching objectDb (load objectDb twoDownloads) := by
    apply selectsMatching_objectDb
    intro record hrecord
    rcases List.mem_pair.1 hrecord with rfl | rfl
    · rfl
    · rfl
  refine ⟨hmatch, fun hagree => ?_⟩
  have hkept := load_remove_byId hmatch "1"
  rw [← hagree.same, load_removeById_eq_nil hmatch] at hkept
  exact absurd hkept (by decide)

end EduEbook.RemoveById
