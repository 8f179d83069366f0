import EduEbook.Store.ObjectDb
import Mathlib.Data.List.Permutation

/-!
# The three local stores and overlapping calls on them

Every method of `EbookDownload`, `EbookFavorite` and `EbookLocator` opens an
`ObjectDB` of its own on the store's file, so calls that overlap work on private
snapshots of it.  The methods of `EbookDownload` and the `listAll` of
`EbookFavorite` also end in `tidy`, which writes a snapshot back.  That the package
appends a line for each change, answers from its snapshot and rewrites the file when
it tidies is assumed of it.
-/

namespace EduEbook.EbookStores

open EduEbook.Json
open EduEbook.LogStore
open EduEbook.ObjectDb
open EduEbook.Runs

abbrev Steps := List (HandleStep DartMap DartMap)

/-- The calls of `EbookDownload` but for `removeById` and `clear`, which nothing in the
app calls.  `key` is the `_id` the database gives. -/
inductive EbookDownload
  | addDownload (map : DartMap) (key : JsonValue)
  | remove (map : DartMap)
  | listAll
  | check (map : DartMap)

def EbookDownload.steps : EbookDownload → Steps
  | .addDownload map key =>
      [.open, .mutate (.insert (withKey key map)), .tidy, .close]
  | .remove map => [.open, .mutate (.remove map), .tidy, .close]
  | .listAll => [.open, .find ∅, .tidy, .close]
  | .check map => [.open, .find map, .tidy, .close]

def EbookDownload.call : EbookDownload → Call DartMap DartMap
  | .addDownload map key => .insert (withKey key map) true
  | .remove map => .remove map true
  | .listAll => .read ∅ true
  | .check map => .read map true

/-- The calls of `EbookFavorite`: only `listAll` tidies. -/
inductive EbookFavorite
  | addFavorites (map : DartMap) (key : JsonValue)
  | remove (map : DartMap)
  | listAll
  | check (map : DartMap)

def EbookFavorite.steps : EbookFavorite → Steps
  | .addFavorites map key =>
      [.open, .mutate (.insert (withKey key map)), .close]
  | .remove map => [.open, .mutate (.remove map), .close]
  | .listAll => [.open, .find ∅, .tidy, .close]
  | .check map => [.open, .find map, .close]

def EbookFavorite.call : EbookFavorite → Call DartMap DartMap
  | .addFavorites map key => .insert (withKey key map) false
  | .remove map => .remove map false
  | .listAll => .read ∅ true
  | .check map => .read map false

/-- The calls of `EbookLocator`, none of which tidies. -/
inductive EbookLocator
  | addItem (map : DartMap) (key : JsonValue)
  | updateItem (map : DartMap) (key : JsonValue)
  | remove (map : DartMap)
  | listAll
  | getLocator (id : String)

def EbookLocator.steps : EbookLocator → Steps
  | .addItem map key => [.open, .mutate (.insert (withKey key map)), .close]
  | .updateItem map key =>
      [.open, .mutate (.update (field "bookId" (getValue map "bookId")) map),
        .insertIfUnmatched (withKey key map), .close]
  | .remove map => [.open, .mutate (.remove map), .close]
  | .listAll => [.open, .find ∅, .close]
  | .getLocator id => [.open, .find (field "bookId" (.string id)), .close]

def EbookLocator.call : EbookLocator → Call DartMap DartMap
  | .addItem map key => .insert (withKey key map) false
  | .updateItem map key =>
      .upsert (field "bookId" (getValue map "bookId")) map (withKey key map) false
  | .remove map => .remove map false
  | .listAll => .read ∅ false
  | .getLocator id => .read (field "bookId" (.string id)) false

inductive Store
  | downloads
  | favorites
  | locators

def StoreCall : Store → Type
  | .downloads => EbookDownload
  | .favorites => EbookFavorite
  | .locators => EbookLocator

def steps : {store : Store} → StoreCall store → Steps
  | .downloads, method => EbookDownload.steps method
  | .favorites, method => EbookFavorite.steps method
  | .locators, method => EbookLocator.steps method

def call : {store : Store} → StoreCall store → Call DartMap DartMap
  | .downloads, method => EbookDownload.call method
  | .favorites, method => EbookFavorite.call method
  | .locators, method => EbookLocator.call method

/-- Each method is one of the four shapes of call on a log file. -/
theorem program_call {store : Store} (method : StoreCall store) :
    (call method).program = steps method := by
  cases store with
  | downloads => cases method <;> rfl
  | favorites => cases method <;> rfl
  | locators => cases method <;> rfl

/-- Run the methods one after the other, each to the end. -/
def runSerially {store : Store} (file : File) (methods : List (StoreCall store)) :
    File :=
  serial objectDb file (methods.map call)

/-- All methods have been called and none has opened its database yet. -/
def startCalls {store : Store} (file : File) (methods : List (StoreCall store)) :
    System DartMap DartMap :=
  start file (methods.map call)

/-- No write is lost in a run in which no call acts on a stale snapshot: each
tidy writes back exactly what the file holds, and `updateItem` finds a match in
its snapshot, when it updates and when it inserts, exactly if the file has one. -/
theorem overlap_serializable (store : Store) (file : File)
    (methods : List (StoreCall store)) (schedule : List ℕ)
    (final : System DartMap DartMap)
    (hrun : run (step objectDb) (startCalls file methods) schedule = some final)
    (hfinished : final.Finished)
    (hcurrent : Meets (step objectDb) (Current objectDb)
      (startCalls file methods) schedule) :
    ∃ order : List (StoreCall store), order.Perm methods ∧
      records final.file = records (runSerially file order) := by
  obtain ⟨calls, hperm, hload⟩ :=
    load_eq_serial objectDb hcurrent hrun hfinished
  -- Read the order of the calls as an order of the methods.
  have hmethods : Relation.Comp (fun calls methods => calls = methods.map call)
      List.Perm calls methods := by
    rw [List.eq_map_comp_perm]
    exact hperm
  obtain ⟨order, rfl, horder⟩ := hmethods
  exact ⟨order, horder, hload⟩

/-- A download of book 1 that a `check` of book 2 overlaps. -/
def overlappingDownload : List (StoreCall .downloads) :=
  [EbookDownload.addDownload (field "id" (.string "1")) (.int 0),
    EbookDownload.check (field "id" (.string "2"))]

/-- The threads once both methods have returned, by the records they ended
with. -/
def overlappedDownload (file : File) (added checked : List DartMap) :
    System DartMap DartMap :=
  ⟨file,
    [⟨EbookDownload.call (.addDownload (field "id" (.string "1")) (.int 0)),
        ⟨added, 0⟩, []⟩,
      ⟨EbookDownload.call (.check (field "id" (.string "2"))), ⟨checked, 0⟩, []⟩]⟩

theorem overlap_serializable_download :
    ∃ order : List (StoreCall .downloads), order.Perm overlappingDownload ∧
      records (overlappedDownload
        [.insert (withKey (.int 0) (field "id" (.string "1")))]
        [withKey (.int 0) (field "id" (.string "1"))]
        [withKey (.int 0) (field "id" (.string "1"))]).file =
        records (runSerially [] order) :=
  overlap_serializable .downloads [] overlappingDownload [0, 0, 0, 1, 0, 1, 1, 1]
    _ rfl (by simp [System.Finished, overlappedDownload])
    (meets_cons (current_of_getElem? objectDb rfl trivial) rfl
      (meets_cons (current_of_getElem? objectDb rfl trivial) rfl
        (meets_cons (current_of_getElem? objectDb rfl rfl) rfl
          (meets_cons (current_of_getElem? objectDb rfl trivial) rfl
            (meets_cons (current_of_getElem? objectDb rfl trivial) rfl
              (meets_cons (current_of_getElem? objectDb rfl trivial) rfl
                (meets_cons (current_of_getElem? objectDb rfl rfl) rfl
                  (meets_cons (current_of_getElem? objectDb rfl trivial) rfl
                    trivial))))))))

/-- The check opens the file before the download is recorded and tidies after
it: the record is lost, and no serial order loses it. -/
theorem check_loses_download :
    ¬ ∀ (store : Store) (file : File) (methods : List (StoreCall store))
      (schedule : List ℕ) (final : System DartMap DartMap),
      run (step objectDb) (startCalls file methods) schedule = some final →
      final.Finished →
      ∃ order : List (StoreCall store), order.Perm methods ∧
        records final.file = records (runSerially file order) := by
  intro hall
  obtain ⟨order, hperm, hfile⟩ := hall .downloads [] overlappingDownload
    [1, 0, 0, 0, 0, 1, 1, 1] (overlappedDownload []
      [withKey (.int 0) (field "id" (.string "1"))] []) rfl
    (by simp [System.Finished, overlappedDownload])
  have hlength := congrArg List.length hfile
  rcases List.perm_pair.1 hperm with rfl | rfl
  · exact absurd hlength (by decide)
  · exact absurd hlength (by decide)

end EduEbook.EbookStores
