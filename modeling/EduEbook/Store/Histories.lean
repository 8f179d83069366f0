import EduEbook.Library.Linearizability
import EduEbook.Store.EbookStores

/-!
# What overlapping store methods answer, and what a killed app leaves

`check`, `listAll` and `getLocator` answer from the snapshot their own database
took when it opened.  This module says in which order of the methods those
answers are right, and follows the file through the lives of an app that may be
killed between any two steps of the methods it has running: the next life opens
the file as it was left.
-/

namespace EduEbook.EbookStores

open EduEbook.Json
open EduEbook.LogStore
open EduEbook.ObjectDb
open EduEbook.Runs

/-- The query whose matches the method returns, if it returns a list. -/
def query : {store : Store} → StoreCall store → Option DartMap
  | .downloads, .listAll => some ∅
  | .downloads, .check map => some map
  | .downloads, _ => none
  | .favorites, .listAll => some ∅
  | .favorites, .check map => some map
  | .favorites, _ => none
  | .locators, .listAll => some ∅
  | .locators, .getLocator id => some (field "bookId" (.string id))
  | .locators, _ => none

/-- What `find` returns on a handle, or on the file opened at once. -/
def find (query : DartMap) (docs : List DartMap) : List DartMap :=
  docs.filter (selects query)

theorem isRead_of_query {store : Store} {method : StoreCall store} {wanted : DartMap}
    (hquery : query method = some wanted) : (call method).isRead = true := by
  cases store with
  | downloads => cases method <;> first | rfl | cases hquery
  | favorites => cases method <;> first | rfl | cases hquery
  | locators => cases method <;> first | rfl | cases hquery

section History

variable {store : Store}

/-- The methods at the positions of `order`, in that order. -/
def pick (methods : List (StoreCall store)) (order : List ℕ) :
    List (StoreCall store) :=
  order.filterMap fun index => methods[index]?

theorem inOrder_map_call (methods : List (StoreCall store)) (order : List ℕ) :
    inOrder (methods.map call) order = (pick methods order).map call := by
  rw [inOrder, pick, List.map_filterMap]
  exact congrFun (congrArg _ (funext fun index => List.getElem?_map)) order

/-- One order of methods that accounts for a moment of a run in which they overlap:
it lists every method that has returned and none that has not started, once each;
the file holds what the listed methods write one after the other; each listed
method that returns a list finds the records that those before it leave; and a
method that had returned when another one started is listed before it. -/
structure History (file : File) (methods : List (StoreCall store))
    (schedule : List ℕ) (system : System DartMap DartMap) (order : List ℕ) :
    Prop where
  nodup : order.Nodup
  started : ∀ index ∈ order, index ∈ schedule ∧ index < methods.length
  returned : ∀ index thread, system.threads[index]? = some thread →
    thread.remaining = [] → index ∈ order
  records_eq : records system.file = records (runSerially file (pick methods order))
  find_eq : ∀ before index after, order = before ++ index :: after →
    ∀ wanted, (methods[index]?).bind query = some wanted →
      ∀ thread, system.threads[index]? = some thread →
        find wanted thread.handle.records =
          find wanted (records (runSerially file (pick methods before)))
  realTime : RealTime schedule system order

theorem length_threads {file : File} {methods : List (StoreCall store)}
    {schedule : List ℕ} {system : System DartMap DartMap}
    (hrun : run (step objectDb) (startCalls file methods) schedule = some system) :
    methods.length = system.threads.length := by
  have hkeeps : ∀ (reached : System DartMap DartMap) index next,
      methods.length = reached.threads.length → step objectDb reached index = some next →
      methods.length = next.threads.length := by
    intro reached index next hlength hstep
    obtain ⟨call, handle, action, rest, _, rfl⟩ := step_cases objectDb hstep
    rw [List.length_set]
    exact hlength
  refine run_invariant hkeeps ?_ hrun
  rw [startCalls, start, List.length_map, List.length_map]

theorem exists_history {file : File} {methods : List (StoreCall store)}
    {schedule : List ℕ} {system : System DartMap DartMap}
    (hrun : run (step objectDb) (startCalls file methods) schedule = some system)
    (hcurrent : Meets (step objectDb) (Current objectDb) (startCalls file methods)
      schedule) :
    ∃ order, History file methods schedule system order := by
  obtain ⟨order, hlinear, hreal⟩ := exists_linearized objectDb hcurrent hrun
  have hserial : ∀ listed : List ℕ,
      serial objectDb file (inOrder (methods.map call) listed) =
        runSerially file (pick methods listed) := by
    intro listed
    rw [inOrder_map_call, runSerially]
  have hcalls : ∀ index : ℕ, (system.threads[index]?).map Thread.call =
      (methods[index]?).map call := by
    intro index
    rw [← List.getElem?_map, hlinear.calls_eq, List.getElem?_map]
  refine ⟨order, ⟨hlinear.nodup, ?_, ?_, ?_, ?_, hreal⟩⟩
  · intro index hindex
    refine ⟨mem_schedule_of_mem_order objectDb hrun hlinear hindex, ?_⟩
    obtain ⟨thread, hthread, _⟩ := (hlinear.mem_order index).1 hindex
    have hmethod := hcalls index
    rw [hthread, Option.map_some] at hmethod
    obtain ⟨method, hmem, _⟩ := Option.map_eq_some_iff.1 hmethod.symm
    exact (List.getElem?_eq_some_iff.1 hmem).1
  · intro index thread hthread hdone
    exact (hlinear.mem_order index).2 ⟨thread, hthread, waiting_of_returned hdone⟩
  · rw [records, hlinear.file_eq, hserial]
  · intro before index after hsplit wanted hwanted thread hthread
    obtain ⟨method, hmethod, hquery⟩ := Option.bind_eq_some_iff.1 hwanted
    have hcall : thread.call = call method := by
      have hsame := hcalls index
      rw [hthread, hmethod, Option.map_some, Option.map_some, Option.some.injEq] at hsame
      exact hsame
    have hread : thread.call.isRead = true := by
      rw [hcall]
      exact isRead_of_query hquery
    rw [hlinear.snapshot_eq before index after hsplit thread hthread hread, hserial]

/-- No stale answer and no lost write in a run in which no method acts on a stale
snapshot: one order of all the methods accounts for the file, for every list a
method returned, and for the order in which they returned and started. -/
theorem overlap_linearizable (file : File) (methods : List (StoreCall store))
    (schedule : List ℕ) (final : System DartMap DartMap)
    (hrun : run (step objectDb) (startCalls file methods) schedule = some final)
    (hfinished : final.Finished)
    (hcurrent : Meets (step objectDb) (Current objectDb) (startCalls file methods)
      schedule) :
    ∃ order : List ℕ, order.Perm (List.range methods.length) ∧
      History file methods schedule final order := by
  obtain ⟨order, hhistory⟩ := exists_history hrun hcurrent
  refine ⟨order, ?_, hhistory⟩
  rw [List.perm_ext_iff_of_nodup hhistory.nodup List.nodup_range]
  intro index
  rw [List.mem_range]
  constructor
  · exact fun hindex => (hhistory.started index hindex).2
  · intro hindex
    have hlength := length_threads hrun
    obtain ⟨thread, hthread⟩ : ∃ thread, final.threads[index]? = some thread :=
      ⟨_, List.getElem?_eq_getElem (hlength ▸ hindex)⟩
    exact hhistory.returned index thread hthread
      (hfinished thread (List.mem_of_getElem? hthread))

end History

/-- A page asks whether book 1 is a favorite while another records that it is. -/
def overlappingFavorite : List (StoreCall .favorites) :=
  [EbookFavorite.check (field "id" (.string "1")),
    EbookFavorite.addFavorites (field "id" (.string "1")) (.int 0)]

theorem isPlain_overlappingFavorite :
    ∀ other ∈ overlappingFavorite.map call, other.isPlain = true := by
  intro other hother
  obtain ⟨method, hmethod, rfl⟩ := List.mem_map.1 hother
  rcases List.mem_pair.1 hmethod with rfl | rfl <;> rfl

theorem overlap_linearizable_favorite :
    ∃ order : List ℕ, order.Perm (List.range overlappingFavorite.length) ∧
      History [] overlappingFavorite [0, 1, 1, 0, 1, 0]
        ⟨[.insert (withKey (.int 0) (field "id" (.string "1")))],
          [⟨EbookFavorite.call (.check (field "id" (.string "1"))), ⟨[], 0⟩, []⟩,
            ⟨EbookFavorite.call (.addFavorites (field "id" (.string "1")) (.int 0)),
              ⟨[withKey (.int 0) (field "id" (.string "1"))], 0⟩, []⟩]⟩ order :=
  overlap_linearizable [] overlappingFavorite [0, 1, 1, 0, 1, 0] _ rfl
    (by simp [System.Finished])
    (meets_current_of_isPlain objectDb isPlain_overlappingFavorite _)

/-! ## An app that is killed and started again -/

section Lives

variable {store : Store}

/-- The methods an app calls on the store until it is killed, and the steps of them
that it gets to. -/
structure Life (store : Store) where
  methods : List (StoreCall store)
  schedule : List ℕ

/-- The file as a life leaves it; the handles are lost with the app. -/
def leave (file : File) (life : Life store) : Option File :=
  (run (step objectDb) (startCalls file life.methods) life.schedule).map System.file

def Life.Current (file : File) (life : Life store) : Prop :=
  Meets (step objectDb) (LogStore.Current objectDb) (startCalls file life.methods)
    life.schedule

/-- The method at `index` got to take its last step. -/
def Life.Returned (life : Life store) (index : ℕ) : Prop :=
  ∃ method, life.methods[index]? = some method ∧
    life.schedule.count index = (steps method).length

/-- The methods of a life that left a mark: all that returned, of the others only
ones that had started, and each of them once. -/
def Life.Kept (life : Life store) (kept : List (StoreCall store)) : Prop :=
  ∃ order : List ℕ, order.Nodup ∧
    (∀ index ∈ order, index ∈ life.schedule ∧ index < life.methods.length) ∧
    (∀ index, life.Returned index → index ∈ order) ∧
    kept = pick life.methods order

theorem kept_of_leave {file left : File} {life : Life store}
    (hleave : leave file life = some left) (hcurrent : life.Current file) :
    ∃ kept, life.Kept kept ∧ records left = records (runSerially file kept) := by
  obtain ⟨system, hrun, rfl⟩ := Option.map_eq_some_iff.1 hleave
  obtain ⟨order, hhistory⟩ := exists_history hrun hcurrent
  refine ⟨pick life.methods order,
    ⟨order, hhistory.nodup, hhistory.started, ?_, rfl⟩, hhistory.records_eq⟩
  rintro index ⟨method, hmethod, hcount⟩
  have hindex : index < system.threads.length :=
    length_threads hrun ▸ (List.getElem?_eq_some_iff.1 hmethod).1
  obtain ⟨first, hfirst, _, hlength⟩ :=
    length_remaining_add_count objectDb hrun (List.getElem?_eq_getElem hindex)
  have hstarted : first = startThread (call method) := by
    rw [startCalls, start, List.getElem?_map, List.getElem?_map, hmethod] at hfirst
    exact (Option.some.inj hfirst).symm
  subst hstarted
  refine hhistory.returned index _ (List.getElem?_eq_getElem hindex) ?_
  rw [← List.length_eq_zero_iff]
  have hprogram : (startThread (call method)).remaining.length = (steps method).length :=
    congrArg List.length (program_call method)
  omega

theorem records_runSerially (file : File) (methods : List (StoreCall store)) :
    records (runSerially file methods) =
      (methods.map call).foldl (fun docs call => call.effect objectDb docs)
        (records file) :=
  load_serial objectDb file (methods.map call)

/-- The file after any number of lives, each killed between any two steps of the
methods it had running, holds the records that some methods leave when they run
one after the other to their ends: no method leaves half of its effect, and none
that returned is lost. -/
theorem killed_lives (file final : File) (lives : List (Life store))
    (hlives : run leave file lives = some final)
    (hcurrent : Meets leave (fun file life => life.Current file) file lives) :
    ∃ kept : List (List (StoreCall store)), List.Forall₂ Life.Kept lives kept ∧
      records final = records (runSerially file kept.flatten) := by
  induction lives generalizing file with
  | nil =>
      rw [run_nil, Option.some.injEq] at hlives
      exact ⟨[], List.Forall₂.nil, by rw [hlives]; rfl⟩
  | cons life lives ih =>
      obtain ⟨left, hleave, hrest⟩ := run_cons_eq_some_iff.1 hlives
      obtain ⟨kept, hkept, hrecords⟩ := kept_of_leave hleave hcurrent.1
      obtain ⟨later, hlater, hfinal⟩ := ih left hrest (hcurrent.2 left hleave)
      refine ⟨kept :: later, List.Forall₂.cons hkept hlater, ?_⟩
      rw [hfinal, List.flatten_cons, records_runSerially, hrecords,
        records_runSerially, records_runSerially, List.map_append, List.foldl_append]

end Lives

/-- The app is killed before the record's method returns; started again, it asks for
the record. -/
def favoriteLives : List (Life .favorites) :=
  [⟨overlappingFavorite, [1, 1, 0]⟩,
    ⟨[EbookFavorite.check (field "id" (.string "1"))], [0, 0]⟩]

theorem killed_lives_favorite :
    ∃ kept : List (List (StoreCall .favorites)),
      List.Forall₂ Life.Kept favoriteLives kept ∧
      records [.insert (withKey (.int 0) (field "id" (.string "1")))] =
        records (runSerially [] kept.flatten) :=
  killed_lives [] _ favoriteLives rfl
    (meets_cons (meets_current_of_isPlain objectDb isPlain_overlappingFavorite _) rfl
      (meets_cons (meets_current_of_isPlain objectDb
        (fun _ hcall => List.mem_singleton.1 hcall ▸ rfl) _) rfl trivial))

end EduEbook.EbookStores
