import EduEbook.Locator.ReadingPosition

/-!
# Reading positions through lives of the app

`updateItem` first updates the locators of a book and inserts one if there was none,
and the app may be killed after any step of it.  Meant is a position for each book.
This module follows the locators file through any number of books that are opened
and lives of the app, and shows that every book has one locator, with the fields
that were saved last, whatever was cut off.
-/

namespace EduEbook.Positions

open EduEbook.BookId
open EduEbook.EbookStores
open EduEbook.Json
open EduEbook.Locators
open EduEbook.LogStore
open EduEbook.ObjectDb
open EduEbook.ReadingPosition
open EduEbook.Runs

/-- A page opens a book in the reader, which resumes where the first locator of the
book says; the reader reports a position and it is saved; or the app is killed after
some steps of saving one, and started again. -/
inductive Event
  | openBook (opener : Opener) (id : ℤ)
  | locator (delivery : Delivery)
  | killed (delivery : Delivery) (steps : ℕ)

/-! ## The app -/

/-- The locators file, the listener of the reader, and `lastLocation`. -/
structure State where
  file : File
  reading : Option (Opener × ℤ)
  lastLocation : Option DartMap

/-- The method that the listener calls. -/
def listenerCall (opener : Opener) (id : ℤ) (delivery : Delivery) : EbookLocator :=
  .updateItem (savedMap opener (idString id) delivery.event) delivery.key

/-- The file after some steps of a method that runs alone. -/
def fileAfter (file : File) (method : EbookLocator) (steps : ℕ) : File :=
  ((method.steps.take steps).foldl (perform objectDb) (file, {})).1

def step (state : State) : Event → Option State
  | .openBook opener id => some
      { state with
        reading := some (opener, id)
        lastLocation := (getLocator (idString id) (records state.file)).head? }
  | .locator delivery =>
      state.reading.map fun (opener, id) =>
        { state with
          file := runAlone objectDb state.file (listenerCall opener id delivery).call }
  | .killed delivery steps =>
      state.reading.map fun (opener, id) =>
        ⟨fileAfter state.file (listenerCall opener id delivery) steps, none, none⟩

def start : State := ⟨[], none, none⟩

/-! ## The positions -/

/-- The position that the maps saved for a book make up, oldest first. -/
def position (maps : List DartMap) : Option DartMap :=
  if maps = [] then none else some (mergeAll maps)

/-- The maps that were saved for each book, by the text of its id. -/
structure Reader where
  saved : String → List DartMap
  reading : Option (Opener × ℤ)
  lastLocation : Option DartMap

/-- A map is saved for the book that its `bookId` names, if it names one. -/
def save (map : DartMap) (saved : String → List DartMap) : String → List DartMap :=
  match getValue map "bookId" with
  | .string bookId => Function.update saved bookId (saved bookId ++ [map])
  | _ => saved

/-- The steps after which a map is saved: it is merged into a locator that is there
before it could be inserted. -/
def stepsToSave (map : DartMap) (saved : String → List DartMap) : ℕ :=
  match getValue map "bookId" with
  | .string bookId => if saved bookId = [] then 3 else 2
  | _ => 0

def Reader.step (reader : Reader) : Event → Option Reader
  | .openBook opener id => some
      { reader with
        reading := some (opener, id)
        lastLocation := position (reader.saved (idString id)) }
  | .locator delivery =>
      reader.reading.map fun (opener, id) =>
        { reader with
          saved := save (savedMap opener (idString id) delivery.event) reader.saved }
  | .killed delivery steps =>
      reader.reading.map fun (opener, id) =>
        let map := savedMap opener (idString id) delivery.event
        ⟨if stepsToSave map reader.saved ≤ steps then save map reader.saved
          else reader.saved, none, none⟩

def Reader.start : Reader := ⟨fun _ => [], none, none⟩

/-- Equal up to the database's own key. -/
def SameFields (record position : DartMap) : Prop :=
  ∀ name, name ≠ "_id" → record.lookup name = position.lookup name

/-- Each book has one locator, which is its position, or neither. -/
def Located (locators : List DartMap) (saved : String → List DartMap) : Prop :=
  ∀ bookId, List.Forall₂ SameFields (getLocator bookId locators)
    (position (saved bookId)).toList

structure Keeps (state : State) (reader : Reader) : Prop where
  located : Located (records state.file) reader.saved
  reading_eq : state.reading = reader.reading
  lastLocation : Option.Rel SameFields state.lastLocation reader.lastLocation

/-! ## Saving -/

theorem sameFields_withKey (key : JsonValue) (map : DartMap) :
    SameFields (withKey key map) (mergeAll [map]) := by
  intro name hname
  rw [lookup_withKey hname, ← List.nil_append [map], mergeAll_append, lookup_merge,
    lookup_mergeAll_nil, Option.or_none]

theorem sameFields_merge {record : DartMap} {maps : List DartMap} (map : DartMap)
    (hrecord : SameFields record (mergeAll maps)) :
    SameFields (merge map record) (mergeAll (maps ++ [map])) := by
  intro name hname
  rw [mergeAll_append, lookup_merge, lookup_merge, hrecord name hname]

theorem position_append (maps : List DartMap) (map : DartMap) :
    position (maps ++ [map]) = some (mergeAll (maps ++ [map])) :=
  if_neg (List.append_ne_nil_of_right_ne_nil maps (List.cons_ne_nil map []))

section Save

variable {locators : List DartMap} {saved : String → List DartMap} {map : DartMap}
  {value : JsonValue} {bookId : String}

/-- A book has a locator exactly if something was saved for it. -/
theorem getLocator_eq_nil_iff (hlocated : Located locators saved) :
    getLocator bookId locators = [] ↔ saved bookId = [] := by
  have hlength := (hlocated bookId).length_eq
  rw [← List.length_eq_zero_iff, hlength, position]
  by_cases hsaved : saved bookId = []
  · rw [if_pos hsaved]
    exact iff_of_true rfl hsaved
  · rw [if_neg hsaved]
    exact iff_of_false Nat.one_ne_zero hsaved

theorem getValue_of_lookup (hbook : map.lookup "bookId" = some value) :
    getValue map "bookId" = value := by
  rw [getValue, hbook]
  rfl

theorem save_same (hbook : map.lookup "bookId" = some (.string bookId)) :
    save map saved bookId = saved bookId ++ [map] := by
  rw [save, getValue_of_lookup hbook]
  exact Function.update_self _ _ _

theorem save_other (hbook : map.lookup "bookId" = some value)
    (hother : value ≠ .string bookId) : save map saved bookId = saved bookId := by
  rw [save, getValue_of_lookup hbook]
  cases value with
  | string other =>
      refine Function.update_of_ne (fun hsame => hother ?_) _ _
      rw [hsame]
  | _ => rfl

/-- Saving a map merges it into the position of its book and leaves the others. -/
theorem located_updateItem (hlocated : Located locators saved)
    (hbook : map.lookup "bookId" = some value) (key : JsonValue) :
    Located (updateItem key map locators) (save map saved) := by
  intro bookId
  by_cases hkey : value = .string bookId
  · subst hkey
    rw [getLocator_updateItem_same hbook, save_same hbook, position_append]
    have hbefore := hlocated bookId
    by_cases hsaved : saved bookId = []
    · rw [if_pos ((getLocator_eq_nil_iff hlocated).2 hsaved), hsaved]
      exact List.Forall₂.cons (sameFields_withKey key map) List.Forall₂.nil
    · rw [if_neg fun hnone => hsaved ((getLocator_eq_nil_iff hlocated).1 hnone)]
      rw [position, if_neg hsaved] at hbefore
      rw [Option.toList_some, List.forall₂_map_left_iff]
      revert hbefore
      generalize getLocator bookId locators = docs
      intro hbefore
      cases hbefore with
      | cons hrecord hrest =>
          cases hrest
          exact List.Forall₂.cons (sameFields_merge map hrecord) List.Forall₂.nil
  · rw [getLocator_updateItem_other hbook hkey, save_other hbook hkey]
    exact hlocated bookId

end Save

/-! ## Saving that is cut off -/

section Killed

variable {file : File} {saved : String → List DartMap} {map : DartMap}

theorem update_of_unmatched {locators : List DartMap}
    (hnone : updated map locators = 0) : update map locators = locators := by
  have hunmatched : locators.any (objectDb.selects (bookQuery map)) = false :=
    List.any_eq_false.2 (List.countP_eq_zero.1 hnone)
  exact applyEntry_update_of_unmatched objectDb map hunmatched

/-- From its third step on, all that is left of the method is to close the file. -/
theorem fileAfter_add_three (file : File) (map : DartMap) (key : JsonValue) (more : ℕ) :
    fileAfter file (.updateItem map key) (more + 3) =
      runAlone objectDb file (EbookLocator.updateItem map key).call := by
  cases more with
  | zero => rfl
  | succ more =>
      rw [fileAfter, List.take_of_length_le (Nat.le_add_left 4 more)]
      rfl

/-- What a method leaves in the file when it is killed: its effect on the records once
it has taken enough steps, and nothing before that. -/
theorem records_fileAfter (file : File) (map : DartMap) (key : JsonValue) (steps : ℕ) :
    records (fileAfter file (.updateItem map key) steps) =
      if (if updated map (records file) = 0 then 3 else 2) ≤ steps then
        updateItem key map (records file)
      else records file := by
  match steps with
  | 0 =>
      rw [if_neg (by split <;> omega)]
      rfl
  | 1 =>
      rw [if_neg (by split <;> omega)]
      rfl
  | 2 =>
      have hupdated : records (fileAfter file (.updateItem map key) 2) =
          update map (records file) := load_append objectDb file _
      rw [hupdated, updateItem]
      by_cases hnone : updated map (records file) = 0
      · rw [if_pos hnone, if_pos hnone, if_neg (by omega), update_of_unmatched hnone]
      · rw [if_neg hnone, if_neg hnone, if_pos le_rfl]
  | more + 3 =>
      rw [fileAfter_add_three, records_updateItem, if_pos (by split <;> omega)]

/-- A killed call saves its map or leaves the positions as they were. -/
theorem located_fileAfter (hlocated : Located (records file) saved)
    {value : JsonValue} (hbook : map.lookup "bookId" = some value) (key : JsonValue)
    (steps : ℕ) :
    Located (records (fileAfter file (.updateItem map key) steps))
      (if stepsToSave map saved ≤ steps then save map saved else saved) := by
  have hsaved := located_updateItem hlocated hbook key
  rw [records_fileAfter]
  by_cases hstring : ∃ bookId, value = .string bookId
  · obtain ⟨bookId, rfl⟩ := hstring
    have hcount : updated map (records file) = 0 ↔ saved bookId = [] := by
      rw [updated_eq_length hbook, List.length_eq_zero_iff, getLocator_eq_nil_iff hlocated]
    have hsteps : stepsToSave map saved =
        if updated map (records file) = 0 then 3 else 2 := by
      rw [stepsToSave, getValue_of_lookup hbook]
      exact if_congr hcount.symm rfl rfl
    rw [hsteps]
    generalize (if updated map (records file) = 0 then 3 else 2) = needed
    split
    · exact hsaved
    · exact hlocated
  · -- A map that names no book is in no position, saved or not.
    have hsame : save map saved = saved :=
      funext fun bookId => save_other hbook fun hvalue => hstring ⟨bookId, hvalue⟩
    rw [hsame] at hsaved ⊢
    rw [ite_self]
    generalize (if updated map (records file) = 0 then 3 else 2) = needed
    split
    · exact hsaved
    · exact hlocated

end Killed

/-! ## Runs -/

section Run

variable {state : State} {reader : Reader}

theorem lastLocation_openBook {locators : List DartMap} {saved : String → List DartMap}
    (hlocated : Located locators saved) (bookId : String) :
    Option.Rel SameFields (getLocator bookId locators).head? (position (saved bookId)) := by
  have hbook := hlocated bookId
  revert hbook
  generalize getLocator bookId locators = docs
  generalize position (saved bookId) = place
  intro hbook
  cases place with
  | none =>
      cases hbook
      exact Option.Rel.none
  | some map =>
      cases hbook with
      | cons hrecord hrest => exact Option.Rel.some hrecord

theorem keeps_step (hkeeps : Keeps state reader) (event : Event) :
    Option.Rel Keeps (step state event) (reader.step event) := by
  cases event with
  | openBook opener id =>
      exact Option.Rel.some
        ⟨hkeeps.located, rfl, lastLocation_openBook hkeeps.located (idString id)⟩
  | locator delivery =>
      rw [step, Reader.step, hkeeps.reading_eq]
      cases reader.reading with
      | none => exact Option.Rel.none
      | some listener =>
          obtain ⟨opener, id⟩ := listener
          refine Option.Rel.some ⟨?_, rfl, hkeeps.lastLocation⟩
          have hsaved := located_updateItem hkeeps.located
            (lookup_savedMap_bookId opener (idString id) delivery.event) delivery.key
          rw [← records_updateItem] at hsaved
          exact hsaved
  | killed delivery steps =>
      rw [step, Reader.step, hkeeps.reading_eq]
      cases reader.reading with
      | none => exact Option.Rel.none
      | some listener =>
          obtain ⟨opener, id⟩ := listener
          exact Option.Rel.some ⟨located_fileAfter hkeeps.located
            (lookup_savedMap_bookId opener (idString id) delivery.event) delivery.key steps,
            rfl, Option.Rel.none⟩

theorem keeps_start : Keeps start Reader.start where
  located := fun _ => List.Forall₂.nil
  reading_eq := rfl
  lastLocation := Option.Rel.none

/-- Through any books that are opened and any lives of the app, each killed at any step
of saving a position, every book has at most one locator, with the fields that were
saved last for it, and the reader resumes there. -/
theorem resumes_run (events : List Event) :
    Option.Rel Keeps (run step start events) (run Reader.step Reader.start events) :=
  rel_run (fun _ _ event hkeeps => keeps_step hkeeps event) keeps_start events

end Run

end EduEbook.Positions
