import EduEbook.Store.EbookStores

/-!
# The locator store, operation by operation

`updateItem` is an update followed by an insertion that depends on the count the
update returned.  The lemmas here say what each of the two does to the locators
of one book, for the book named by the map's `bookId` and for every other book.
-/

namespace EduEbook.Locators

open EduEbook.EbookStores
open EduEbook.Json
open EduEbook.LogStore
open EduEbook.ObjectDb

/-- The query `{'bookId': map['bookId']}`. -/
def bookQuery (map : DartMap) : DartMap := field "bookId" (getValue map "bookId")

/-- `database.update({'bookId': map['bookId']}, map)` on the stored records. -/
def update (map : DartMap) (locators : List DartMap) : List DartMap :=
  locators.map fun record =>
    if selects (bookQuery map) record then merge map record else record

/-- The count that the update returns. -/
def updated (map : DartMap) (locators : List DartMap) : ℕ :=
  locators.countP (selects (bookQuery map))

def insert (key : JsonValue) (map : DartMap) (locators : List DartMap) :
    List DartMap := locators ++ [withKey key map]

def updateItem (key : JsonValue) (map : DartMap) (locators : List DartMap) :
    List DartMap :=
  if updated map locators = 0 then insert key map (update map locators)
  else update map locators

def getLocator (id : String) (locators : List DartMap) : List DartMap :=
  locators.filter (selects (field "bookId" (.string id)))

/-- Run alone, the method does to the records of the file what `updateItem`
does to the list of them. -/
theorem records_updateItem (file : File) (key : JsonValue) (map : DartMap) :
    records (runAlone objectDb file (EbookLocator.updateItem map key).call) =
      updateItem key map (records file) := by
  rw [records, load_runAlone]
  change (if (load objectDb file).any (selects (bookQuery map)) = true then
    update map (load objectDb file) else load objectDb file ++ [withKey key map]) = _
  by_cases hany : (load objectDb file).any (selects (bookQuery map)) = true
  · have hcount : ¬ updated map (load objectDb file) = 0 := by
      obtain ⟨record, hrecord, hselected⟩ := List.any_eq_true.1 hany
      exact (List.countP_pos_iff.2 ⟨record, hrecord, hselected⟩).ne'
    rw [if_pos hany, updateItem, if_neg hcount]
  · have hnone : (load objectDb file).any (selects (bookQuery map)) = false :=
      Bool.eq_false_iff.2 hany
    have hcount : updated map (load objectDb file) = 0 :=
      List.countP_eq_zero.2 (List.any_eq_false.1 hnone)
    rw [if_neg hany, updateItem, if_pos hcount, insert]
    have hsame : update map (load objectDb file) = load objectDb file := by
      change applyEntry objectDb _ (.update (bookQuery map) map) = _
      exact applyEntry_update_of_unmatched objectDb map hnone
    rw [hsame]

theorem getLocator_cons (id : String) (record : DartMap)
    (locators : List DartMap) : getLocator id (record :: locators) =
      if selects (field "bookId" (.string id)) record = true then
        record :: getLocator id locators
      else getLocator id locators := List.filter_cons

theorem update_cons (map record : DartMap) (locators : List DartMap) :
    update map (record :: locators) =
      (if selects (bookQuery map) record then merge map record else record) ::
        update map locators := rfl

section OneMap

variable {key value : JsonValue} {map : DartMap} {id : String}

theorem selects_bookQuery (hbook : map.lookup "bookId" = some value)
    (record : DartMap) : selects (bookQuery map) record =
      match record.lookup "bookId" with
      | some stored => sameValue stored value
      | none => false := by
  rw [bookQuery, selects_field, getValue, hbook]
  rfl

theorem bookQuery_of_string (hbook : map.lookup "bookId" = some (.string id)) :
    bookQuery map = field "bookId" (.string id) := by
  rw [bookQuery, getValue, hbook]
  rfl

theorem selects_merge (hbook : map.lookup "bookId" = some value)
    (record : DartMap) :
    selects (field "bookId" (.string id)) (merge map record) = true ↔
      value = .string id := by
  rw [selects_string_iff, lookup_merge, hbook, Option.some_or, Option.some.injEq]

/-- An update for another `bookId` does not touch the locators of this book. -/
theorem getLocator_update_other (hbook : map.lookup "bookId" = some value)
    (hother : value ≠ .string id) (locators : List DartMap) :
    getLocator id (update map locators) = getLocator id locators := by
  induction locators with
  | nil => rfl
  | cons record locators ih =>
      rw [update_cons, getLocator_cons, getLocator_cons, ih]
      by_cases hselected : selects (bookQuery map) record = true
      · have hmerged : ¬ selects (field "bookId" (.string id))
            (merge map record) = true := by
          rw [selects_merge hbook]
          exact hother
        have hrecord : ¬ selects (field "bookId" (.string id)) record = true := by
          intro hbookId
          rw [selects_string_iff] at hbookId
          rw [selects_bookQuery hbook, hbookId] at hselected
          exact hother (string_sameValue_iff.1 hselected)
        rw [if_pos hselected, if_neg hmerged, if_neg hrecord]
      · rw [if_neg hselected]

/-- An update for this book merges the map into each of its locators. -/
theorem getLocator_update_same
    (hbook : map.lookup "bookId" = some (.string id)) (locators : List DartMap) :
    getLocator id (update map locators) =
      (getLocator id locators).map (merge map) := by
  induction locators with
  | nil => rfl
  | cons record locators ih =>
      rw [update_cons, getLocator_cons, getLocator_cons, ih,
        bookQuery_of_string hbook]
      by_cases hselected : selects (field "bookId" (.string id)) record = true
      · rw [if_pos hselected, if_pos hselected,
          if_pos ((selects_merge hbook record).2 rfl), List.map_cons]
      · rw [if_neg hselected, if_neg hselected, if_neg hselected]

theorem getLocator_insert_other (hbook : map.lookup "bookId" = some value)
    (hother : value ≠ .string id) (locators : List DartMap) :
    getLocator id (insert key map locators) = getLocator id locators := by
  have hmap : ¬ selects (field "bookId" (.string id)) (withKey key map) = true := by
    rw [selects_string_iff, lookup_withKey_of_some hbook, Option.some.injEq]
    exact hother
  rw [getLocator, insert, List.filter_append, List.filter_cons_of_neg hmap,
    List.filter_nil, List.append_nil, getLocator]

theorem getLocator_insert_same
    (hbook : map.lookup "bookId" = some (.string id)) (locators : List DartMap) :
    getLocator id (insert key map locators) =
      getLocator id locators ++ [withKey key map] := by
  have hmap : selects (field "bookId" (.string id)) (withKey key map) = true := by
    rw [selects_string_iff, lookup_withKey_of_some hbook]
  rw [getLocator, insert, List.filter_append, List.filter_cons_of_pos hmap,
    List.filter_nil, getLocator]

/-- The update returns the number of locators the book has. -/
theorem updated_eq_length (hbook : map.lookup "bookId" = some (.string id))
    (locators : List DartMap) :
    updated map locators = (getLocator id locators).length := by
  rw [updated, bookQuery_of_string hbook, List.countP_eq_length_filter, getLocator]

theorem getLocator_updateItem_other (hbook : map.lookup "bookId" = some value)
    (hother : value ≠ .string id) (locators : List DartMap) :
    getLocator id (updateItem key map locators) = getLocator id locators := by
  rw [updateItem]
  split
  · rw [getLocator_insert_other hbook hother,
      getLocator_update_other hbook hother]
  · exact getLocator_update_other hbook hother locators

/-- A correct upsert, when nothing comes between its two operations. -/
theorem getLocator_updateItem_same
    (hbook : map.lookup "bookId" = some (.string id)) (locators : List DartMap) :
    getLocator id (updateItem key map locators) =
      if getLocator id locators = [] then [withKey key map]
      else (getLocator id locators).map (merge map) := by
  by_cases hnone : getLocator id locators = []
  · have hcount : updated map locators = 0 := by
      rw [updated_eq_length hbook, hnone, List.length_nil]
    rw [if_pos hnone, updateItem, if_pos hcount, getLocator_insert_same hbook,
      getLocator_update_same hbook, hnone]
    rfl
  · have hcount : ¬ updated map locators = 0 := by
      rw [updated_eq_length hbook, List.length_eq_zero_iff]
      exact hnone
    rw [if_neg hnone, updateItem, if_neg hcount, getLocator_update_same hbook]

end OneMap

end EduEbook.Locators
