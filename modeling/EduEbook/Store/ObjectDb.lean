import EduEbook.Data.Json
import EduEbook.Library.LogStore

/-!
# ObjectDB files of Dart maps

What is assumed of the `objectdb` package: a query map selects the records that have
an equal value for every field of the query, an update merges its fields into every
selected record, and an inserted map gets a `_id` of the database's own unless it
already has one.
-/

namespace EduEbook.ObjectDb

open EduEbook.Json
open EduEbook.LogStore

/-- The empty query selects every record. -/
def selects (query record : DartMap) : Bool :=
  query.all fun key value =>
    match record.lookup key with
    | some stored => sameValue stored value
    | none => false

/-- The given fields replace those of the record, the others stay. -/
def merge (changes record : DartMap) : DartMap := changes ∪ record

def objectDb : Semantics DartMap DartMap := ⟨selects, merge⟩

/-- The map as `insert` stores it. -/
def withKey (key : JsonValue) (map : DartMap) : DartMap :=
  match map.lookup "_id" with
  | some _ => map
  | none => map.insert "_id" key

/-- The query of one field, the only kind the stores build themselves. -/
def field (name : String) (value : JsonValue) : DartMap :=
  Finmap.singleton name value

abbrev File := List (Entry DartMap DartMap)

/-- The records a file holds. -/
abbrev records (file : File) : List DartMap := load objectDb file

theorem selects_field (name : String) (value : JsonValue) (record : DartMap) :
    selects (field name value) record =
      match record.lookup name with
      | some stored => sameValue stored value
      | none => false := rfl

/-- A string field is matched by that string and nothing else. -/
@[simp]
theorem selects_string_iff {name text : String} {record : DartMap} :
    selects (field name (.string text)) record = true ↔
      record.lookup name = some (.string text) := by
  rw [selects_field]
  cases record.lookup name with
  | none => simp
  | some stored => simp

theorem lookup_merge (changes record : DartMap) (key : String) :
    (merge changes record).lookup key =
      (changes.lookup key).or (record.lookup key) := by
  by_cases hkey : key ∈ changes
  · rw [merge, Finmap.lookup_union_left hkey]
    obtain ⟨value, hvalue⟩ := Finmap.mem_iff.1 hkey
    rw [hvalue, Option.some_or]
  · rw [merge, Finmap.lookup_union_right hkey, Finmap.lookup_eq_none.2 hkey,
      Option.none_or]

theorem lookup_withKey {key : JsonValue} {map : DartMap} {name : String}
    (hname : name ≠ "_id") : (withKey key map).lookup name = map.lookup name := by
  rw [withKey]
  split
  · rfl
  · exact Finmap.lookup_insert_of_ne map hname

/-- The database never replaces a field that the inserted map has. -/
theorem lookup_withKey_of_some {key value : JsonValue} {map : DartMap}
    {name : String} (hvalue : map.lookup name = some value) :
    (withKey key map).lookup name = some value := by
  by_cases hname : name = "_id"
  · subst hname
    rw [withKey, hvalue]
    exact hvalue
  · rw [lookup_withKey hname, hvalue]

end EduEbook.ObjectDb
