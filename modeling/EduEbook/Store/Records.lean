import EduEbook.Data.EbookModel
import EduEbook.Store.EbookStores

/-!
# Download and favorite records

The pages only ever write records of one shape to the downloads store and of
one shape to the favorites store, and select them by `id`.  This module gives
these records types of their own and shows that inserting, removing and selecting by
id do the same to documents and to the rows they stand for.
-/

namespace EduEbook.Records

open EduEbook.EbookStores
open EduEbook.Json
open EduEbook.LogStore
open EduEbook.Models
open EduEbook.ObjectDb

/-- The map that a finished download records. -/
structure DownloadRecord where
  id : String
  path : String
  image : String
  size : String
  name : String
  deriving DecidableEq

def DownloadRecord.toMap (record : DownloadRecord) : DartMap :=
  ((((field "id" (.string record.id)).insert "path" (.string record.path)).insert
    "image" (.string record.image)).insert "size" (.string record.size)).insert
    "name" (.string record.name)

/-- The map that the heart button records. -/
structure FavoriteRecord where
  id : String
  item : EbookModel
  deriving DecidableEq

def FavoriteRecord.toMap (record : FavoriteRecord) : DartMap :=
  (field "id" (.string record.id)).insert "item" (.map record.item.toJson)

section Rows

variable {Row : Type} (toMap : Row → DartMap) (rowId : Row → String)

/-- The stored documents are these rows, up to the keys of the database. -/
def Stored (docs : List DartMap) (rows : List Row) : Prop :=
  List.Forall₂ (fun doc row =>
    ∀ name, name ≠ "_id" → doc.lookup name = (toMap row).lookup name) docs rows

theorem stored_insert {docs : List DartMap} {rows : List Row} (row : Row)
    (key : JsonValue) (hstored : Stored toMap docs rows) :
    Stored toMap (docs ++ [withKey key (toMap row)]) (rows ++ [row]) := by
  refine List.rel_append hstored (List.Forall₂.cons ?_ List.Forall₂.nil)
  intro name hname
  exact lookup_withKey hname

variable {toMap rowId}

/-- A document and the row it stands for are selected by the same ids. -/
theorem selects_id_iff
    (hid : ∀ row, (toMap row).lookup "id" = some (.string (rowId row)))
    {doc : DartMap} {row : Row}
    (hdoc : ∀ name, name ≠ "_id" → doc.lookup name = (toMap row).lookup name)
    (id : String) :
    selects (field "id" (.string id)) doc = true ↔ rowId row = id := by
  rw [selects_string_iff, hdoc "id" (by decide), hid, Option.some.injEq,
    JsonValue.string.injEq]

theorem stored_check
    (hid : ∀ row, (toMap row).lookup "id" = some (.string (rowId row)))
    {docs : List DartMap} {rows : List Row} (id : String)
    (hstored : Stored toMap docs rows) :
    Stored toMap (docs.filter (selects (field "id" (.string id))))
      (rows.filter fun row => rowId row = id) := by
  refine List.rel_filter (fun doc row hdoc => ?_) hstored
  beta_reduce
  rw [decide_eq_true_iff]
  exact selects_id_iff hid hdoc id

theorem stored_remove
    (hid : ∀ row, (toMap row).lookup "id" = some (.string (rowId row)))
    {docs : List DartMap} {rows : List Row} (id : String)
    (hstored : Stored toMap docs rows) :
    Stored toMap
      (docs.filter fun doc => !selects (field "id" (.string id)) doc)
      (rows.filter fun row => rowId row ≠ id) := by
  refine List.rel_filter (fun doc row hdoc => ?_) hstored
  beta_reduce
  rw [decide_eq_true_iff, Bool.not_eq_true', Bool.eq_false_iff]
  exact not_congr (selects_id_iff hid hdoc id)

end Rows

/-! ## The downloads store -/

def removeDownload (id : String) (downloads : List DownloadRecord) :
    List DownloadRecord := downloads.filter fun record => record.id ≠ id

/-- What `EbookDownload.check({'id': id})` returns. -/
def checkDownloads (id : String) (downloads : List DownloadRecord) :
    List DownloadRecord := downloads.filter fun record => record.id = id

theorem lookup_id_toMap (record : DownloadRecord) :
    record.toMap.lookup "id" = some (.string record.id) := by
  rw [DownloadRecord.toMap, Finmap.lookup_insert_of_ne _ (by decide),
    Finmap.lookup_insert_of_ne _ (by decide),
    Finmap.lookup_insert_of_ne _ (by decide),
    Finmap.lookup_insert_of_ne _ (by decide), field, Finmap.lookup_singleton_eq]

theorem lookup_path_toMap (record : DownloadRecord) :
    record.toMap.lookup "path" = some (.string record.path) := by
  rw [DownloadRecord.toMap, Finmap.lookup_insert_of_ne _ (by decide),
    Finmap.lookup_insert_of_ne _ (by decide),
    Finmap.lookup_insert_of_ne _ (by decide), Finmap.lookup_insert]

/-! ## The favorites store -/

def addFavorites (record : FavoriteRecord) (favorites : List FavoriteRecord) :
    List FavoriteRecord := favorites ++ [record]

def removeFavorites (id : String) (favorites : List FavoriteRecord) :
    List FavoriteRecord := favorites.filter fun record => record.id ≠ id

/-- What `EbookFavorite.check({'id': id})` returns. -/
def checkFavorites (id : String) (favorites : List FavoriteRecord) :
    List FavoriteRecord := favorites.filter fun record => record.id = id

theorem lookup_id_favorite_toMap (record : FavoriteRecord) :
    record.toMap.lookup "id" = some (.string record.id) := by
  rw [FavoriteRecord.toMap, Finmap.lookup_insert_of_ne _ (by decide), field,
    Finmap.lookup_singleton_eq]

abbrev StoredFavorites (file : File) (favorites : List FavoriteRecord) : Prop :=
  Stored FavoriteRecord.toMap (records file) favorites

end EduEbook.Records
