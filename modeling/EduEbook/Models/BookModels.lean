import EduEbook.Models.Decoding
import EduEbook.Store.Records

/-!
# Catalogue books and stored favorites

A favorite is the encoding of the `EbookModel` that the catalogue was decoded
to, and the favorites pages decode it again.  The one field that decoding
changes is the rating, which becomes a double; encoding then loses nothing, so
the model that comes back is the one that was stored.
-/

namespace EduEbook.BookModels

open EduEbook.Checked
open EduEbook.Decoding
open EduEbook.EbookStores
open EduEbook.Json
open EduEbook.LogStore
open EduEbook.Models
open EduEbook.ObjectDb
open EduEbook.Records

def EbookModel.fromJson (value : JsonValue) : Except ErrorKind EbookModel := do
  let json ← asMap value
  let id ← readInt (entry json "id")
  let title ← readString (entry json "title")
  let photo ← readString (entry json "photo")
  let description ← readString (entry json "description")
  let catId ← readInt (entry json "cat_id")
  let statusNews ← readInt (entry json "status_news")
  let pdf ← readString (entry json "pdf")
  let date ← readString (entry json "date")
  let authorName ← readString (entry json "author_name")
  let publisherName ← readString (entry json "publisher_name")
  let pages ← readInt (entry json "pages")
  let language ← readString (entry json "language")
  let price ← readInt (entry json "price")
  let rating ← readDouble (entry json "rating")
  return { id, title, photo, description, catId, statusNews, pdf, date, authorName,
           publisherName, pages, language, price, rating := some rating }

/-- A wrapper around a list of books, whose one field is `pdf`. -/
abbrev EbookResultModel := Option (List EbookModel)

/-- Each element is decoded twice, the second time for a message in the log. -/
def EbookResultModel.fromJson :
    JsonValue → Except ErrorKind EbookResultModel :=
  listFromJson "pdf" fun value => do
    let model ← EbookModel.fromJson value
    let _ss ← EbookModel.fromJson value
    return model

def EbookResultModel.toJson : EbookResultModel → Except ErrorKind Entries :=
  listToJson "pdf" fun model => .ok model.toJson

/-- The model that the favorites page shows for a document of the listing. -/
def favoriteModel (favorite : DartMap) : Except ErrorKind EbookModel :=
  EbookModel.fromJson (getValue favorite "item")

def fieldKeys : List String :=
  ["id", "title", "photo", "description", "cat_id", "status_news", "pdf", "date",
    "author_name", "publisher_name", "pages", "language", "price", "rating"]

theorem toJson_keys (model : EbookModel) :
    model.toJson.map Prod.fst = fieldKeys := rfl

/-- What decoding a book has checked: each entry is the encoding of the field it
was assigned to, and the rating is a number. -/
theorem fromJson_eq_ok_iff {value : JsonValue} {model : EbookModel} :
    EbookModel.fromJson value = .ok model ↔
      ∃ json, value = .map json ∧
        (∃ rating, readDouble (entry json "rating") = .ok rating ∧
          model.rating = some rating) ∧
        ∀ field ∈ model.toJson, field.1 ≠ "rating" → entry json field.1 = field.2 := by
  simp only [EbookModel.fromJson, bind_eq_ok_iff, pure_eq_ok_iff, asMap_eq_ok_iff,
    readInt_eq_ok_iff, readString_eq_ok_iff]
  constructor
  · rintro ⟨json, rfl, id, hid, title, htitle, photo, hphoto, description,
      hdescription, catId, hcatId, statusNews, hstatusNews, pdf, hpdf, date, hdate,
      authorName, hauthorName, publisherName, hpublisherName, pages, hpages,
      language, hlanguage, price, hprice, rating, hrating, rfl⟩
    refine ⟨json, rfl, ⟨rating, hrating, rfl⟩, ?_⟩
    simp [EbookModel.toJson, hid, htitle, hphoto, hdescription, hcatId, hstatusNews,
      hpdf, hdate, hauthorName, hpublisherName, hpages, hlanguage, hprice]
  · rintro ⟨json, rfl, ⟨rating, hrating, hmodel⟩, hentries⟩
    simp only [EbookModel.toJson, List.forall_mem_cons] at hentries
    obtain ⟨hid, htitle, hphoto, hdescription, hcatId, hstatusNews, hpdf, hdate,
      hauthorName, hpublisherName, hpages, hlanguage, hprice, -⟩ := hentries
    refine ⟨json, rfl, _, hid (by decide), _, htitle (by decide), _,
      hphoto (by decide), _, hdescription (by decide), _, hcatId (by decide), _,
      hstatusNews (by decide), _, hpdf (by decide), _, hdate (by decide), _,
      hauthorName (by decide), _, hpublisherName (by decide), _,
      hpages (by decide), _, hlanguage (by decide), _, hprice (by decide), _,
      hrating, ?_⟩
    rw [← hmodel]

/-- The maps that are decoded to a book: numbers and texts where the fields are,
or null, and a rating that is a number. -/
def BookShape (value : JsonValue) : Prop :=
  (∃ json, value = .map json) ∧
    (∀ key ∈ ["id", "cat_id", "status_news", "pages", "price"],
      IntOrNull (valueAt value key)) ∧
    (∀ key ∈ ["title", "photo", "description", "pdf", "date", "author_name",
      "publisher_name", "language"], TextOrNull (valueAt value key)) ∧
    IsNumber (valueAt value "rating")

theorem bookShape_iff {value : JsonValue} :
    BookShape value ↔ ∃ model, EbookModel.fromJson value = .ok model := by
  simp only [BookShape, IntOrNull, TextOrNull, isNumber_iff, List.forall_mem_cons,
    EbookModel.fromJson, bind_eq_ok_iff, pure_eq_ok_iff, asMap_eq_ok_iff,
    readInt_eq_ok_iff, readString_eq_ok_iff]
  constructor
  · rintro ⟨⟨json, rfl⟩, ⟨⟨id, hid⟩, ⟨catId, hcatId⟩, ⟨statusNews, hstatusNews⟩,
      ⟨pages, hpages⟩, ⟨price, hprice⟩, -⟩, ⟨⟨title, htitle⟩, ⟨photo, hphoto⟩,
      ⟨description, hdescription⟩, ⟨pdf, hpdf⟩, ⟨date, hdate⟩,
      ⟨authorName, hauthorName⟩, ⟨publisherName, hpublisherName⟩,
      ⟨language, hlanguage⟩, -⟩, rating, hrating⟩
    exact ⟨_, json, rfl, id, hid, title, htitle, photo, hphoto, description,
      hdescription, catId, hcatId, statusNews, hstatusNews, pdf, hpdf, date, hdate,
      authorName, hauthorName, publisherName, hpublisherName, pages, hpages,
      language, hlanguage, price, hprice, rating, hrating, rfl⟩
  · rintro ⟨model, json, rfl, id, hid, title, htitle, photo, hphoto, description,
      hdescription, catId, hcatId, statusNews, hstatusNews, pdf, hpdf, date, hdate,
      authorName, hauthorName, publisherName, hpublisherName, pages, hpages,
      language, hlanguage, price, hprice, rating, hrating, -⟩
    exact ⟨⟨json, rfl⟩, ⟨⟨id, hid⟩, ⟨catId, hcatId⟩, ⟨statusNews, hstatusNews⟩,
      ⟨pages, hpages⟩, ⟨price, hprice⟩, List.forall_mem_nil _⟩, ⟨⟨title, htitle⟩,
      ⟨photo, hphoto⟩, ⟨description, hdescription⟩, ⟨pdf, hpdf⟩, ⟨date, hdate⟩,
      ⟨authorName, hauthorName⟩, ⟨publisherName, hpublisherName⟩,
      ⟨language, hlanguage⟩, List.forall_mem_nil _⟩, rating, hrating⟩

/-- A decoded book has a rating, and then its encoding decodes to it. -/
theorem fromJson_toJson {value : JsonValue} {model : EbookModel}
    (hmodel : EbookModel.fromJson value = .ok model) {item : Entries}
    (hitem : ∀ key, entry item key = entry model.toJson key) :
    EbookModel.fromJson (.map item) = .ok model := by
  obtain ⟨-, -, ⟨rating, -, hrating⟩, -⟩ := fromJson_eq_ok_iff.1 hmodel
  refine fromJson_eq_ok_iff.2 ⟨item, rfl, ⟨rating, ?_, hrating⟩, ?_⟩
  · have hentry : entry model.toJson "rating" = ofDouble (some rating) := by
      rw [← hrating]
      rfl
    rw [hitem, hentry]
    rfl
  · intro field hfield _
    rw [hitem]
    exact hasEntries_self (by rw [toJson_keys]; decide) field hfield

/-- The entries of an encoded book are those it was decoded from, with the
rating as the double that the number there is read as. -/
def KeepsEntries (json : JsonValue) (model : EbookModel) : Prop :=
  (∀ key ∈ fieldKeys, key ≠ "rating" → entry model.toJson key = valueAt json key) ∧
    ∃ rating, readDouble (valueAt json "rating") = .ok rating ∧
      entry model.toJson "rating" = .double rating ∧
      (SameJson (.double rating) (valueAt json "rating") ↔
        ExactNumber (valueAt json "rating"))

theorem keepsEntries_of_fromJson {json : JsonValue} {model : EbookModel}
    (hmodel : EbookModel.fromJson json = .ok model) : KeepsEntries json model := by
  obtain ⟨entries, rfl, ⟨rating, hread, hrating⟩, hentries⟩ :=
    fromJson_eq_ok_iff.1 hmodel
  refine ⟨?_, rating, hread, ?_, sameJson_readDouble_iff hread⟩
  · intro key hkey hne
    rw [← toJson_keys model] at hkey
    obtain ⟨field, hfield, rfl⟩ := List.mem_map.1 hkey
    rw [valueAt, hentries field hfield hne]
    exact hasEntries_self (by rw [toJson_keys]; decide) field hfield
  · have hentry : entry model.toJson "rating" = ofDouble model.rating := rfl
    rw [hentry, hrating]
    rfl

theorem decodeTwice_eq (value : JsonValue) :
    (do
      let model ← EbookModel.fromJson value
      let _ss ← EbookModel.fromJson value
      return model) = EbookModel.fromJson value := by
  cases EbookModel.fromJson value <;> rfl

theorem resultFromJson_eq :
    EbookResultModel.fromJson = listFromJson "pdf" EbookModel.fromJson := by
  rw [EbookResultModel.fromJson]
  exact congrArg (listFromJson "pdf") (funext decodeTwice_eq)

theorem resultFromJson_accepts_iff {response : JsonValue} :
    (∃ result, EbookResultModel.fromJson response = .ok result) ↔
      ListShape "pdf" BookShape response := by
  rw [resultFromJson_eq]
  exact listFromJson_accepts_iff fun _ => bookShape_iff

/-- A decoded catalogue encodes to a map that decodes to it. -/
theorem resultFromJson_toJson {response : JsonValue} {result : EbookResultModel}
    (hresult : EbookResultModel.fromJson response = .ok result) :
    ∃ encoded, EbookResultModel.toJson result = .ok encoded ∧
      EbookResultModel.fromJson (.map encoded) = .ok result := by
  rw [resultFromJson_eq] at hresult ⊢
  obtain ⟨-, ⟨-, rfl⟩ | ⟨elements, models, -, rfl, hmodels⟩⟩ :=
    listFromJson_eq_ok_iff.1 hresult
  · exact ⟨[], rfl, rfl⟩
  · have hback : ∀ model ∈ models,
        EbookModel.fromJson (.map model.toJson) = .ok model :=
      (List.forall₂_and_left _ _).1 (hmodels.flip.imp fun model element hmodel =>
        ⟨fromJson_toJson hmodel fun _ => rfl, hmodel⟩) |>.1
    refine ⟨_, listToJson_some_eq_ok_iff.2
      ⟨models.map EbookModel.toJson, ?_, rfl⟩, listFromJson_encoded.2 ?_⟩
    · rw [List.forall₂_map_right_iff]
      exact List.forall₂_same.2 fun model _ => rfl
    · rw [List.forall₂_map_left_iff]
      exact List.forall₂_same.2 hback

/-- Values that are written and read back as the same JSON: a map may come back
with its entries in another order. -/
def JsonEqual : JsonValue → JsonValue → Prop
  | .map left, .map right => ∀ key, entry left key = entry right key
  | left, right => left = right

theorem fromJson_of_jsonEqual {json value : JsonValue} {model : EbookModel}
    (hmodel : EbookModel.fromJson json = .ok model)
    (hvalue : JsonEqual value (.map model.toJson)) :
    EbookModel.fromJson value = .ok model := by
  cases value with
  | map item => exact fromJson_toJson hmodel hvalue
  | _ => cases hvalue

theorem lookup_item_toMap (record : FavoriteRecord) :
    record.toMap.lookup "item" = some (.map record.item.toJson) := by
  rw [FavoriteRecord.toMap, Finmap.lookup_insert]

/-- What is stored for a book comes back as its model, from whatever document
the database returns for it. -/
theorem favoriteModel_addFavorites {json : JsonValue} {model : EbookModel}
    (hmodel : EbookModel.fromJson json = .ok model) (file : File) (id : String)
    (key : JsonValue) :
    ∃ stored, records (runAlone objectDb file
        (EbookFavorite.addFavorites (FavoriteRecord.toMap ⟨id, model⟩) key).call) =
        records file ++ [stored] ∧
      ∀ returned : DartMap,
        JsonEqual (getValue returned "item") (getValue stored "item") →
          favoriteModel returned = .ok model := by
  refine ⟨withKey key (FavoriteRecord.toMap ⟨id, model⟩), ?_, ?_⟩
  · rw [records, load_runAlone]
    rfl
  · intro returned hreturned
    have hitem : getValue (withKey key (FavoriteRecord.toMap ⟨id, model⟩)) "item" =
        .map model.toJson := by
      rw [getValue, lookup_withKey (by decide), lookup_item_toMap]
      rfl
    rw [hitem] at hreturned
    exact fromJson_of_jsonEqual hmodel hreturned

/-- Decoding and encoding lose nothing but digits of a rating that no double
holds: the map, the catalogue and a stored favorite all decode to the same
models again. -/
theorem favorite_restored :
    (∀ json model, EbookModel.fromJson json = .ok model →
      EbookModel.fromJson (.map model.toJson) = .ok model ∧
        KeepsEntries json model) ∧
    (∀ response result, EbookResultModel.fromJson response = .ok result →
      ∃ encoded, EbookResultModel.toJson result = .ok encoded ∧
        EbookResultModel.fromJson (.map encoded) = .ok result) ∧
    ∀ json model, EbookModel.fromJson json = .ok model →
      ∀ (file : File) (id : String) (key : JsonValue),
        ∃ stored, records (runAlone objectDb file
            (EbookFavorite.addFavorites (FavoriteRecord.toMap ⟨id, model⟩)
              key).call) = records file ++ [stored] ∧
          ∀ returned : DartMap,
            JsonEqual (getValue returned "item") (getValue stored "item") →
              favoriteModel returned = .ok model := by
  refine ⟨?_, ?_, ?_⟩
  · intro json model hmodel
    exact ⟨fromJson_toJson hmodel fun _ => rfl, keepsEntries_of_fromJson hmodel⟩
  · intro response result hresult
    exact resultFromJson_toJson hresult
  · intro json model hmodel file id key
    exact favoriteModel_addFavorites hmodel file id key

/-- A book with a title and a rating only. -/
def ratedBook (rating : JsonValue) : Entries :=
  [("title", .string "Tafsir"), ("rating", rating)]

def ratedModel (rating : DartDouble) : EbookModel :=
  ⟨none, some "Tafsir", none, none, none, none, none, none, none, none, none, none,
    none, some rating⟩

theorem favorite_restored_rated :
    EbookModel.fromJson (.map (ratedModel (.finite 4)).toJson) =
        .ok (ratedModel (.finite 4)) ∧
      (∃ encoded, EbookResultModel.toJson (some [ratedModel (.finite 4)]) =
          .ok encoded ∧
        EbookResultModel.fromJson (.map encoded) =
          .ok (some [ratedModel (.finite 4)])) ∧
      ∃ stored, records (runAlone objectDb []
          (EbookFavorite.addFavorites
            (FavoriteRecord.toMap ⟨"1", ratedModel (.finite 4)⟩) (.int 0)).call) =
          records [] ++ [stored] ∧
        favoriteModel stored = .ok (ratedModel (.finite 4)) := by
  refine ⟨(favorite_restored.1 (.map (ratedBook (.int 4))) _ rfl).1,
    favorite_restored.2.1 (.map [("pdf", .list [.map (ratedBook (.int 4))])]) _ rfl,
    ?_⟩
  obtain ⟨stored, hstored, hreturned⟩ := favorite_restored.2.2
    (.map (ratedBook (.int 4))) (ratedModel (.finite 4)) rfl [] "1" (.int 0)
  refine ⟨stored, hstored, hreturned stored ?_⟩
  cases getValue stored "item" with
  | map item => exact fun _ => rfl
  | _ => rfl

/-- 2 ^ 53 + 1 is the first integer that is not a double. -/
theorem rating_rounded :
    ¬∀ json model, EbookModel.fromJson json = .ok model →
      ∀ key ∈ fieldKeys, SameJson (entry model.toJson key) (valueAt json key) := by
  intro hall
  have hrounded := hall (.map (ratedBook (.int 9007199254740993)))
    (ratedModel (.finite 9007199254740992)) (by rfl) "rating" (by decide)
  have hdiffers : ¬SameJson (.double (.finite 9007199254740992))
      (.int 9007199254740993) := by
    simp [SameJson, sameValue]
  exact hdiffers hrounded

end EduEbook.BookModels
