import EduEbook.Models.Decoding

/-!
# The other models of the API

Each of these models is decoded from a map and encoded to one by hand, and each
comes in a wrapper that holds a list of them.  Three of the six do something to
an entry on the way: the average becomes a double, the expiry date a list whose
elements are checked when they are read, and a missing name of a rating the text
`null`.
-/

namespace EduEbook.ApiModels

open EduEbook.Checked
open EduEbook.Decoding
open EduEbook.Json
open EduEbook.Models

structure EbookCategoryResult where
  catId : Option ℤ
  photoCat : Option String
  name : Option String
  status : Option ℤ

def EbookCategoryResult.fromJson (value : JsonValue) :
    Except ErrorKind EbookCategoryResult := do
  let json ← asMap value
  let catId ← readInt (entry json "cat_id")
  let photoCat ← readString (entry json "photo_cat")
  let name ← readString (entry json "name")
  let status ← readInt (entry json "status")
  return { catId, photoCat, name, status }

def EbookCategoryResult.toJson (model : EbookCategoryResult) : Entries :=
  [("cat_id", ofInt model.catId),
    ("photo_cat", ofString model.photoCat),
    ("name", ofString model.name),
    ("status", ofInt model.status)]

/-- A list after `cast<String>()`: each element is checked when it is read. -/
structure CastList where
  source : List JsonValue

/-- `value.cast<String>()`, a method that of the decoded values only lists have
with one type argument. -/
def castStrings : JsonValue → Except ErrorKind CastList
  | .list elements => .ok ⟨elements⟩
  | _ => .error .noSuchMethodError

/-- Read the elements of a cast list. -/
def CastList.read (list : CastList) : Except ErrorKind (List (Option String)) :=
  list.source.mapM readString

structure EbookCCModel where
  cardNumber : Option String
  expiryDate : CastList
  cardName : Option String
  cvvCode : Option String
  idGoogleCc : Option String

def EbookCCModel.fromJson (value : JsonValue) : Except ErrorKind EbookCCModel := do
  let json ← asMap value
  let cardNumber ← readString (entry json "card_number")
  let expiryDate ← castStrings (entry json "expiry_date")
  let cardName ← readString (entry json "card_name")
  let cvvCode ← readString (entry json "cvv_code")
  let idGoogleCc ← readString (entry json "id_google_cc")
  return { cardNumber, expiryDate, cardName, cvvCode, idGoogleCc }

/-- The encoded map holds the cast list itself; the values here are those that
reading the map yields, so an element of the list that is no string throws. -/
def EbookCCModel.toJson (model : EbookCCModel) : Except ErrorKind Entries := do
  let expiryDate ← model.expiryDate.read
  return [("card_number", ofString model.cardNumber),
    ("expiry_date", .list (expiryDate.map ofString)),
    ("card_name", ofString model.cardName),
    ("cvv_code", ofString model.cvvCode),
    ("id_google_cc", ofString model.idGoogleCc)]

structure EbookGlobalRating where
  total : Option ℤ
  average : Option DartDouble

def EbookGlobalRating.fromJson (value : JsonValue) :
    Except ErrorKind EbookGlobalRating := do
  let json ← asMap value
  let total ← readInt (entry json "total")
  let average ← readDouble (entry json "average")
  return { total, average := some average }

def EbookGlobalRating.toJson (model : EbookGlobalRating) : Entries :=
  [("total", ofInt model.total),
    ("average", ofDouble model.average)]

structure EbookPaymentsModel where
  idProduct : Option String
  idUser : Option String

def EbookPaymentsModel.fromJson (value : JsonValue) :
    Except ErrorKind EbookPaymentsModel := do
  let json ← asMap value
  let idProduct ← readString (entry json "id_product")
  let idUser ← readString (entry json "id_user")
  return { idProduct, idUser }

def EbookPaymentsModel.toJson (model : EbookPaymentsModel) : Entries :=
  [("id_product", ofString model.idProduct),
    ("id_user", ofString model.idUser)]

structure EbookRatingsModelResult where
  name : Option String
  photo : Option String
  dates : Option String
  comment : Option String
  rating : Option String
  idUser : Option String

/-- `(name as String).toString()`, which makes the text `null` of a null name. -/
def nameToString (name : Option String) : String := name.getD "null"

def EbookRatingsModelResult.fromJson (value : JsonValue) :
    Except ErrorKind EbookRatingsModelResult := do
  let json ← asMap value
  let name ← readString (entry json "name")
  let photo ← readString (entry json "photo")
  let dates ← readString (entry json "dates")
  let comment ← readString (entry json "comment")
  let rating ← readString (entry json "rating")
  let idUser ← readString (entry json "id_user")
  return { name := some (nameToString name), photo, dates, comment, rating, idUser }

def EbookRatingsModelResult.toJson (model : EbookRatingsModelResult) : Entries :=
  [("name", ofString model.name),
    ("photo", ofString model.photo),
    ("dates", ofString model.dates),
    ("comment", ofString model.comment),
    ("rating", ofString model.rating),
    ("id_user", ofString model.idUser)]

structure EbookTitle where
  slider : Option ℤ
  titleKeyword1 : Option String
  fieldKeyword1 : Option String
  titleKeyword2 : Option String
  fieldKeyword2 : Option String

def EbookTitle.fromJson (value : JsonValue) : Except ErrorKind EbookTitle := do
  let json ← asMap value
  let slider ← readInt (entry json "slider")
  let titleKeyword1 ← readString (entry json "title_keyword1")
  let fieldKeyword1 ← readString (entry json "field_keyword1")
  let titleKeyword2 ← readString (entry json "title_keyword2")
  let fieldKeyword2 ← readString (entry json "field_keyword2")
  return { slider, titleKeyword1, fieldKeyword1, titleKeyword2, fieldKeyword2 }

def EbookTitle.toJson (model : EbookTitle) : Entries :=
  [("slider", ofInt model.slider),
    ("title_keyword1", ofString model.titleKeyword1),
    ("field_keyword1", ofString model.fieldKeyword1),
    ("title_keyword2", ofString model.titleKeyword2),
    ("field_keyword2", ofString model.fieldKeyword2)]

/-! ## The wrappers -/

def EbookCategoryModel.fromJson :
    JsonValue → Except ErrorKind (Option (List EbookCategoryResult)) :=
  listFromJson "category" EbookCategoryResult.fromJson

def EbookCategoryModel.toJson :
    Option (List EbookCategoryResult) → Except ErrorKind Entries :=
  listToJson "category" fun model => .ok model.toJson

def EbookCCModelResult.fromJson :
    JsonValue → Except ErrorKind (Option (List EbookCCModel)) :=
  listFromJson "pdf" EbookCCModel.fromJson

def EbookCCModelResult.toJson :
    Option (List EbookCCModel) → Except ErrorKind Entries :=
  listToJson "pdf" EbookCCModel.toJson

def EbookGlobalRatingResult.fromJson :
    JsonValue → Except ErrorKind (Option (List EbookGlobalRating)) :=
  listFromJson "pdf" EbookGlobalRating.fromJson

def EbookGlobalRatingResult.toJson :
    Option (List EbookGlobalRating) → Except ErrorKind Entries :=
  listToJson "pdf" fun model => .ok model.toJson

def EbookPaymentsModelResult.fromJson :
    JsonValue → Except ErrorKind (Option (List EbookPaymentsModel)) :=
  listFromJson "pdf" EbookPaymentsModel.fromJson

def EbookPaymentsModelResult.toJson :
    Option (List EbookPaymentsModel) → Except ErrorKind Entries :=
  listToJson "pdf" fun model => .ok model.toJson

def EbookRatingsModel.fromJson :
    JsonValue → Except ErrorKind (Option (List EbookRatingsModelResult)) :=
  listFromJson "pdf" EbookRatingsModelResult.fromJson

def EbookRatingsModel.toJson :
    Option (List EbookRatingsModelResult) → Except ErrorKind Entries :=
  listToJson "pdf" fun model => .ok model.toJson

def EbookTitleResult.fromJson :
    JsonValue → Except ErrorKind (Option (List EbookTitle)) :=
  listFromJson "pdf" EbookTitle.fromJson

def EbookTitleResult.toJson :
    Option (List EbookTitle) → Except ErrorKind Entries :=
  listToJson "pdf" fun model => .ok model.toJson

/-! ## The six models as one family -/

inductive ApiModel
  | category
  | creditCard
  | globalRating
  | payments
  | ratings
  | title

/-- A model with its wrapper: the key of the list, the declared keys of an
element, and the four methods. -/
structure ApiCodec where
  Model : Type
  listKey : String
  keys : List String
  fromJson : JsonValue → Except ErrorKind Model
  toJson : Model → Except ErrorKind Entries
  resultFromJson : JsonValue → Except ErrorKind (Option (List Model))
  resultToJson : Option (List Model) → Except ErrorKind Entries

def ApiModel.codec : ApiModel → ApiCodec
  | .category =>
      { Model := EbookCategoryResult
        listKey := "category"
        keys := ["cat_id", "photo_cat", "name", "status"]
        fromJson := EbookCategoryResult.fromJson
        toJson := fun model => .ok model.toJson
        resultFromJson := EbookCategoryModel.fromJson
        resultToJson := EbookCategoryModel.toJson }
  | .creditCard =>
      { Model := EbookCCModel
        listKey := "pdf"
        keys := ["card_number", "expiry_date", "card_name", "cvv_code", "id_google_cc"]
        fromJson := EbookCCModel.fromJson
        toJson := EbookCCModel.toJson
        resultFromJson := EbookCCModelResult.fromJson
        resultToJson := EbookCCModelResult.toJson }
  | .globalRating =>
      { Model := EbookGlobalRating
        listKey := "pdf"
        keys := ["total", "average"]
        fromJson := EbookGlobalRating.fromJson
        toJson := fun model => .ok model.toJson
        resultFromJson := EbookGlobalRatingResult.fromJson
        resultToJson := EbookGlobalRatingResult.toJson }
  | .payments =>
      { Model := EbookPaymentsModel
        listKey := "pdf"
        keys := ["id_product", "id_user"]
        fromJson := EbookPaymentsModel.fromJson
        toJson := fun model => .ok model.toJson
        resultFromJson := EbookPaymentsModelResult.fromJson
        resultToJson := EbookPaymentsModelResult.toJson }
  | .ratings =>
      { Model := EbookRatingsModelResult
        listKey := "pdf"
        keys := ["name", "photo", "dates", "comment", "rating", "id_user"]
        fromJson := EbookRatingsModelResult.fromJson
        toJson := fun model => .ok model.toJson
        resultFromJson := EbookRatingsModel.fromJson
        resultToJson := EbookRatingsModel.toJson }
  | .title =>
      { Model := EbookTitle
        listKey := "pdf"
        keys := ["slider", "title_keyword1", "field_keyword1", "title_keyword2",
          "field_keyword2"]
        fromJson := EbookTitle.fromJson
        toJson := fun model => .ok model.toJson
        resultFromJson := EbookTitleResult.fromJson
        resultToJson := EbookTitleResult.toJson }

theorem resultFromJson_codec (model : ApiModel) :
    model.codec.resultFromJson =
      listFromJson model.codec.listKey model.codec.fromJson := by
  cases model <;> rfl

theorem resultToJson_codec (model : ApiModel) :
    model.codec.resultToJson =
      listToJson model.codec.listKey model.codec.toJson := by
  cases model <;> rfl

/-- The encoding of an element has the values that it was decoded from under the
declared keys, and decodes to the same model. -/
def Kept (codec : ApiCodec) (element : JsonValue) (model : codec.Model) : Prop :=
  ∃ encoded, codec.toJson model = .ok encoded ∧
    (∀ key ∈ codec.keys, SameJson (entry encoded key) (valueAt element key)) ∧
    codec.fromJson (.map encoded) = .ok model

/-- Two lists of elements with the same values under the declared keys, or no
list in either place. -/
def SameElements (keys : List String) : JsonValue → JsonValue → Prop
  | .null, .null => True
  | .list before, .list after =>
      List.Forall₂ (fun old new =>
        ∀ key ∈ keys, SameJson (valueAt new key) (valueAt old key)) before after
  | _, _ => False

/-- Encoding undoes the decoding of a response. -/
def ReEncodes (codec : ApiCodec) (response : JsonValue)
    (result : Option (List codec.Model)) : Prop :=
  ∃ encoded, codec.resultToJson result = .ok encoded ∧
    SameElements codec.keys (valueAt response codec.listKey)
      (entry encoded codec.listKey) ∧
    codec.resultFromJson (.map encoded) = .ok result

/-! ## Lists of elements -/

theorem reEncodes_none {model : ApiModel} {response : JsonValue}
    (hlist : valueAt response model.codec.listKey = .null) :
    ReEncodes model.codec response none := by
  rw [ReEncodes, resultToJson_codec, resultFromJson_codec, hlist]
  exact ⟨[], rfl, trivial, rfl⟩

/-- A list re-encodes exactly if each of its elements does. -/
theorem reEncodes_some_iff {model : ApiModel} {response : JsonValue}
    {elements : List JsonValue} {models : List model.codec.Model}
    (hlist : valueAt response model.codec.listKey = .list elements) :
    ReEncodes model.codec response (some models) ↔
      List.Forall₂ (Kept model.codec) elements models := by
  have hkept : List.Forall₂ (Kept model.codec) elements models ↔
      ∃ encoded, List.Forall₂ (fun element json =>
          ∀ key ∈ model.codec.keys, SameJson (entry json key) (valueAt element key))
          elements encoded ∧
        List.Forall₂ (fun json decoded => model.codec.toJson decoded = .ok json ∧
          model.codec.fromJson (.map json) = .ok decoded) encoded models := by
    have hpairs : Kept model.codec = fun element decoded => ∃ json,
        (∀ key ∈ model.codec.keys, SameJson (entry json key) (valueAt element key)) ∧
          model.codec.toJson decoded = .ok json ∧
            model.codec.fromJson (.map json) = .ok decoded := by
      funext element decoded
      exact propext (exists_congr fun json => and_left_comm)
    rw [exists_forall₂_iff, hpairs]
  rw [hkept, ReEncodes, resultToJson_codec, resultFromJson_codec, hlist]
  constructor
  · rintro ⟨json, hjson, hsame, hback⟩
    obtain ⟨encoded, hencoded, rfl⟩ := listToJson_some_eq_ok_iff.1 hjson
    rw [entry_singleton, SameElements, List.forall₂_map_right_iff] at hsame
    rw [listFromJson_encoded] at hback
    exact ⟨encoded, hsame,
      List.Forall₂.mp (fun json decoded => And.intro) hencoded.flip hback⟩
  · rintro ⟨encoded, hsame, hboth⟩
    refine ⟨_, listToJson_some_eq_ok_iff.2
      ⟨encoded, (hboth.imp fun json decoded h => h.1).flip, rfl⟩, ?_, ?_⟩
    · rw [entry_singleton, SameElements, List.forall₂_map_right_iff]
      exact hsame
    · exact listFromJson_encoded.2 (hboth.imp fun json decoded h => h.2)

/-! ## Single elements -/

/-- What an encoding needs to be kept: the declared keys, the entries of the
element, and that it decodes. -/
theorem kept_of_hasEntries {codec : ApiCodec} {json fields : Entries}
    {model : codec.Model} (htoJson : codec.toJson model = .ok fields)
    (hkeys : fields.map Prod.fst = codec.keys) (hnodup : codec.keys.Nodup)
    (hentries : HasEntries json fields)
    (hback : codec.fromJson (.map fields) = .ok model) :
    Kept codec (.map json) model := by
  refine ⟨fields, htoJson, fun key hkey => Or.inl ?_, hback⟩
  exact entry_eq_of_hasEntries (hkeys ▸ hnodup) hentries (hkeys ▸ hkey)

theorem category_fromJson_eq_ok_iff {value : JsonValue} {model : EbookCategoryResult} :
    EbookCategoryResult.fromJson value = .ok model ↔
      ∃ json, value = .map json ∧ HasEntries json model.toJson := by
  simp only [EbookCategoryResult.fromJson, bind_eq_ok_iff, pure_eq_ok_iff,
    asMap_eq_ok_iff, readInt_eq_ok_iff, readString_eq_ok_iff, HasEntries,
    EbookCategoryResult.toJson, List.forall_mem_cons]
  constructor
  · rintro ⟨json, rfl, catId, hcatId, photoCat, hphotoCat, name, hname, status,
      hstatus, rfl⟩
    exact ⟨json, rfl, hcatId, hphotoCat, hname, hstatus, List.forall_mem_nil _⟩
  · rintro ⟨json, rfl, hcatId, hphotoCat, hname, hstatus, -⟩
    exact ⟨json, rfl, _, hcatId, _, hphotoCat, _, hname, _, hstatus, rfl⟩

theorem payments_fromJson_eq_ok_iff {value : JsonValue} {model : EbookPaymentsModel} :
    EbookPaymentsModel.fromJson value = .ok model ↔
      ∃ json, value = .map json ∧ HasEntries json model.toJson := by
  simp only [EbookPaymentsModel.fromJson, bind_eq_ok_iff, pure_eq_ok_iff,
    asMap_eq_ok_iff, readString_eq_ok_iff, HasEntries, EbookPaymentsModel.toJson,
    List.forall_mem_cons]
  constructor
  · rintro ⟨json, rfl, idProduct, hidProduct, idUser, hidUser, rfl⟩
    exact ⟨json, rfl, hidProduct, hidUser, List.forall_mem_nil _⟩
  · rintro ⟨json, rfl, hidProduct, hidUser, -⟩
    exact ⟨json, rfl, _, hidProduct, _, hidUser, rfl⟩

theorem title_fromJson_eq_ok_iff {value : JsonValue} {model : EbookTitle} :
    EbookTitle.fromJson value = .ok model ↔
      ∃ json, value = .map json ∧ HasEntries json model.toJson := by
  simp only [EbookTitle.fromJson, bind_eq_ok_iff, pure_eq_ok_iff, asMap_eq_ok_iff,
    readInt_eq_ok_iff, readString_eq_ok_iff, HasEntries, EbookTitle.toJson,
    List.forall_mem_cons]
  constructor
  · rintro ⟨json, rfl, slider, hslider, titleKeyword1, htitle1, fieldKeyword1,
      hfield1, titleKeyword2, htitle2, fieldKeyword2, hfield2, rfl⟩
    exact ⟨json, rfl, hslider, htitle1, hfield1, htitle2, hfield2,
      List.forall_mem_nil _⟩
  · rintro ⟨json, rfl, hslider, htitle1, hfield1, htitle2, hfield2, -⟩
    exact ⟨json, rfl, _, hslider, _, htitle1, _, hfield1, _, htitle2, _, hfield2, rfl⟩

theorem globalRating_fromJson_eq_ok_iff {value : JsonValue}
    {model : EbookGlobalRating} :
    EbookGlobalRating.fromJson value = .ok model ↔
      ∃ json, value = .map json ∧ entry json "total" = ofInt model.total ∧
        ∃ average, readDouble (entry json "average") = .ok average ∧
          model.average = some average := by
  simp only [EbookGlobalRating.fromJson, bind_eq_ok_iff, pure_eq_ok_iff,
    asMap_eq_ok_iff, readInt_eq_ok_iff]
  constructor
  · rintro ⟨json, rfl, total, htotal, average, haverage, rfl⟩
    exact ⟨json, rfl, htotal, average, haverage, rfl⟩
  · rintro ⟨json, rfl, htotal, average, haverage, hmodel⟩
    refine ⟨json, rfl, _, htotal, average, haverage, ?_⟩
    rw [← hmodel]

theorem ratings_fromJson_eq_ok_iff {value : JsonValue}
    {model : EbookRatingsModelResult} :
    EbookRatingsModelResult.fromJson value = .ok model ↔
      ∃ json, value = .map json ∧
        (∃ name, entry json "name" = ofString name ∧
          model.name = some (nameToString name)) ∧
        HasEntries json model.toJson.tail := by
  simp only [EbookRatingsModelResult.fromJson, bind_eq_ok_iff, pure_eq_ok_iff,
    asMap_eq_ok_iff, readString_eq_ok_iff, HasEntries, EbookRatingsModelResult.toJson,
    List.tail_cons, List.forall_mem_cons]
  constructor
  · rintro ⟨json, rfl, name, hname, photo, hphoto, dates, hdates, comment, hcomment,
      rating, hrating, idUser, hidUser, rfl⟩
    exact ⟨json, rfl, ⟨name, hname, rfl⟩, hphoto, hdates, hcomment, hrating, hidUser,
      List.forall_mem_nil _⟩
  · rintro ⟨json, rfl, ⟨name, hname, hmodel⟩, hphoto, hdates, hcomment, hrating,
      hidUser, -⟩
    refine ⟨json, rfl, name, hname, _, hphoto, _, hdates, _, hcomment, _, hrating, _,
      hidUser, ?_⟩
    rw [← hmodel]

theorem castStrings_eq_ok_iff {value : JsonValue} {list : CastList} :
    castStrings value = .ok list ↔ value = .list list.source := by
  cases list
  cases value <;> simp [castStrings]

/-- Reading a cast list succeeds exactly if it holds strings and nulls. -/
theorem read_eq_ok_iff {list : CastList} {texts : List (Option String)} :
    list.read = .ok texts ↔ list.source = texts.map ofString := by
  rw [CastList.read, mapM_eq_ok_iff]
  simp only [readString_eq_ok_iff]
  rw [← List.forall₂_map_right_iff (R := Eq), List.forall₂_eq_eq_eq]

theorem creditCard_fromJson_eq_ok_iff {value : JsonValue} {model : EbookCCModel} :
    EbookCCModel.fromJson value = .ok model ↔
      ∃ json, value = .map json ∧
        entry json "card_number" = ofString model.cardNumber ∧
        entry json "expiry_date" = .list model.expiryDate.source ∧
        entry json "card_name" = ofString model.cardName ∧
        entry json "cvv_code" = ofString model.cvvCode ∧
        entry json "id_google_cc" = ofString model.idGoogleCc := by
  simp only [EbookCCModel.fromJson, bind_eq_ok_iff, pure_eq_ok_iff, asMap_eq_ok_iff,
    readString_eq_ok_iff, castStrings_eq_ok_iff]
  constructor
  · rintro ⟨json, rfl, cardNumber, hcardNumber, expiryDate, hexpiryDate, cardName,
      hcardName, cvvCode, hcvvCode, idGoogleCc, hidGoogleCc, rfl⟩
    exact ⟨json, rfl, hcardNumber, hexpiryDate, hcardName, hcvvCode, hidGoogleCc⟩
  · rintro ⟨json, rfl, hcardNumber, hexpiryDate, hcardName, hcvvCode, hidGoogleCc⟩
    exact ⟨json, rfl, _, hcardNumber, _, hexpiryDate, _, hcardName, _, hcvvCode, _,
      hidGoogleCc, rfl⟩

/-! ## What is accepted -/

/-- The credit cards that are decoded: the expiry date is any list. -/
def CardShape (value : JsonValue) : Prop :=
  (∃ json, value = .map json) ∧
    (∀ key ∈ ["card_number", "card_name", "cvv_code", "id_google_cc"],
      TextOrNull (valueAt value key)) ∧
    ∃ elements, valueAt value "expiry_date" = .list elements

def RatingShape (value : JsonValue) : Prop :=
  (∃ json, value = .map json) ∧
    ∀ key ∈ ["name", "photo", "dates", "comment", "rating", "id_user"],
      TextOrNull (valueAt value key)

theorem cardShape_iff {value : JsonValue} :
    CardShape value ↔ ∃ model, EbookCCModel.fromJson value = .ok model := by
  simp only [CardShape, TextOrNull, List.forall_mem_cons,
    creditCard_fromJson_eq_ok_iff]
  constructor
  · rintro ⟨⟨json, rfl⟩, ⟨⟨cardNumber, hcardNumber⟩, ⟨cardName, hcardName⟩,
      ⟨cvvCode, hcvvCode⟩, ⟨idGoogleCc, hidGoogleCc⟩, -⟩, elements, hexpiryDate⟩
    exact ⟨⟨cardNumber, ⟨elements⟩, cardName, cvvCode, idGoogleCc⟩, json, rfl,
      hcardNumber, hexpiryDate, hcardName, hcvvCode, hidGoogleCc⟩
  · rintro ⟨model, json, rfl, hcardNumber, hexpiryDate, hcardName, hcvvCode,
      hidGoogleCc⟩
    exact ⟨⟨json, rfl⟩, ⟨⟨_, hcardNumber⟩, ⟨_, hcardName⟩, ⟨_, hcvvCode⟩,
      ⟨_, hidGoogleCc⟩, List.forall_mem_nil _⟩, _, hexpiryDate⟩

theorem ratingShape_iff {value : JsonValue} :
    RatingShape value ↔
      ∃ model, EbookRatingsModelResult.fromJson value = .ok model := by
  simp only [RatingShape, TextOrNull, List.forall_mem_cons,
    EbookRatingsModelResult.fromJson, bind_eq_ok_iff, pure_eq_ok_iff, asMap_eq_ok_iff,
    readString_eq_ok_iff]
  constructor
  · rintro ⟨⟨json, rfl⟩, ⟨name, hname⟩, ⟨photo, hphoto⟩, ⟨dates, hdates⟩,
      ⟨comment, hcomment⟩, ⟨rating, hrating⟩, ⟨idUser, hidUser⟩, -⟩
    exact ⟨_, json, rfl, name, hname, photo, hphoto, dates, hdates, comment, hcomment,
      rating, hrating, idUser, hidUser, rfl⟩
  · rintro ⟨model, json, rfl, name, hname, photo, hphoto, dates, hdates, comment,
      hcomment, rating, hrating, idUser, hidUser, -⟩
    exact ⟨⟨json, rfl⟩, ⟨name, hname⟩, ⟨photo, hphoto⟩, ⟨dates, hdates⟩,
      ⟨comment, hcomment⟩, ⟨rating, hrating⟩, ⟨idUser, hidUser⟩,
      List.forall_mem_nil _⟩

/-! ## What comes back -/

/-- The elements that come back as they were: an expiry date of strings and
nulls, an average that a double holds, a name that is not null. -/
def ApiModel.Faithful : ApiModel → JsonValue → Prop
  | .creditCard, element =>
      ∃ texts : List (Option String),
        valueAt element "expiry_date" = .list (texts.map ofString)
  | .globalRating, element => ExactNumber (valueAt element "average")
  | .ratings, element => valueAt element "name" ≠ .null
  | _, _ => True

theorem keys_nodup (model : ApiModel) : model.codec.keys.Nodup := by
  cases model <;> decide

theorem kept_creditCard_iff {element : JsonValue} {model : EbookCCModel}
    (hdecoded : EbookCCModel.fromJson element = .ok model) :
    Kept ApiModel.creditCard.codec element model ↔
      ApiModel.creditCard.Faithful element := by
  obtain ⟨json, rfl, hcardNumber, hexpiryDate, hcardName, hcvvCode, hidGoogleCc⟩ :=
    creditCard_fromJson_eq_ok_iff.1 hdecoded
  rw [ApiModel.Faithful, valueAt, hexpiryDate]
  constructor
  · rintro ⟨encoded, hencoded, -⟩
    obtain ⟨texts, htexts, -⟩ := bind_eq_ok_iff.1 hencoded
    rw [read_eq_ok_iff] at htexts
    exact ⟨texts, congrArg JsonValue.list htexts⟩
  · rintro ⟨texts, htexts⟩
    rw [htexts] at hexpiryDate
    have hread : model.expiryDate.read = .ok texts :=
      read_eq_ok_iff.2 (JsonValue.list.inj htexts)
    refine kept_of_hasEntries (bind_eq_ok_iff.2 ⟨texts, hread, rfl⟩) rfl
      (keys_nodup .creditCard) ?_ ?_
    · simp [HasEntries, hcardNumber, hexpiryDate, hcardName, hcvvCode, hidGoogleCc]
    · exact creditCard_fromJson_eq_ok_iff.2
        ⟨_, rfl, rfl, htexts.symm, rfl, rfl, rfl⟩

theorem kept_globalRating_iff {element : JsonValue} {model : EbookGlobalRating}
    (hdecoded : EbookGlobalRating.fromJson element = .ok model) :
    Kept ApiModel.globalRating.codec element model ↔
      ApiModel.globalRating.Faithful element := by
  obtain ⟨json, rfl, htotal, average, haverage, hmodel⟩ :=
    globalRating_fromJson_eq_ok_iff.1 hdecoded
  have hentry : entry model.toJson "average" = .double average := by
    have hfield : entry model.toJson "average" = ofDouble model.average := rfl
    rw [hfield, hmodel]
    rfl
  rw [ApiModel.Faithful, valueAt, ← sameJson_readDouble_iff haverage]
  constructor
  · rintro ⟨encoded, hencoded, hsame, -⟩
    cases hencoded
    have haverageKey := hsame "average" (by decide)
    rwa [hentry] at haverageKey
  · intro hsame
    refine ⟨model.toJson, rfl, ?_, ?_⟩
    · intro key hkey
      rcases List.mem_pair.1 hkey with rfl | rfl
      · exact Or.inl htotal.symm
      · rwa [hentry]
    · refine globalRating_fromJson_eq_ok_iff.2 ⟨_, rfl, rfl, average, ?_, hmodel⟩
      rw [hentry]
      rfl

theorem kept_ratings_iff {element : JsonValue} {model : EbookRatingsModelResult}
    (hdecoded : EbookRatingsModelResult.fromJson element = .ok model) :
    Kept ApiModel.ratings.codec element model ↔
      ApiModel.ratings.Faithful element := by
  obtain ⟨json, rfl, ⟨name, hname, hmodel⟩, htail⟩ :=
    ratings_fromJson_eq_ok_iff.1 hdecoded
  have hentry : entry model.toJson "name" = .string (nameToString name) := by
    have hfield : entry model.toJson "name" = ofString model.name := rfl
    rw [hfield, hmodel]
    rfl
  rw [ApiModel.Faithful, valueAt, hname]
  constructor
  · rintro ⟨encoded, hencoded, hsame, -⟩ hnull
    cases hencoded
    have hnameKey := hsame "name" (by decide)
    rw [hentry, valueAt, hname, hnull] at hnameKey
    simp [SameJson] at hnameKey
  · intro hnull
    cases name with
    | none => exact absurd rfl hnull
    | some text =>
        apply kept_of_hasEntries rfl rfl (keys_nodup .ratings)
        · refine List.forall_mem_cons.2 ⟨?_, htail⟩
          rw [hname, hmodel]
          rfl
        · refine ratings_fromJson_eq_ok_iff.2 ⟨_, rfl, ⟨some text, ?_, hmodel⟩, ?_⟩
          · rw [hentry]
            rfl
          · intro field hfield
            exact @hasEntries_self model.toJson (keys_nodup .ratings) field
              (List.mem_of_mem_tail hfield)

/-- Nothing is lost by a model whose `fromJson` accepts the maps with the entries
that its `toJson` gives. -/
theorem kept_of_fromJson_iff (model : ApiModel) {element : JsonValue}
    {decoded : model.codec.Model} {fields : Entries}
    (htoJson : model.codec.toJson decoded = .ok fields)
    (hkeys : fields.map Prod.fst = model.codec.keys)
    (hfromJson : ∀ value, model.codec.fromJson value = .ok decoded ↔
      ∃ json, value = .map json ∧ HasEntries json fields)
    (hdecoded : model.codec.fromJson element = .ok decoded) :
    Kept model.codec element decoded := by
  obtain ⟨json, rfl, hentries⟩ := (hfromJson element).1 hdecoded
  have hnodup := keys_nodup model
  apply kept_of_hasEntries htoJson hkeys hnodup hentries
  rw [hfromJson]
  exact ⟨fields, rfl, hasEntries_self (hkeys ▸ hnodup)⟩

theorem kept_iff_faithful {model : ApiModel} {element : JsonValue}
    {decoded : model.codec.Model}
    (hdecoded : model.codec.fromJson element = .ok decoded) :
    Kept model.codec element decoded ↔ model.Faithful element := by
  cases model with
  | category =>
      refine iff_of_true ?_ trivial
      exact kept_of_fromJson_iff .category rfl rfl
        (fun _ => category_fromJson_eq_ok_iff) hdecoded
  | creditCard => exact kept_creditCard_iff hdecoded
  | globalRating => exact kept_globalRating_iff hdecoded
  | payments =>
      refine iff_of_true ?_ trivial
      exact kept_of_fromJson_iff .payments rfl rfl
        (fun _ => payments_fromJson_eq_ok_iff) hdecoded
  | ratings => exact kept_ratings_iff hdecoded
  | title =>
      refine iff_of_true ?_ trivial
      exact kept_of_fromJson_iff .title rfl rfl
        (fun _ => title_fromJson_eq_ok_iff) hdecoded

/-- An accepted response re-encodes exactly if each of its elements comes back
as it was. -/
theorem reEncodes_iff (model : ApiModel) (response : JsonValue)
    (result : Option (List model.codec.Model))
    (haccepted : model.codec.resultFromJson response = .ok result) :
    ReEncodes model.codec response result ↔
      ∀ element ∈ elementsAt response model.codec.listKey, model.Faithful element := by
  rw [resultFromJson_codec] at haccepted
  obtain ⟨-, ⟨hlist, rfl⟩ | ⟨elements, models, hlist, rfl, hmodels⟩⟩ :=
    listFromJson_eq_ok_iff.1 haccepted
  · refine iff_of_true (reEncodes_none hlist) ?_
    rw [elementsAt, hlist]
    exact List.forall_mem_nil _
  · rw [reEncodes_some_iff hlist, elementsAt, hlist]
    constructor
    · intro hkept
      have hfaithful := List.Forall₂.mp (fun element decoded hkeeps hdecoded =>
        And.intro ((kept_iff_faithful hdecoded).1 hkeeps) hdecoded) hkept hmodels
      exact ((List.forall₂_and_left _ _).1 hfaithful).1
    · intro hfaithful
      have hboth := (List.forall₂_and_left _ _).2 ⟨hfaithful, hmodels⟩
      exact hboth.imp fun element decoded h => (kept_iff_faithful h.2).2 h.1

/-- A response with one rating, of the name given. -/
def ratingResponse (name : JsonValue) : JsonValue :=
  .map [("pdf", .list [.map [("name", name), ("comment", .string "good")]])]

def ratingModel (name : String) : EbookRatingsModelResult :=
  ⟨some name, none, none, some "good", none, none⟩

theorem reEncodes_named :
    ReEncodes ApiModel.ratings.codec (ratingResponse (.string "Amina"))
      (some [ratingModel "Amina"]) := by
  refine (reEncodes_iff .ratings (ratingResponse (.string "Amina")) _ rfl).2 ?_
  intro element helement
  obtain rfl := List.mem_singleton.1 helement
  exact JsonValue.noConfusion

/-- A null name is encoded as the text `null`. -/
theorem nameless_rating_changed :
    ¬∀ (model : ApiModel) (response : JsonValue)
      (result : Option (List model.codec.Model)),
      model.codec.resultFromJson response = .ok result →
        ReEncodes model.codec response result := by
  intro hall
  have hkept := (reEncodes_some_iff rfl).1
    (hall .ratings (ratingResponse .null) (some [ratingModel "null"]) rfl)
  cases hkept with
  | cons hfirst _ => exact (kept_ratings_iff rfl).1 hfirst rfl

end EduEbook.ApiModels
