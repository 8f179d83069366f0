import EduEbook.Data.EbookModel
import EduEbook.Library.Checked
import EduEbook.Library.Significand

/-!
# Reading decoded JSON

The `fromJson` methods index a decoded map and assign what they find to typed
fields.  A missing entry reads as null, which every field accepts; a value of
another type throws.  What is thrown is an `Error`, never an `Exception`.
-/

namespace EduEbook.Decoding

open EduEbook.Checked
open EduEbook.Json
open EduEbook.Models
open EduEbook.Significand

/-- The classes of `Error` that decoding throws. -/
inductive ErrorKind
  | typeError
  | noSuchMethodError
  deriving DecidableEq

abbrev Entries := List (String × JsonValue)

/-- `json[key]`, which is null for an absent key. -/
def entry (json : Entries) (key : String) : JsonValue := (json.lookup key).getD .null

/-- Each of the fields is an entry of the map. -/
def HasEntries (json fields : Entries) : Prop :=
  ∀ field ∈ fields, entry json field.1 = field.2

/-- A decoded value as the `Map<String, dynamic>` that a `fromJson` takes.  Null
is let through and fails at the first index. -/
def asMap : JsonValue → Except ErrorKind Entries
  | .map entries => .ok entries
  | .null => .error .noSuchMethodError
  | _ => .error .typeError

/-- The entry under a key of a decoded map, null when there is none. -/
def valueAt (json : JsonValue) (key : String) : JsonValue :=
  match json with
  | .map entries => entry entries key
  | _ => .null

/-- Assign a decoded value to an `int` field. -/
def readInt : JsonValue → Except ErrorKind (Option ℤ)
  | .null => .ok none
  | .int value => .ok (some value)
  | _ => .error .typeError

/-- Assign a decoded value to a `String` field. -/
def readString : JsonValue → Except ErrorKind (Option String)
  | .null => .ok none
  | .string value => .ok (some value)
  | _ => .error .typeError

/-- `value.toDouble()`: the nearest number of 53 binary digits.  An `int` has 64
bits, so there is no overflow. -/
def intToDouble (value : ℤ) : DartDouble :=
  .finite (value.sign * roundToDigits 53 value.natAbs : ℤ)

/-- `(value as num).toDouble()`. -/
def readDouble : JsonValue → Except ErrorKind DartDouble
  | .null => .error .noSuchMethodError
  | .int value => .ok (intToDouble value)
  | .double value => .ok value
  | _ => .error .typeError

/-- The list that a wrapper holds under `key`.  An absent or null list stays
null; `forEach` of anything else than a list throws, of a map because its
closure takes one argument only. -/
def listFromJson {Element : Type} (key : String)
    (fromJson : JsonValue → Except ErrorKind Element) (value : JsonValue) :
    Except ErrorKind (Option (List Element)) := do
  let json ← asMap value
  match entry json key with
  | .null => return none
  | .list elements => return some (← elements.mapM fromJson)
  | .map _ => .error .typeError
  | _ => .error .noSuchMethodError

/-- The map that a wrapper is encoded as, with its elements encoded. -/
def listToJson {Element : Type} (key : String)
    (toJson : Element → Except ErrorKind Entries) :
    Option (List Element) → Except ErrorKind Entries
  | none => return []
  | some elements => return [(key, .list ((← elements.mapM toJson).map .map))]

/-- The list under `key`, with null for none. -/
def elementsAt (response : JsonValue) (key : String) : List JsonValue :=
  match valueAt response key with
  | .list elements => elements
  | _ => []

/-- Dart's `==`, and equality of the values that it compares by identity. -/
def SameJson (left right : JsonValue) : Prop :=
  left = right ∨ sameValue left right = true

theorem entry_of_mem {fields : Entries} (hkeys : (fields.map Prod.fst).Nodup)
    {field : String × JsonValue} (hfield : field ∈ fields) :
    entry fields field.1 = field.2 := by
  induction fields with
  | nil => cases hfield
  | cons first rest ih =>
      obtain ⟨hfirst, hrest⟩ := List.nodup_cons.1 hkeys
      rcases List.mem_cons.1 hfield with rfl | hmem
      · rw [entry, List.lookup_cons_self]
        rfl
      · have hne : field.1 ≠ first.1 := fun heq =>
          hfirst (heq ▸ List.mem_map_of_mem hmem)
        rw [entry, List.lookup_cons, beq_false_of_ne hne]
        exact ih hrest hmem

/-- An encoded map has the fields it was made of. -/
theorem hasEntries_self {fields : Entries} (hkeys : (fields.map Prod.fst).Nodup) :
    HasEntries fields fields :=
  fun _ hfield => entry_of_mem hkeys hfield

/-- Two maps that have the same fields agree on the keys of these. -/
theorem entry_eq_of_hasEntries {json fields : Entries}
    (hkeys : (fields.map Prod.fst).Nodup) (hentries : HasEntries json fields)
    {key : String} (hkey : key ∈ fields.map Prod.fst) :
    entry fields key = entry json key := by
  obtain ⟨field, hfield, rfl⟩ := List.mem_map.1 hkey
  rw [entry_of_mem hkeys hfield, hentries field hfield]

theorem asMap_eq_ok_iff {json : JsonValue} {entries : Entries} :
    asMap json = .ok entries ↔ json = .map entries := by
  cases json <;> simp [asMap]

theorem readInt_eq_ok_iff {json : JsonValue} {value : Option ℤ} :
    readInt json = .ok value ↔ json = ofInt value := by
  cases value <;> cases json <;> simp [readInt, ofInt]

theorem readString_eq_ok_iff {json : JsonValue} {value : Option String} :
    readString json = .ok value ↔ json = ofString value := by
  cases value <;> cases json <;> simp [readString, ofString]

/-- The integers that a double holds exactly. -/
theorem intToDouble_eq_iff {value : ℤ} :
    intToDouble value = .finite value ↔ HasDigits 53 value.natAbs := by
  rw [intToDouble, DartDouble.finite.injEq, Rat.intCast_inj, ← roundToDigits_eq_self_iff]
  constructor
  · intro hvalue
    have habs := congrArg Int.natAbs hvalue
    rw [Int.natAbs_mul, Int.natAbs_natCast] at habs
    rcases eq_or_ne value 0 with rfl | hne
    · exact roundToDigits_eq_self_iff.2 ⟨0, 0, by decide, rfl⟩
    · rwa [Int.natAbs_sign_of_ne_zero hne, Nat.one_mul] at habs
  · intro hround
    rw [hround]
    exact Int.sign_mul_natAbs value

/-- No integer that a double holds is nearer than the one that a number becomes. -/
theorem intToDouble_nearest {value other : ℤ} (hother : HasDigits 53 other.natAbs) :
    ∃ rounded : ℤ, intToDouble value = .finite rounded ∧
      (rounded - value).natAbs ≤ (other - value).natAbs := by
  refine ⟨_, rfl, ?_⟩
  have hnearest := @roundToDigits_nearest 53 value.natAbs _ (by decide) hother
  rw [Nat.dist, Nat.dist] at hnearest
  rcases lt_trichotomy value 0 with hneg | rfl | hpos
  · rw [Int.sign_eq_neg_one_of_neg hneg]
    omega
  · rw [Int.sign_zero]
    omega
  · rw [Int.sign_eq_one_of_pos hpos]
    omega

/-- The decoded number and the double it is read as are the same number unless
the digits of an integer had to be rounded. -/
def ExactNumber : JsonValue → Prop
  | .int value => HasDigits 53 value.natAbs
  | _ => True

theorem sameJson_readDouble_iff {json : JsonValue} {value : DartDouble}
    (hread : readDouble json = .ok value) :
    SameJson (.double value) json ↔ ExactNumber json := by
  cases json with
  | int number =>
      cases hread
      rw [ExactNumber, ← intToDouble_eq_iff]
      simp [SameJson, sameValue, intToDouble]
  | double other =>
      cases hread
      simp [SameJson, ExactNumber]
  | _ => cases hread

/-- A response is accepted exactly if the list is missing or each element is. -/
theorem listFromJson_eq_ok_iff {Element : Type} {key : String}
    {fromJson : JsonValue → Except ErrorKind Element} {response : JsonValue}
    {result : Option (List Element)} :
    listFromJson key fromJson response = .ok result ↔
      (∃ json, response = .map json) ∧
        (valueAt response key = .null ∧ result = none ∨
          ∃ elements decoded, valueAt response key = .list elements ∧
            result = some decoded ∧
            List.Forall₂ (fun element model => fromJson element = .ok model)
              elements decoded) := by
  rw [listFromJson, bind_eq_ok_iff]
  constructor
  · rintro ⟨json, hjson, hvalue⟩
    obtain rfl := asMap_eq_ok_iff.1 hjson
    refine ⟨⟨json, rfl⟩, ?_⟩
    rw [valueAt]
    cases hentry : entry json key with
    | null =>
        rw [hentry] at hvalue
        exact Or.inl ⟨rfl, (pure_eq_ok_iff.1 hvalue).symm⟩
    | list elements =>
        rw [hentry] at hvalue
        obtain ⟨decoded, hdecoded, hresult⟩ := bind_eq_ok_iff.1 hvalue
        exact Or.inr ⟨elements, decoded, rfl, (pure_eq_ok_iff.1 hresult).symm,
          mapM_eq_ok_iff.1 hdecoded⟩
    | _ =>
        rw [hentry] at hvalue
        cases hvalue
  · rintro ⟨⟨json, rfl⟩, hlist⟩
    refine ⟨json, rfl, ?_⟩
    rw [valueAt] at hlist
    rcases hlist with ⟨hentry, rfl⟩ | ⟨elements, decoded, hentry, rfl, hdecoded⟩
    · rw [hentry]
      rfl
    · rw [hentry]
      exact bind_eq_ok_iff.2 ⟨decoded, mapM_eq_ok_iff.2 hdecoded, rfl⟩

/-! ## What is accepted -/

/-- The values that an `int` field takes. -/
def IntOrNull (json : JsonValue) : Prop := ∃ value, json = ofInt value

/-- The values that a `String` field takes. -/
def TextOrNull (json : JsonValue) : Prop := ∃ value, json = ofString value

def IsNumber : JsonValue → Prop
  | .int _ => True
  | .double _ => True
  | _ => False

theorem isNumber_iff {json : JsonValue} :
    IsNumber json ↔ ∃ value, readDouble json = .ok value := by
  cases json <;> simp [IsNumber, readDouble]

/-- A map with no list under `key`, or with a list whose elements have a shape. -/
def ListShape (key : String) (shape : JsonValue → Prop) (response : JsonValue) : Prop :=
  (∃ json, response = .map json) ∧
    (valueAt response key = .null ∨
      ∃ elements, valueAt response key = .list elements ∧
        ∀ element ∈ elements, shape element)

/-- A wrapper accepts the lists whose elements the model accepts. -/
theorem listFromJson_accepts_iff {Element : Type} {key : String}
    {fromJson : JsonValue → Except ErrorKind Element} {shape : JsonValue → Prop}
    (hshape : ∀ element, shape element ↔ ∃ model, fromJson element = .ok model)
    {response : JsonValue} :
    (∃ result, listFromJson key fromJson response = .ok result) ↔
      ListShape key shape response := by
  simp only [ListShape, hshape, ← exists_related_iff, listFromJson_eq_ok_iff]
  constructor
  · rintro ⟨result, hmap, ⟨hnull, -⟩ | ⟨elements, models, hlist, -, hmodels⟩⟩
    · exact ⟨hmap, Or.inl hnull⟩
    · exact ⟨hmap, Or.inr ⟨elements, hlist, models, hmodels⟩⟩
  · rintro ⟨hmap, hnull | ⟨elements, hlist, models, hmodels⟩⟩
    · exact ⟨none, hmap, Or.inl ⟨hnull, rfl⟩⟩
    · exact ⟨some models, hmap, Or.inr ⟨elements, models, hlist, rfl, hmodels⟩⟩

theorem entry_singleton (key : String) (value : JsonValue) :
    entry [(key, value)] key = value := by
  rw [entry, List.lookup_cons_self]
  rfl

/-- A list is encoded exactly if each of its elements is. -/
theorem listToJson_some_eq_ok_iff {Element : Type} {key : String}
    {toJson : Element → Except ErrorKind Entries} {models : List Element}
    {entries : Entries} :
    listToJson key toJson (some models) = .ok entries ↔
      ∃ encoded, List.Forall₂ (fun model json => toJson model = .ok json)
          models encoded ∧
        entries = [(key, .list (encoded.map .map))] := by
  rw [listToJson, bind_eq_ok_iff]
  constructor
  · rintro ⟨encoded, hencoded, hentries⟩
    exact ⟨encoded, mapM_eq_ok_iff.1 hencoded, (pure_eq_ok_iff.1 hentries).symm⟩
  · rintro ⟨encoded, hencoded, rfl⟩
    exact ⟨encoded, mapM_eq_ok_iff.2 hencoded, rfl⟩

/-- Decoding an encoded list decodes each element. -/
theorem listFromJson_encoded {Element : Type} {key : String}
    {fromJson : JsonValue → Except ErrorKind Element} {models : List Element}
    {encoded : List Entries} :
    listFromJson key fromJson (.map [(key, .list (encoded.map .map))]) =
        .ok (some models) ↔
      List.Forall₂ (fun json model => fromJson (.map json) = .ok model)
        encoded models := by
  rw [listFromJson_eq_ok_iff, valueAt, entry_singleton]
  constructor
  · rintro ⟨-, ⟨hnull, -⟩ | ⟨elements, decoded, hlist, hsome, hdecoded⟩⟩
    · cases hnull
    · cases hlist
      cases hsome
      exact List.forall₂_map_left_iff.1 hdecoded
  · intro hdecoded
    exact ⟨⟨_, rfl⟩, Or.inr ⟨_, models, rfl, rfl, List.forall₂_map_left_iff.2 hdecoded⟩⟩

end EduEbook.Decoding
