import EduEbook.Data.BookId
import EduEbook.Locator.Locators

/-!
# The reading position of a book

Both pages that open a book install a listener that saves every locator event
under a `bookId` and resume from `getLocator` of the book's id.  The detail page
saves under that id.  In the tap handler of the download page the decoded event
hides the record, so the `bookId` it saves under is the `id` of the event.
-/

namespace EduEbook.ReadingPosition

open EduEbook.BookId
open EduEbook.Json
open EduEbook.Locators
open EduEbook.ObjectDb

/-- The page whose listener receives the locator events. -/
inductive Opener
  | detailPage
  | downloadPage
  deriving DecidableEq

/-- A decoded locator event and the `_id` an insertion of it would get. -/
structure Delivery where
  event : DartMap
  key : JsonValue

/-- The `bookId` the listener puts into the event: `widget.id.toString()` in
`EbookDetail._openEbook`, and `map['id']` with `map` the event itself in
`EbookDownloadPage`. -/
def bookKey (opener : Opener) (id : String) (event : DartMap) : JsonValue :=
  match opener with
  | .detailPage => .string id
  | .downloadPage => getValue event "id"

def savedMap (opener : Opener) (id : String) (event : DartMap) : DartMap :=
  event.insert "bookId" (bookKey opener id event)

def onLocator (opener : Opener) (id : String) (locators : List DartMap)
    (delivery : Delivery) : List DartMap :=
  updateItem delivery.key (savedMap opener id delivery.event) locators

/-- The locators after events delivered one after the other. -/
def session (opener : Opener) (id : String) (locators : List DartMap)
    (deliveries : List Delivery) : List DartMap :=
  deliveries.foldl (onLocator opener id) locators

/-- The position of book `k` survives a session whose last event is `last`. -/
structure PositionKept (k : ℤ) (before after : List DartMap) (last : DartMap) :
    Prop where
  resumes : ∃ record rest, getLocator (idString k) after = record :: rest ∧
    ∀ name value, name ≠ "bookId" → name ≠ "_id" →
      last.lookup name = some value → record.lookup name = some value
  others : ∀ other : ℤ, other ≠ k →
    getLocator (idString other) after = getLocator (idString other) before

/-! ## What a sequence of saves leaves for one book -/

/-- Later maps win. -/
def mergeAll (maps : List DartMap) : DartMap :=
  maps.foldl (fun merged map => merge map merged) ∅

/-- The deliveries whose map is saved under the id of book `id`. -/
def savedFor (opener : Opener) (owner id : String) (deliveries : List Delivery) :
    List Delivery :=
  deliveries.filter fun delivery =>
    sameValue (.string id) (bookKey opener owner delivery.event)

theorem lookup_mergeAll_nil (name : String) :
    (mergeAll []).lookup name = none := rfl

theorem mergeAll_append (maps : List DartMap) (map : DartMap) :
    mergeAll (maps ++ [map]) = merge map (mergeAll maps) := by
  rw [mergeAll, List.foldl_append]
  rfl

theorem lookup_savedMap_bookId (opener : Opener) (id : String)
    (event : DartMap) :
    (savedMap opener id event).lookup "bookId" =
      some (bookKey opener id event) := Finmap.lookup_insert event

theorem session_append (opener : Opener) (id : String)
    (locators : List DartMap) (deliveries : List Delivery) (delivery : Delivery) :
    session opener id locators (deliveries ++ [delivery]) =
      onLocator opener id (session opener id locators deliveries) delivery := by
  rw [session, List.foldl_append]
  rfl

/-- After a session the locators of a book are those before it if nothing was
saved under its id, and otherwise the first of them has, on every key, the last
value saved for it. -/
theorem getLocator_session (opener : Opener) (owner id : String)
    (locators : List DartMap) (deliveries : List Delivery) :
    (savedFor opener owner id deliveries = [] ∧
      getLocator id (session opener owner locators deliveries) =
        getLocator id locators) ∨
    (savedFor opener owner id deliveries ≠ [] ∧
      ∃ record rest,
        getLocator id (session opener owner locators deliveries) =
          record :: rest ∧
        ∀ name, name ≠ "_id" → record.lookup name =
          ((mergeAll ((savedFor opener owner id deliveries).map fun delivery =>
            savedMap opener owner delivery.event)).lookup name).or
            ((getLocator id locators).head?.bind (Finmap.lookup name))) := by
  induction deliveries using List.reverseRecOn with
  | nil => exact Or.inl ⟨rfl, rfl⟩
  | append_singleton deliveries delivery ih =>
      have hbook := lookup_savedMap_bookId opener owner delivery.event
      rw [session_append, onLocator, savedFor, List.filter_append, ← savedFor]
      by_cases hkey : bookKey opener owner delivery.event = .string id
      · -- The event is saved for this book.
        rw [hkey] at hbook
        have hsaved : [delivery].filter (fun delivery => sameValue (.string id)
            (bookKey opener owner delivery.event)) = [delivery] :=
          List.filter_cons_of_pos (string_sameValue_iff.2 hkey)
        rw [hsaved, getLocator_updateItem_same hbook, List.map_append, List.map_cons,
          List.map_nil, mergeAll_append]
        refine Or.inr ⟨List.append_ne_nil_of_right_ne_nil _
          (List.cons_ne_nil _ _), ?_⟩
        rcases ih with ⟨hnone, hsession⟩ | ⟨_, record, rest, hsession, hrecord⟩
        · rw [hnone, hsession]
          cases hlocators : getLocator id locators with
          | nil =>
              refine ⟨_, [], if_pos rfl, fun name hname => ?_⟩
              rw [lookup_withKey hname, lookup_merge, List.map_nil,
                lookup_mergeAll_nil, Option.or_none, List.head?_nil,
                Option.bind_none, Option.or_none]
          | cons first others =>
              refine ⟨_, _, if_neg (List.cons_ne_nil _ _), fun name _ => ?_⟩
              rw [lookup_merge, lookup_merge, List.map_nil,
                lookup_mergeAll_nil, Option.or_none]
              rfl
        · rw [hsession]
          refine ⟨_, _, if_neg (List.cons_ne_nil _ _), fun name hname => ?_⟩
          rw [lookup_merge, lookup_merge, hrecord name hname, Option.or_assoc]
      · -- The event is saved elsewhere.
        have hsaved : [delivery].filter (fun delivery => sameValue (.string id)
            (bookKey opener owner delivery.event)) = [] :=
          List.filter_cons_of_neg fun hsame =>
            hkey (string_sameValue_iff.1 hsame)
        rw [hsaved, List.append_nil,
          getLocator_updateItem_other hbook hkey]
        exact ih

/-- Apart from `bookId`, saving an event saves its own fields. -/
theorem lookup_mergeAll_savedMap (opener : Opener) (id : String)
    (deliveries : List Delivery) {name : String} (hname : name ≠ "bookId") :
    (mergeAll (deliveries.map fun delivery =>
      savedMap opener id delivery.event)).lookup name =
      (mergeAll (deliveries.map Delivery.event)).lookup name := by
  induction deliveries using List.reverseRecOn with
  | nil => rfl
  | append_singleton deliveries delivery ih =>
      rw [List.map_append, List.map_append, List.map_cons, List.map_nil,
        List.map_cons, List.map_nil, mergeAll_append, mergeAll_append,
        lookup_merge, lookup_merge, ih, savedMap,
        Finmap.lookup_insert_of_ne delivery.event hname]

/-! ## When the position is kept -/

/-- The events whose `id` is the id of book `k`, merged in order. -/
def ownEvents (k : ℤ) (deliveries : List Delivery) : DartMap :=
  mergeAll ((savedFor .downloadPage (idString k) (idString k) deliveries).map
    Delivery.event)

/-- What the events must carry for the listener of the download page to save
them for the book: an `id` field with the book's id, at least on events that
together have the values of the last one, and never the id of another book. -/
structure SavedUnderOwnId (k : ℤ) (deliveries : List Delivery)
    (last : DartMap) : Prop where
  some_own : ∃ delivery ∈ deliveries,
    getValue delivery.event "id" = .string (idString k)
  covers_last : ∀ name value, name ≠ "bookId" → name ≠ "_id" →
    last.lookup name = some value →
      (ownEvents k deliveries).lookup name = some value
  no_other : ∀ delivery ∈ deliveries, ∀ other : ℤ, other ≠ k →
    getValue delivery.event "id" ≠ .string (idString other)

theorem savedFor_eq_nil_iff {opener : Opener} {owner id : String}
    {deliveries : List Delivery} :
    savedFor opener owner id deliveries = [] ↔
      ∀ delivery ∈ deliveries,
        bookKey opener owner delivery.event ≠ .string id := by
  rw [savedFor, List.filter_eq_nil_iff]
  exact forall₂_congr fun _ _ => not_congr string_sameValue_iff

/-- A session keeps the position if it saves something for the book, saves the
values of the last event for it, and saves nothing for another book. -/
theorem positionKept_of_saved {opener : Opener} {k : ℤ}
    {deliveries : List Delivery} {last : DartMap}
    (hsome : savedFor opener (idString k) (idString k) deliveries ≠ [])
    (hcovers : ∀ name value, name ≠ "bookId" → name ≠ "_id" →
      last.lookup name = some value →
        (mergeAll ((savedFor opener (idString k) (idString k) deliveries).map
          Delivery.event)).lookup name = some value)
    (hother : ∀ other : ℤ, other ≠ k →
      savedFor opener (idString k) (idString other) deliveries = [])
    (locators : List DartMap) :
    PositionKept k locators (session opener (idString k) locators deliveries)
      last where
  resumes := by
    rcases getLocator_session opener (idString k) (idString k) locators
      deliveries with ⟨hnone, _⟩ | ⟨_, record, rest, hfirst, hrecord⟩
    · exact absurd hnone hsome
    · refine ⟨record, rest, hfirst, fun name value hbook hid hvalue => ?_⟩
      rw [hrecord name hid, lookup_mergeAll_savedMap _ _ _ hbook,
        hcovers name value hbook hid hvalue, Option.some_or]
  others other hne := by
    rcases getLocator_session opener (idString k) (idString other) locators
      deliveries with ⟨_, hsame⟩ | ⟨hsaved, _⟩
    · exact hsame
    · exact absurd (hother other hne) hsaved

theorem positionKept_detailPage (k : ℤ) (earlier : List Delivery)
    (last : Delivery) (locators : List DartMap) :
    PositionKept k locators (session .detailPage (idString k) locators
      (earlier ++ [last])) last.event := by
  have hall : savedFor .detailPage (idString k) (idString k)
      (earlier ++ [last]) = earlier ++ [last] :=
    List.filter_eq_self.2 fun _ _ => string_sameValue_iff.2 rfl
  refine positionKept_of_saved ?_ ?_ ?_ locators
  · rw [hall]
    exact List.append_ne_nil_of_right_ne_nil earlier (List.cons_ne_nil _ _)
  · intro name value _ _ hvalue
    rw [hall, List.map_append, List.map_cons, List.map_nil, mergeAll_append,
      lookup_merge, hvalue, Option.some_or]
  · intro other hne
    refine savedFor_eq_nil_iff.2 fun _ _ hkey => hne ?_
    exact idString_injective (JsonValue.string.inj hkey).symm

/-- From the empty store a session of the download page shows under which ids
it saved. -/
theorem savedUnderOwnId_of_positionKept {k : ℤ} {deliveries : List Delivery}
    {last : DartMap}
    (hkept : PositionKept k [] (session .downloadPage (idString k) [] deliveries)
      last) : SavedUnderOwnId k deliveries last := by
  obtain ⟨⟨record, rest, hfirst, hagrees⟩, hothers⟩ := hkept
  rcases getLocator_session .downloadPage (idString k) (idString k) []
    deliveries with ⟨_, hsame⟩ | ⟨hsaved, record', rest', hfirst', hrecord⟩
  · rw [hfirst] at hsame
    exact absurd hsame (List.cons_ne_nil _ _)
  · rw [hfirst'] at hfirst
    obtain ⟨rfl, rfl⟩ := List.cons.inj hfirst
    refine ⟨?_, ?_, ?_⟩
    · by_contra hnone
      refine hsaved (savedFor_eq_nil_iff.2 fun delivery hdelivery hkey => ?_)
      exact hnone ⟨delivery, hdelivery, hkey⟩
    · intro name value hbook hid hvalue
      have hlookup := hrecord name hid
      rw [hagrees name value hbook hid hvalue,
        lookup_mergeAll_savedMap _ _ _ hbook] at hlookup
      rw [ownEvents, hlookup]
      exact (Option.or_none).symm
    · intro delivery hdelivery other hne hkey
      rcases getLocator_session .downloadPage (idString k) (idString other) []
        deliveries with ⟨hnone, _⟩ | ⟨_, _, _, hother, _⟩
      · exact savedFor_eq_nil_iff.1 hnone delivery hdelivery hkey
      · rw [hothers other hne] at hother
        exact absurd hother.symm (List.cons_ne_nil _ _)

/-- The reading position survives every session opened from the detail page.
One opened from the download page keeps it exactly when the events themselves
carry the id of the book. -/
theorem positionKept_iff (opener : Opener) (k : ℤ) (earlier : List Delivery)
    (last : Delivery) :
    (∀ locators, PositionKept k locators (session opener (idString k) locators
      (earlier ++ [last])) last.event) ↔
      opener = .detailPage ∨
        SavedUnderOwnId k (earlier ++ [last]) last.event := by
  cases opener with
  | detailPage =>
      exact ⟨fun _ => Or.inl rfl, fun _ => positionKept_detailPage k earlier last⟩
  | downloadPage =>
      constructor
      · intro hkept
        exact Or.inr (savedUnderOwnId_of_positionKept (hkept []))
      · rintro (hopener | ⟨⟨delivery, hdelivery, hkey⟩, hcovers, hother⟩)
        · exact Opener.noConfusion hopener
        · refine positionKept_of_saved (fun hnone => ?_) hcovers fun other hne =>
            savedFor_eq_nil_iff.2 fun delivery hdelivery =>
              hother delivery hdelivery other hne
          exact savedFor_eq_nil_iff.1 hnone delivery hdelivery hkey

/-- An event without an `id`, delivered to the listener of the download page,
is saved for no book. -/
theorem position_lost_from_downloadPage :
    ¬ ∀ (opener : Opener) (k : ℤ) (locators : List DartMap)
      (earlier : List Delivery) (last : Delivery),
      PositionKept k locators (session opener (idString k) locators
        (earlier ++ [last])) last.event := by
  intro hall
  obtain ⟨record, rest, hfirst, _⟩ := (hall .downloadPage 1 [] []
    ⟨field "href" (.string "chapter3.xhtml"), .int 0⟩).resumes
  have hnone : getLocator (idString 1) (session .downloadPage (idString 1) []
      [⟨field "href" (.string "chapter3.xhtml"), .int 0⟩]) = [] := rfl
  rw [List.nil_append, hnone] at hfirst
  exact absurd hfirst.symm (List.cons_ne_nil _ _)

end EduEbook.ReadingPosition
