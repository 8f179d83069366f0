import EduEbook.Data.BookId
import EduEbook.Models.BookModels
import EduEbook.Store.Tables
import Mathlib.Algebra.Group.Nat.Even

/-!
# From the heart button to the favorites page

A tap on the heart writes the encoding of a model into a line of the favorites file;
the favorites page lists the file and decodes what it finds.  Meant is a list of
marked books.  This module follows file, flag and list through any sequence of pages
that are opened and closed, of taps, and of listings that run one after the other,
and shows that the favorites page gets back the marked books themselves.
-/

namespace EduEbook.MarkedBooks

open EduEbook.BookId
open EduEbook.BookModels
open EduEbook.EbookStores
open EduEbook.Json
open EduEbook.LogStore
open EduEbook.Models
open EduEbook.ObjectDb
open EduEbook.Records
open EduEbook.Runs
open EduEbook.Tables

/-- A detail page.  Its model was decoded from the catalogue, or from the favorites,
and the id is that of the model. -/
structure Page where
  id : ℤ
  ebookModel : EbookModel
  id_eq : ebookModel.id = some id
  decoded : ∃ json, EbookModel.fromJson json = .ok ebookModel
  deriving DecidableEq

/-- The map that `addFavorite` inserts. -/
def Page.record (page : Page) : FavoriteRecord := ⟨idString page.id, page.ebookModel⟩

inductive Event
  | openPage (page : Page)
  | closePage
  | tap (page : Page) (key : JsonValue)
  | openFavorites

/-! ## The app -/

/-- The favorites file, the flag and the pages that share it, and the list of the
favorites page. -/
structure State where
  file : File
  favorite : Bool
  pages : List Page
  list : List DartMap

/-- The documents in an answer. -/
def docs : Answer DartMap → List DartMap
  | .rows list => list
  | _ => []

def checkFav (id : ℤ) (state : State) : State :=
  let checked := callAlone state.file
    (EbookFavorite.check (field "id" (.string (idString id)))).call
  { state with file := checked.1, favorite := !(docs checked.2).isEmpty }

def removeFavorite (id : ℤ) (state : State) : State :=
  checkFav id
    { state with
      file := (callAlone state.file
        (EbookFavorite.remove (field "id" (.string (idString id)))).call).1 }

def addFavorite (page : Page) (key : JsonValue) (state : State) : State :=
  checkFav page.id
    { state with
      file := (callAlone state.file
        (EbookFavorite.addFavorites page.record.toMap key).call).1 }

/-- The heart button of the page on top. -/
def tap (page : Page) (key : JsonValue) (state : State) : State :=
  if state.favorite then removeFavorite page.id state else addFavorite page key state

def getEbooksFavorites (state : State) : State :=
  let listed := callAlone state.file EbookFavorite.listAll.call
  { state with file := listed.1, list := docs listed.2 }

def step (state : State) : Event → Option State
  | .openPage page => some (checkFav page.id { state with pages := page :: state.pages })
  | .closePage =>
      match state.pages with
      | [] => none
      | _ :: pages => some { state with pages := pages }
  | .tap page key =>
      if state.pages.head? = some page then some (tap page key state) else none
  | .openFavorites => some (getEbooksFavorites state)

/-- The app on a device without favorites. -/
def start : State := ⟨[], false, [], []⟩

/-! ## The marked books -/

/-- The marked books, the book whose mark the heart shows, the pages, and the books
on the favorites page. -/
structure Marks where
  marked : List Page
  heartOf : Option ℤ
  pages : List Page
  shown : List Page

def Marked (marked : List Page) (id : ℤ) : Prop := ∃ page ∈ marked, page.id = id

instance (marked : List Page) (id : ℤ) : Decidable (Marked marked id) :=
  inferInstanceAs (Decidable (∃ page ∈ marked, page.id = id))

/-- The heart is that of the book checked last. -/
def Marks.heart (marks : Marks) : Bool :=
  marks.heartOf.any fun id => decide (Marked marks.marked id)

def Marks.toggle (page : Page) (marks : Marks) : Marks where
  marked :=
    if marks.heart then marks.marked.filter fun other => other.id ≠ page.id
    else marks.marked ++ [page]
  heartOf := some page.id
  pages := marks.pages
  shown := marks.shown

def Marks.step (marks : Marks) : Event → Option Marks
  | .openPage page =>
      some { marks with heartOf := some page.id, pages := page :: marks.pages }
  | .closePage =>
      match marks.pages with
      | [] => none
      | _ :: pages => some { marks with pages := pages }
  | .tap page _ =>
      if marks.pages.head? = some page then some (marks.toggle page) else none
  | .openFavorites => some { marks with shown := marks.marked }

def Marks.start : Marks := ⟨[], none, [], []⟩

/-- The file holds the marked books, the flag is the heart, and the favorites page
decodes its list to the books that it shows. -/
structure Keeps (state : State) (marks : Marks) : Prop where
  stored : StoredFavorites state.file (marks.marked.map Page.record)
  favorite_eq : state.favorite = marks.heart
  pages_eq : state.pages = marks.pages
  decodes : List.Forall₂ (fun doc page => favoriteModel doc = .ok page.ebookModel)
    state.list marks.shown

/-! ## The app keeps the marks -/

section Keeps

variable {file : File} {marked : List Page}

/-- A method leaves the rows of the table, and returns those. -/
theorem callAlone_stored (hstored : StoredFavorites file (marked.map Page.record))
    (tableCall : TableCall FavoriteRecord) :
    StoredFavorites (callAlone file (favoriteMethod tableCall).call).1
        (tableCall.change FavoriteRecord.id (marked.map Page.record)) ∧
      Agree PageTable.favorites.pageStore
        (callAlone file (favoriteMethod tableCall).call).2
        (tableCall.answer FavoriteRecord.id (marked.map Page.record)) := by
  have hrepresents : Represents PageTable.favorites.pageStore file
      ⟨marked.map Page.record, file.length⟩ := ⟨hstored, rfl⟩
  have hcall : (favoriteMethod tableCall).call =
      PageTable.favorites.pageStore.toCall tableCall :=
    call_method .favorites tableCall
  obtain ⟨hnext, hanswer⟩ := represents_step hrepresents tableCall
  rw [hcall]
  exact ⟨hnext.stored, hanswer⟩

theorem filter_record (id : ℤ) :
    (marked.map Page.record).filter (fun row => row.id ≠ idString id) =
      (marked.filter fun page => page.id ≠ id).map Page.record := by
  rw [List.filter_map]
  refine congrArg _ (List.filter_congr fun page _ => ?_)
  exact decide_eq_decide.2 (not_congr idString_injective.eq_iff)

theorem docs_of_agree {answer : Answer DartMap} {rows : List FavoriteRecord}
    (hagree : Agree PageTable.favorites.pageStore answer (.rows rows)) :
    Stored FavoriteRecord.toMap (docs answer) rows := by
  cases hagree with
  | rows hstored => exact hstored

/-- The flag says whether the book is marked. -/
theorem checkFav_stored {state : State}
    (hstored : StoredFavorites state.file (marked.map Page.record)) (id : ℤ) :
    StoredFavorites (checkFav id state).file (marked.map Page.record) ∧
      (checkFav id state).favorite = decide (Marked marked id) := by
  obtain ⟨hfile, hanswer⟩ := callAlone_stored hstored (.check (idString id))
  refine ⟨hfile, ?_⟩
  have hrows : Stored FavoriteRecord.toMap
      (docs (callAlone state.file (favoriteMethod (.check (idString id))).call).2)
      ((marked.map Page.record).filter fun row => row.id = idString id) :=
    docs_of_agree hanswer
  have hempty : (docs (callAlone state.file
      (favoriteMethod (.check (idString id))).call).2).isEmpty = true ↔
        ¬ Marked marked id := by
    rw [List.isEmpty_iff, ← List.length_eq_zero_iff, List.Forall₂.length_eq hrows,
      List.length_eq_zero_iff, List.filter_eq_nil_iff, Marked]
    simp [Page.record, idString_injective.eq_iff]
  have hfavorite : (checkFav id state).favorite =
      !(docs (callAlone state.file
        (favoriteMethod (.check (idString id))).call).2).isEmpty := rfl
  rw [hfavorite, Bool.eq_iff_iff, Bool.not_eq_true', Bool.eq_false_iff, ne_eq, hempty,
    not_not, decide_eq_true_iff]

/-- A document that is stored for a book decodes to its model. -/
theorem favoriteModel_of_stored {doc : DartMap} {page : Page}
    (hdoc : ∀ name, name ≠ "_id" → doc.lookup name = page.record.toMap.lookup name) :
    favoriteModel doc = .ok page.ebookModel := by
  obtain ⟨json, hjson⟩ := page.decoded
  have hitem : getValue doc "item" = .map page.ebookModel.toJson := by
    rw [getValue, hdoc "item" (by decide), lookup_item_toMap]
    rfl
  rw [favoriteModel, hitem]
  exact fromJson_toJson hjson fun _ => rfl

/-- Removing unmarks the book. -/
theorem removeFavorite_stored {state : State}
    (hstored : StoredFavorites state.file (marked.map Page.record)) (id : ℤ) :
    StoredFavorites (removeFavorite id state).file
        ((marked.filter fun page => page.id ≠ id).map Page.record) ∧
      (removeFavorite id state).favorite =
        decide (Marked (marked.filter fun page => page.id ≠ id) id) := by
  obtain ⟨hremoved, -⟩ := callAlone_stored hstored (.remove (idString id))
  rw [TableCall.change, filter_record] at hremoved
  rw [removeFavorite]
  exact checkFav_stored hremoved id

/-- Adding marks the book, at the end. -/
theorem addFavorite_stored {state : State}
    (hstored : StoredFavorites state.file (marked.map Page.record)) (page : Page)
    (key : JsonValue) :
    StoredFavorites (addFavorite page key state).file
        ((marked ++ [page]).map Page.record) ∧
      (addFavorite page key state).favorite =
        decide (Marked (marked ++ [page]) page.id) := by
  obtain ⟨hadded, -⟩ := callAlone_stored hstored (.add page.record key)
  rw [TableCall.change, ← List.map_singleton, ← List.map_append] at hadded
  rw [addFavorite]
  exact checkFav_stored hadded page.id

variable {state : State} {marks : Marks}

theorem keeps_openPage (hkeeps : Keeps state marks) (page : Page) :
    Keeps (checkFav page.id { state with pages := page :: state.pages })
      { marks with heartOf := some page.id, pages := page :: marks.pages } := by
  have hstored : StoredFavorites
      ({ state with pages := page :: state.pages } : State).file
      (marks.marked.map Page.record) := hkeeps.stored
  obtain ⟨hfile, hflag⟩ := checkFav_stored hstored page.id
  exact ⟨hfile, hflag, congrArg _ hkeeps.pages_eq, hkeeps.decodes⟩

theorem keeps_tap (hkeeps : Keeps state marks) (page : Page) (key : JsonValue) :
    Keeps (tap page key state) (marks.toggle page) := by
  rw [tap, hkeeps.favorite_eq, Marks.toggle]
  cases marks.heart with
  | true =>
      obtain ⟨hfile, hflag⟩ := removeFavorite_stored hkeeps.stored page.id
      exact ⟨hfile, hflag, hkeeps.pages_eq, hkeeps.decodes⟩
  | false =>
      obtain ⟨hfile, hflag⟩ := addFavorite_stored hkeeps.stored page key
      exact ⟨hfile, hflag, hkeeps.pages_eq, hkeeps.decodes⟩

/-- The favorites page decodes its list to the marked books. -/
theorem decodes_getEbooksFavorites
    (hstored : StoredFavorites state.file (marked.map Page.record)) :
    StoredFavorites (getEbooksFavorites state).file (marked.map Page.record) ∧
      List.Forall₂ (fun doc page => favoriteModel doc = .ok page.ebookModel)
        (getEbooksFavorites state).list marked := by
  obtain ⟨hfile, hanswer⟩ := callAlone_stored hstored .listAll
  have hrows : Stored FavoriteRecord.toMap (getEbooksFavorites state).list
      (marked.map Page.record) := docs_of_agree hanswer
  refine ⟨hfile, ?_⟩
  rw [Stored, List.forall₂_map_right_iff] at hrows
  exact hrows.imp fun doc page hdoc => favoriteModel_of_stored hdoc

theorem keeps_step (hkeeps : Keeps state marks) (event : Event) :
    Option.Rel Keeps (step state event) (marks.step event) := by
  cases event with
  | openPage page => exact Option.Rel.some (keeps_openPage hkeeps page)
  | closePage =>
      rw [step, Marks.step, hkeeps.pages_eq]
      cases marks.pages with
      | nil => exact Option.Rel.none
      | cons page pages =>
          exact Option.Rel.some
            ⟨hkeeps.stored, hkeeps.favorite_eq, rfl, hkeeps.decodes⟩
  | tap page key =>
      rw [step, Marks.step, hkeeps.pages_eq]
      split
      · exact Option.Rel.some (keeps_tap hkeeps page key)
      · exact Option.Rel.none
  | openFavorites =>
      obtain ⟨hfile, hlist⟩ := decodes_getEbooksFavorites hkeeps.stored
      exact Option.Rel.some ⟨hfile, hkeeps.favorite_eq, hkeeps.pages_eq, hlist⟩

theorem keeps_start : Keeps start Marks.start where
  stored := List.Forall₂.nil
  favorite_eq := rfl
  pages_eq := rfl
  decodes := List.Forall₂.nil

/-- The app keeps the marks in every run. -/
theorem keeps_run (events : List Event) :
    Option.Rel Keeps (run step start events) (run Marks.step Marks.start events) :=
  rel_run (fun _ _ event hkeeps => keeps_step hkeeps event) keeps_start events

end Keeps

/-! ## What is marked -/

/-- A tap is on a page whose own mark the heart shows. -/
def OwnHeart (marks : Marks) : Event → Prop
  | .tap page _ => marks.heartOf = some page.id
  | _ => True

def Event.tapsOn (id : ℤ) : Event → Bool
  | .tap page _ => page.id = id
  | _ => false

section Marks

variable {marks next : Marks} {event : Event}

theorem marked_append_iff {marked : List Page} {page : Page} {id : ℤ} :
    Marked (marked ++ [page]) id ↔ Marked marked id ∨ page.id = id := by
  simp [Marked, or_and_right, exists_or]

theorem marked_filter_iff {marked : List Page} {other id : ℤ} :
    Marked (marked.filter fun page => page.id ≠ other) id ↔
      Marked marked id ∧ id ≠ other := by
  simp only [Marked, List.mem_filter, decide_eq_true_eq]
  constructor
  · rintro ⟨page, ⟨hmem, hother⟩, rfl⟩
    exact ⟨⟨page, hmem, rfl⟩, hother⟩
  · rintro ⟨⟨page, hmem, rfl⟩, hother⟩
    exact ⟨page, ⟨hmem, hother⟩, rfl⟩

/-- No book is marked twice, and every marked book has been tapped. -/
structure Proper (events : List Event) (marked : List Page) : Prop where
  nodup : (marked.map Page.id).Nodup
  tapped : ∀ page ∈ marked, ∃ key, Event.tap page key ∈ events
  odd_iff : ∀ id, Marked marked id ↔ Odd (events.countP (Event.tapsOn id))

/-- An event that taps no heart changes no mark. -/
theorem proper_untapped {events : List Event} {marked : List Page}
    (hproper : Proper events marked) (huntapped : ∀ id, event.tapsOn id = false) :
    Proper (events ++ [event]) marked where
  nodup := hproper.nodup
  tapped := by
    intro page hpage
    obtain ⟨key, hkey⟩ := hproper.tapped page hpage
    exact ⟨key, List.mem_append_left _ hkey⟩
  odd_iff := by
    intro id
    rw [hproper.odd_iff, List.countP_append, List.countP_singleton, huntapped]
    rfl

/-- A tap on the own heart of a page flips the mark of its book alone. -/
theorem marked_toggle_iff {page : Page} (hown : marks.heartOf = some page.id) (id : ℤ) :
    Marked (marks.toggle page).marked id ↔
      if page.id = id then ¬ Marked marks.marked id else Marked marks.marked id := by
  have hheart : marks.heart = decide (Marked marks.marked page.id) := by
    rw [Marks.heart, hown]
    rfl
  rw [Marks.toggle, hheart]
  by_cases hmarked : Marked marks.marked page.id
  · rw [decide_eq_true hmarked, if_pos rfl, marked_filter_iff]
    by_cases hid : page.id = id
    · subst hid
      simp [hmarked]
    · simp [hid, Ne.symm hid]
  · rw [decide_eq_false hmarked, if_neg Bool.false_ne_true, marked_append_iff]
    by_cases hid : page.id = id
    · subst hid
      simp [hmarked]
    · simp [hid]

theorem nodup_toggle {page : Page} (hown : marks.heartOf = some page.id)
    (hnodup : (marks.marked.map Page.id).Nodup) :
    ((marks.toggle page).marked.map Page.id).Nodup := by
  have hheart : marks.heart = decide (Marked marks.marked page.id) := by
    rw [Marks.heart, hown]
    rfl
  rw [Marks.toggle, hheart]
  by_cases hmarked : Marked marks.marked page.id
  · rw [decide_eq_true hmarked, if_pos rfl]
    exact hnodup.sublist (List.filter_sublist.map Page.id)
  · rw [decide_eq_false hmarked, if_neg Bool.false_ne_true, List.map_append,
      List.map_singleton, List.nodup_append]
    refine ⟨hnodup, List.nodup_singleton _, ?_⟩
    intro id hid other hother hsame
    obtain ⟨marked, hmem, rfl⟩ := List.mem_map.1 hid
    rw [List.mem_singleton] at hother
    exact hmarked ⟨marked, hmem, hsame.trans hother⟩

theorem proper_tap {events : List Event} (hproper : Proper events marks.marked)
    {page : Page} (key : JsonValue) (hown : marks.heartOf = some page.id) :
    Proper (events ++ [.tap page key]) (marks.toggle page).marked where
  nodup := nodup_toggle hown hproper.nodup
  tapped := by
    intro other hother
    have hold : other ∈ marks.marked ∨ other = page := by
      rw [Marks.toggle] at hother
      dsimp only at hother
      split at hother
      · exact Or.inl (List.mem_filter.1 hother).1
      · exact (List.mem_append.1 hother).imp_right List.mem_singleton.1
    rcases hold with hmem | rfl
    · obtain ⟨first, hfirst⟩ := hproper.tapped other hmem
      exact ⟨first, List.mem_append_left _ hfirst⟩
    · exact ⟨key, List.mem_append_right _ (List.mem_singleton_self _)⟩
  odd_iff := by
    intro id
    rw [marked_toggle_iff hown, List.countP_append, List.countP_singleton, Event.tapsOn,
      hproper.odd_iff]
    by_cases hid : page.id = id
    · rw [if_pos hid, decide_eq_true hid, if_pos rfl, Nat.odd_add_one]
    · rw [if_neg hid, decide_eq_false hid, if_neg Bool.false_ne_true, Nat.add_zero]

theorem proper_step {events : List Event} (hproper : Proper events marks.marked)
    (hown : OwnHeart marks event) (hstep : marks.step event = some next) :
    Proper (events ++ [event]) next.marked := by
  cases event with
  | openPage page =>
      rw [Marks.step, Option.some.injEq] at hstep
      exact hstep ▸ proper_untapped hproper fun _ => rfl
  | closePage =>
      rw [Marks.step] at hstep
      split at hstep
      · cases hstep
      · rw [Option.some.injEq] at hstep
        exact hstep ▸ proper_untapped hproper fun _ => rfl
  | tap page key =>
      rw [Marks.step] at hstep
      split at hstep
      · rw [Option.some.injEq] at hstep
        exact hstep ▸ proper_tap hproper key hown
      · cases hstep
  | openFavorites =>
      rw [Marks.step, Option.some.injEq] at hstep
      exact hstep ▸ proper_untapped hproper fun _ => rfl

theorem proper_start : Proper [] Marks.start.marked where
  nodup := List.nodup_nil
  tapped := List.forall_mem_nil _
  odd_iff := by
    intro id
    refine iff_of_false ?_ Nat.not_odd_zero
    rintro ⟨page, hmem, -⟩
    exact List.not_mem_nil hmem

theorem proper_run {earlier events : List Event} {final : Marks}
    (hproper : Proper earlier marks.marked) (hown : Meets Marks.step OwnHeart marks events)
    (hrun : run Marks.step marks events = some final) :
    Proper (earlier ++ events) final.marked := by
  induction events generalizing earlier marks with
  | nil =>
      rw [run_nil, Option.some.injEq] at hrun
      rw [List.append_nil]
      exact hrun ▸ hproper
  | cons event events ih =>
      obtain ⟨next, hnext, hrest⟩ := run_cons_eq_some_iff.1 hrun
      have hfinal := ih (proper_step hproper hown.1 hnext) (hown.2 next hnext) hrest
      rwa [List.append_assoc, List.singleton_append] at hfinal

end Marks

/-- After any sequence of pages, taps and listings, done one after the other, in which
the heart that is tapped is that of its page, the favorites page gets back from the
file the models of exactly the books whose hearts were tapped an odd number of times,
each once, and the heart is on for exactly these books when their pages are opened. -/
theorem favorites_tapped_odd (events : List Event) (final : State)
    (hrun : run step start events = some final)
    (hown : Meets Marks.step OwnHeart Marks.start events) :
    ∃ marked : List Page, Proper events marked ∧
      (∀ id, (checkFav id final).favorite = decide (Marked marked id)) ∧
      List.Forall₂ (fun doc page => favoriteModel doc = .ok page.ebookModel)
        (getEbooksFavorites final).list marked := by
  have hkeeps := keeps_run events
  rw [hrun] at hkeeps
  generalize hmarks : run Marks.step Marks.start events = marks at hkeeps
  cases hkeeps with
  | @some _ marks hkeeps =>
      refine ⟨marks.marked, proper_run proper_start hown hmarks, fun id => ?_, ?_⟩
      · exact (checkFav_stored hkeeps.stored id).2
      · exact (decodes_getEbooksFavorites hkeeps.stored).2

/-- A page of a book with an id, a title and a rating. -/
def ratedPage (id : ℤ) (title : String) : Page where
  id := id
  ebookModel := ⟨some id, some title, none, none, none, none, none, none, none, none,
    none, none, none, some (.finite 4)⟩
  id_eq := rfl
  decoded := ⟨.map [("id", .int id), ("title", .string title), ("rating", .int 4)], rfl⟩

/-- One book is marked, and another is marked and unmarked. -/
def sampleEvents : List Event :=
  [.openPage (ratedPage 1 "Tafsir"), .tap (ratedPage 1 "Tafsir") .null, .closePage,
    .openPage (ratedPage 2 "Seerah"), .tap (ratedPage 2 "Seerah") .null, .openFavorites,
    .tap (ratedPage 2 "Seerah") .null]

theorem favorites_tapped_odd_sample :
    ∃ (final : State) (marked : List Page), Proper sampleEvents marked ∧
      (∀ id, (checkFav id final).favorite = decide (Marked marked id)) ∧
      List.Forall₂ (fun doc page => favoriteModel doc = .ok page.ebookModel)
        (getEbooksFavorites final).list marked :=
  ⟨_, favorites_tapped_odd sampleEvents _ rfl
    (meets_cons trivial rfl (meets_cons rfl rfl (meets_cons trivial rfl
      (meets_cons trivial rfl (meets_cons rfl rfl (meets_cons trivial rfl
        (meets_cons rfl rfl trivial)))))))⟩

end EduEbook.MarkedBooks
