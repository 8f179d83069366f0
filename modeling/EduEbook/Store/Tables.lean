import EduEbook.Store.Records

/-!
# The stores as tables of rows

For the pages, the downloads store and the favorites store are tables: they append a
row, delete and select rows by id, and list all rows.  Underneath each is a file
that only grows until a method tidies it.  This module says what a table is, with
the number of lines its file has, and shows that methods that run one after the
other answer and leave behind what the table does.
-/

namespace EduEbook.Tables

open EduEbook.EbookStores
open EduEbook.Json
open EduEbook.LogStore
open EduEbook.ObjectDb
open EduEbook.Records

/-! ## Tables -/

inductive TableCall (Row : Type)
  | add (row : Row) (key : JsonValue)
  | remove (id : String)
  | listAll
  | check (id : String)

/-- What a call returns. -/
inductive Answer (Row : Type)
  | nothing
  | count (number : ℕ)
  | rows (list : List Row)

/-- The rows, and the number of lines that the file needs for them. -/
structure Table (Row : Type) where
  rows : List Row
  lines : ℕ

section Table

variable {Row : Type} (rowId : Row → String) (tidies : TableCall Row → Bool)

def TableCall.answer (rows : List Row) : TableCall Row → Answer Row
  | .add _ _ => .nothing
  | .remove id => .count (rows.countP fun row => rowId row = id)
  | .listAll => .rows rows
  | .check id => .rows (rows.filter fun row => rowId row = id)

def TableCall.change (rows : List Row) : TableCall Row → List Row
  | .add row _ => rows ++ [row]
  | .remove id => rows.filter fun row => rowId row ≠ id
  | .listAll => rows
  | .check _ => rows

/-- The lines that the call appends. -/
def TableCall.appended : TableCall Row → ℕ
  | .add _ _ => 1
  | .remove _ => 1
  | .listAll => 0
  | .check _ => 0

/-- A call that tidies leaves a line for each row. -/
def TableCall.after (table : Table Row) (call : TableCall Row) : Table Row where
  rows := call.change rowId table.rows
  lines :=
    if tidies call then (call.change rowId table.rows).length
    else table.lines + call.appended

/-- The table after the calls, and what they return. -/
def Table.serve : Table Row → List (TableCall Row) → Table Row × List (Answer Row)
  | table, [] => (table, [])
  | table, call :: calls =>
      let served := Table.serve (call.after rowId tidies table) calls
      (served.1, call.answer rowId table.rows :: served.2)

end Table

/-! ## The methods of the stores -/

/-- What a method returns: the matches of `find`, or the count of `remove`. -/
def answerOf (call : Call DartMap DartMap) (handle : Handle DartMap) : Answer DartMap :=
  match call with
  | .read query _ => .rows (handle.records.filter (selects query))
  | .remove _ _ => .count handle.matched
  | _ => .nothing

/-- The file after a method that runs alone, and what the method returns. -/
def callAlone (file : File) (call : Call DartMap DartMap) : File × Answer DartMap :=
  let finished := call.program.foldl (perform objectDb) (file, {})
  (finished.1, answerOf call finished.2)

def serve : File → List (Call DartMap DartMap) → File × List (Answer DartMap)
  | file, [] => (file, [])
  | file, call :: calls =>
      let called := callAlone file call
      let served := serve called.1 calls
      (served.1, called.2 :: served.2)

/-- A store as the pages use it, with the rows it keeps. -/
structure PageStore where
  Row : Type
  toMap : Row → DartMap
  rowId : Row → String
  lookup_id : ∀ row, (toMap row).lookup "id" = some (.string (rowId row))
  store : Store
  method : TableCall Row → StoreCall store
  tidies : TableCall Row → Bool

inductive PageTable
  | downloads
  | favorites

def downloadMethod : TableCall DownloadRecord → EbookDownload
  | .add row key => .addDownload row.toMap key
  | .remove id => .remove (field "id" (.string id))
  | .listAll => .listAll
  | .check id => .check (field "id" (.string id))

def favoriteMethod : TableCall FavoriteRecord → EbookFavorite
  | .add row key => .addFavorites row.toMap key
  | .remove id => .remove (field "id" (.string id))
  | .listAll => .listAll
  | .check id => .check (field "id" (.string id))

/-- Every method of the downloads store tidies, of the favorites store only
`listAll`. -/
def PageTable.pageStore : PageTable → PageStore
  | .downloads =>
      { Row := DownloadRecord
        toMap := DownloadRecord.toMap
        rowId := DownloadRecord.id
        lookup_id := lookup_id_toMap
        store := .downloads
        method := downloadMethod
        tidies := fun _ => true }
  | .favorites =>
      { Row := FavoriteRecord
        toMap := FavoriteRecord.toMap
        rowId := FavoriteRecord.id
        lookup_id := lookup_id_favorite_toMap
        store := .favorites
        method := favoriteMethod
        tidies := fun
          | .listAll => true
          | _ => false }

section Refinement

variable (page : PageStore)

/-- The file holds the rows of the table, up to the keys of the database, in as many
lines as the table says. -/
structure Represents (file : File) (table : Table page.Row) : Prop where
  stored : Stored page.toMap (records file) table.rows
  length_eq : file.length = table.lines

/-- The method returns what the table does, up to the keys of the database. -/
inductive Agree : Answer DartMap → Answer page.Row → Prop
  | nothing : Agree .nothing .nothing
  | count (number : ℕ) : Agree (.count number) (.count number)
  | rows {docs : List DartMap} {list : List page.Row}
      (hstored : Stored page.toMap docs list) : Agree (.rows docs) (.rows list)

/-- The shape that the call of a method has. -/
def PageStore.toCall (call : TableCall page.Row) : Call DartMap DartMap :=
  match call with
  | .add row key => .insert (withKey key (page.toMap row)) (page.tidies call)
  | .remove id => .remove (field "id" (.string id)) (page.tidies call)
  | .listAll => .read ∅ (page.tidies call)
  | .check id => .read (field "id" (.string id)) (page.tidies call)

end Refinement

theorem call_method (which : PageTable) (tableCall : TableCall which.pageStore.Row) :
    call (which.pageStore.method tableCall) = which.pageStore.toCall tableCall := by
  cases which with
  | downloads => cases tableCall <;> rfl
  | favorites => cases tableCall <;> rfl

/-- The steps that end a method leave a line for each record, or the file as it is. -/
theorem foldl_ending (tidies : Bool) (file : File) (handle : Handle DartMap) :
    (ending tidies).foldl (perform objectDb) (file, handle) =
      (if tidies then rewrite handle.records else file, handle) := by
  cases tidies <;> rfl

theorem callAlone_fst (file : File) (call : Call DartMap DartMap) :
    (callAlone file call).1 = runAlone objectDb file call := rfl

section Step

variable {page : PageStore} {file : File} {table : Table page.Row}

theorem length_after {tidies : Bool} {docs : List DartMap} {rows : List page.Row}
    (hstored : Stored page.toMap docs rows) {untidied : File} {lines : ℕ}
    (hlines : untidied.length = lines) :
    (if tidies then rewrite docs else untidied : File).length =
      if tidies then rows.length else lines := by
  cases tidies with
  | false => exact hlines
  | true =>
      rw [if_pos rfl, if_pos rfl, rewrite, List.length_map]
      exact List.Forall₂.length_eq hstored

/-- One method on the file is one call on the table. -/
theorem represents_step (hrepresents : Represents page file table)
    (tableCall : TableCall page.Row) :
    Represents page (callAlone file (page.toCall tableCall)).1
        (tableCall.after page.rowId page.tidies table) ∧
      Agree page (callAlone file (page.toCall tableCall)).2
        (tableCall.answer page.rowId table.rows) := by
  obtain ⟨hstored, hlength⟩ := hrepresents
  have hgrown : ∀ entry : Entry DartMap DartMap,
      (file ++ [entry]).length = table.lines + 1 := by
    intro entry
    rw [List.length_append, hlength, List.length_singleton]
  cases tableCall with
  | add row key =>
      have hrows := stored_insert page.toMap row key hstored
      refine ⟨⟨?_, ?_⟩, ?_⟩
      · rw [callAlone_fst, records, load_runAlone]
        exact hrows
      · rw [callAlone, PageStore.toCall, Call.program, List.foldl_cons, List.foldl_cons,
          foldl_ending]
        exact length_after hrows (hgrown _)
      · exact Agree.nothing
  | remove id =>
      have hrows := stored_remove page.lookup_id id hstored
      refine ⟨⟨?_, ?_⟩, ?_⟩
      · rw [callAlone_fst, records, load_runAlone]
        exact hrows
      · rw [callAlone, PageStore.toCall, Call.program, List.foldl_cons, List.foldl_cons,
          foldl_ending]
        exact length_after hrows (hgrown _)
      · rw [callAlone, PageStore.toCall, Call.program, List.foldl_cons, List.foldl_cons,
          foldl_ending, TableCall.answer, List.countP_eq_length_filter,
          ← List.Forall₂.length_eq (stored_check page.lookup_id id hstored),
          ← List.countP_eq_length_filter]
        exact Agree.count _
  | listAll =>
      refine ⟨⟨?_, ?_⟩, ?_⟩
      · rw [callAlone_fst, records, load_runAlone]
        exact hstored
      · rw [callAlone, PageStore.toCall, Call.program, List.foldl_cons, List.foldl_cons,
          foldl_ending]
        exact length_after hstored hlength
      · rw [callAlone, PageStore.toCall, Call.program, List.foldl_cons, List.foldl_cons,
          foldl_ending]
        refine Agree.rows ?_
        have hall : (records file).filter (selects ∅) = records file :=
          List.filter_eq_self.2 fun _ _ => rfl
        exact hall.symm ▸ hstored
  | check id =>
      refine ⟨⟨?_, ?_⟩, ?_⟩
      · rw [callAlone_fst, records, load_runAlone]
        exact hstored
      · rw [callAlone, PageStore.toCall, Call.program, List.foldl_cons, List.foldl_cons,
          foldl_ending]
        exact length_after hstored hlength
      · rw [callAlone, PageStore.toCall, Call.program, List.foldl_cons, List.foldl_cons,
          foldl_ending]
        exact Agree.rows (stored_check page.lookup_id id hstored)

end Step

/-- Methods that run one after the other return what the table returns for the same
calls, and leave the rows of the table in as many lines as it says. -/
theorem serve_refines (which : PageTable) (file : File)
    (table : Table which.pageStore.Row) (calls : List (TableCall which.pageStore.Row))
    (hrepresents : Represents which.pageStore file table) :
    Represents which.pageStore
        (serve file (calls.map fun tableCall =>
          call (which.pageStore.method tableCall))).1
        (table.serve which.pageStore.rowId which.pageStore.tidies calls).1 ∧
      List.Forall₂ (Agree which.pageStore)
        (serve file (calls.map fun tableCall =>
          call (which.pageStore.method tableCall))).2
        (table.serve which.pageStore.rowId which.pageStore.tidies calls).2 := by
  induction calls generalizing file table with
  | nil => exact ⟨hrepresents, List.Forall₂.nil⟩
  | cons tableCall calls ih =>
      obtain ⟨hnext, hanswer⟩ := represents_step hrepresents tableCall
      rw [← call_method] at hnext hanswer
      obtain ⟨hfinal, hanswers⟩ := ih _ _ hnext
      exact ⟨hfinal, List.Forall₂.cons hanswer hanswers⟩

def seerahRow : FavoriteRecord where
  id := "1"
  item := ⟨some 1, some "Seerah", none, none, none, none, none, none, none, none, none,
    none, none, none⟩

/-- A favorite is recorded, asked for and listed. -/
def seerahCalls : List (TableCall FavoriteRecord) :=
  [.add seerahRow .null, .check "1", .listAll]

theorem serve_refines_favorites :
    Represents PageTable.favorites.pageStore
        (serve [] (seerahCalls.map fun tableCall =>
          call (PageTable.favorites.pageStore.method tableCall))).1
        (Table.serve PageTable.favorites.pageStore.rowId
          PageTable.favorites.pageStore.tidies ⟨[], 0⟩ seerahCalls).1 ∧
      List.Forall₂ (Agree PageTable.favorites.pageStore)
        (serve [] (seerahCalls.map fun tableCall =>
          call (PageTable.favorites.pageStore.method tableCall))).2
        (Table.serve PageTable.favorites.pageStore.rowId
          PageTable.favorites.pageStore.tidies ⟨[], 0⟩ seerahCalls).2 :=
  serve_refines .favorites [] ⟨[], 0⟩ seerahCalls ⟨List.Forall₂.nil, rfl⟩

end EduEbook.Tables
