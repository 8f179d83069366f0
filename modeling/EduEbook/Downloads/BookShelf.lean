import EduEbook.Downloads.DownloadHistory
import EduEbook.Downloads.DownloadOutcome

/-!
# The library as a shelf of books

What the app keeps is spread over records that carry an id and a path, and files
under names made from titles.  Meant is a shelf: for each book, whether it is
recorded and what file it has.  This module says what a download, however it ends,
and a deletion do to the shelf, and shows that the records and files follow it
through every run, as long as no two books of the catalogue share a file.
-/

namespace EduEbook.BookShelf

open EduEbook.BookId
open EduEbook.DownloadDetails
open EduEbook.DownloadHistory (Names SeparateFiles names_download request
  tafsirAndSeerah)
open EduEbook.DownloadOutcome
open EduEbook.DownloadPath
open EduEbook.Json
open EduEbook.ObjectDb
open EduEbook.Records
open EduEbook.Runs

/-- A download is started and ends in some way, the downloads page is loaded, or one
of its rows is deleted. -/
inductive Event
  | download (book : Book) (body : List UInt8) (size : String) (key : JsonValue)
      (ending : Ending)
  | listAll
  | delete (index : ℕ)

/-! ## The shelf -/

/-- The ids of the recorded books, one for each record, those of the rows that the
downloads page shows, and the file of each book. -/
structure Shelf where
  records : List ℤ
  rows : List ℤ
  files : ℤ → Option StoredFile

/-- The stage at which a download ends. -/
def endStage (platform : Platform) (writable alreadyExists : Bool) (body : List UInt8)
    (ending : Ending) : Stage :=
  Stage.untouched.after (stepsBefore platform writable alreadyExists body ending)

/-- The file of the book at a stage. -/
def fileAt (body : List UInt8) (before : Option StoredFile) : Stage → Option StoredFile
  | .untouched => before
  | .deleted | .lost => none
  | .written count => some (receivedFile body count)
  | .recorded => some (receivedFile body body.length)

/-- The last byte of a download records the book, whatever comes after it. -/
def recordsAt (id : ℤ) (before : List ℤ) : Stage → List ℤ
  | .recorded | .lost => before ++ [id]
  | _ => before

def Shelf.step (platform : Platform) (writable : Book → Bool) (catalogue : List Book)
    (shelf : Shelf) : Event → Option Shelf
  | .download book body _ _ ending =>
      if book ∈ catalogue ∧ book.status ≠ some 0 then
        let stage := endStage platform (writable book) (shelf.files book.id).isSome body
          ending
        some
          { shelf with
            records := recordsAt book.id shelf.records stage
            files := Function.update shelf.files book.id
              (fileAt body (shelf.files book.id) stage) }
      else none
  | .listAll => some { shelf with rows := shelf.records }
  | .delete index =>
      match shelf.rows[index]? with
      | none => none
      | some id => some
          { shelf with
            records := shelf.records.filter fun other => other ≠ id
            files := Function.update shelf.files id none }

/-! ## The device -/

structure State (Node : Type*) where
  device : Device Node
  listed : List DartMap

section Machine

variable {Node : Type*} [DecidableEq Node] (resolve : String → Node)
  (writable : Node → Bool) (platform : Platform) (directory : String)
  (catalogue : List Book)

def step (state : State Node) : Event → Option (State Node)
  | .download book body size key ending =>
      if book ∈ catalogue ∧ book.status ≠ some 0 then
        some
          { state with
            device := outcome resolve writable (extensionOf book.pdf) platform directory
              (request book body size key) state.device ending }
      else none
  | .listAll => some { state with listed := state.device.downloads }
  | .delete index =>
      match state.listed[index]? with
      | none => none
      | some record => some
          { state with device := deleteEbook resolve record state.device }

def start (files : Node → Option StoredFile) : State Node :=
  ⟨⟨[], files, false⟩, []⟩

omit [DecidableEq Node] in
/-- The record is that of the book with the id. -/
def RecordOf (record : DartMap) (id : ℤ) : Prop :=
  ∃ book, Names resolve writable platform directory catalogue record book ∧ book.id = id

/-- The file of the book can be written. -/
def fileWritable (book : Book) : Bool :=
  writable (resolve (bookPath platform directory book))

omit [DecidableEq Node] in
/-- The device keeps what is on the shelf. -/
structure Keeps (state : State Node) (shelf : Shelf) : Prop where
  records : List.Forall₂ (RecordOf resolve writable platform directory catalogue)
    state.device.downloads shelf.records
  rows : List.Forall₂ (RecordOf resolve writable platform directory catalogue) state.listed shelf.rows
  files : ∀ book ∈ catalogue, book.status ≠ some 0 →
    state.device.files (resolve (bookPath platform directory book)) =
      shelf.files book.id

end Machine

section Refinement

variable {Node : Type*} [DecidableEq Node] {resolve : String → Node}
  {writable : Node → Bool} {platform : Platform} {directory : String}
  {catalogue : List Book}

variable (resolve writable platform directory) in
/-- The stage of a download on the device is the one on the shelf. -/
theorem atStage_endStage (book : Book) (body : List UInt8) (size : String)
    (key : JsonValue) (device : Device Node) (ending : Ending) :
    AtStage resolve (bookPath platform directory book) (request book body size key) device
      (endStage platform (fileWritable resolve writable platform directory book)
        (device.files (resolve (bookPath platform directory book))).isSome body ending)
      (outcome resolve writable (extensionOf book.pdf) platform directory
        (request book body size key) device ending) :=
  atStage_outcome resolve writable (extensionOf book.pdf) platform directory
    (request book body size key) device ending

omit [DecidableEq Node] in
/-- Where the file cannot be written nothing is touched. -/
theorem endStage_of_not_writable (platform : Platform) (alreadyExists : Bool)
    (body : List UInt8) (ending : Ending) :
    endStage platform false alreadyExists body ending = .untouched := by
  cases ending with
  | returned transfer => exact (folder_expected platform body).2
  | killedAfter steps transfer =>
      cases platform with
      | ios => exact congrArg _ List.take_nil
      | android =>
          cases steps with
          | zero => rfl
          | succ steps => exact congrArg (Stage.after _) (congrArg _ List.take_nil)

theorem stageFiles_self (stage : Stage) (path : String) (download : Download)
    (before : Node → Option StoredFile) :
    stage.files resolve path download before (resolve path) =
      fileAt download.body (before (resolve path)) stage := by
  cases stage with
  | untouched => rfl
  | deleted => rw [Stage.files, Function.update_self, fileAt]
  | written count => rw [Stage.files, Function.update_self, fileAt]
  | recorded => rw [Stage.files, Function.update_self, fileAt]
  | lost => rw [Stage.files, Function.update_self, fileAt]

theorem stageFiles_of_ne (stage : Stage) {path : String} (download : Download)
    (before : Node → Option StoredFile) {node : Node} (hnode : node ≠ resolve path) :
    stage.files resolve path download before node = before node := by
  cases stage with
  | untouched => rfl
  | deleted => rw [Stage.files, Function.update_of_ne hnode]
  | written count => rw [Stage.files, Function.update_of_ne hnode]
  | recorded => rw [Stage.files, Function.update_of_ne hnode]
  | lost => rw [Stage.files, Function.update_of_ne hnode]

omit [DecidableEq Node] in
theorem recordOf_path {record : DartMap} {book : Book}
    (hnames : Names resolve writable platform directory catalogue record book) :
    storedPath record = some (bookPath platform directory book) := by
  rw [storedPath, hnames.path_eq]

omit [DecidableEq Node] in
/-- A record is selected by the id of its book alone. -/
theorem selects_recordOf_iff {record : DartMap} {id : ℤ}
    (hrecord : RecordOf resolve writable platform directory catalogue record id) (other : ℤ) :
    selects (field "id" (.string (idString other))) record = true ↔ id = other := by
  obtain ⟨book, hnames, rfl⟩ := hrecord
  rw [selects_string_iff, hnames.id_eq, Option.some.injEq, JsonValue.string.injEq,
    idString_injective.eq_iff]

theorem keeps_download (hids : (catalogue.map (·.id)).Nodup)
    (hseparate : SeparateFiles resolve writable platform directory catalogue)
    {state : State Node} {shelf : Shelf} {book : Book} (hmem : book ∈ catalogue)
    (hstatus : book.status ≠ some 0) (body : List UInt8) (size : String)
    (key : JsonValue) (ending : Ending)
    (hkeeps : Keeps resolve writable platform directory catalogue state shelf) :
    Keeps resolve writable platform directory catalogue
      { state with
        device := outcome resolve writable (extensionOf book.pdf) platform directory
          (request book body size key) state.device ending }
      { shelf with
        records := recordsAt book.id shelf.records
          (endStage platform (fileWritable resolve writable platform directory book)
            (shelf.files book.id).isSome body ending)
        files := Function.update shelf.files book.id
          (fileAt body (shelf.files book.id)
            (endStage platform (fileWritable resolve writable platform directory book)
              (shelf.files book.id).isSome body ending)) } := by
  obtain ⟨-, hdownloads, hfiles⟩ := atStage_endStage resolve writable platform directory
    book body size key state.device ending
  rw [hkeeps.files book hmem hstatus] at hdownloads hfiles
  have htouched : writable (resolve (bookPath platform directory book)) = true ∨
      endStage platform (fileWritable resolve writable platform directory book)
        (shelf.files book.id).isSome body ending = .untouched := by
    rw [fileWritable]
    cases writable (resolve (bookPath platform directory book)) with
    | true => exact Or.inl rfl
    | false => exact Or.inr (endStage_of_not_writable platform _ body ending)
  revert hdownloads hfiles htouched
  generalize endStage platform (fileWritable resolve writable platform directory book)
    (shelf.files book.id).isSome body ending = stage
  intro hdownloads hfiles htouched
  refine ⟨?_, hkeeps.rows, ?_⟩
  · dsimp only
    rw [hdownloads]
    have hnew : stage ≠ .untouched →
        List.Forall₂ (RecordOf resolve writable platform directory catalogue)
          (state.device.downloads ++ [withKey key (downloadRecord
            (bookPath platform directory book) (request book body size key)).toMap])
          (shelf.records ++ [book.id]) := by
      intro hstage
      have hwritable := htouched.resolve_right hstage
      refine List.rel_append hkeeps.records (List.Forall₂.cons ?_ List.Forall₂.nil)
      exact ⟨book, names_download hmem hstatus hwritable body size key, rfl⟩
    cases stage with
    | recorded => exact hnew nofun
    | lost => exact hnew nofun
    | untouched => exact hkeeps.records
    | deleted => exact hkeeps.records
    | written count => exact hkeeps.records
  · intro other hother hotherStatus
    dsimp only
    rw [hfiles]
    by_cases hid : other.id = book.id
    · obtain rfl : other = book := List.inj_on_of_nodup_map hids hother hmem hid
      rw [Function.update_self, stageFiles_self, hkeeps.files other hother hotherStatus]
      rfl
    · rw [Function.update_of_ne hid, ← hkeeps.files other hother hotherStatus]
      rcases htouched with hwritable | rfl
      · have hpath := hseparate book hmem other hother hstatus hotherStatus (Ne.symm hid)
          hwritable
        exact stageFiles_of_ne stage _ _ hpath.symm
      · rfl

theorem keeps_delete
    (hseparate : SeparateFiles resolve writable platform directory catalogue)
    {state : State Node} {shelf : Shelf} {record : DartMap} {id : ℤ}
    (hrecord : RecordOf resolve writable platform directory catalogue record id)
    (hids : (catalogue.map (·.id)).Nodup)
    (hkeeps : Keeps resolve writable platform directory catalogue state shelf) :
    Keeps resolve writable platform directory catalogue
      { state with device := deleteEbook resolve record state.device }
      { shelf with
        records := shelf.records.filter fun other => other ≠ id
        files := Function.update shelf.files id none } := by
  obtain ⟨book, hnames, rfl⟩ := hrecord
  have hquery : field "id" (getValue record "id") =
      field "id" (.string (idString book.id)) := by
    rw [getValue, hnames.id_eq]
    rfl
  refine ⟨?_, hkeeps.rows, ?_⟩
  · dsimp only
    rw [deleteEbook, hquery]
    refine List.rel_filter (fun stored other hstored => ?_) hkeeps.records
    beta_reduce
    rw [Bool.not_eq_true', Bool.eq_false_iff, decide_eq_true_iff]
    exact not_congr (selects_recordOf_iff hstored book.id)
  · intro other hother hotherStatus
    dsimp only
    rw [deleteEbook, recordOf_path hnames]
    dsimp only
    by_cases hid : other.id = book.id
    · obtain rfl : other = book := List.inj_on_of_nodup_map hids hother hnames.mem hid
      rw [Function.update_self, Function.update_self]
    · rw [Function.update_of_ne hid, Function.update_of_ne]
      · exact hkeeps.files other hother hotherStatus
      · exact (hseparate book hnames.mem other hother hnames.status_ne hotherStatus
          (Ne.symm hid) hnames.writable_eq).symm

/-- Related lists have related elements at each position, or none. -/
theorem rel_getElem? {Left Right : Type*} {relation : Left → Right → Prop}
    {first : List Left} {second : List Right}
    (hrelated : List.Forall₂ relation first second) (index : ℕ) :
    Option.Rel relation first[index]? second[index]? := by
  induction hrelated generalizing index with
  | nil => exact Option.Rel.none
  | cons hhead _ ih =>
      cases index with
      | zero => exact Option.Rel.some hhead
      | succ index => exact ih index

/-- Each event is possible on the device exactly if it is on the shelf, and then the
device keeps what is on the shelf. -/
theorem keeps_step (hids : (catalogue.map (·.id)).Nodup)
    (hseparate : SeparateFiles resolve writable platform directory catalogue)
    {state : State Node} {shelf : Shelf}
    (hkeeps : Keeps resolve writable platform directory catalogue state shelf) (event : Event) :
    Option.Rel (Keeps resolve writable platform directory catalogue)
      (step resolve writable platform directory catalogue state event)
      (shelf.step platform (fileWritable resolve writable platform directory) catalogue
        event) := by
  cases event with
  | download book body size key ending =>
      rw [step, Shelf.step]
      split
      · rename_i hoffered
        exact Option.Rel.some
          (keeps_download hids hseparate hoffered.1 hoffered.2 body size key ending hkeeps)
      · exact Option.Rel.none
  | listAll => exact Option.Rel.some ⟨hkeeps.records, hkeeps.records, hkeeps.files⟩
  | delete index =>
      have hrow := rel_getElem? hkeeps.rows index
      rw [step, Shelf.step]
      revert hrow
      generalize state.listed[index]? = row
      generalize shelf.rows[index]? = id
      intro hrow
      cases hrow with
      | none => exact Option.Rel.none
      | some hrecord =>
          exact Option.Rel.some (keeps_delete hseparate hrecord hids hkeeps)

end Refinement

/-- The first book is downloaded, the second one is cut off and then fails after its
last byte, and the row of the first is deleted. -/
def sampleEvents : List Event :=
  [.download ⟨1, some 1, "Tafsir", "1.png", "http://host/1.epub"⟩ [80, 75] "2 B" .null
      (.returned .completes),
    .download ⟨2, some 1, "Seerah", "2.png", "http://host/2.pdf"⟩ [37, 80] "2 B" .null
      (.killedAfter 3 .completes),
    .download ⟨2, some 1, "Seerah", "2.png", "http://host/2.pdf"⟩ [37, 80] "2 B" .null
      (.returned (.fails 2 1)),
    .listAll, .delete 0]

end EduEbook.BookShelf
