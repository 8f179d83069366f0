import EduEbook.Downloads.DownloadDetails
import EduEbook.Library.Runs

/-!
# Runs of downloads and deletions

Records are keyed by the id of a book and files by a name made from its title.
This module follows both through any sequence of finished downloads and
deletions, and asks when every record keeps the file that was downloaded for it.
-/

namespace EduEbook.DownloadHistory

open EduEbook.BookId
open EduEbook.DownloadDetails
open EduEbook.DownloadPath
open EduEbook.Json
open EduEbook.ObjectDb
open EduEbook.Records
open EduEbook.Runs

/-- `listed` are the rows of the downloads page, and `received` the content last
downloaded for each id. -/
structure State (Node : Type*) where
  device : Device Node
  listed : List DartMap
  received : ℤ → Option (List UInt8)

inductive Event (Node : Type*)
  | download (book : Book) (body : List UInt8) (size : String) (key : JsonValue)
  | listAll
  | delete (index : ℕ)
  | removeOutside (node : Node)

/-- The app itself does this. -/
def Event.InApp {Node : Type*} : Event Node → Prop
  | .removeOutside _ => False
  | _ => True

/-- What the detail page passes to the download method. -/
def request (book : Book) (body : List UInt8) (size : String) (key : JsonValue) :
    Download where
  id := book.id
  name := bookName book.title
  photo := book.photo
  body := body
  size := size
  key := key

section Machine

variable {Node : Type*} [DecidableEq Node] (resolve : String → Node)
  (writable : Node → Bool) (platform : Platform) (directory : String)
  (catalogue : List Book)

/-- A download from the detail page that runs to its end. -/
def downloadEbook (book : Book) (download : Download) (device : Device Node) :
    Device Node :=
  (downloadMethod resolve writable book.pdf platform directory download device).foldl
    (perform resolve (savePath platform directory (extensionOf book.pdf) download.name)
      download) device

def step (state : State Node) : Event Node → Option (State Node)
  | .download book body size key =>
      -- Where the file cannot be written no download runs to its end.
      if book ∈ catalogue ∧ book.status ≠ some 0 ∧ body ≠ [] ∧
          writable (resolve (bookPath platform directory book)) = true then
        some
          { state with
            device := downloadEbook resolve writable platform directory book
              (request book body size key) state.device
            received := Function.update state.received book.id (some body) }
      else none
  | .listAll => some { state with listed := state.device.downloads }
  | .delete index =>
      match state.listed[index]? with
      | none => none
      | some record => some
          { state with device := deleteEbook resolve record state.device }
  | .removeOutside node => some
      { state with
        device := { state.device with
          files := Function.update state.device.files node none } }

/-- Nothing has been downloaded yet; other files may exist. -/
def start (files : Node → Option StoredFile) : State Node where
  device := ⟨[], files, false⟩
  listed := []
  received := fun _ => none

/-- Each record's file exists and holds the content last downloaded for the id
of that record. -/
def OwnFile (state : State Node) : Prop :=
  ∀ record ∈ state.device.downloads, ∃ id path content file,
    record.lookup "id" = some (.string (idString id)) ∧
      record.lookup "path" = some (.string path) ∧
      state.received id = some content ∧
      state.device.files (resolve path) = some file ∧ file.bytes = content

/-- Two books of the catalogue that can be downloaded never share a file that can be
written. -/
def SeparateFiles : Prop :=
  ∀ first ∈ catalogue, ∀ second ∈ catalogue, first.status ≠ some 0 →
    second.status ≠ some 0 → first.id ≠ second.id →
    writable (resolve (bookPath platform directory first)) = true →
    resolve (bookPath platform directory first) ≠
      resolve (bookPath platform directory second)

/-- The record that a download of the book leaves. -/
structure Names (record : DartMap) (book : Book) : Prop where
  mem : book ∈ catalogue
  status_ne : book.status ≠ some 0
  writable_eq : writable (resolve (bookPath platform directory book)) = true
  id_eq : record.lookup "id" = some (.string (idString book.id))
  path_eq : record.lookup "path" =
    some (.string (bookPath platform directory book))

/-- Every record is that of a book whose file holds its last download. -/
structure Kept (state : State Node) : Prop where
  stored : ∀ record ∈ state.device.downloads, ∃ book content file,
    Names resolve writable platform directory catalogue record book ∧
      state.received book.id = some content ∧
      state.device.files (resolve (bookPath platform directory book)) = some file ∧
      file.bytes = content
  listed : ∀ record ∈ state.listed, ∃ book,
    Names resolve writable platform directory catalogue record book

end Machine

section History

variable {Node : Type*} [DecidableEq Node] {resolve : String → Node}
  {writable : Node → Bool} {platform : Platform} {directory : String}
  {catalogue : List Book}

omit [DecidableEq Node] in
/-- Where distinct paths name distinct files, two books share one exactly if they
are of one kind and have one name. -/
theorem separateFiles_iff (hresolve : Function.Injective resolve) :
    SeparateFiles resolve writable platform directory catalogue ↔
      ∀ first ∈ catalogue, ∀ second ∈ catalogue, first.status ≠ some 0 →
        second.status ≠ some 0 → first.id ≠ second.id →
        writable (resolve (bookPath platform directory first)) = true →
        ¬ (extensionOf first.pdf = extensionOf second.pdf ∧
          bookName first.title = bookName second.title) := by
  have hpath : ∀ first second : Book,
      resolve (bookPath platform directory first) ≠
          resolve (bookPath platform directory second) ↔
        ¬ (extensionOf first.pdf = extensionOf second.pdf ∧
          bookName first.title = bookName second.title) := by
    intro first second
    rw [hresolve.ne_iff, bookPath, bookPath, ne_eq, savePath_eq_iff]
  simp only [SeparateFiles, hpath]

variable (resolve platform directory) in
/-- What a finished download does to the records and the files. -/
theorem downloadEbook_atStage (book : Book) (body : List UInt8) (size : String)
    (key : JsonValue) (device : Device Node) (hbody : body ≠ [])
    (hwritable : writable (resolve (bookPath platform directory book)) = true) :
    AtStage resolve (bookPath platform directory book) (request book body size key)
      device .recorded
      (downloadEbook resolve writable platform directory book (request book body size key)
        device) := by
  rw [downloadEbook, downloadMethod_eq]
  exact startDownloadAs_recorded (extensionOf book.pdf) platform directory hwritable hbody

omit [DecidableEq Node] in
theorem names_download {book : Book} (hmem : book ∈ catalogue)
    (hstatus : book.status ≠ some 0)
    (hwritable : writable (resolve (bookPath platform directory book)) = true)
    (body : List UInt8) (size : String) (key : JsonValue) :
    Names resolve writable platform directory catalogue
      (withKey key (downloadRecord (bookPath platform directory book)
        (request book body size key)).toMap) book := by
  refine ⟨hmem, hstatus, hwritable, ?_, ?_⟩
  · rw [lookup_withKey (by decide), lookup_id_toMap]
    rfl
  · rw [lookup_withKey (by decide), lookup_path_toMap]
    rfl

/-- A finished download keeps every record's file: the same id means the same
book, and another id another file. -/
theorem kept_download (hids : (catalogue.map (·.id)).Nodup)
    (hseparate : SeparateFiles resolve writable platform directory catalogue)
    {state : State Node} {book : Book} {body : List UInt8}
    (hmem : book ∈ catalogue) (hstatus : book.status ≠ some 0) (hbody : body ≠ [])
    (hwritable : writable (resolve (bookPath platform directory book)) = true)
    (size : String) (key : JsonValue)
    (hkept : Kept resolve writable platform directory catalogue state) :
    Kept resolve writable platform directory catalogue
      { state with
        device := downloadEbook resolve writable platform directory book
          (request book body size key) state.device
        received := Function.update state.received book.id (some body) } := by
  obtain ⟨-, hdownloads, hfiles⟩ := downloadEbook_atStage resolve platform directory
    book body size key state.device hbody hwritable
  have hnew : (downloadEbook resolve writable platform directory book
      (request book body size key) state.device).files
        (resolve (bookPath platform directory book)) =
      some (receivedFile body body.length) := by
    rw [hfiles, Stage.files, Function.update_self]
    rfl
  have hbytes : (receivedFile body body.length).bytes = body := List.take_length
  refine ⟨?_, hkept.listed⟩
  intro record hrecord
  dsimp only at hrecord ⊢
  rw [hdownloads] at hrecord
  rcases List.mem_append.1 hrecord with hold | hlast
  · obtain ⟨other, content, file, hnames, hreceived, hfile, hcontent⟩ :=
      hkept.stored record hold
    by_cases hid : other.id = book.id
    · obtain rfl : other = book :=
        List.inj_on_of_nodup_map hids hnames.mem hmem hid
      exact ⟨other, body, _, hnames, Function.update_self .., hnew, hbytes⟩
    · refine ⟨other, content, file, hnames, ?_, ?_, hcontent⟩
      · rw [Function.update_of_ne hid, hreceived]
      · rw [hfiles, Stage.files, Function.update_of_ne, hfile]
        exact hseparate other hnames.mem book hmem hnames.status_ne hstatus hid
          hnames.writable_eq
  · obtain rfl := List.mem_singleton.1 hlast
    exact ⟨book, body, _, names_download hmem hstatus hwritable body size key,
      Function.update_self .., hnew, hbytes⟩

/-- Deleting a listed row removes all records of its book, and no file of
another book. -/
theorem kept_delete
    (hseparate : SeparateFiles resolve writable platform directory catalogue)
    {state : State Node} {record : DartMap} {book : Book}
    (hnames : Names resolve writable platform directory catalogue record book)
    (hkept : Kept resolve writable platform directory catalogue state) :
    Kept resolve writable platform directory catalogue
      { state with device := deleteEbook resolve record state.device } := by
  have hquery : field "id" (getValue record "id") =
      field "id" (.string (idString book.id)) := by
    rw [getValue, hnames.id_eq]
    rfl
  have hpath : storedPath record = some (bookPath platform directory book) := by
    rw [storedPath, hnames.path_eq]
  refine ⟨?_, hkept.listed⟩
  intro other hother
  simp only [deleteEbook, hquery, hpath] at hother ⊢
  obtain ⟨hold, hselected⟩ := List.mem_filter.1 hother
  obtain ⟨second, content, file, hsecond, hreceived, hfile, hcontent⟩ :=
    hkept.stored other hold
  have hid : second.id ≠ book.id := by
    intro hsame
    rw [Bool.not_eq_true', Bool.eq_false_iff] at hselected
    exact hselected (selects_string_iff.2 (hsame ▸ hsecond.id_eq))
  refine ⟨second, content, file, hsecond, hreceived, ?_, hcontent⟩
  rw [Function.update_of_ne, hfile]
  exact hseparate second hsecond.mem book hnames.mem hsecond.status_ne
    hnames.status_ne hid hsecond.writable_eq

theorem kept_step (hids : (catalogue.map (·.id)).Nodup)
    (hseparate : SeparateFiles resolve writable platform directory catalogue)
    {state next : State Node} {event : Event Node} (hinApp : event.InApp)
    (hkept : Kept resolve writable platform directory catalogue state)
    (hstep : step resolve writable platform directory catalogue state event = some next) :
    Kept resolve writable platform directory catalogue next := by
  cases event with
  | download book body size key =>
      rw [step] at hstep
      split at hstep
      · rename_i hdownload
        obtain ⟨hmem, hstatus, hbody, hwritable⟩ := hdownload
        rw [Option.some.injEq] at hstep
        exact hstep ▸
          kept_download hids hseparate hmem hstatus hbody hwritable size key hkept
      · cases hstep
  | listAll =>
      rw [step, Option.some.injEq] at hstep
      subst hstep
      refine ⟨hkept.stored, fun record hrecord => ?_⟩
      obtain ⟨book, -, -, hnames, -⟩ := hkept.stored record hrecord
      exact ⟨book, hnames⟩
  | delete index =>
      rw [step] at hstep
      split at hstep
      · cases hstep
      · rename_i record hrecord
        rw [Option.some.injEq] at hstep
        obtain ⟨book, hnames⟩ := hkept.listed record (List.mem_of_getElem? hrecord)
        exact hstep ▸ kept_delete hseparate hnames hkept
  | removeOutside node => exact hinApp.elim

omit [DecidableEq Node] in
theorem ownFile_of_kept {state : State Node}
    (hkept : Kept resolve writable platform directory catalogue state) :
    OwnFile resolve state := by
  intro record hrecord
  obtain ⟨book, content, file, hnames, hreceived, hfile, hcontent⟩ :=
    hkept.stored record hrecord
  exact ⟨book.id, _, content, file, hnames.id_eq, hnames.path_eq, hreceived, hfile,
    hcontent⟩

/-- The second of two downloads into one file takes the first one's content. -/
theorem not_ownFile_of_shared {first second : Book}
    (hid : first.id ≠ second.id)
    (hshared : resolve (bookPath platform directory first) =
      resolve (bookPath platform directory second))
    (hwritable : writable (resolve (bookPath platform directory first)) = true)
    (files : Node → Option StoredFile) :
    ¬ OwnFile resolve
      { device := downloadEbook resolve writable platform directory second
          (request second [1] "" .null)
          (downloadEbook resolve writable platform directory first
            (request first [0] "" .null) (start files).device)
        listed := []
        received := Function.update
          (Function.update (fun _ => none) first.id (some [0])) second.id
          (some [1]) } := by
  intro hown
  obtain ⟨-, hfirst, -⟩ := downloadEbook_atStage resolve platform directory first [0]
    "" .null (start files).device (List.cons_ne_nil 0 []) hwritable
  obtain ⟨-, hdownloads, hfiles⟩ := downloadEbook_atStage resolve platform directory
    second [1] "" .null
    (downloadEbook resolve writable platform directory first (request first [0] "" .null)
      (start files).device) (List.cons_ne_nil 1 []) (hshared ▸ hwritable)
  -- The record of the first book is still there.
  have hrecord : withKey .null (downloadRecord (bookPath platform directory first)
      (request first [0] "" .null)).toMap ∈
        (downloadEbook resolve writable platform directory second
          (request second [1] "" .null)
          (downloadEbook resolve writable platform directory first
            (request first [0] "" .null) (start files).device)).downloads := by
    rw [hdownloads, Stage.downloads, hfirst]
    exact List.mem_append_left _ (List.mem_append_right _ List.mem_cons_self)
  obtain ⟨bookId, path, content, file, hbookId, hpath, hreceived, hfile, hcontent⟩ :=
    hown _ hrecord
  rw [lookup_withKey (by decide), lookup_id_toMap, Option.some.injEq,
    JsonValue.string.injEq] at hbookId
  obtain rfl := idString_injective hbookId
  rw [lookup_withKey (by decide), lookup_path_toMap, Option.some.injEq,
    JsonValue.string.injEq] at hpath
  subst hpath
  have hzero : content = [0] := by
    change Function.update (Function.update (fun _ => none) first.id (some [0]))
      second.id (some [1]) first.id = some content at hreceived
    rw [Function.update_of_ne hid, Function.update_self] at hreceived
    exact (Option.some.inj hreceived).symm
  have hone : file = receivedFile [1] 1 := by
    change (downloadEbook resolve writable platform directory second
      (request second [1] "" .null) _).files
        (resolve (bookPath platform directory first)) = some file at hfile
    rw [hfiles, hshared, Stage.files, Function.update_self] at hfile
    exact (Option.some.inj hfile).symm
  rw [hone, hzero] at hcontent
  exact absurd hcontent (by decide)

theorem not_always_ownFile {first second : Book} (hfirst : first ∈ catalogue)
    (hsecond : second ∈ catalogue) (hfirstStatus : first.status ≠ some 0)
    (hsecondStatus : second.status ≠ some 0) (hid : first.id ≠ second.id)
    (hwritable : writable (resolve (bookPath platform directory first)) = true)
    (hshared : resolve (bookPath platform directory first) =
      resolve (bookPath platform directory second))
    (files : Node → Option StoredFile) :
    ¬ ∀ (events : List (Event Node)) (state : State Node),
        (∀ event ∈ events, event.InApp) →
        run (step resolve writable platform directory catalogue) (start files) events =
          some state →
        OwnFile resolve state := by
  intro hown
  refine not_ownFile_of_shared hid hshared hwritable files
    (hown [.download first [0] "" .null, .download second [1] "" .null] _ ?_ ?_)
  · intro event hevent
    rcases List.mem_pair.1 hevent with rfl | rfl <;> trivial
  · rw [run_cons, step, if_pos ⟨hfirst, hfirstStatus, List.cons_ne_nil 0 [], hwritable⟩,
      Option.bind_some, run_cons, step,
      if_pos ⟨hsecond, hsecondStatus, List.cons_ne_nil 1 [], hshared ▸ hwritable⟩]
    rfl

/-- In every run of downloads and deletions each record keeps its own file,
exactly if no two books of the catalogue are saved under one file that can be
written. -/
theorem ownFile_iff (resolve : String → Node) (writable : Node → Bool)
    (platform : Platform) (directory : String) (catalogue : List Book)
    (files : Node → Option StoredFile) (hids : (catalogue.map (·.id)).Nodup) :
    (∀ (events : List (Event Node)) (state : State Node),
        (∀ event ∈ events, event.InApp) →
        run (step resolve writable platform directory catalogue) (start files) events =
          some state →
        OwnFile resolve state) ↔
      SeparateFiles resolve writable platform directory catalogue := by
  constructor
  · intro hown first hfirst second hsecond hfirstStatus hsecondStatus hid hwritable hshared
    exact not_always_ownFile hfirst hsecond hfirstStatus hsecondStatus hid hwritable
      hshared files hown
  · intro hseparate events state hinApp hrun
    refine ownFile_of_kept (run_invariant_of_meets
      (fun state event next hkept hevent hstep =>
        kept_step hids hseparate hevent hkept hstep) ?_
      (meets_of_forall_mem hinApp (start files)) hrun)
    exact ⟨nofun, nofun⟩

end History

/-- Two books of different kinds and titles, saved under different names. -/
def tafsirAndSeerah : List Book :=
  [⟨1, some 1, "Tafsir", "1.png", "http://host/1.epub"⟩,
    ⟨2, some 1, "Seerah", "2.png", "http://host/2.pdf"⟩]

theorem ownFile_tafsirAndSeerah :
    (∀ (events : List (Event String)) (state : State String),
        (∀ event ∈ events, event.InApp) →
        run (step id (fun _ => true) .ios "/docs" tafsirAndSeerah) (start fun _ => none)
          events = some state →
        OwnFile id state) ↔
      SeparateFiles id (fun _ => true) .ios "/docs" tafsirAndSeerah :=
  ownFile_iff id (fun _ => true) .ios "/docs" tafsirAndSeerah (fun _ => none) (by decide)

def seerah : Book := ⟨1, some 1, "Seerah", "1.png", "http://host/1.epub"⟩

/-- Another book with the same title. -/
def otherSeerah : Book := ⟨2, some 1, "Seerah", "2.png", "http://host/2.epub"⟩

/-- The download of the second book overwrites the file of the first. -/
theorem otherSeerah_overwrites :
    ([seerah, otherSeerah].map (·.id)).Nodup ∧
      ¬ ∀ (events : List (Event String)) (state : State String),
        (∀ event ∈ events, event.InApp) →
        run (step id (fun _ => true) .ios "/docs" [seerah, otherSeerah])
          (start fun _ => none) events = some state →
        OwnFile id state :=
  ⟨by decide, not_always_ownFile
    (show seerah ∈ [seerah, otherSeerah] by decide)
    (show otherSeerah ∈ [seerah, otherSeerah] by decide) (by decide) (by decide)
    (by decide) rfl (by decide) _⟩

end EduEbook.DownloadHistory
