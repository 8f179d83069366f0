import EduEbook.Data.BookId
import EduEbook.Downloads.DownloadPath
import EduEbook.Store.Records

/-!
# Downloading a book, step by step

`startDownload` makes the folder, replaces an old file by an empty one, lets the
dialog write the bytes that arrive, and records the download once they are all
there.  Which file a path names and whether the app can write it is up to the host,
so `resolve` and `writable` are parameters.  Every prefix of the steps leaves the
device at one of five stages, which is all that the results about interrupted,
failed and finished downloads use.
-/

namespace EduEbook.DownloadDetails

open EduEbook.BookId
open EduEbook.DownloadPath
open EduEbook.EbookStores
open EduEbook.Json
open EduEbook.LogStore
open EduEbook.ObjectDb
open EduEbook.Records

/-- A file, and whether all the bytes of the download that wrote it arrived. -/
@[ext]
structure StoredFile where
  bytes : List UInt8
  complete : Bool
  nonempty_of_complete : complete = true → bytes ≠ []
  deriving DecidableEq

def emptyFile : StoredFile := ⟨[], false, by simp⟩

/-- The file once the first `count` bytes of the body have arrived. -/
def receivedFile (body : List UInt8) (count : ℕ) : StoredFile where
  bytes := body.take count
  complete := decide (body.take count = body ∧ body ≠ [])
  nonempty_of_complete := by
    intro hcomplete
    obtain ⟨hall, hbody⟩ := of_decide_eq_true hcomplete
    rw [hall]
    exact hbody

@[simp]
theorem complete_receivedFile {body : List UInt8} {count : ℕ} :
    (receivedFile body count).complete = true ↔
      body.length ≤ count ∧ body ≠ [] := by
  rw [receivedFile, decide_eq_true_iff, List.take_eq_self_iff]

/-- The records of the downloads store, the files, and the flag of the shared
`DownloadDetails`. -/
structure Device (Node : Type*) where
  downloads : List DartMap
  files : Node → Option StoredFile
  downloaded : Bool

/-- What one run of a download method is given, and what the server sends. -/
structure Download where
  id : ℤ
  name : String
  photo : String
  body : List UInt8
  size : String
  key : JsonValue

/-- `EbookDownload.check({'id': id})`. -/
def getDownload (id : String) (downloads : List DartMap) : List DartMap :=
  downloads.filter (selects (field "id" (.string id)))

/-- `String path = record['path']`, which throws unless it is a string. -/
def storedPath (record : DartMap) : Option String :=
  match record.lookup "path" with
  | some (.string path) => some path
  | _ => none

section Methods

variable {Node : Type*} (resolve : String → Node)

def checkDownload (id : ℤ) (device : Device Node) : Device Node :=
  match getDownload (idString id) device.downloads with
  | [] => { device with downloaded := false }
  | record :: _ =>
      match storedPath record with
      | some path =>
          { device with downloaded := (device.files (resolve path)).isSome }
      | none => device

def addDownload (map : DartMap) (key : JsonValue) (id : ℤ)
    (device : Device Node) : Device Node :=
  checkDownload resolve id
    { device with downloads := device.downloads ++ [withKey key map] }

/-- `_deleteEbook(record, index)` on the store and the files. -/
def deleteEbook [DecidableEq Node] (record : DartMap) (device : Device Node) :
    Device Node where
  downloads := device.downloads.filter fun stored =>
    !selects (field "id" (getValue record "id")) stored
  files :=
    match storedPath record with
    | some path => Function.update device.files (resolve path) none
    | none => device.files
  downloaded := device.downloaded

/-- The map that the dialog's result is recorded as. -/
def downloadRecord (path : String) (download : Download) : DownloadRecord where
  id := idString download.id
  path := path
  image := download.photo
  size := download.size
  name := download.name

inductive DownloadStep
  | createDirectory
  | deleteFile
  | createFile
  | receive (byte : UInt8)
  | insertRecord
  | recheck

/-- The directory that `createSync` makes holds no file that a record names.  The steps
on the file are only reached where it can be written. -/
def perform [DecidableEq Node] (path : String) (download : Download)
    (device : Device Node) : DownloadStep → Device Node
  | .createDirectory => device
  | .deleteFile =>
      { device with files := Function.update device.files (resolve path) none }
  | .createFile =>
      { device with
        files := Function.update device.files (resolve path) (some emptyFile) }
  | .receive byte =>
      let bytes := ((device.files (resolve path)).elim [] (·.bytes)) ++ [byte]
      { device with
        files := Function.update device.files (resolve path)
          (some ⟨bytes, decide (bytes.length = download.body.length),
            fun _ => List.append_ne_nil_of_right_ne_nil _ (List.cons_ne_nil _ _)⟩) }
  | .insertRecord =>
      { device with
        downloads := device.downloads ++
          [withKey download.key (downloadRecord path download).toMap] }
  | .recheck => checkDownload resolve download.id device

def folderSteps : Platform → List DownloadStep
  | .android => [.createDirectory]
  | .ios => []

/-- The steps until the dialog opens. -/
def openingSteps (platform : Platform) (alreadyExists : Bool) : List DownloadStep :=
  folderSteps platform ++
    if alreadyExists then [.deleteFile, .createFile] else [.createFile]

/-- The dialog returns when the bytes received reach the announced total, which
it is told of only as bytes arrive. -/
def recordSteps (body : List UInt8) (received : ℕ) : List DownloadStep :=
  if body ≠ [] ∧ body.length ≤ received then [.insertRecord, .recheck] else []

/-- The steps of a download whose transfer has the given steps.  Neither method makes
the folders that a title with a slash asks for: where the file is not writable,
`delete` or `create` throws before the dialog opens. -/
def stepsWith (platform : Platform) (writable alreadyExists : Bool)
    (transfer : List DownloadStep) : List DownloadStep :=
  if writable then openingSteps platform alreadyExists ++ transfer
  else folderSteps platform

-- The folder of the file exists, and the host lets the app write to it.
variable (writable : Node → Bool)

/-- The steps of the two download methods on a device, in order. -/
def startDownloadAs (extension : Extension) (platform : Platform)
    (directory : String) (download : Download) (device : Device Node) :
    List DownloadStep :=
  let file := resolve (savePath platform directory extension download.name)
  stepsWith platform (writable file) (device.files file).isSome
    (download.body.map .receive ++ recordSteps download.body download.body.length)

def startDownload : Platform → String → Download → Device Node →
    List DownloadStep := startDownloadAs resolve writable .epub

def startDownloadPdf : Platform → String → Download → Device Node →
    List DownloadStep := startDownloadAs resolve writable .pdf

/-- The method behind the button that the detail page shows for a url. -/
def downloadMethod (url : String) : Platform → String → Download → Device Node →
    List DownloadStep :=
  match extensionOf url with
  | .epub => startDownload resolve writable
  | .pdf => startDownloadPdf resolve writable

theorem downloadMethod_eq (url : String) :
    downloadMethod resolve writable url =
      startDownloadAs resolve writable (extensionOf url) := by
  rw [downloadMethod]
  cases extensionOf url with
  | epub => rfl
  | pdf => rfl

end Methods

theorem checkDownload_downloads {Node : Type*} (resolve : String → Node)
    (id : ℤ) (device : Device Node) :
    (checkDownload resolve id device).downloads = device.downloads := by
  rw [checkDownload]
  split
  · rfl
  · split <;> rfl

theorem checkDownload_files {Node : Type*} (resolve : String → Node)
    (id : ℤ) (device : Device Node) :
    (checkDownload resolve id device).files = device.files := by
  rw [checkDownload]
  split
  · rfl
  · split <;> rfl

/-- Run alone on the file, the store's methods do to its records what
`addDownload` and `deleteEbook` do to the list of them. -/
theorem records_addDownload {Node : Type*} (resolve : String → Node) (file : File)
    (map : DartMap) (key : JsonValue) (id : ℤ) {device : Device Node}
    (hrecords : records file = device.downloads) :
    records (runAlone objectDb file (EbookDownload.addDownload map key).call) =
      (addDownload resolve map key id device).downloads := by
  rw [addDownload, checkDownload_downloads, ← hrecords, records, load_runAlone]
  rfl

theorem records_deleteEbook {Node : Type*} [DecidableEq Node]
    (resolve : String → Node) (file : File) (record : DartMap)
    {device : Device Node} (hrecords : records file = device.downloads) :
    records (runAlone objectDb file
        (EbookDownload.remove (field "id" (getValue record "id"))).call) =
      (deleteEbook resolve record device).downloads := by
  rw [deleteEbook, ← hrecords, records, load_runAlone]
  rfl

theorem storedPath_downloadRecord (path : String) (download : Download) :
    storedPath (withKey download.key (downloadRecord path download).toMap) =
      some path := by
  rw [storedPath, lookup_withKey (by decide), lookup_path_toMap]
  rfl

theorem lookup_id_downloadRecord (path : String) (download : Download) :
    (withKey download.key (downloadRecord path download).toMap).lookup "id" =
      some (.string (idString download.id)) := by
  rw [lookup_withKey (by decide), lookup_id_toMap]
  rfl

/-! ## The stages of a download -/

/-- At `lost` the book is recorded and its file deleted. -/
inductive Stage
  | untouched
  | deleted
  | written (count : ℕ)
  | recorded
  | lost

def Stage.next : Stage → DownloadStep → Stage
  | .recorded, .deleteFile => .lost
  | .deleted, .insertRecord => .lost
  | _, .deleteFile => .deleted
  | _, .createFile => .written 0
  | .written count, .receive _ => .written (count + 1)
  | _, .insertRecord => .recorded
  | stage, _ => stage

/-- The steps that can follow a stage, with the byte that arrives next. -/
def Expected (body : List UInt8) : Stage → DownloadStep → Prop
  | .untouched, .createDirectory => True
  | .untouched, .deleteFile => True
  | .written _, .deleteFile => True
  | .untouched, .createFile => True
  | .deleted, .createFile => True
  | .written count, .receive byte => body[count]? = some byte
  | .written count, .insertRecord => body.length ≤ count ∧ body ≠ []
  | .recorded, .recheck => True
  -- An error after the last byte deletes the file while the book is recorded.
  | .recorded, .deleteFile => True
  | .deleted, .insertRecord => body ≠ []
  | .lost, .recheck => True
  | _, _ => False

/-- A sequence of steps each of which is expected where it comes. -/
def ExpectedSteps (body : List UInt8) : Stage → List DownloadStep → Prop
  | _, [] => True
  | stage, next :: rest =>
      Expected body stage next ∧ ExpectedSteps body (stage.next next) rest

section Stages

variable {Node : Type*} [DecidableEq Node] (resolve : String → Node)

/-- The records that the download has stored at a stage. -/
def Stage.downloads (path : String) (download : Download)
    (before : List DartMap) : Stage → List DartMap
  | .recorded | .lost =>
      before ++ [withKey download.key (downloadRecord path download).toMap]
  | _ => before

/-- The files as they are at a stage. -/
def Stage.files (path : String) (download : Download)
    (before : Node → Option StoredFile) : Stage → Node → Option StoredFile
  | .untouched => before
  | .deleted | .lost => Function.update before (resolve path) none
  | .written count =>
      Function.update before (resolve path) (some (receivedFile download.body count))
  | .recorded =>
      Function.update before (resolve path)
        (some (receivedFile download.body download.body.length))

/-- The records and files of the device are those of the stage; an empty body
is never recorded. -/
structure AtStage (path : String) (download : Download)
    (before : Device Node) (stage : Stage) (device : Device Node) : Prop where
  body_of_recorded : stage = .recorded → download.body ≠ []
  downloads_eq : device.downloads = stage.downloads path download before.downloads
  files_eq : device.files = stage.files resolve path download before.files

theorem receivedFile_zero (body : List UInt8) : receivedFile body 0 = emptyFile := by
  rw [receivedFile, emptyFile, StoredFile.mk.injEq]
  refine ⟨rfl, decide_eq_false ?_⟩
  rintro ⟨hall, hbody⟩
  exact hbody hall.symm

/-- One more byte of the body. -/
theorem receivedFile_succ {body : List UInt8} {count : ℕ} {byte : UInt8}
    (hbyte : body[count]? = some byte)
    (hnonempty : decide (((receivedFile body count).bytes ++ [byte]).length =
      body.length) = true → (receivedFile body count).bytes ++ [byte] ≠ []) :
    (⟨(receivedFile body count).bytes ++ [byte],
        decide (((receivedFile body count).bytes ++ [byte]).length = body.length),
        hnonempty⟩ : StoredFile) = receivedFile body (count + 1) := by
  have hbytes : (receivedFile body count).bytes ++ [byte] =
      body.take (count + 1) := by
    rw [List.take_add_one, hbyte]
    rfl
  apply StoredFile.ext hbytes
  apply decide_eq_decide.2
  obtain ⟨hcount, -⟩ := List.getElem?_eq_some_iff.1 hbyte
  have hbody : body ≠ [] := List.ne_nil_of_length_pos (by omega)
  rw [hbytes, List.take_eq_self_iff, List.length_take]
  constructor
  · intro hlength
    exact ⟨by omega, hbody⟩
  · rintro ⟨hall, -⟩
    omega

variable {resolve} {path : String} {download : Download} {before : Device Node}

/-- What one expected step does to the stage of the device. -/
theorem atStage_perform {stage : Stage} {device : Device Node}
    {next : DownloadStep}
    (hstage : AtStage resolve path download before stage device)
    (hexpected : Expected download.body stage next) :
    AtStage resolve path download before (stage.next next)
      (perform resolve path download device next) := by
  obtain ⟨hrecorded, hdownloads, hfiles⟩ := hstage
  cases next with
  | createDirectory =>
      cases stage with
      | untouched => exact ⟨hrecorded, hdownloads, hfiles⟩
      | _ => exact hexpected.elim
  | deleteFile =>
      cases stage with
      | untouched =>
          refine ⟨nofun, hdownloads, ?_⟩
          rw [perform, hfiles]
          rfl
      | written count =>
          refine ⟨nofun, hdownloads, ?_⟩
          rw [perform, hfiles]
          exact Function.update_idem _ _ _
      | recorded =>
          refine ⟨nofun, hdownloads, ?_⟩
          rw [perform, hfiles]
          exact Function.update_idem _ _ _
      | _ => exact hexpected.elim
  | createFile =>
      cases stage with
      | untouched =>
          refine ⟨nofun, hdownloads, ?_⟩
          rw [perform, hfiles, ← receivedFile_zero download.body]
          rfl
      | deleted =>
          refine ⟨nofun, hdownloads, ?_⟩
          rw [perform, hfiles, ← receivedFile_zero download.body]
          exact Function.update_idem _ _ _
      | _ => exact hexpected.elim
  | receive byte =>
      cases stage with
      | written count =>
          refine ⟨nofun, hdownloads, ?_⟩
          have hfile : device.files (resolve path) =
              some (receivedFile download.body count) := by
            rw [hfiles, Stage.files, Function.update_self]
          simp only [perform, hfile, Option.elim_some, hfiles]
          rw [receivedFile_succ hexpected, Stage.next, Stage.files, Stage.files,
            Function.update_idem]
      | _ => exact hexpected.elim
  | insertRecord =>
      cases stage with
      | written count =>
          obtain ⟨hcount, hbody⟩ := hexpected
          refine ⟨fun _ => hbody, ?_, ?_⟩
          · rw [perform, hdownloads]
            rfl
          · have hall : receivedFile download.body count =
                receivedFile download.body download.body.length := by
              rw [receivedFile, receivedFile, StoredFile.mk.injEq,
                List.take_of_length_le hcount, List.take_length]
              exact ⟨rfl, rfl⟩
            rw [perform, hfiles, Stage.files, hall]
            rfl
      | deleted =>
          refine ⟨nofun, ?_, hfiles⟩
          rw [perform, hdownloads]
          rfl
      | _ => exact hexpected.elim
  | recheck =>
      cases stage with
      | recorded =>
          refine ⟨hrecorded, ?_, ?_⟩
          · rw [perform, checkDownload_downloads, hdownloads]
            rfl
          · rw [perform, checkDownload_files, hfiles]
            rfl
      | lost =>
          refine ⟨nofun, ?_, ?_⟩
          · rw [perform, checkDownload_downloads, hdownloads]
            rfl
          · rw [perform, checkDownload_files, hfiles]
            rfl
      | _ => exact hexpected.elim

/-- The stage that steps lead to, from a stage. -/
def Stage.after (stage : Stage) (steps : List DownloadStep) : Stage :=
  steps.foldl Stage.next stage

/-- What a sequence of expected steps does to the stage of the device. -/
theorem atStage_foldl {stage : Stage} {device : Device Node}
    {steps : List DownloadStep}
    (hstage : AtStage resolve path download before stage device)
    (hexpected : ExpectedSteps download.body stage steps) :
    AtStage resolve path download before (stage.after steps)
      (steps.foldl (perform resolve path download) device) := by
  induction steps generalizing stage device with
  | nil => exact hstage
  | cons next rest ih => exact ih (atStage_perform hstage hexpected.1) hexpected.2

theorem expectedSteps_append {body : List UInt8} {stage : Stage}
    {first second : List DownloadStep} :
    ExpectedSteps body stage (first ++ second) ↔
      ExpectedSteps body stage first ∧
        ExpectedSteps body (stage.after first) second := by
  induction first generalizing stage with
  | nil => exact (iff_of_eq (true_and _)).symm
  | cons next rest ih =>
      rw [List.cons_append, ExpectedSteps, ExpectedSteps, ih, and_assoc]
      rfl

theorem after_receive (stage : Stage) (count : ℕ) (bytes : List UInt8)
    (hstage : stage = .written count) :
    stage.after (bytes.map .receive) = .written (count + bytes.length) := by
  induction bytes generalizing stage count with
  | nil => exact hstage
  | cons byte bytes ih =>
      subst hstage
      have hrest := ih (.written (count + 1)) (count + 1) rfl
      rw [List.length_cons, Nat.add_comm bytes.length, ← Nat.add_assoc]
      exact hrest

/-- The bytes of the body are expected one after the other. -/
theorem expectedSteps_receive {body done rest : List UInt8}
    (hbody : body = done ++ rest) :
    ExpectedSteps body (.written done.length) (rest.map .receive) := by
  induction rest generalizing done with
  | nil => trivial
  | cons byte rest ih =>
      constructor
      · rw [Expected, hbody, List.getElem?_append_right le_rfl, Nat.sub_self]
        rfl
      · have hrest := @ih (done ++ [byte]) (by simp [hbody])
        rw [List.length_append] at hrest
        exact hrest

theorem after_append (stage : Stage) (first second : List DownloadStep) :
    stage.after (first ++ second) = (stage.after first).after second :=
  List.foldl_append

/-- Any prefix of expected steps is expected. -/
theorem expectedSteps_take {body : List UInt8} {stage : Stage}
    {steps : List DownloadStep} (hexpected : ExpectedSteps body stage steps)
    (count : ℕ) : ExpectedSteps body stage (steps.take count) := by
  rw [← List.take_append_drop count steps] at hexpected
  exact (expectedSteps_append.1 hexpected).1

theorem folder_expected (platform : Platform) (body : List UInt8) :
    ExpectedSteps body .untouched (folderSteps platform) ∧
      Stage.untouched.after (folderSteps platform) = .untouched := by
  cases platform with
  | android => exact ⟨⟨trivial, trivial⟩, rfl⟩
  | ios => exact ⟨trivial, rfl⟩

/-- The steps until the dialog opens leave an empty file. -/
theorem opening_expected (platform : Platform) (alreadyExists : Bool)
    (body : List UInt8) :
    ExpectedSteps body .untouched (openingSteps platform alreadyExists) ∧
      Stage.untouched.after (openingSteps platform alreadyExists) = .written 0 := by
  obtain ⟨hfolder, hstage⟩ := folder_expected platform body
  rw [openingSteps, expectedSteps_append, after_append, hstage]
  cases alreadyExists with
  | true => exact ⟨⟨hfolder, trivial, trivial, trivial⟩, rfl⟩
  | false => exact ⟨⟨hfolder, trivial, trivial⟩, rfl⟩

theorem receive_expected (body : List UInt8) :
    ExpectedSteps body (.written 0) (body.map .receive) :=
  expectedSteps_receive (List.nil_append body).symm

theorem after_receive_take (body : List UInt8) (received : ℕ) :
    (Stage.written 0).after ((body.take received).map .receive) =
      .written (min received body.length) := by
  rw [after_receive (.written 0) 0 _ rfl, Nat.zero_add, List.length_take]

/-- The book is recorded from the last byte on. -/
theorem record_expected (body : List UInt8) (received : ℕ) :
    ExpectedSteps body (.written (min received body.length))
      (recordSteps body received) := by
  rw [recordSteps]
  split
  · rename_i hall
    exact ⟨⟨Nat.le_min.2 ⟨hall.2, le_rfl⟩, hall.1⟩, trivial, trivial⟩
  · trivial

/-- The steps of a download are expected if those of its transfer are. -/
theorem stepsWith_expected (platform : Platform) (writable alreadyExists : Bool)
    {transfer : List DownloadStep} {body : List UInt8}
    (htransfer : ExpectedSteps body (.written 0) transfer) :
    ExpectedSteps body .untouched
      (stepsWith platform writable alreadyExists transfer) := by
  rw [stepsWith]
  split
  · obtain ⟨hopening, hstage⟩ := opening_expected platform alreadyExists body
    rw [expectedSteps_append, hstage]
    exact ⟨hopening, htransfer⟩
  · exact (folder_expected platform body).1

theorem transfer_expected (body : List UInt8) :
    ExpectedSteps body (.written 0)
      (body.map .receive ++ recordSteps body body.length) := by
  have hrecord := record_expected body body.length
  have hstage := after_receive_take body body.length
  rw [Nat.min_self] at hrecord hstage
  rw [List.take_length] at hstage
  rw [expectedSteps_append, hstage]
  exact ⟨receive_expected body, hrecord⟩

omit [DecidableEq Node] in
variable (resolve) in
theorem startDownloadAs_expected (writable : Node → Bool) (extension : Extension)
    (platform : Platform) (directory : String) (download : Download)
    (device : Device Node) :
    ExpectedSteps download.body .untouched
      (startDownloadAs resolve writable extension platform directory download device) :=
  stepsWith_expected platform _ _ (transfer_expected download.body)

omit [DecidableEq Node] in
variable (resolve) in
/-- A download that runs to its end is recorded, unless the body is empty. -/
theorem after_startDownloadAs (extension : Extension) (platform : Platform)
    (directory : String) (download : Download) (device : Device Node)
    {writable : Node → Bool}
    (hwritable : writable
      (resolve (savePath platform directory extension download.name)) = true)
    (hbody : download.body ≠ []) :
    Stage.untouched.after
      (startDownloadAs resolve writable extension platform directory download device) =
        .recorded := by
  rw [startDownloadAs, stepsWith, if_pos hwritable, after_append, after_append,
    (opening_expected platform _ download.body).2,
    after_receive (.written 0) 0 download.body rfl, recordSteps,
    if_pos ⟨hbody, le_rfl⟩]
  rfl

/-- What a download that runs to its end has done. -/
theorem startDownloadAs_recorded (extension : Extension) (platform : Platform)
    (directory : String) {writable : Node → Bool}
    (hwritable : writable
      (resolve (savePath platform directory extension download.name)) = true)
    (hbody : download.body ≠ []) :
    AtStage resolve path download before .recorded
      ((startDownloadAs resolve writable extension platform directory download
        before).foldl (perform resolve path download) before) := by
  have hstart : AtStage resolve path download before .untouched before :=
    ⟨nofun, rfl, rfl⟩
  rw [← after_startDownloadAs resolve extension platform directory download before
    hwritable hbody]
  exact atStage_foldl hstart (startDownloadAs_expected resolve writable extension
    platform directory download before)

end Stages

end EduEbook.DownloadDetails
