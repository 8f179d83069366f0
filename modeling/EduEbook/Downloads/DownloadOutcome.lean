import EduEbook.Downloads.DownloadDetails

/-!
# Every way a download can end

A download can finish, fail at any byte, or be killed between any two steps.
The old file is deleted and an empty one created before the first byte arrives,
and `checkDownload` only asks whether a file exists, so what an interruption
leaves behind depends on the file and the records that were there before.
-/

namespace EduEbook.DownloadOutcome

open EduEbook.BookId
open EduEbook.DownloadDetails
open EduEbook.DownloadPath
open EduEbook.Json
open EduEbook.ObjectDb
open EduEbook.Records

/-- A transfer completes, or an error comes after some bytes, upon which dio deletes
the target file.  If these were all the bytes, the dialog has popped before: the
first `recorded` steps that record the book come before the deletion, the others
after it. -/
inductive Transfer
  | completes
  | fails (received recorded : ℕ)

/-- A run ends by itself, or the app is killed after some of its steps. -/
inductive Ending
  | returned (transfer : Transfer)
  | killedAfter (steps : ℕ) (transfer : Transfer)

/-- The steps of a transfer and of what follows upon it. -/
def transferSteps (body : List UInt8) : Transfer → List DownloadStep
  | .completes => body.map .receive ++ recordSteps body body.length
  | .fails received recorded =>
      (body.take received).map .receive ++
        ((recordSteps body received).take recorded ++
          .deleteFile :: (recordSteps body received).drop recorded)

/-- The steps that are performed before the end. -/
def stepsBefore (platform : Platform) (writable alreadyExists : Bool)
    (body : List UInt8) : Ending → List DownloadStep
  | .returned transfer =>
      stepsWith platform writable alreadyExists (transferSteps body transfer)
  | .killedAfter steps transfer =>
      (stepsWith platform writable alreadyExists (transferSteps body transfer)).take steps

section Outcome

variable {Node : Type*} (resolve : String → Node) (writable : Node → Bool)

def performedSteps (extension : Extension) (platform : Platform)
    (directory : String) (download : Download) (device : Device Node)
    (ending : Ending) : List DownloadStep :=
  let file := resolve (savePath platform directory extension download.name)
  stepsBefore platform (writable file) (device.files file).isSome download.body ending

/-- A run of either method that nothing interrupts. -/
theorem performedSteps_completes (extension : Extension) (platform : Platform)
    (directory : String) (download : Download) (device : Device Node) :
    performedSteps resolve writable extension platform directory download device
        (.returned .completes) =
      startDownloadAs resolve writable extension platform directory download device :=
  rfl

def outcome [DecidableEq Node] (extension : Extension) (platform : Platform)
    (directory : String) (download : Download) (device : Device Node)
    (ending : Ending) : Device Node :=
  (performedSteps resolve writable extension platform directory download device
    ending).foldl
      (perform resolve (savePath platform directory extension download.name) download)
      device

/-- The stage that the steps performed before the end reach. -/
def stageOf (extension : Extension) (platform : Platform) (directory : String)
    (download : Download) (device : Device Node) (ending : Ending) : Stage :=
  Stage.untouched.after (performedSteps resolve writable extension platform directory
    download device ending)

/-- `checkDownload(id)` sets `downloaded` to true. -/
def SetsDownloaded (id : ℤ) (device : Device Node) : Prop :=
  (checkDownload resolve id { device with downloaded := false }).downloaded = true

/-- The path of the first record of the book, the one `checkDownload` tests. -/
def firstPath (id : ℤ) (downloads : List DartMap) : Option String :=
  (getDownload (idString id) downloads).head?.bind storedPath

/-- A book that `checkDownload` reports has a complete file. -/
def Honest (device : Device Node) : Prop :=
  ∀ id, SetsDownloaded resolve id device →
    ∃ path file, firstPath id device.downloads = some path ∧
      device.files (resolve path) = some file ∧ file.complete = true

/-- The book has a record with this path. -/
def Recorded (id : ℤ) (path : String) (downloads : List DartMap) : Prop :=
  ∃ record ∈ downloads, record.lookup "id" = some (.string (idString id)) ∧
    record.lookup "path" = some (.string path)

/-- Either the download is recorded and its file complete, or the records are
those of before and every file still has its bytes. -/
def AllOrNothing (path : String) (id : ℤ) (before after : Device Node) : Prop :=
  (Recorded id path after.downloads ∧
    ∃ file, after.files (resolve path) = some file ∧ file.complete = true) ∨
  (after.downloads = before.downloads ∧
    ∀ node file, before.files node = some file →
      ∃ kept, after.files node = some kept ∧ kept.bytes = file.bytes)

/-- Every first record whose file is not the target has a complete file, or
none. -/
def HonestElsewhere (path : String) (device : Device Node) : Prop :=
  ∀ id other file, firstPath id device.downloads = some other →
    resolve other ≠ resolve path → device.files (resolve other) = some file →
    file.complete = true

/-- No first record names the target file. -/
def Unread (path : String) (downloads : List DartMap) : Prop :=
  ∀ id other, firstPath id downloads = some other → resolve other ≠ resolve path

/-- If the target exists, it has exactly these bytes. -/
def SameBytes (path : String) (bytes : List UInt8) (device : Device Node) : Prop :=
  ∀ file, device.files (resolve path) = some file → file.bytes = bytes

/-- When an end at this stage is all-or-nothing, read off the device as it was
before the download. -/
def Safe (path : String) (download : Download) (device : Device Node) :
    Stage → Prop
  | .untouched => Honest resolve device
  | .deleted =>
      device.files (resolve path) = none ∧ HonestElsewhere resolve path device
  | .written count =>
      HonestElsewhere resolve path device ∧
        if (receivedFile download.body count).complete = true then
          Recorded download.id path device.downloads ∨
            SameBytes resolve path (download.body.take count) device
        else
          Unread resolve path device.downloads ∧
            SameBytes resolve path (download.body.take count) device
  | .recorded => HonestElsewhere resolve path device
  | .lost => False

end Outcome

section Lemmas

variable {Node : Type*} {resolve : String → Node}

theorem setsDownloaded_iff {id : ℤ} {device : Device Node} :
    SetsDownloaded resolve id device ↔
      ∃ path, firstPath id device.downloads = some path ∧
        (device.files (resolve path)).isSome = true := by
  rw [SetsDownloaded, checkDownload, firstPath]
  cases getDownload (idString id) device.downloads with
  | nil => simp
  | cons record rest =>
      rw [List.head?_cons, Option.bind_some]
      cases hpath : storedPath record with
      | none => simp [hpath]
      | some path => simp [hpath]

/-- Honesty without the flag: the first records have complete files, or none. -/
theorem honest_iff {device : Device Node} :
    Honest resolve device ↔
      ∀ id path file, firstPath id device.downloads = some path →
        device.files (resolve path) = some file → file.complete = true := by
  constructor
  · intro hhonest id path file hpath hfile
    have hsets : SetsDownloaded resolve id device :=
      setsDownloaded_iff.2 ⟨path, hpath, by rw [hfile, Option.isSome_some]⟩
    obtain ⟨other, stored, hother, hstored, hcomplete⟩ := hhonest id hsets
    rw [hpath, Option.some.injEq] at hother
    subst hother
    rw [hfile, Option.some.injEq] at hstored
    exact hstored ▸ hcomplete
  · intro hfiles id hsets
    obtain ⟨path, hpath, hexists⟩ := setsDownloaded_iff.1 hsets
    obtain ⟨file, hfile⟩ := Option.isSome_iff_exists.1 hexists
    exact ⟨path, file, hpath, hfile, hfiles id path file hpath hfile⟩

variable [DecidableEq Node] {path : String} {before after : Device Node}
  {target : Option StoredFile}

/-- Only the target has changed: it must be complete where it is read. -/
theorem honest_update_iff (hdownloads : after.downloads = before.downloads)
    (hfiles : after.files = Function.update before.files (resolve path) target) :
    Honest resolve after ↔
      HonestElsewhere resolve path before ∧
        (Unread resolve path before.downloads ∨
          ∀ file, target = some file → file.complete = true) := by
  rw [honest_iff, hdownloads, hfiles]
  constructor
  · intro hafter
    constructor
    · intro id other file hother hne hfile
      apply hafter id other file hother
      rw [Function.update_of_ne hne, hfile]
    · by_cases hunread : Unread resolve path before.downloads
      · exact Or.inl hunread
      · right
        intro file hfile
        rw [Unread] at hunread
        push Not at hunread
        obtain ⟨id, other, hother, hsame⟩ := hunread
        apply hafter id other file hother
        rw [hsame, Function.update_self, hfile]
  · rintro ⟨helsewhere, htarget⟩ id other file hother hfile
    by_cases hsame : resolve other = resolve path
    · rcases htarget with hunread | hcomplete
      · exact absurd hsame (hunread id other hother)
      · rw [hsame, Function.update_self] at hfile
        exact hcomplete file hfile
    · rw [Function.update_of_ne hsame] at hfile
      exact helsewhere id other file hother hsame hfile

/-- Every file but the target has kept its bytes. -/
theorem kept_update_iff
    (hfiles : after.files = Function.update before.files (resolve path) target) :
    (∀ node file, before.files node = some file →
        ∃ kept, after.files node = some kept ∧ kept.bytes = file.bytes) ↔
      ∀ file, before.files (resolve path) = some file →
        ∃ kept, target = some kept ∧ kept.bytes = file.bytes := by
  rw [hfiles]
  constructor
  · intro hkept file hfile
    have htarget := hkept (resolve path) file hfile
    rw [Function.update_self] at htarget
    exact htarget
  · intro htarget node file hfile
    by_cases hnode : node = resolve path
    · subst hnode
      rw [Function.update_self]
      exact htarget file hfile
    · exact ⟨file, by rw [Function.update_of_ne hnode, hfile], rfl⟩

omit [DecidableEq Node] in
theorem firstPath_of_before {id : ℤ} {downloads : List DartMap} {other : String}
    (hother : firstPath id downloads = some other) (record : DartMap) :
    firstPath id (downloads ++ [record]) = some other := by
  rw [firstPath, Option.bind_eq_some_iff] at hother ⊢
  obtain ⟨first, hfirst, hstored⟩ := hother
  refine ⟨first, ?_, hstored⟩
  rw [getDownload, List.filter_append, List.head?_append, Option.or_eq_some_iff]
  exact Or.inl hfirst

omit [DecidableEq Node] in
theorem firstPath_append_cases {id : ℤ} {downloads : List DartMap}
    {record : DartMap} {other : String}
    (hother : firstPath id (downloads ++ [record]) = some other) :
    firstPath id downloads = some other ∨
      record.lookup "id" = some (.string (idString id)) ∧
        storedPath record = some other := by
  rw [firstPath, Option.bind_eq_some_iff] at hother
  obtain ⟨first, hfirst, hstored⟩ := hother
  rw [getDownload, List.filter_append, List.head?_append,
    Option.or_eq_some_iff] at hfirst
  rcases hfirst with hold | ⟨-, hnew⟩
  · left
    rw [firstPath, getDownload, hold]
    exact hstored
  · right
    obtain ⟨hmem, hselected⟩ := List.mem_filter.1 (List.mem_of_mem_head? hnew)
    obtain rfl := List.mem_singleton.1 hmem
    exact ⟨selects_string_iff.1 hselected, hstored⟩

theorem allOrNothing_of_untouched {download : Download}
    (hstage : AtStage resolve path download before .untouched after) :
    AllOrNothing resolve path download.id before after ∧ Honest resolve after ↔
      Safe resolve path download before .untouched := by
  obtain ⟨-, hdownloads, hfiles⟩ := hstage
  have hrecords : after.downloads = before.downloads := hdownloads
  have hsame : after.files = before.files := hfiles
  rw [honest_iff, hrecords, hsame, Safe, honest_iff]
  apply and_iff_right
  right
  refine ⟨hrecords, fun node file hfile => ⟨file, ?_, rfl⟩⟩
  rw [hsame, hfile]

theorem allOrNothing_of_deleted {download : Download}
    (hstage : AtStage resolve path download before .deleted after) :
    AllOrNothing resolve path download.id before after ∧ Honest resolve after ↔
      Safe resolve path download before .deleted := by
  obtain ⟨-, hdownloads, hfiles⟩ := hstage
  have hgone : after.files (resolve path) = none := by
    rw [hfiles, Stage.files, Function.update_self]
  have hnothing : AllOrNothing resolve path download.id before after ↔
      before.files (resolve path) = none := by
    rw [AllOrNothing, kept_update_iff hfiles, Option.eq_none_iff_forall_ne_some]
    constructor
    · rintro (⟨-, file, hfile, -⟩ | ⟨-, hkept⟩) old
      · rw [hgone] at hfile
        cases hfile
      · intro hold
        obtain ⟨kept, hkept, -⟩ := hkept old hold
        cases hkept
    · intro hnone
      exact Or.inr ⟨hdownloads, fun file hfile => absurd hfile (hnone file)⟩
  rw [hnothing, honest_update_iff hdownloads hfiles, Safe]
  apply and_congr_right
  intro _
  apply and_iff_left
  right
  intro file hfile
  cases hfile

/-- While the body is written the target has the bytes received so far. -/
theorem kept_written_iff {body : List UInt8} {count : ℕ}
    (hfiles : after.files = Function.update before.files (resolve path)
      (some (receivedFile body count))) :
    (∀ node file, before.files node = some file →
        ∃ kept, after.files node = some kept ∧ kept.bytes = file.bytes) ↔
      SameBytes resolve path (body.take count) before := by
  rw [kept_update_iff hfiles, SameBytes]
  apply forall₂_congr
  intro file _
  constructor
  · rintro ⟨kept, hkept, hbytes⟩
    rw [Option.some.injEq] at hkept
    rw [← hbytes, ← hkept]
    rfl
  · intro hbytes
    exact ⟨_, rfl, hbytes.symm⟩

theorem allOrNothing_of_written {download : Download} {count : ℕ}
    (hstage : AtStage resolve path download before (.written count) after) :
    AllOrNothing resolve path download.id before after ∧ Honest resolve after ↔
      Safe resolve path download before (.written count) := by
  obtain ⟨-, hdownloads, hfiles⟩ := hstage
  have hrecords : after.downloads = before.downloads := hdownloads
  have hnew : after.files (resolve path) =
      some (receivedFile download.body count) := by
    rw [hfiles, Stage.files, Function.update_self]
  rw [AllOrNothing, honest_update_iff hrecords hfiles, kept_written_iff hfiles, hnew,
    hrecords, Safe]
  by_cases hcomplete : (receivedFile download.body count).complete = true
  · rw [if_pos hcomplete]
    constructor
    · rintro ⟨⟨hrecord, -⟩ | ⟨-, hbytes⟩, helsewhere, -⟩
      · exact ⟨helsewhere, Or.inl hrecord⟩
      · exact ⟨helsewhere, Or.inr hbytes⟩
    · rintro ⟨helsewhere, hdone⟩
      refine ⟨?_, helsewhere, Or.inr ?_⟩
      · rcases hdone with hrecord | hbytes
        · exact Or.inl ⟨hrecord, _, rfl, hcomplete⟩
        · exact Or.inr ⟨rfl, hbytes⟩
      · rintro file hfile
        exact Option.some.inj hfile ▸ hcomplete
  · rw [if_neg hcomplete]
    constructor
    · rintro ⟨⟨-, file, hfile, hwhole⟩ | ⟨-, hbytes⟩, helsewhere, hread⟩
      · exact absurd (Option.some.inj hfile ▸ hwhole) hcomplete
      · refine ⟨helsewhere, ?_, hbytes⟩
        rcases hread with hunread | hwhole
        · exact hunread
        · exact absurd (hwhole _ rfl) hcomplete
    · rintro ⟨helsewhere, hunread, hbytes⟩
      exact ⟨Or.inr ⟨rfl, hbytes⟩, helsewhere, Or.inl hunread⟩

theorem allOrNothing_of_recorded {download : Download}
    (hstage : AtStage resolve path download before .recorded after) :
    AllOrNothing resolve path download.id before after ∧ Honest resolve after ↔
      Safe resolve path download before .recorded := by
  obtain ⟨hbody, hdownloads, hfiles⟩ := hstage
  have hcomplete : (receivedFile download.body download.body.length).complete =
      true := complete_receivedFile.2 ⟨le_rfl, hbody rfl⟩
  have hnew : after.files (resolve path) =
      some (receivedFile download.body download.body.length) := by
    rw [hfiles, Stage.files, Function.update_self]
  have hrecord : Recorded download.id path after.downloads := by
    refine ⟨_, ?_, lookup_id_downloadRecord path download, ?_⟩
    · rw [hdownloads]
      exact List.mem_append_right _ (List.mem_singleton_self _)
    · rw [lookup_withKey (by decide), lookup_path_toMap]
      rfl
  rw [Safe]
  refine (and_iff_right (Or.inl ⟨hrecord, _, hnew, hcomplete⟩)).trans ?_
  rw [honest_iff, hdownloads]
  constructor
  · intro hafter id other file hother hne hfile
    apply hafter id other file (firstPath_of_before hother _)
    rw [hfiles, Stage.files, Function.update_of_ne hne, hfile]
  · intro helsewhere id other file hother hfile
    by_cases hsame : resolve other = resolve path
    · rw [hsame, hnew, Option.some.injEq] at hfile
      exact hfile ▸ hcomplete
    · rw [hfiles, Stage.files, Function.update_of_ne hsame] at hfile
      rcases firstPath_append_cases hother with hold | ⟨-, hpath⟩
      · exact helsewhere id other file hold hsame hfile
      · rw [storedPath_downloadRecord, Option.some.injEq] at hpath
        exact absurd (congrArg resolve hpath.symm) hsame

/-- A book that is recorded without a file is neither all nor nothing. -/
theorem not_allOrNothing_of_lost {download : Download}
    (hstage : AtStage resolve path download before .lost after) :
    ¬ AllOrNothing resolve path download.id before after := by
  rintro (⟨-, file, hfile, -⟩ | ⟨hdownloads, -⟩)
  · rw [hstage.files_eq, Stage.files, Function.update_self] at hfile
    cases hfile
  · rw [hstage.downloads_eq, Stage.downloads] at hdownloads
    exact List.cons_ne_nil _ _ (List.append_right_eq_self.1 hdownloads)

/-- What an end at each stage leaves behind. -/
theorem allOrNothing_of_atStage {download : Download} {stage : Stage}
    (hstage : AtStage resolve path download before stage after) :
    AllOrNothing resolve path download.id before after ∧ Honest resolve after ↔
      Safe resolve path download before stage := by
  cases stage with
  | untouched => exact allOrNothing_of_untouched hstage
  | deleted => exact allOrNothing_of_deleted hstage
  | written count => exact allOrNothing_of_written hstage
  | recorded => exact allOrNothing_of_recorded hstage
  | lost => exact iff_of_false (fun h => not_allOrNothing_of_lost hstage h.1) id

/-- Recording a book and deleting its file are expected in any order. -/
theorem transferSteps_expected (body : List UInt8) (transfer : Transfer) :
    ExpectedSteps body (.written 0) (transferSteps body transfer) := by
  cases transfer with
  | completes => exact transfer_expected body
  | fails received recorded =>
      have hrecord := record_expected body received
      have hreceive : ExpectedSteps body (.written 0)
          ((body.take received).map .receive) := by
        rw [List.map_take]
        exact expectedSteps_take (receive_expected body) received
      rw [transferSteps, expectedSteps_append, after_receive_take]
      refine ⟨hreceive, ?_⟩
      rw [recordSteps] at hrecord ⊢
      split at hrecord
      · rename_i hall
        obtain ⟨hinsert, hrecheck, -⟩ := hrecord
        rw [if_pos hall]
        cases recorded with
        | zero => exact ⟨trivial, hall.1, trivial, trivial⟩
        | succ more =>
            cases more with
            | zero => exact ⟨hinsert, trivial, trivial, trivial⟩
            | succ more =>
                rw [List.take_of_length_le (by simp), List.drop_of_length_le (by simp)]
                exact ⟨hinsert, hrecheck, trivial, trivial⟩
      · rename_i hsome
        rw [if_neg hsome, List.take_nil, List.drop_nil]
        exact ⟨trivial, trivial⟩

/-- The steps before every end are expected. -/
theorem stepsBefore_expected (platform : Platform) (writable alreadyExists : Bool)
    (body : List UInt8) (ending : Ending) :
    ExpectedSteps body .untouched
      (stepsBefore platform writable alreadyExists body ending) := by
  cases ending with
  | returned transfer =>
      exact stepsWith_expected platform _ _ (transferSteps_expected body transfer)
  | killedAfter steps transfer =>
      exact expectedSteps_take
        (stepsWith_expected platform _ _ (transferSteps_expected body transfer)) steps

/-- An error before the last byte leaves no file, one after it a record without a
file, whatever the order of the steps. -/
theorem after_fails (platform : Platform) (alreadyExists : Bool) (body : List UInt8)
    (received recorded : ℕ) :
    Stage.untouched.after
        (stepsBefore platform true alreadyExists body
          (.returned (.fails received recorded))) =
      if body ≠ [] ∧ body.length ≤ received then .lost else .deleted := by
  rw [stepsBefore, stepsWith, if_pos rfl, after_append,
    (opening_expected platform alreadyExists body).2, transferSteps, after_append,
    after_receive_take, recordSteps]
  split
  · cases recorded with
    | zero => rfl
    | succ more =>
        cases more with
        | zero => rfl
        | succ more =>
            rw [List.take_of_length_le (by simp), List.drop_of_length_le (by simp)]
            rfl
  · rw [List.take_nil, List.drop_nil]
    rfl

variable (resolve) in
/-- What a download does to the records and files, however it ends. -/
theorem atStage_outcome (writable : Node → Bool) (extension : Extension)
    (platform : Platform) (directory : String) (download : Download)
    (device : Device Node) (ending : Ending) :
    AtStage resolve (savePath platform directory extension download.name) download device
      (stageOf resolve writable extension platform directory download device ending)
      (outcome resolve writable extension platform directory download device ending) := by
  have hstart : AtStage resolve (savePath platform directory extension download.name)
      download device .untouched device := ⟨nofun, rfl, rfl⟩
  exact atStage_foldl hstart (stepsBefore_expected platform _ _ download.body ending)

end Lemmas

/-- A run of either download method is all-or-nothing, and leaves no book that
`checkDownload` reports for an empty or partial file, exactly if the end is safe
for the records and files that were there before. -/
theorem allOrNothing_iff {Node : Type*} [DecidableEq Node]
    (resolve : String → Node) (writable : Node → Bool) (extension : Extension)
    (platform : Platform) (directory : String) (download : Download)
    (device : Device Node) (ending : Ending) :
    AllOrNothing resolve (savePath platform directory extension download.name)
        download.id device
        (outcome resolve writable extension platform directory download device ending) ∧
      Honest resolve
        (outcome resolve writable extension platform directory download device ending) ↔
    Safe resolve (savePath platform directory extension download.name) download
      device
      (stageOf resolve writable extension platform directory download device ending) :=
  allOrNothing_of_atStage (atStage_outcome resolve writable extension platform directory
    download device ending)

/-- A book of two bytes, recorded in a file that was since removed outside the
app. -/
def removedBook : Download := ⟨1, "Tafsir", "1.png", [80, 75], "2.0 Bytes", .int 7⟩

def removedFile : Device String where
  downloads :=
    [withKey (.int 0) (downloadRecord "/docs/Tafsir.epub" removedBook).toMap]
  files := fun _ => none
  downloaded := false

/-- Its download is offered again.  Killed right after the empty file has been
created, it leaves a book that `checkDownload` reports as downloaded. -/
theorem empty_file_downloaded :
    Honest id removedFile ∧
      ¬ (AllOrNothing id (savePath .ios "/docs" .epub removedBook.name)
          removedBook.id removedFile
          (outcome id (fun _ => true) .epub .ios "/docs" removedBook removedFile
            (.killedAfter 1 .completes)) ∧
        Honest id
          (outcome id (fun _ => true) .epub .ios "/docs" removedBook removedFile
            (.killedAfter 1 .completes))) := by
  constructor
  · rw [honest_iff]
    intro bookId path file _ hfile
    cases hfile
  · rintro ⟨-, hhonest⟩
    rw [honest_iff] at hhonest
    have hcomplete := hhonest 1 "/docs/Tafsir.epub" emptyFile (by decide) (by decide)
    cases hcomplete

end EduEbook.DownloadOutcome
