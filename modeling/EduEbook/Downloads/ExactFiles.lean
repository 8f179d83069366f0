import EduEbook.Downloads.DownloadHistory

/-!
# No orphaned file and no dangling record

Nothing ties the files to the records: a download writes the one and inserts the
other, and the downloads page deletes both by what a row says.  From a device
without files, this module asks when the files are at every moment exactly those
that the records name.
-/

namespace EduEbook.DownloadHistory

open EduEbook.BookId
open EduEbook.DownloadDetails
open EduEbook.DownloadPath
open EduEbook.Json
open EduEbook.ObjectDb
open EduEbook.Records
open EduEbook.Runs

variable {Node : Type*} (resolve : String → Node)

/-- Some record names the file. -/
def Named (downloads : List DartMap) (node : Node) : Prop :=
  ∃ record ∈ downloads, ∃ path, storedPath record = some path ∧ resolve path = node

/-- The files are exactly those that the records name. -/
def ExactFiles (device : Device Node) : Prop :=
  ∀ node, (device.files node).isSome = true ↔ Named resolve device.downloads node

/-- The files are those of the records, and every record, stored or listed, is that
of a book of the catalogue. -/
structure Exact (writable : Node → Bool) (platform : Platform) (directory : String)
    (catalogue : List Book) (state : State Node) : Prop where
  files : ExactFiles resolve state.device
  stored : ∀ record ∈ state.device.downloads, ∃ book,
    Names resolve writable platform directory catalogue record book
  listed : ∀ record ∈ state.listed, ∃ book,
    Names resolve writable platform directory catalogue record book

variable {resolve} {writable : Node → Bool} {platform : Platform} {directory : String}
  {catalogue : List Book}

theorem storedPath_of_names {record : DartMap} {book : Book}
    (hnames : Names resolve writable platform directory catalogue record book) :
    storedPath record = some (bookPath platform directory book) := by
  rw [storedPath, hnames.path_eq]

variable [DecidableEq Node]

/-- A finished download adds one file and one record, of the same path. -/
theorem exact_download {state : State Node} {book : Book} {body : List UInt8}
    (hmem : book ∈ catalogue) (hstatus : book.status ≠ some 0) (hbody : body ≠ [])
    (hwritable : writable (resolve (bookPath platform directory book)) = true)
    (size : String) (key : JsonValue)
    (hexact : Exact resolve writable platform directory catalogue state) :
    Exact resolve writable platform directory catalogue
      { state with
        device := downloadEbook resolve writable platform directory book
          (request book body size key) state.device
        received := Function.update state.received book.id (some body) } := by
  obtain ⟨-, hdownloads, hfiles⟩ := downloadEbook_atStage resolve platform directory
    book body size key state.device hbody hwritable
  have hnew : Names resolve writable platform directory catalogue
      (withKey key (downloadRecord (bookPath platform directory book)
        (request book body size key)).toMap) book :=
    names_download hmem hstatus hwritable body size key
  refine ⟨?_, ?_, hexact.listed⟩
  · intro node
    dsimp only
    rw [hdownloads, hfiles, Stage.files, Stage.downloads]
    by_cases hnode : node = resolve (bookPath platform directory book)
    · subst hnode
      rw [Function.update_self]
      exact iff_of_true rfl ⟨_, List.mem_append_right _ (List.mem_singleton_self _), _,
        storedPath_of_names hnew, rfl⟩
    · rw [Function.update_of_ne hnode, hexact.files node]
      constructor
      · rintro ⟨record, hrecord, hpath⟩
        exact ⟨record, List.mem_append_left _ hrecord, hpath⟩
      · rintro ⟨record, hrecord, path, hpath, hnamed⟩
        rcases List.mem_append.1 hrecord with hold | hlast
        · exact ⟨record, hold, path, hpath, hnamed⟩
        · obtain rfl := List.mem_singleton.1 hlast
          obtain rfl := Option.some.inj ((storedPath_of_names hnew).symm.trans hpath)
          exact absurd hnamed.symm hnode
  · intro record hrecord
    dsimp only at hrecord
    rw [hdownloads] at hrecord
    rcases List.mem_append.1 hrecord with hold | hlast
    · exact hexact.stored record hold
    · obtain rfl := List.mem_singleton.1 hlast
      exact ⟨book, hnew⟩

/-- The records left by the deletion of a row are those of the other books. -/
theorem mem_deleteEbook_iff {record other : DartMap} {book second : Book}
    (hnames : Names resolve writable platform directory catalogue record book)
    (hsecond : Names resolve writable platform directory catalogue other second)
    {device : Device Node} :
    other ∈ (deleteEbook resolve record device).downloads ↔
      other ∈ device.downloads ∧ second.id ≠ book.id := by
  have hquery : field "id" (getValue record "id") =
      field "id" (.string (idString book.id)) := by
    rw [getValue, hnames.id_eq]
    rfl
  rw [deleteEbook, hquery, List.mem_filter, Bool.not_eq_true', Bool.eq_false_iff, ne_eq,
    selects_string_iff, hsecond.id_eq, Option.some.injEq, JsonValue.string.injEq,
    idString_injective.eq_iff]

/-- Deleting a row removes the file of its book along with the records of it. -/
theorem exact_delete (hids : (catalogue.map (·.id)).Nodup)
    (hseparate : SeparateFiles resolve writable platform directory catalogue)
    {state : State Node} {record : DartMap} {book : Book}
    (hnames : Names resolve writable platform directory catalogue record book)
    (hexact : Exact resolve writable platform directory catalogue state) :
    Exact resolve writable platform directory catalogue
      { state with device := deleteEbook resolve record state.device } := by
  have hfiles : (deleteEbook resolve record state.device).files =
      Function.update state.device.files
        (resolve (bookPath platform directory book)) none := by
    rw [deleteEbook, storedPath_of_names hnames]
  refine ⟨?_, ?_, hexact.listed⟩
  · intro node
    dsimp only
    rw [hfiles]
    by_cases hnode : node = resolve (bookPath platform directory book)
    · subst hnode
      rw [Function.update_self]
      refine iff_of_false Bool.false_ne_true ?_
      rintro ⟨other, hother, path, hpath, hshared⟩
      obtain ⟨second, hsecond⟩ :=
        hexact.stored other (List.mem_filter.1 hother).1
      obtain ⟨_, hid⟩ := (mem_deleteEbook_iff hnames hsecond).1 hother
      rw [storedPath_of_names hsecond, Option.some.injEq] at hpath
      subst hpath
      exact hseparate second hsecond.mem book hnames.mem hsecond.status_ne
        hnames.status_ne hid hsecond.writable_eq hshared
    · rw [Function.update_of_ne hnode, hexact.files node]
      constructor
      · rintro ⟨other, hother, path, hpath, hnamed⟩
        obtain ⟨second, hsecond⟩ := hexact.stored other hother
        refine ⟨other, (mem_deleteEbook_iff hnames hsecond).2 ⟨hother, ?_⟩, path, hpath,
          hnamed⟩
        -- A record of the same book would name the file that is gone.
        intro hid
        obtain rfl := List.inj_on_of_nodup_map hids hsecond.mem hnames.mem hid
        rw [storedPath_of_names hsecond, Option.some.injEq] at hpath
        exact hnode (hpath ▸ hnamed.symm)
      · rintro ⟨other, hother, hnamed⟩
        exact ⟨other, (List.mem_filter.1 hother).1, hnamed⟩
  · intro other hother
    exact hexact.stored other (List.mem_filter.1 hother).1

theorem exact_step (hids : (catalogue.map (·.id)).Nodup)
    (hseparate : SeparateFiles resolve writable platform directory catalogue)
    {state next : State Node} {event : Event Node} (hinApp : event.InApp)
    (hexact : Exact resolve writable platform directory catalogue state)
    (hstep : step resolve writable platform directory catalogue state event = some next) :
    Exact resolve writable platform directory catalogue next := by
  cases event with
  | download book body size key =>
      rw [step] at hstep
      split at hstep
      · rename_i hdownload
        obtain ⟨hmem, hstatus, hbody, hwritable⟩ := hdownload
        rw [Option.some.injEq] at hstep
        exact hstep ▸ exact_download hmem hstatus hbody hwritable size key hexact
      · cases hstep
  | listAll =>
      rw [step, Option.some.injEq] at hstep
      exact hstep ▸ ⟨hexact.files, hexact.stored, hexact.stored⟩
  | delete index =>
      rw [step] at hstep
      split at hstep
      · cases hstep
      · rename_i record hrecord
        rw [Option.some.injEq] at hstep
        obtain ⟨book, hnames⟩ := hexact.listed record (List.mem_of_getElem? hrecord)
        exact hstep ▸ exact_delete hids hseparate hnames hexact
  | removeOutside node => exact hinApp.elim

/-- Two downloads into one file, and then the deletion of the first row: the second
record names a file that is gone. -/
theorem not_exactFiles_of_shared {first second : Book} (hid : first.id ≠ second.id)
    (hshared : resolve (bookPath platform directory first) =
      resolve (bookPath platform directory second))
    (hwritable : writable (resolve (bookPath platform directory second)) = true)
    (device : Device Node) :
    ¬ ExactFiles resolve
      (deleteEbook resolve
        (withKey .null (downloadRecord (bookPath platform directory first)
          (request first [0] "" .null)).toMap)
        (downloadEbook resolve writable platform directory second (request second [0] "" .null)
          device)) := by
  intro hexact
  obtain ⟨-, hdownloads, -⟩ := downloadEbook_atStage resolve platform directory second
    [0] "" .null device (List.cons_ne_nil 0 []) hwritable
  have hpath : ∀ book : Book, storedPath (withKey .null
      (downloadRecord (bookPath platform directory book)
        (request book [0] "" .null)).toMap) =
      some (bookPath platform directory book) :=
    fun book => storedPath_downloadRecord _ (request book [0] "" .null)
  refine absurd ((hexact (resolve (bookPath platform directory second))).2
    ⟨withKey .null (downloadRecord (bookPath platform directory second)
      (request second [0] "" .null)).toMap, ?_, _, hpath second, rfl⟩) ?_
  · rw [deleteEbook, List.mem_filter, hdownloads]
    refine ⟨List.mem_append_right _ (List.mem_singleton_self _), ?_⟩
    rw [Bool.not_eq_true', Bool.eq_false_iff, ne_eq, getValue,
      lookup_withKey (by decide), lookup_id_toMap]
    change ¬ selects (field "id" (.string (idString first.id))) _ = true
    rw [selects_string_iff, lookup_withKey (by decide), lookup_id_toMap,
      Option.some.injEq, JsonValue.string.injEq]
    exact fun hsame => hid (idString_injective hsame).symm
  · rw [deleteEbook, hpath first]
    dsimp only
    rw [hshared, Function.update_self]
    exact Bool.false_ne_true

/-- In every run of finished downloads and deletions that starts without files, the
files are at the end exactly those that some record names, exactly if no two books
of the catalogue are saved under one file that can be written. -/
theorem exactFiles_iff (resolve : String → Node) (writable : Node → Bool)
    (platform : Platform) (directory : String) (catalogue : List Book)
    (hids : (catalogue.map (·.id)).Nodup) :
    (∀ (events : List (Event Node)) (state : State Node),
        (∀ event ∈ events, event.InApp) →
        run (step resolve writable platform directory catalogue) (start fun _ => none) events =
          some state →
        ExactFiles resolve state.device) ↔
      SeparateFiles resolve writable platform directory catalogue := by
  constructor
  · intro hexact first hfirst second hsecond hfirstStatus hsecondStatus hid hwritable
      hshared
    have hsame : writable (resolve (bookPath platform directory second)) = true :=
      hshared ▸ hwritable
    have hone : step resolve writable platform directory catalogue (start fun _ => none)
        (.download first [0] "" .null) = some _ :=
      if_pos ⟨hfirst, hfirstStatus, List.cons_ne_nil 0 [], hwritable⟩
    have htwo : ∀ state : State Node, step resolve writable platform directory catalogue state
        (.download second [0] "" .null) = some _ :=
      fun state => if_pos ⟨hsecond, hsecondStatus, List.cons_ne_nil 0 [], hsame⟩
    obtain ⟨-, hrows, -⟩ := downloadEbook_atStage resolve platform directory first [0]
      "" .null (start fun _ => none).device (List.cons_ne_nil 0 []) hwritable
    let device := downloadEbook resolve writable platform directory first
      (request first [0] "" .null) (start fun _ => none).device
    have hrun : ∃ received,
        run (step resolve writable platform directory catalogue) (start fun _ => none)
          [.download first [0] "" .null, .listAll, .download second [0] "" .null,
            .delete 0] = some
          ⟨deleteEbook resolve
            (withKey .null (downloadRecord (bookPath platform directory first)
              (request first [0] "" .null)).toMap)
            (downloadEbook resolve writable platform directory second
              (request second [0] "" .null) device), device.downloads, received⟩ := by
      refine ⟨Function.update (Function.update (fun _ => none) first.id (some [0]))
        second.id (some [0]), ?_⟩
      rw [run_cons, hone, Option.bind_some, run_cons, step, Option.bind_some, run_cons,
        htwo, Option.bind_some, run_cons, step]
      dsimp only [device]
      rw [hrows]
      rfl
    obtain ⟨received, hfinal⟩ := hrun
    refine not_exactFiles_of_shared hid hshared hsame device (hexact _ _ ?_ hfinal)
    intro event hevent
    simp only [List.mem_cons, List.not_mem_nil, or_false] at hevent
    rcases hevent with rfl | rfl | rfl | rfl <;> trivial
  · intro hseparate events state hinApp hrun
    have hfinal : Exact resolve writable platform directory catalogue state := by
      refine run_invariant_of_meets
        (fun state event next hexact hevent hstep =>
          exact_step hids hseparate hevent hexact hstep) ?_
        (meets_of_forall_mem hinApp (start fun _ => none)) hrun
      refine ⟨fun node => ?_, List.forall_mem_nil _, List.forall_mem_nil _⟩
      refine iff_of_false Bool.false_ne_true ?_
      rintro ⟨record, hrecord, -⟩
      exact List.not_mem_nil hrecord
    exact hfinal.files

theorem exactFiles_tafsirAndSeerah :
    (∀ (events : List (Event String)) (state : State String),
        (∀ event ∈ events, event.InApp) →
        run (step id (fun _ => true) .ios "/docs" tafsirAndSeerah) (start fun _ => none)
          events = some state →
        ExactFiles id state.device) ↔
      SeparateFiles id (fun _ => true) .ios "/docs" tafsirAndSeerah :=
  exactFiles_iff id (fun _ => true) .ios "/docs" tafsirAndSeerah (by decide)

end EduEbook.DownloadHistory
