import EduEbook.Downloads.DownloadDetails
import EduEbook.Library.Runs

/-!
# The stack of detail pages and their shared flags

All detail pages read `favorite` and `downloaded` from one `DownloadDetails`.
Only `initState` starts the two checks, so a page that comes back on top when
another is popped shows whatever the last completed check found, and a late
check of a page that is gone still writes its flag.
-/

namespace EduEbook.DetailPages

open EduEbook.BookId
open EduEbook.DownloadDetails
open EduEbook.Records
open EduEbook.Runs

/-- The two checks that `initState` starts, `checkFav` and `checkDownload`. -/
inductive Check
  | fav
  | download
  deriving DecidableEq

/-- The stores and the files, which nothing changes here. -/
structure Stores where
  favorites : List FavoriteRecord
  downloads : List DownloadRecord
  fileExists : String → Bool

/-- The ids of the pages, the top one first, the checks that are outstanding,
and the two flags. -/
structure State where
  pages : List ℤ
  outstanding : List (Check × ℤ)
  favorite : Bool
  downloaded : Bool

def start : State := ⟨[], [], false, false⟩

inductive Event
  | push (id : ℤ)
  | pop
  | complete (check : Check) (id : ℤ)

/-- The value that `checkFav(id)` gives to `favorite`. -/
def favFound (favorites : List FavoriteRecord) (id : ℤ) : Bool :=
  !(checkFavorites (idString id) favorites).isEmpty

/-- The value that `checkDownload(id)` gives to `downloaded`. -/
def downloadFound (fileExists : String → Bool) (downloads : List DownloadRecord)
    (id : ℤ) : Bool :=
  match checkDownloads (idString id) downloads with
  | [] => false
  | record :: _ => fileExists record.path

def found (stores : Stores) : Check → ℤ → Bool
  | .fav => favFound stores.favorites
  | .download => downloadFound stores.fileExists stores.downloads

def State.flag (state : State) : Check → Bool
  | .fav => state.favorite
  | .download => state.downloaded

/-- `setFav` and `setDownload`. -/
def State.setFlag (state : State) (check : Check) (value : Bool) : State :=
  match check with
  | .fav => { state with favorite := value }
  | .download => { state with downloaded := value }

def step (stores : Stores) (state : State) : Event → Option State
  | .push id => some
      { state with
        pages := id :: state.pages
        outstanding := state.outstanding ++ [(.download, id), (.fav, id)] }
  | .pop =>
      match state.pages with
      | [] => none
      | _ :: pages => some { state with pages := pages }
  | .complete check id =>
      if (check, id) ∈ state.outstanding then
        some (State.setFlag
          { state with outstanding := state.outstanding.erase (check, id) } check
          (found stores check id))
      else none

/-- The store has a favorite with the id of the book. -/
def IsFavorite (favorites : List FavoriteRecord) (id : ℤ) : Prop :=
  ∃ record ∈ favorites, record.id = idString id

/-- The book has a download whose file exists. -/
def HasFile (stores : Stores) (id : ℤ) : Prop :=
  ∃ record ∈ stores.downloads,
    record.id = idString id ∧ stores.fileExists record.path = true

/-- The first download of the book has a file that exists. -/
def FirstHasFile (stores : Stores) (id : ℤ) : Prop :=
  ∃ record, (checkDownloads (idString id) stores.downloads).head? = some record ∧
    stores.fileExists record.path = true

/-- The flags say of the book what the stores do. -/
def Describes (stores : Stores) (id : ℤ) (state : State) : Prop :=
  (state.favorite = true ↔ IsFavorite stores.favorites id) ∧
    (state.downloaded = true ↔ HasFile stores id)

/-- The book that a completion event is about, if it is of this check. -/
def completed (check : Check) : Event → Option ℤ
  | .complete other id => if other = check then some id else none
  | _ => none

/-- The book of the last check that completed. -/
def lastCompleted (check : Check) (events : List Event) : Option ℤ :=
  (events.filterMap (completed check)).getLast?

/-- `checkDownload` on the documents of the store finds what `downloadFound`
does on the records they stand for. -/
theorem checkDownload_eq_downloadFound {Node : Type*} (resolve : String → Node)
    (device : Device Node) {downloads : List DownloadRecord} (id : ℤ)
    (hstored : Stored DownloadRecord.toMap device.downloads downloads) :
    (checkDownload resolve id device).downloaded =
      downloadFound (fun path => (device.files (resolve path)).isSome) downloads
        id := by
  have hcheck := stored_check lookup_id_toMap (idString id) hstored
  rw [checkDownload, downloadFound, getDownload, checkDownloads]
  revert hcheck
  generalize device.downloads.filter _ = docs
  generalize (downloads.filter fun record => record.id = idString id) = rows
  intro hcheck
  cases hcheck with
  | nil => rfl
  | @cons doc record docs rows hhead hrest =>
      have hpath : storedPath doc = some record.path := by
        rw [storedPath, hhead "path" (by decide), lookup_path_toMap]
      simp only [hpath]

theorem favFound_iff {favorites : List FavoriteRecord} {id : ℤ} :
    favFound favorites id = true ↔ IsFavorite favorites id := by
  rw [favFound, Bool.not_eq_true', List.isEmpty_eq_false_iff_exists_mem,
    checkFavorites, IsFavorite]
  simp only [List.mem_filter, decide_eq_true_iff]

theorem downloadFound_iff {stores : Stores} {id : ℤ} :
    downloadFound stores.fileExists stores.downloads id = true ↔
      FirstHasFile stores id := by
  rw [downloadFound, FirstHasFile]
  cases checkDownloads (idString id) stores.downloads with
  | nil => simp
  | cons record rest => simp

variable {stores : Stores}

/-- What one step does: it opens a page and starts its checks, closes the top
page, or completes an outstanding check. -/
theorem step_cases {state next : State} {event : Event}
    (hstep : step stores state event = some next) :
    (∃ id, event = .push id ∧
      next =
        { state with
          pages := id :: state.pages
          outstanding := state.outstanding ++ [(.download, id), (.fav, id)] }) ∨
    (∃ page pages, event = .pop ∧ state.pages = page :: pages ∧
      next = { state with pages := pages }) ∨
    (∃ check id, event = .complete check id ∧ (check, id) ∈ state.outstanding ∧
      next = State.setFlag
        { state with outstanding := state.outstanding.erase (check, id) } check
        (found stores check id)) := by
  cases event with
  | push id => exact Or.inl ⟨id, rfl, (Option.some.inj hstep).symm⟩
  | pop =>
      rw [step] at hstep
      split at hstep
      · cases hstep
      · rename_i page pages hpages
        exact Or.inr (Or.inl ⟨page, pages, rfl, hpages, (Option.some.inj hstep).symm⟩)
  | complete check id =>
      rw [step] at hstep
      split at hstep
      · rename_i hmem
        exact Or.inr (Or.inr ⟨check, id, rfl, hmem, (Option.some.inj hstep).symm⟩)
      · cases hstep

theorem flag_step {state next : State} {event : Event} (check : Check)
    (hstep : step stores state event = some next) :
    next.flag check =
      ((completed check event).map (found stores check)).getD
        (state.flag check) := by
  rcases step_cases hstep with
    ⟨id, rfl, rfl⟩ | ⟨page, pages, rfl, hpages, rfl⟩ | ⟨other, id, rfl, hmem, rfl⟩
  · cases check <;> rfl
  · cases check <;> rfl
  · cases check <;> cases other <;> rfl

/-- A flag has the value that its last completed check found. -/
theorem flag_run {state final : State} {events : List Event} (check : Check)
    (hrun : run (step stores) state events = some final) :
    final.flag check =
      ((lastCompleted check events).map (found stores check)).getD
        (state.flag check) := by
  induction events generalizing state with
  | nil =>
      rw [run_nil, Option.some.injEq] at hrun
      rw [hrun]
      rfl
  | cons event events ih =>
      obtain ⟨next, hnext, hrest⟩ := run_cons_eq_some_iff.1 hrun
      rw [ih hrest, flag_step check hnext, lastCompleted, lastCompleted,
        List.filterMap_cons]
      cases completed check event with
      | none => rfl
      | some id =>
          rw [List.getLast?_cons]
          cases (events.filterMap (completed check)).getLast? with
          | none => rfl
          | some last => rfl

/-- There are as many checks of this kind outstanding as pages. -/
def AllOutstanding (check : Check) (state : State) : Prop :=
  state.pages.length ≤ (state.outstanding.map Prod.fst).count check

/-- Each page has started its own check, and none of the kind has completed. -/
theorem allOutstanding_step {check : Check} {state next : State} {event : Event}
    (hpages : AllOutstanding check state)
    (hevent : completed check event = none)
    (hstep : step stores state event = some next) : AllOutstanding check next := by
  rw [AllOutstanding] at hpages ⊢
  rcases step_cases hstep with
    ⟨id, rfl, rfl⟩ | ⟨page, pages, rfl, hstack, rfl⟩ | ⟨other, id, rfl, hmem, rfl⟩
  · cases check with
    | fav => simpa using hpages
    | download => simpa using hpages
  · rw [hstack, List.length_cons] at hpages
    exact Nat.le_of_succ_le hpages
  · have hother : other ≠ check := by
      rintro rfl
      simp [completed] at hevent
    have hcount : ((state.outstanding.erase (other, id)).map Prod.fst).count check =
        (state.outstanding.map Prod.fst).count check := by
      have hperm := (List.perm_cons_erase hmem).map Prod.fst
      rw [hperm.count_eq, List.map_cons, List.count_cons_of_ne hother]
    cases other with
    | fav => exact hcount.symm ▸ hpages
    | download => exact hcount.symm ▸ hpages

/-- Nothing outstanding and a page on top: both checks have completed. -/
theorem exists_lastCompleted {events : List Event} {final : State} (check : Check)
    (hrun : run (step stores) start events = some final)
    (hdone : final.outstanding = []) (hpages : final.pages ≠ []) :
    ∃ id, lastCompleted check events = some id := by
  by_contra hnone
  rw [← Option.isSome_iff_exists, Option.not_isSome_iff_eq_none, lastCompleted,
    List.getLast?_eq_none_iff, List.filterMap_eq_nil_iff] at hnone
  have hstart : AllOutstanding check start := le_rfl
  have hle := run_invariant_of_meets
    (fun state event next hpages hevent hstep =>
      allOutstanding_step hpages hevent hstep)
    hstart (meets_of_forall_mem hnone start) hrun
  rw [AllOutstanding, hdone] at hle
  exact hpages (List.eq_nil_of_length_eq_zero (Nat.le_zero.1 hle))

/-- With no check outstanding the flags describe the page on top exactly if the
checks that completed last were of books for which the stores say the same. -/
theorem describes_iff (stores : Stores) (events : List Event) (final : State)
    (id : ℤ) (hrun : run (step stores) start events = some final)
    (hdone : final.outstanding = []) (htop : final.pages.head? = some id) :
    Describes stores id final ↔
      ∃ favId downloadId, lastCompleted .fav events = some favId ∧
        lastCompleted .download events = some downloadId ∧
        (IsFavorite stores.favorites favId ↔ IsFavorite stores.favorites id) ∧
        (FirstHasFile stores downloadId ↔ HasFile stores id) := by
  have hpages : final.pages ≠ [] := by
    rintro hnil
    rw [hnil] at htop
    cases htop
  obtain ⟨favId, hfavId⟩ := exists_lastCompleted .fav hrun hdone hpages
  obtain ⟨downloadId, hdownloadId⟩ := exists_lastCompleted .download hrun hdone hpages
  have hfavorite : final.favorite = favFound stores.favorites favId := by
    have hflag := flag_run .fav hrun
    rw [hfavId] at hflag
    exact hflag
  have hdownloaded : final.downloaded =
      downloadFound stores.fileExists stores.downloads downloadId := by
    have hflag := flag_run .download hrun
    rw [hdownloadId] at hflag
    exact hflag
  rw [Describes, hfavorite, hdownloaded, favFound_iff, downloadFound_iff]
  constructor
  · rintro ⟨hfav, hdownload⟩
    exact ⟨favId, downloadId, hfavId, hdownloadId, hfav, hdownload⟩
  · rintro ⟨otherFav, otherDownload, hotherFav, hotherDownload, hfav, hdownload⟩
    rw [hfavId, Option.some.injEq] at hotherFav
    rw [hdownloadId, Option.some.injEq] at hotherDownload
    subst hotherFav hotherDownload
    exact ⟨hfav, hdownload⟩

/-- Book 1 is a favorite and nothing is downloaded. -/
def favoriteOne : Stores where
  favorites := [⟨"1", ⟨some 1, some "Seerah", none, none, none, none, none, none, none,
    none, none, none, none, none⟩⟩]
  downloads := []
  fileExists := fun _ => false

/-- The page of book 2 is opened over that of book 1 and closed again before the check
for a favorite of book 1 completes. -/
def lateCheck : List Event :=
  [.push 1, .complete .download 1, .push 2, .complete .fav 2, .complete .download 2, .pop,
    .complete .fav 1]

theorem describes_lateCheck : Describes favoriteOne 1 ⟨[1], [], true, false⟩ := by
  refine (describes_iff favoriteOne lateCheck ⟨[1], [], true, false⟩ 1 rfl rfl rfl).2
    ⟨1, 2, rfl, rfl, Iff.rfl, ?_⟩
  rw [FirstHasFile, HasFile]
  simp [favoriteOne, checkDownloads]

/-- The page of book 2 is opened over that of book 1 and closed again: the flag
still says that the book on top is no favorite. -/
theorem stale_after_pop :
    ¬ ∀ (stores : Stores) (events : List Event) (final : State) (id : ℤ),
      run (step stores) start events = some final → final.outstanding = [] →
      final.pages.head? = some id → Describes stores id final := by
  intro hall
  obtain ⟨hfavorite, -⟩ := hall favoriteOne
    [.push 1, .complete .fav 1, .complete .download 1, .push 2, .complete .fav 2,
      .complete .download 2, .pop] ⟨[1], [], false, false⟩ 1 rfl rfl rfl
  have hflag := hfavorite.2 ⟨_, List.mem_singleton_self _, rfl⟩
  cases hflag

end EduEbook.DetailPages
