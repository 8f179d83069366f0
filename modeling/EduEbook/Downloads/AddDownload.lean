import EduEbook.Downloads.DownloadHistory
import EduEbook.Downloads.DownloadOutcome

/-!
# What a finished download does to the records of its book

`addDownload` inserts the new map; the call that would first remove the old
records of the book is commented out.  The readers `getDownload` and
`checkDownload` look at the first record of the book only.
-/

namespace EduEbook.AddDownload

open EduEbook.BookId
open EduEbook.DownloadDetails
open EduEbook.DownloadHistory
open EduEbook.DownloadOutcome
open EduEbook.DownloadPath
open EduEbook.Json
open EduEbook.ObjectDb
open EduEbook.Runs

/-- The records that `getDownload(id)` does not return. -/
def otherDownloads (bookId : String) (downloads : List DartMap) : List DartMap :=
  downloads.filter fun record => !selects (field "id" (.string bookId)) record

variable {Node : Type*} (resolve : String → Node)

/-- The new map, with the database's key, is the book's only record, the other
records are as before, and both readers follow the new map. -/
structure Replaced (bookId : ℤ) (map : DartMap) (key : JsonValue)
    (before after : Device Node) : Prop where
  getDownload_eq :
    getDownload (idString bookId) after.downloads = [withKey key map]
  otherDownloads_eq : otherDownloads (idString bookId) after.downloads =
    otherDownloads (idString bookId) before.downloads
  firstPath_eq : firstPath bookId after.downloads = storedPath map
  downloaded_of_exists : ∀ path, storedPath map = some path →
    (after.files (resolve path)).isSome = true → after.downloaded = true

variable {bookId : ℤ} {map : DartMap}

theorem selects_withKey (hid : map.lookup "id" = some (.string (idString bookId)))
    (key : JsonValue) :
    selects (field "id" (.string (idString bookId))) (withKey key map) = true := by
  rw [selects_string_iff, lookup_withKey (by decide), hid]

/-- The old records of the book stay in front of the new one. -/
theorem getDownload_addDownload
    (hid : map.lookup "id" = some (.string (idString bookId))) (key : JsonValue)
    (device : Device Node) :
    getDownload (idString bookId)
        (addDownload resolve map key bookId device).downloads =
      getDownload (idString bookId) device.downloads ++ [withKey key map] := by
  rw [addDownload, checkDownload_downloads, getDownload, List.filter_append,
    List.filter_cons, if_pos (selects_withKey hid key)]
  rfl

theorem otherDownloads_addDownload
    (hid : map.lookup "id" = some (.string (idString bookId))) (key : JsonValue)
    (device : Device Node) :
    otherDownloads (idString bookId)
        (addDownload resolve map key bookId device).downloads =
      otherDownloads (idString bookId) device.downloads := by
  rw [addDownload, checkDownload_downloads, otherDownloads, List.filter_append,
    List.filter_cons, selects_withKey hid key]
  exact List.append_nil _

theorem storedPath_withKey (key : JsonValue) (map : DartMap) :
    storedPath (withKey key map) = storedPath map := by
  rw [storedPath, lookup_withKey (by decide), storedPath]

/-- A finished download replaces what was recorded for the book exactly if
nothing was. -/
theorem replaced_iff (resolve : String → Node) (bookId : ℤ) (map : DartMap)
    (key : JsonValue) (device : Device Node)
    (hid : map.lookup "id" = some (.string (idString bookId))) :
    Replaced resolve bookId map key device
        (addDownload resolve map key bookId device) ↔
      getDownload (idString bookId) device.downloads = [] := by
  have hget := getDownload_addDownload resolve hid key device
  constructor
  · intro hreplaced
    rw [hreplaced.getDownload_eq] at hget
    have hlength := congrArg List.length hget
    rw [List.length_append, List.length_singleton] at hlength
    exact List.eq_nil_of_length_eq_zero (by omega)
  · intro hnone
    rw [hnone, List.nil_append] at hget
    have hfirst : firstPath bookId
        (addDownload resolve map key bookId device).downloads = storedPath map := by
      rw [firstPath, hget, List.head?_cons, Option.bind_some, storedPath_withKey]
    refine ⟨hget, otherDownloads_addDownload resolve hid key device, hfirst, ?_⟩
    intro path hpath hexists
    rw [addDownload, checkDownload_files] at hexists
    rw [addDownload, checkDownload_downloads] at hget
    rw [addDownload, checkDownload, hget]
    simp only [storedPath_withKey, hpath]
    exact hexists

/-- The bytes of the first book have arrived while the second one is recorded with a
file of its own. -/
def tafsirRecorded : Device String where
  downloads := [withKey (.int 0) (downloadRecord "/docs/Tafsir.epub"
    (request { otherSeerah with title := "Tafsir" } [80, 75] "2.0 Bytes" (.int 0))).toMap]
  files := Function.update
    (Function.update (fun _ => none) "/docs/Tafsir.epub" (some (receivedFile [80, 75] 2)))
    "/docs/Seerah.epub" (some (receivedFile [1] 1))
  downloaded := false

/-- What the download of the first book records. -/
def firstSeerah : DartMap :=
  (downloadRecord "/docs/Seerah.epub" (request seerah [1] "1.0 Bytes" (.int 1))).toMap

theorem replaced_first_download :
    Replaced id 1 firstSeerah (.int 1) tafsirRecorded
      (addDownload id firstSeerah (.int 1) 1 tafsirRecorded) :=
  (replaced_iff id 1 firstSeerah (.int 1) tafsirRecorded rfl).2 rfl

/-- What a download records of the book after its title has changed. -/
def renamedSeerah : DartMap :=
  (downloadRecord "/docs/Seerah_2.epub"
    (request { seerah with title := "Seerah 2" } [1] "1.0 Bytes" (.int 1))).toMap

/-- The file of a downloaded book is removed outside the app, so the detail page
offers the download again; the second download leaves two records. -/
theorem second_download_adds :
    ∃ state : State String,
      run (step id (fun _ => true) .ios "/docs" [seerah]) (start fun _ => none)
        [.download seerah [1] "1.0 Bytes" (.int 0),
          .removeOutside "/docs/Seerah.epub"] = some state ∧
      ¬ SetsDownloaded id 1 state.device ∧
      renamedSeerah.lookup "id" = some (.string (idString 1)) ∧
      ¬ Replaced id 1 renamedSeerah (.int 1) state.device
        (addDownload id renamedSeerah (.int 1) 1 state.device) := by
  refine ⟨_, rfl, ?_, rfl, ?_⟩
  · rw [SetsDownloaded]
    decide
  · intro hreplaced
    have hlength := congrArg List.length hreplaced.getDownload_eq
    exact absurd hlength (by decide)

end EduEbook.AddDownload
