import EduEbook.Downloads.DownloadHistory
import EduEbook.Downloads.DownloadOutcome

/-!
# Which reader opens a stored book

The detail page looks at the url that the catalogue has for the book now, the
downloads page at the path that was recorded when the book was saved.  A path keeps
the extension of the method that wrote it whatever the title, so the downloads page
is always right.  The detail page is right until a refresh gives a stored book a
url of the other kind.
-/

namespace EduEbook.ReaderChoice

open EduEbook.BookId
open EduEbook.DownloadDetails
open EduEbook.DownloadHistory (request)
open EduEbook.DownloadOutcome
open EduEbook.DownloadPath
open EduEbook.Json
open EduEbook.ObjectDb
open EduEbook.Records
open EduEbook.Runs

inductive Reader
  | pdfPage
  | epubViewer
  deriving DecidableEq

/-- What the server lists, each book once. -/
structure Catalogue where
  books : List Book
  nodup : (books.map (·.id)).Nodup

/-- `savedAs` is the method that last ran for a path. -/
structure State (Node : Type*) where
  catalogue : Catalogue
  device : Device Node
  savedAs : String → Option Extension

/-- A download can end in any of its ways. -/
inductive Event
  | refresh (catalogue : Catalogue)
  | download (book : Book) (body : List UInt8) (size : String) (key : JsonValue)
      (ending : Ending)

section Machine

variable {Node : Type*} [DecidableEq Node] (resolve : String → Node)
  (writable : Node → Bool) (platform : Platform) (directory : String)

/-- The device and the methods after a download from the detail page. -/
def afterDownload (book : Book) (download : Download) (ending : Ending)
    (state : State Node) : State Node where
  catalogue := state.catalogue
  device := outcome resolve writable (extensionOf book.pdf) platform directory download
    state.device ending
  savedAs := Function.update state.savedAs
    (savePath platform directory (extensionOf book.pdf) download.name)
    (some (extensionOf book.pdf))

def step (state : State Node) : Event → Option (State Node)
  | .refresh catalogue => some { state with catalogue := catalogue }
  | .download book body size key ending =>
      -- With status 0 the page says "coming soon" in place of a button.
      if book ∈ state.catalogue.books ∧ book.status ≠ some 0 then
        some (afterDownload resolve writable platform directory book (request book body size key)
          ending state)
      else none

/-- Nothing has been downloaded yet; other files may exist. -/
def start (catalogue : Catalogue) (files : Node → Option StoredFile) : State Node where
  catalogue := catalogue
  device := ⟨[], files, false⟩
  savedAs := fun _ => none

end Machine

section Invariants

variable {Node : Type*} [DecidableEq Node] {resolve : String → Node}
  {writable : Node → Bool} {platform : Platform} {directory : String}
  {state : State Node}

/-- What one step does. -/
theorem step_cases {next : State Node} {event : Event}
    (hstep : step resolve writable platform directory state event = some next) :
    (∃ catalogue, event = .refresh catalogue ∧
      next = { state with catalogue := catalogue }) ∨
    (∃ book body size key ending, event = .download book body size key ending ∧
      book ∈ state.catalogue.books ∧ book.status ≠ some 0 ∧
      next = afterDownload resolve writable platform directory book (request book body size key)
        ending state) := by
  cases event with
  | refresh catalogue =>
      rw [step, Option.some.injEq] at hstep
      exact Or.inl ⟨catalogue, rfl, hstep.symm⟩
  | download book body size key ending =>
      rw [step] at hstep
      split at hstep
      · rename_i hlisted
        rw [Option.some.injEq] at hstep
        exact Or.inr ⟨book, body, size, key, ending, rfl, hlisted.1, hlisted.2,
          hstep.symm⟩
      · cases hstep

end Invariants

end EduEbook.ReaderChoice
