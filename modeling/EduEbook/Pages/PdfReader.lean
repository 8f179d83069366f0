import EduEbook.Library.Runs
import Mathlib.Data.Int.Order.Basic

/-!
# The page buttons of the PDF reader

The two buttons are built under a test of the page, and change the page when
they are pressed.  A press does not rebuild them, so that a button can be
pressed again although its test no longer holds.
-/

namespace EduEbook.PdfReader

open EduEbook.Runs

/-- The fields of the page, the labels of the buttons on screen and the pages
that `setPage` was called with.  `viewCreated` says that `pdfviewController`
is set. -/
structure PdfPageState where
  totalpages : ℤ
  pdfready : Bool
  viewCreated : Bool
  currentPage : ℤ
  backButton : Option String
  forwardButton : Option String
  asked : List ℤ

def initialState : PdfPageState := ⟨0, false, false, 0, none, none, []⟩

inductive PdfEvent
  | onViewCreated
  | onRender
  | onPageChanged (page : ℤ)
  | build
  | tapBack
  | tapForward

def build (state : PdfPageState) : PdfPageState :=
  { state with
    backButton :=
      if state.currentPage > 0 then some ("Go to " ++ toString (state.currentPage - 1))
      else none
    forwardButton :=
      if state.currentPage < state.totalpages - 1 then
        some ("Go to " ++ toString (state.currentPage + 1))
      else none }

/-- `onPressed` of a button: the field changes first, then the controller is
called, which throws if it is still null. -/
def onPressed (state : PdfPageState) (page : ℤ) : PdfPageState :=
  { state with
    currentPage := page
    asked := if state.viewCreated then state.asked ++ [page] else state.asked }

/-- The callbacks of the viewer, for a document of `pages` pages, call `setState`,
which makes a later `build`. -/
def step (pages : ℤ) (state : PdfPageState) : PdfEvent → Option PdfPageState
  | .onViewCreated => some { state with viewCreated := true }
  | .onRender => some { state with totalpages := pages, pdfready := true }
  | .onPageChanged page =>
      if 0 ≤ page ∧ page < pages then
        some { state with currentPage := page, totalpages := pages }
      else none
  | .build => some (build state)
  | .tapBack => state.backButton.map fun _ => onPressed state (state.currentPage - 1)
  | .tapForward =>
      state.forwardButton.map fun _ => onPressed state (state.currentPage + 1)

def InDocument (pages page : ℤ) : Prop := 0 ≤ page ∧ page < pages

structure InBounds (pages : ℤ) (state : PdfPageState) : Prop where
  current : InDocument pages state.currentPage
  asked : ∀ page ∈ state.asked, InDocument pages page

/-- Every state that the events lead through is in bounds. -/
def StaysInBounds (pages : ℤ) (events : List PdfEvent) : Prop :=
  ∀ before, before <+: events →
    ∀ state ∈ run (step pages) initialState before, InBounds pages state

/-- A pressed button would be built again in the state in which it is pressed. -/
def LiveButton (state : PdfPageState) : PdfEvent → Prop
  | .tapBack => state.currentPage > 0
  | .tapForward => state.currentPage < state.totalpages - 1
  | _ => True

/-- The page count is that of the document once the forward button is on screen. -/
structure Consistent (pages : ℤ) (state : PdfPageState) : Prop where
  bounds : InBounds pages state
  total : state.totalpages = 0 ∨ state.totalpages = pages
  forward : state.forwardButton ≠ none → state.totalpages = pages

theorem initialState_consistent {pages : ℤ} (hpages : 0 < pages) :
    Consistent pages initialState where
  bounds := ⟨⟨le_rfl, hpages⟩, fun _ hpage => absurd hpage List.not_mem_nil⟩
  total := .inl rfl
  forward hbutton := absurd rfl hbutton

/-- A press keeps the bounds exactly if the page it goes to is in the document. -/
theorem onPressed_inBounds_iff {pages page : ℤ} {state : PdfPageState}
    (hstate : InBounds pages state) :
    InBounds pages (onPressed state page) ↔ InDocument pages page := by
  constructor
  · intro hpressed
    exact hpressed.current
  · intro hpage
    refine ⟨hpage, fun other hother => ?_⟩
    change other ∈ (if state.viewCreated then state.asked ++ [page] else state.asked)
      at hother
    split at hother
    · rcases List.mem_append.1 hother with hbefore | hnew
      · exact hstate.asked other hbefore
      · rw [List.mem_singleton.1 hnew]
        exact hpage
    · exact hstate.asked other hother

/-- In a consistent state an event keeps the bounds exactly if it is no press of a
button whose test has failed since. -/
theorem step_inBounds_iff {pages : ℤ} {state next : PdfPageState} {event : PdfEvent}
    (hstate : Consistent pages state) (hnext : step pages state event = some next) :
    InBounds pages next ↔ LiveButton state event := by
  obtain ⟨hlower, hupper⟩ := hstate.bounds.current
  cases event with
  | onViewCreated =>
      cases hnext
      exact iff_of_true ⟨hstate.bounds.current, hstate.bounds.asked⟩ trivial
  | onRender =>
      cases hnext
      exact iff_of_true ⟨hstate.bounds.current, hstate.bounds.asked⟩ trivial
  | onPageChanged page =>
      rw [step, Option.ite_none_right_eq_some] at hnext
      cases hnext.2
      exact iff_of_true ⟨hnext.1, hstate.bounds.asked⟩ trivial
  | build =>
      cases hnext
      exact iff_of_true ⟨hstate.bounds.current, hstate.bounds.asked⟩ trivial
  | tapBack =>
      obtain ⟨label, -, rfl⟩ := Option.map_eq_some_iff.1 hnext
      rw [onPressed_inBounds_iff hstate.bounds, InDocument, LiveButton]
      omega
  | tapForward =>
      obtain ⟨label, hlabel, rfl⟩ := Option.map_eq_some_iff.1 hnext
      have htotal := hstate.forward (by rw [hlabel]; exact Option.some_ne_none label)
      rw [onPressed_inBounds_iff hstate.bounds, InDocument, LiveButton, htotal]
      omega

theorem step_consistent {pages : ℤ} {state next : PdfPageState} {event : PdfEvent}
    (hstate : Consistent pages state) (hbounds : InBounds pages next)
    (hnext : step pages state event = some next) : Consistent pages next := by
  cases event with
  | onViewCreated =>
      cases hnext
      exact ⟨hbounds, hstate.total, hstate.forward⟩
  | onRender =>
      cases hnext
      exact ⟨hbounds, .inr rfl, fun _ => rfl⟩
  | onPageChanged page =>
      rw [step, Option.ite_none_right_eq_some] at hnext
      cases hnext.2
      exact ⟨hbounds, .inr rfl, fun _ => rfl⟩
  | build =>
      cases hnext
      refine ⟨hbounds, hstate.total, fun hbutton => ?_⟩
      have hshown : state.currentPage < state.totalpages - 1 := by
        by_contra hlast
        exact hbutton (if_neg hlast)
      -- A page count of zero shows no forward button.
      refine hstate.total.resolve_left fun hzero => ?_
      have hlower := hstate.bounds.current.1
      omega
  | tapBack | tapForward =>
      obtain ⟨label, -, rfl⟩ := Option.map_eq_some_iff.1 hnext
      exact ⟨hbounds, hstate.total, hstate.forward⟩

/-- The reader stays inside the document, in every state of a run, exactly if no
button is pressed after its test has failed. -/
theorem inBounds_iff {pages : ℤ} (hpages : 1 ≤ pages) {events : List PdfEvent}
    {final : PdfPageState}
    (hrun : run (step pages) initialState events = some final) :
    StaysInBounds pages events ↔
      Meets (step pages) LiveButton initialState events := by
  have hstart := initialState_consistent hpages
  rw [StaysInBounds, forall_prefix_iff_meets, and_iff_right hstart.bounds]
  refine meets_congr_of_invariant ?_ ?_ hstart hrun
  · intro state event next hstate hnext
    simp only [hnext, Option.mem_some_iff, forall_eq',
      step_inBounds_iff hstate hnext]
  · intro state event next hstate hgood hnext
    exact step_consistent hstate (hgood next hnext) hnext

/-- Going forward once and back once in a document of two pages. -/
theorem inBounds_two_pages :
    StaysInBounds 2 [.onViewCreated, .onRender, .build, .tapForward, .onPageChanged 1,
      .build, .tapBack] :=
  (inBounds_iff (by decide) rfl).2 (by
    simp [Meets, LiveButton, step, build, onPressed, initialState])

/-- Two presses of the back button, on the second page, ask for page -1. -/
theorem second_tap_leaves_document :
    ¬StaysInBounds 2 [.onViewCreated, .onPageChanged 1, .build, .tapBack, .tapBack] := by
  intro hall
  have hlast := hall _ (List.prefix_refl _) _ rfl
  exact absurd (hlast.asked (-1) (by decide)).1 (by decide)

end EduEbook.PdfReader
