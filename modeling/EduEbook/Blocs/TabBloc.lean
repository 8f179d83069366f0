import EduEbook.Api.Repository

/-!
# The tab BLoC

The base class of the tab states declares the index of the tab and takes it in
its constructor.  The constructors of the two final states take an index as well
but hand nothing to the base class, so the inherited field stays null and no tab
title is ever drawn as selected.
-/

namespace EduEbook.TabBloc

open EduEbook.BookModels
open EduEbook.Models
open EduEbook.Repository

/-- What the three subclasses of the state add to it. -/
inductive StateClass
  | ebookTabInitial
  | ebookTabChanged (ebook : EbookResultModel)
  | ebookTabErrorLoaded

structure EbookTabState where
  currentIndexTabs : Option ℤ
  stateClass : StateClass

/-- A subclass constructor that leaves the arguments of `super` out. -/
def ofSubclass (stateClass : StateClass) : EbookTabState := ⟨none, stateClass⟩

def EbookTabInitial : EbookTabState := ofSubclass .ebookTabInitial

def EbookTabChanged (_currentIndexTabs : ℤ) (ebook : EbookResultModel) :
    EbookTabState :=
  ofSubclass (.ebookTabChanged ebook)

def EbookTabErrorLoaded (_currentIndexTabs : ℤ) : EbookTabState :=
  ofSubclass .ebookTabErrorLoaded

/-- What the use cases return while an event is handled. -/
structure UseCases where
  getPopular : Either EbookResultModel
  getPlayingLatest : Either EbookResultModel
  getComingSoon : Either EbookResultModel

/-- An `EbookTabChangedEvent` with the outcomes it meets. -/
structure TabEvent where
  currentIndexTabs : ℤ
  useCases : UseCases

/-- The use case of a tab, none for an index without a `case`. -/
def outcome (event : TabEvent) : Option (Either EbookResultModel) :=
  match event.currentIndexTabs with
  | 0 => some event.useCases.getPopular
  | 1 => some event.useCases.getPlayingLatest
  | 2 => some event.useCases.getComingSoon
  | _ => none

def foldOutcome (event : TabEvent) (ebook : Either EbookResultModel) : EbookTabState :=
  ebook.elim (fun _ => EbookTabErrorLoaded event.currentIndexTabs)
    fun ebook => EbookTabChanged event.currentIndexTabs ebook

/-- The states that an event emits.  Without a use case `fold` is called on null,
which throws after the first of them. -/
def mapEventToState (event : TabEvent) : List EbookTabState :=
  match outcome event with
  | some ebook => [EbookTabInitial, foldOutcome event ebook]
  | none => [EbookTabInitial]

/-- The state after events that are handled one at a time. -/
def stateAfter (events : List TabEvent) : EbookTabState :=
  (events.flatMap mapEventToState).foldl (fun _ next => next) EbookTabInitial

/-- The ids of `TabsConstraint.ebookTabs`. -/
def ebookTabs : List ℤ := [0, 1, 2]

/-- The titles that `EbookTabsWidget` draws as selected. -/
def selectedTabs (state : EbookTabState) : List ℤ :=
  ebookTabs.filter fun id => state.currentIndexTabs = some id

/-- The state names the tab of the event, holds what its use case returned, and
has that one tab drawn as selected. -/
structure NamesTab (event : TabEvent) (state : EbookTabState) : Prop where
  index_eq : state.currentIndexTabs = some event.currentIndexTabs
  changed_of_right : ∀ ebook, outcome event = some (.inr ebook) →
    state.stateClass = .ebookTabChanged ebook
  errorLoaded_of_left : ∀ errors, outcome event = some (.inl errors) →
    state.stateClass = .ebookTabErrorLoaded
  selected_eq : selectedTabs state = [event.currentIndexTabs]

/-- The last state that an event emits stays. -/
theorem stateAfter_append (before : List TabEvent) (event : TabEvent) :
    stateAfter (before ++ [event]) =
      (mapEventToState event).foldl (fun _ next => next) (stateAfter before) := by
  rw [stateAfter, List.flatMap_append, List.foldl_append, List.flatMap_singleton]
  rfl

/-- The class and the data of the state after an event are those of its
outcome. -/
theorem stateClass_stateAfter (before : List TabEvent) {event : TabEvent}
    {ebook : Either EbookResultModel} (houtcome : outcome event = some ebook) :
    stateAfter (before ++ [event]) = foldOutcome event ebook := by
  rw [stateAfter_append, mapEventToState, houtcome]
  rfl

/-- The index is null in every state. -/
theorem currentIndexTabs_stateAfter (events : List TabEvent) :
    (stateAfter events).currentIndexTabs = none := by
  rcases List.eq_nil_or_concat' events with rfl | ⟨before, event, rfl⟩
  · rfl
  -- The last event decides alone.
  · cases houtcome : outcome event with
    | none =>
        rw [stateAfter_append, mapEventToState, houtcome]
        rfl
    | some ebook =>
        rw [stateClass_stateAfter before houtcome]
        cases ebook with
        | inl errors => rfl
        | inr ebook => rfl

/-- The tab BLoC names its tab in no run in which an event is handled. -/
theorem namesTab_iff (events : List TabEvent) :
    (∀ before event after, events = before ++ event :: after →
        NamesTab event (stateAfter (before ++ [event]))) ↔
      events = [] := by
  constructor
  · intro hall
    cases events with
    | nil => rfl
    | cons event after =>
        have hindex := (hall [] event after rfl).index_eq
        rw [currentIndexTabs_stateAfter] at hindex
        cases hindex
  · rintro rfl before event after hevents
    exact absurd hevents.symm (List.append_ne_nil_of_right_ne_nil before
      (List.cons_ne_nil event after))

/-- All three lists are empty. -/
def emptyTabs : UseCases := ⟨.inr (some []), .inr (some []), .inr (some [])⟩

theorem first_tab_not_named :
    ¬NamesTab ⟨0, emptyTabs⟩ (stateAfter [⟨0, emptyTabs⟩]) := by
  intro hnames
  cases hnames.index_eq

end EduEbook.TabBloc
