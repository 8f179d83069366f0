import EduEbook.Api.Repository
import EduEbook.Library.Runs

/-!
# The carousel and its background

When the trending books have come, one handler picks the book of the default index,
hands it to the background BLoC and emits the loaded state.  The index is not tested
against the list, so an empty list makes the handler throw between the request and
any new state.  Page changes of the view go to the background BLoC alone.
-/

namespace EduEbook.CarouselBloc

open EduEbook.ApiClient
open EduEbook.BookModels
open EduEbook.Models
open EduEbook.Repository
open EduEbook.Runs

/-- What indexing a list throws. -/
inductive IndexError
  | noSuchMethodError
  | rangeError

/-- `ebook[index]`. -/
def entityAt (ebook : EbookResultModel) (index : ℤ) : Except IndexError EbookModel :=
  match ebook with
  | none => .error .noSuchMethodError
  | some list =>
      if index < 0 then .error .rangeError
      else
        match list[index.toNat]? with
        | some entity => .ok entity
        | none => .error .rangeError

inductive EbookCarouselState
  | initial
  | error
  | loaded (ebook : EbookResultModel) (defaultIndex : ℤ)

inductive EbookBackgroundState
  | initial
  | changed (ebook : EbookModel)

/-- The two BLoCs and the page that the view shows, if there is a view. -/
structure Home where
  carousel : EbookCarouselState
  background : EbookBackgroundState
  page : Option ℕ

/-- The home page makes both BLoCs and adds one load event. -/
def start : Home := ⟨.initial, .initial, none⟩

/-- `EbookBackgroundBloc.mapEventToState` for a change event. -/
def changeBackground (ebook : EbookModel) (state : Home) : Home :=
  { state with background := .changed ebook }

/-- `EbookCarouselBloc.mapEventToState` for a load event, with the outcome of
`getTrending`.  The loaded state builds a view on the page of the default index; a
view that is there already keeps its page. -/
def load (defaultIndex : ℤ) (outcome : Either EbookResultModel) (state : Home) :
    Except IndexError Home :=
  match outcome with
  | .inl _ => .ok { state with carousel := .error, page := none }
  | .inr ebook => do
      let entity ← entityAt ebook defaultIndex
      let changed := changeBackground entity state
      return { changed with
        carousel := .loaded ebook defaultIndex
        page := some (state.page.getD defaultIndex.toNat) }

/-- `onPageChanged`, which the view calls with the pages it has. -/
def onPageChanged (state : Home) (index : ℕ) : Option Home :=
  match state.carousel with
  | .loaded (some list) _ =>
      list[index]?.map fun entity =>
        { changeBackground entity state with page := some index }
  | _ => none

def ValidIndex (ebook : EbookResultModel) (index : ℤ) : Prop :=
  ∃ list, ebook = some list ∧ 0 ≤ index ∧ index < list.length

/-- The background shows the element of the loaded list at the current page. -/
def ShowsPage (ebook : EbookResultModel) (state : Home) : Prop :=
  ∃ list page entity, ebook = some list ∧ state.page = some page ∧
    list[page]? = some entity ∧ state.background = .changed entity

/-- The load event ends in one of the two final states, in the loaded state with a
valid index only, and then the background follows the pages. -/
structure EndsConsistent (defaultIndex : ℤ) (outcome : Either EbookResultModel) : Prop where
  returns : ∃ final, load defaultIndex outcome start = .ok final
  ends : ∀ final, load defaultIndex outcome start = .ok final →
    final.carousel = .error ∨ ∃ ebook, final.carousel = .loaded ebook defaultIndex
  valid : ∀ final ebook, load defaultIndex outcome start = .ok final →
    final.carousel = .loaded ebook defaultIndex → ValidIndex ebook defaultIndex
  follows : ∀ final ebook changes last, load defaultIndex outcome start = .ok final →
    final.carousel = .loaded ebook defaultIndex →
    run onPageChanged final changes = some last → ShowsPage ebook last

theorem entityAt_eq_ok_iff {ebook : EbookResultModel} {index : ℤ} {entity : EbookModel} :
    entityAt ebook index = .ok entity ↔
      ∃ list, ebook = some list ∧ 0 ≤ index ∧ list[index.toNat]? = some entity := by
  cases ebook with
  | none =>
      apply iff_of_false nofun
      rintro ⟨list, hlist, -⟩
      cases hlist
  | some list =>
      have hself : (∃ other, some list = some other ∧ 0 ≤ index ∧
            other[index.toNat]? = some entity) ↔
          0 ≤ index ∧ list[index.toNat]? = some entity := by
        simp
      rw [hself, entityAt]
      split_ifs with hindex
      · exact iff_of_false nofun fun h => absurd h.1 (not_le.2 hindex)
      · rw [and_iff_right (not_lt.1 hindex)]
        cases list[index.toNat]? with
        | none => exact iff_of_false nofun nofun
        | some other => rw [Except.ok.injEq, Option.some.injEq]

/-- An index has an element exactly if it is valid. -/
theorem exists_entityAt_iff {ebook : EbookResultModel} {index : ℤ} :
    (∃ entity, entityAt ebook index = .ok entity) ↔ ValidIndex ebook index := by
  simp only [entityAt_eq_ok_iff, ValidIndex]
  constructor
  · rintro ⟨entity, list, hlist, hnonneg, hentity⟩
    obtain ⟨hlength, -⟩ := List.getElem?_eq_some_iff.1 hentity
    exact ⟨list, hlist, hnonneg, by omega⟩
  · rintro ⟨list, hlist, hnonneg, hlt⟩
    have hlength : index.toNat < list.length := by omega
    exact ⟨list[index.toNat], list, hlist, hnonneg, List.getElem?_eq_getElem hlength⟩

/-- The loaded state comes with the book of its page in the background. -/
theorem load_right_eq_ok_iff {defaultIndex : ℤ} {ebook : EbookResultModel} {final : Home} :
    load defaultIndex (.inr ebook) start = .ok final ↔
      ∃ entity, entityAt ebook defaultIndex = .ok entity ∧
        final = ⟨.loaded ebook defaultIndex, .changed entity, some defaultIndex.toNat⟩ := by
  rw [load]
  cases entityAt ebook defaultIndex with
  | error thrown =>
      apply iff_of_false nofun
      rintro ⟨entity, hentity, -⟩
      cases hentity
  | ok entity =>
      constructor
      · intro h
        cases h
        exact ⟨entity, rfl, rfl⟩
      · rintro ⟨other, hother, rfl⟩
        cases hother
        rfl

/-- What a page change keeps: the loaded list, and the background of its page. -/
def Following (list : List EbookModel) (defaultIndex : ℤ) (state : Home) : Prop :=
  state.carousel = .loaded (some list) defaultIndex ∧ ShowsPage (some list) state

theorem following_onPageChanged {list : List EbookModel} {defaultIndex : ℤ}
    {state next : Home} {index : ℕ} (hstate : Following list defaultIndex state)
    (hnext : onPageChanged state index = some next) : Following list defaultIndex next := by
  rw [onPageChanged, hstate.1] at hnext
  obtain ⟨entity, hentity, rfl⟩ := Option.map_eq_some_iff.1 hnext
  exact ⟨hstate.1, list, index, entity, rfl, rfl, hentity, rfl⟩

/-- The background follows every run of page changes. -/
theorem showsPage_run {defaultIndex : ℤ} {ebook : EbookResultModel} {final last : Home}
    {changes : List ℕ} (hload : load defaultIndex (.inr ebook) start = .ok final)
    (hrun : run onPageChanged final changes = some last) : ShowsPage ebook last := by
  obtain ⟨entity, hentity, rfl⟩ := load_right_eq_ok_iff.1 hload
  obtain ⟨list, rfl, -, hsome⟩ := entityAt_eq_ok_iff.1 hentity
  have hfollowing : Following list defaultIndex last := by
    apply run_invariant (fun _ _ _ => following_onPageChanged) _ hrun
    exact ⟨rfl, list, defaultIndex.toNat, entity, rfl, rfl, hsome, rfl⟩
  exact hfollowing.2

/-- The load event ends as it should exactly if the default index is valid for the
list, when there is one. -/
theorem endsConsistent_iff (defaultIndex : ℤ) (outcome : Either EbookResultModel) :
    EndsConsistent defaultIndex outcome ↔
      ∀ ebook, outcome = .inr ebook → ValidIndex ebook defaultIndex := by
  constructor
  · rintro hends ebook rfl
    obtain ⟨final, hfinal⟩ := hends.returns
    obtain ⟨entity, hentity, -⟩ := load_right_eq_ok_iff.1 hfinal
    exact exists_entityAt_iff.1 ⟨entity, hentity⟩
  · intro hvalid
    cases outcome with
    | inl errors =>
        refine ⟨⟨_, rfl⟩, fun final hfinal => ?_, fun final ebook hfinal hloaded => ?_,
          fun final ebook changes last hfinal hloaded => ?_⟩
        all_goals cases hfinal
        · exact .inl rfl
        · cases hloaded
        · cases hloaded
    | inr ebook =>
        obtain ⟨entity, hentity⟩ := exists_entityAt_iff.2 (hvalid ebook rfl)
        refine ⟨⟨_, load_right_eq_ok_iff.2 ⟨entity, hentity, rfl⟩⟩, fun final hfinal => ?_,
          fun final other hfinal hloaded => ?_,
          fun final other changes last hfinal hloaded hrun => ?_⟩
        · obtain ⟨_, -, rfl⟩ := load_right_eq_ok_iff.1 hfinal
          exact .inr ⟨ebook, rfl⟩
        · obtain ⟨_, -, rfl⟩ := load_right_eq_ok_iff.1 hfinal
          cases hloaded
          exact hvalid ebook rfl
        · have hsame : ebook = other := by
            obtain ⟨_, -, rfl⟩ := load_right_eq_ok_iff.1 hfinal
            cases hloaded
            rfl
          exact hsame ▸ showsPage_run hfinal hrun

/-- No trending books, and the index that the home page loads. -/
theorem not_endsConsistent_empty : ¬EndsConsistent 0 (.inr (some [])) := by
  intro hends
  obtain ⟨final, hfinal⟩ := hends.returns
  cases hfinal

end EduEbook.CarouselBloc
