import EduEbook.Blocs.FetchBlocs
import EduEbook.Blocs.TabBloc

/-!
# The lists of the success states

Eight BLoCs show books.  Five request them over http themselves, three through the
repository, and all of them put what the result model has decoded into their success
state without a test.  The model makes a list only if the body has a `pdf` entry, so
a body without one becomes a success state with null.
-/

namespace EduEbook.SuccessStates

open EduEbook.ApiClient
open EduEbook.BookModels
open EduEbook.Checked
open EduEbook.Decoding
open EduEbook.FetchBlocs
open EduEbook.Json
open EduEbook.Models
open EduEbook.Repository
open EduEbook.TabBloc

/-- `yield loading; yield (await useCase).fold(error, success)`.  An error that the
use case throws ends the stream. -/
def emitFold {State : Type} (loading : State) (error : State)
    (success : EbookResultModel → State) :
    Except Thrown (Either EbookResultModel) → List State
  | .ok result => [loading, result.elim (fun _ => error) success]
  | .error _ => [loading]

def EbookExploresBloc.mapEventToState (network : Network) : List (LoadState EbookModel) :=
  emitFold .loading (.error "any problem") .success (Repository.getExplores network)

/-- Its first state is the loading state. -/
def EbookRelatedBloc.mapEventToState (network : Network) : List (LoadState EbookModel) :=
  emitFold .loading (.error "Any error related ebook") .success (Repository.getRelated network)

/-- The use cases of the tabs. -/
def tabMethod : ℤ → Option Method
  | 0 => some .getPopular
  | 1 => some .getRandom
  | 2 => some .getComingSoon
  | _ => none

def EbookTabBloc.mapEventToState (network : Network) (currentIndexTabs : ℤ) :
    List EbookTabState :=
  match currentIndexTabs with
  | 0 => tabStates (Repository.getPopular network)
  | 1 => tabStates (Repository.getRandom network)
  | 2 => tabStates (Repository.getComingSoon network)
  | _ => [EbookTabInitial]
where
  tabStates := emitFold EbookTabInitial (EbookTabErrorLoaded currentIndexTabs)
    (EbookTabChanged currentIndexTabs)

/-- Where the use cases return, these are the states that their results give. -/
theorem mapEventToState_eq_tabBloc {network : Network} {useCases : UseCases}
    (hpopular : Repository.getPopular network = .ok useCases.getPopular)
    (hlatest : Repository.getRandom network = .ok useCases.getPlayingLatest)
    (hsoon : Repository.getComingSoon network = .ok useCases.getComingSoon) (currentIndexTabs : ℤ) :
    EbookTabBloc.mapEventToState network currentIndexTabs =
      TabBloc.mapEventToState ⟨currentIndexTabs, useCases⟩ := by
  unfold EbookTabBloc.mapEventToState TabBloc.mapEventToState TabBloc.outcome
  rw [hpopular, hlatest, hsoon]
  split
  · rfl
  · rfl
  · rfl
  · simp

/-- The JSON of a response that the repository accepts. -/
def acceptedBody (network : Network) (path : String) : Option JsonValue :=
  (get network path).toOption

/-- The JSON of a response, whatever its status. -/
def receivedBody (network : Network) (url : String) : Option JsonValue :=
  match network url with
  | .failed => none
  | .received response => response.body

/-- A BLoC that shows books: what handling an event emits, the JSON that it decodes
then, and the lists of its success states. -/
structure BookMachine where
  Event : Type
  State : Type
  initial : State
  states : Network → Event → List State
  body : Network → Event → Option JsonValue
  listOf : State → Option EbookResultModel
  IsError : State → Prop

def loadedList : LoadState EbookModel → Option EbookResultModel
  | .success list => some list
  | _ => none

def loadMachine (first : LoadState EbookModel)
    (states : Network → List (LoadState EbookModel))
    (body : Network → Option JsonValue) : BookMachine where
  Event := Unit
  State := LoadState EbookModel
  initial := first
  states := fun network _ => states network
  body := fun network _ => body network
  listOf := loadedList
  IsError := IsErrorState

def tabList (state : EbookTabState) : Option EbookResultModel :=
  match state.stateClass with
  | .ebookTabChanged ebook => some ebook
  | _ => none

/-- The state of a search is one of success if it is neither of the other two. -/
def searchList (state : EbookSearchState) : Option EbookResultModel :=
  if state.isLoading ∨ state.isError then none else some state.entities

/-- The BLoCs with what each is constructed with. -/
inductive BookBloc
  | explores
  | related
  | tab
  | random
  | purchased (id : Option String)
  | byCats (id : ℤ)
  | suggest (path : String)
  | search

def BookBloc.machine (toText : Thrown → String) : BookBloc → BookMachine
  | .explores =>
      loadMachine .initial EbookExploresBloc.mapEventToState
        fun network => acceptedBody network EXPLORES
  | .related =>
      loadMachine .loading EbookRelatedBloc.mapEventToState
        fun network => acceptedBody network LATEST
  | .tab =>
      { Event := ℤ
        State := EbookTabState
        initial := EbookTabInitial
        states := EbookTabBloc.mapEventToState
        body := fun network index =>
          (tabMethod index).bind fun method => acceptedBody network method.path
        listOf := tabList
        IsError := fun state => state.stateClass = .ebookTabErrorLoaded }
  | .random =>
      loadMachine .initial
        (fun network => (EbookRandomBloc.mapEventToState toText network).states)
        fun network => receivedBody network (BASE_URL ++ API ++ LATEST)
  | .purchased id =>
      loadMachine .initial
        (fun network => (EbookPurchasedBloc.mapEventToState toText id network).states)
        fun network => receivedBody network (BASE_URL ++ API ++ PURCHASED ++ id.getD "null")
  | .byCats id =>
      loadMachine .initial
        (fun network => (EbookByCatsBloc.mapEventToState toText id network).states)
        fun network => receivedBody network (BASE_URL ++ API ++ EBOOKBYCAT ++ BookId.idString id)
  | .suggest path =>
      loadMachine .initial
        (fun network => (EbookSuggestBloc.mapEventToState path network).states)
        fun network => receivedBody network (BASE_URL ++ API ++ path)
  | .search =>
      { Event := String
        State := EbookSearchState
        initial := .initial
        states := fun network query => (SearchBloc.mapEventToState network query).states
        body := fun network query =>
          receivedBody network (BASE_URL ++ API ++ SEARCH ++ query)
        listOf := searchList
        IsError := fun state => state.isError = true }

/-- What is emitted by events that are handled one at a time, each with the answers
of the network to it. -/
def emitted (machine : BookMachine) (requests : List (machine.Event × Network)) :
    List machine.State :=
  requests.flatMap fun request => machine.states request.2 request.1

/-- The state after the events. -/
def stateAfter (machine : BookMachine) (requests : List (machine.Event × Network)) :
    machine.State :=
  (emitted machine requests).foldl (fun _ next => next) machine.initial

/-- The body is a map with a list of books. -/
def HasBookList (json : JsonValue) : Prop :=
  ∃ elements, valueAt json "pdf" = .list elements ∧ ∀ element ∈ elements, BookShape element

/-- In every state that is reached a success carries a list, and a body without a
list of books ends in an error state. -/
structure CarriesLists (machine : BookMachine)
    (requests : List (machine.Event × Network)) : Prop where
  success : ∀ state ∈ machine.initial :: emitted machine requests,
    ∀ list, machine.listOf state = some list → list ≠ none
  error : ∀ before request, before ++ [request] <+: requests →
    ∀ json ∈ machine.body request.2 request.1, ¬HasBookList json →
      machine.IsError (stateAfter machine (before ++ [request]))

/-- What the last state of an event is, by what came of the response: a success with
the decoded list, no final state when the decoding throws, or no body at all. -/
inductive Outcome (machine : BookMachine) : Option JsonValue → machine.State → Prop
  | decoded {json : JsonValue} {list : EbookResultModel} {last : machine.State}
      (hjson : EbookResultModel.fromJson json = .ok list)
      (hlist : machine.listOf last = some list) (herror : ¬machine.IsError last) :
      Outcome machine (some json) last
  | thrown {json : JsonValue} {last : machine.State}
      (hjson : ¬∃ list, EbookResultModel.fromJson json = .ok list)
      (hlist : machine.listOf last = none) (herror : ¬machine.IsError last) :
      Outcome machine (some json) last
  | missing {last : machine.State} (hlist : machine.listOf last = none) :
      Outcome machine none last

/-- The states that an event emits end with such a state, the only one that may be a
success. -/
def EndsIn (machine : BookMachine) (body : Option JsonValue)
    (states : List machine.State) : Prop :=
  ∃ front last, states = front ++ [last] ∧
    (∀ state ∈ front, machine.listOf state = none) ∧ Outcome machine body last

/-- The two states that a handler emits first and last. -/
structure Emits (machine : BookMachine) (loading : machine.State)
    (success : EbookResultModel → machine.State) : Prop where
  loading_list : machine.listOf loading = none
  loading_error : ¬machine.IsError loading
  success_list : ∀ list, machine.listOf (success list) = some list
  success_error : ∀ list, ¬machine.IsError (success list)

theorem receivedBody_eq_some_iff {network : Network} {url : String} {json : JsonValue} :
    receivedBody network url = some json ↔
      ∃ response, network url = .received response ∧ response.body = some json := by
  rw [receivedBody]
  cases network url with
  | failed => simp
  | received response => simp

theorem outcome_emit {machine : BookMachine} {loading : machine.State}
    {success : EbookResultModel → machine.State} (hemits : Emits machine loading success)
    {failure : Thrown → String} {onCatch : Thrown → Option Thrown} {url : String}
    {network : Network} :
    EndsIn machine (receivedBody network url)
      (emit loading success onCatch
        (getData EbookResultModel.fromJson failure url network)).states := by
  cases hdata : getData EbookResultModel.fromJson failure url network with
  | ok list =>
      obtain ⟨response, json, hreply, hbody, hjson⟩ := getData_eq_ok_iff.1 hdata
      rw [receivedBody_eq_some_iff.2 ⟨response, hreply, hbody⟩]
      exact ⟨[loading], success list, rfl, List.forall_mem_singleton.2 hemits.loading_list,
        .decoded hjson (hemits.success_list list) (hemits.success_error list)⟩
  | error thrown =>
      refine ⟨[], loading, rfl, List.forall_mem_nil _, ?_⟩
      cases hreceived : receivedBody network url with
      | none => exact .missing hemits.loading_list
      | some json =>
          apply Outcome.thrown _ hemits.loading_list hemits.loading_error
          rintro ⟨list, hjson⟩
          obtain ⟨response, hreply, hbody⟩ := receivedBody_eq_some_iff.1 hreceived
          have hok : getData EbookResultModel.fromJson failure url network = .ok list :=
            getData_eq_ok_iff.2 ⟨response, json, hreply, hbody, hjson⟩
          rw [hdata] at hok
          cases hok

theorem outcome_emitFold {machine : BookMachine} {loading error : machine.State}
    {success : EbookResultModel → machine.State} (hemits : Emits machine loading success)
    (herror : machine.listOf error = none) {message : String} {path : String}
    {network : Network} :
    EndsIn machine (acceptedBody network path)
      (emitFold loading error success
        (catchException message (getModels EbookResultModel.fromJson path network))) := by
  rw [acceptedBody, getModels]
  cases hget : get network path with
  | error thrown =>
      cases thrown with
      | error kind => exact absurd hget get_not_error
      | _ =>
          exact ⟨[loading], error, rfl, List.forall_mem_singleton.2 hemits.loading_list,
            .missing herror⟩
  | ok json =>
      have hmodels : emitFold loading error success (catchException message
            (.ok json >>= fun response => decoded (EbookResultModel.fromJson response))) =
          emitFold loading error success (catchException message
            (decoded (EbookResultModel.fromJson json))) := rfl
      rw [hmodels]
      cases hjson : EbookResultModel.fromJson json with
      | ok list =>
          exact ⟨[loading], success list, rfl,
            List.forall_mem_singleton.2 hemits.loading_list,
            .decoded hjson (hemits.success_list list) (hemits.success_error list)⟩
      | error kind =>
          refine ⟨[], loading, rfl, List.forall_mem_nil _,
            .thrown ?_ hemits.loading_list hemits.loading_error⟩
          rintro ⟨list, hlist⟩
          rw [hjson] at hlist
          cases hlist

theorem emits_loadMachine (first : LoadState EbookModel)
    (states : Network → List (LoadState EbookModel)) (body : Network → Option JsonValue) :
    Emits (loadMachine first states body) .loading .success :=
  ⟨rfl, id, fun _ => rfl, fun _ => id⟩

theorem outcome_tab (toText : Thrown → String) (network : Network) (index : ℤ) :
    EndsIn (BookBloc.tab.machine toText)
      ((tabMethod index).bind fun method => acceptedBody network method.path)
      (EbookTabBloc.mapEventToState network index) := by
  have hemits : Emits (BookBloc.tab.machine toText) EbookTabInitial
      (EbookTabChanged index) :=
    ⟨rfl, StateClass.noConfusion, fun _ => rfl, fun _ => StateClass.noConfusion⟩
  unfold tabMethod EbookTabBloc.mapEventToState
  split
  · exact outcome_emitFold hemits rfl
  · exact outcome_emitFold hemits rfl
  · exact outcome_emitFold hemits rfl
  · exact ⟨[], EbookTabInitial, rfl, List.forall_mem_nil _, .missing rfl⟩

/-- Each event ends in one of the three outcomes. -/
theorem outcome_states (toText : Thrown → String) (bloc : BookBloc)
    (request : (bloc.machine toText).Event × Network) :
    EndsIn (bloc.machine toText) ((bloc.machine toText).body request.2 request.1)
      ((bloc.machine toText).states request.2 request.1) := by
  cases bloc with
  | explores => exact outcome_emitFold (emits_loadMachine _ _ _) rfl
  | related => exact outcome_emitFold (emits_loadMachine _ _ _) rfl
  | tab => exact outcome_tab toText request.2 request.1
  | random => exact outcome_emit (emits_loadMachine _ _ _)
  | purchased id => exact outcome_emit (emits_loadMachine _ _ _)
  | byCats id => exact outcome_emit (emits_loadMachine _ _ _)
  | suggest path => exact outcome_emit (emits_loadMachine _ _ _)
  | search => exact outcome_emit ⟨rfl, Bool.noConfusion, fun _ => rfl, fun _ => Bool.noConfusion⟩

theorem hasBookList_iff {json : JsonValue} :
    HasBookList json ↔ ∃ list, EbookResultModel.fromJson json = .ok (some list) := by
  simp only [HasBookList, resultFromJson_eq, listFromJson_eq_ok_iff, bookShape_iff,
    ← exists_related_iff]
  constructor
  · rintro ⟨elements, hlist, models, hmodels⟩
    have hmap : ∃ entries, json = .map entries := by
      cases json with
      | map entries => exact ⟨entries, rfl⟩
      | _ => cases hlist
    exact ⟨models, hmap, .inr ⟨elements, models, hlist, rfl, hmodels⟩⟩
  · rintro ⟨list, -, ⟨-, hnone⟩ | ⟨elements, models, hlist, -, hmodels⟩⟩
    · cases hnone
    · exact ⟨elements, hlist, models, hmodels⟩

/-- The state after a run is the last one that its last event emits. -/
theorem outcome_stateAfter (toText : Thrown → String) (bloc : BookBloc)
    (before : List ((bloc.machine toText).Event × Network))
    (request : (bloc.machine toText).Event × Network) :
    Outcome (bloc.machine toText) ((bloc.machine toText).body request.2 request.1)
      (stateAfter (bloc.machine toText) (before ++ [request])) := by
  obtain ⟨front, last, hstates, -, houtcome⟩ := outcome_states toText bloc request
  have hlast : stateAfter (bloc.machine toText) (before ++ [request]) = last := by
    rw [stateAfter, emitted, List.flatMap_append, List.flatMap_singleton, hstates,
      List.foldl_append, List.foldl_append]
    rfl
  rw [hlast]
  exact houtcome

theorem listOf_initial {toText : Thrown → String} (bloc : BookBloc)
    {list : EbookResultModel}
    (hlist : (bloc.machine toText).listOf (bloc.machine toText).initial = some list) :
    list ≠ none := by
  cases bloc with
  | search =>
      cases hlist
      exact Option.some_ne_none []
  | _ => cases hlist

/-- A body with a list of books makes a success with that list. -/
theorem list_ne_none_of_outcome {machine : BookMachine} {body : Option JsonValue}
    {last : machine.State} (houtcome : Outcome machine body last)
    (hbody : ∀ json ∈ body, HasBookList json) {list : EbookResultModel}
    (hlist : machine.listOf last = some list) : list ≠ none := by
  cases houtcome with
  | @decoded json decoded _ hjson hdecoded herror =>
      obtain ⟨books, hbooks⟩ := hasBookList_iff.1 (hbody json rfl)
      rw [hbooks, Except.ok.injEq] at hjson
      rw [hdecoded, Option.some.injEq, ← hjson] at hlist
      rw [← hlist]
      exact Option.some_ne_none books
  | thrown hjson hnone herror =>
      rw [hnone] at hlist
      cases hlist
  | missing hnone =>
      rw [hnone] at hlist
      cases hlist

/-- The success states of a BLoC carry lists, and what has none is an error, exactly
in the runs in which every body that is decoded has a list of books. -/
theorem carriesLists_iff (toText : Thrown → String) (bloc : BookBloc)
    (requests : List ((bloc.machine toText).Event × Network)) :
    CarriesLists (bloc.machine toText) requests ↔
      ∀ request ∈ requests, ∀ json ∈ (bloc.machine toText).body request.2 request.1,
        HasBookList json := by
  constructor
  · intro hcarries request hrequest json hbody
    by_contra hnone
    obtain ⟨before, after, hsplit⟩ := List.append_of_mem hrequest
    have hprefix : before ++ [request] <+: requests := ⟨after, by rw [hsplit]; simp⟩
    have herror := hcarries.error before request hprefix json hbody hnone
    have houtcome := outcome_stateAfter toText bloc before request
    rw [Option.mem_def.1 hbody] at houtcome
    cases houtcome with
    | decoded hjson hlist hnot => exact hnot herror
    | thrown hjson hlist hnot => exact hnot herror
  · intro hall
    constructor
    · intro state hstate list hlist
      rcases List.mem_cons.1 hstate with rfl | hemitted
      · exact listOf_initial bloc hlist
      · obtain ⟨request, hrequest, hmem⟩ := List.mem_flatMap.1 hemitted
        obtain ⟨front, last, hstates, hfront, houtcome⟩ :=
          outcome_states toText bloc request
        rw [hstates] at hmem
        rcases List.mem_append.1 hmem with hbefore | hlast
        · rw [hfront state hbefore] at hlist
          cases hlist
        · rw [List.mem_singleton] at hlast
          subst hlast
          exact list_ne_none_of_outcome houtcome (hall request hrequest) hlist
    · intro before request hprefix json hbody hnone
      have hmem : request ∈ requests := hprefix.subset (by simp)
      exact absurd (hall request hmem json hbody) hnone

/-- A server that answers every request with an empty object. -/
def emptyObject : Network := answering (.map [])

/-- Over the repository and without it, the empty object is a success with null. -/
theorem not_carriesLists_emptyObject :
    ¬CarriesLists (BookBloc.explores.machine noText) [((), emptyObject)] ∧
      ¬CarriesLists (BookBloc.random.machine noText) [((), emptyObject)] := by
  constructor
  · intro hcarries
    exact hcarries.success (.success none) (.tail _ (.tail _ (.head _))) none rfl rfl
  · intro hcarries
    exact hcarries.success (.success none) (.tail _ (.tail _ (.head _))) none rfl rfl

end EduEbook.SuccessStates
