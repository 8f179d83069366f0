import EduEbook.Api.ApiClient
import EduEbook.Data.BookId

/-!
# The BLoCs that fetch over http

Seven BLoCs emit a loading state, request a list and emit a success state with
it.  They declare an error state each, but what their handlers do with a failure
is to print it, to drop it or to throw it again, none of which emits a state.
Whether a response has status 200 is not tested.
-/

namespace EduEbook.FetchBlocs

open EduEbook.ApiClient
open EduEbook.ApiModels
open EduEbook.BookId
open EduEbook.BookModels
open EduEbook.Checked
open EduEbook.Decoding
open EduEbook.Json
open EduEbook.Models

/-- What handling one event emits, and what its stream ends with. -/
structure Emission (State : Type) where
  states : List State
  thrown : Option Thrown

/-- The four state classes of the purchased, random, category, credit card,
ratings and suggestion BLoCs. -/
inductive LoadState (Entity : Type)
  | initial
  | loading
  | success (list : Option (List Entity))
  | error (message : String)

structure EbookSearchState where
  isLoading : Bool
  entities : Option (List EbookModel)
  isError : Bool

namespace EbookSearchState

def initial : EbookSearchState := ⟨false, some [], false⟩
def loading : EbookSearchState := ⟨true, some [], false⟩
def success (ebookEntity : Option (List EbookModel)) : EbookSearchState :=
  ⟨false, ebookEntity, false⟩
def error : EbookSearchState := ⟨false, some [], true⟩

end EbookSearchState

section Handlers

-- The text of a thrown object in a message.
variable (toText : Thrown → String)

/-- `_getData`: the request, and then decoding with a plain `catch` around it. -/
def getData {Entity : Type} (fromJson : JsonValue → Except ErrorKind (Option (List Entity)))
    (failure : Thrown → String) (url : String) (network : Network) :
    Except Thrown (Option (List Entity)) := do
  let response ← httpGet network url
  match (do decoded (fromJson (← jsonDecode response))) with
  | .ok list => return list
  | .error error => .error (.exception (failure error))

/-- `yield loading; try { yield success(await data) } catch (error) { .. }`. -/
def emit {Entity State : Type} (loading : State)
    (success : Option (List Entity) → State)
    (onCatch : Thrown → Option Thrown) :
    Except Thrown (Option (List Entity)) → Emission State
  | .ok list => ⟨[loading, success list], none⟩
  | .error error => ⟨[loading], onCatch error⟩

def SearchBloc.mapEventToState (network : Network) (query : String) :
    Emission EbookSearchState :=
  emit .loading .success (fun _ => none)
    (getData EbookResultModel.fromJson (fun _ => "Error")
      (BASE_URL ++ API ++ SEARCH ++ query) network)

/-- `id` is the stored `idUser`, which may be missing. -/
def EbookPurchasedBloc.mapEventToState (id : Option String) (network : Network) :
    Emission (LoadState EbookModel) :=
  emit .loading .success (fun _ => none)
    (getData EbookResultModel.fromJson (fun error => "Error server + " ++ toText error)
      (BASE_URL ++ API ++ PURCHASED ++ id.getD "null") network)

def EbookRandomBloc.mapEventToState (network : Network) :
    Emission (LoadState EbookModel) :=
  emit .loading .success (fun _ => none)
    (getData EbookResultModel.fromJson (fun error => "Error server + " ++ toText error)
      (BASE_URL ++ API ++ LATEST) network)

def EbookByCatsBloc.mapEventToState (id : ℤ) (network : Network) :
    Emission (LoadState EbookModel) :=
  emit .loading .success (fun _ => none)
    (getData EbookResultModel.fromJson (fun error => "Error server + " ++ toText error)
      (BASE_URL ++ API ++ EBOOKBYCAT ++ idString id) network)

def EbookCreditCardBloc.mapEventToState (id : String) (network : Network) :
    Emission (LoadState EbookCCModel) :=
  emit .loading .success (fun _ => none)
    (getData EbookCCModelResult.fromJson (fun error => "Error server + " ++ toText error)
      (BASE_URL ++ API ++ SHOW_CC ++ id) network)

def EbookRatingsBloc.mapEventToState (id : ℤ) (network : Network) :
    Emission (LoadState EbookRatingsModelResult) :=
  emit .loading .success
    (fun error => some (.exception ("Error catching + " ++ toText error)))
    (getData EbookRatingsModel.fromJson (fun error => "Error server + " ++ toText error)
      (BASE_URL ++ API ++ SHOW_RATINGS ++ idString id) network)

def EbookSuggestBloc.mapEventToState (suggest : String) (network : Network) :
    Emission (LoadState EbookModel) :=
  emit .loading .success (fun _ => some (.exception "Error catching"))
    (getData EbookResultModel.fromJson (fun _ => "Error server")
      (BASE_URL ++ API ++ suggest) network)

end Handlers

/-- What a BLoC is made of: its event and state types, the request for an event,
its states and its handler. -/
structure FetchBloc where
  Event : Type
  Entity : Type
  State : Type
  url : Event → String
  fromJson : JsonValue → Except ErrorKind (Option (List Entity))
  initial : State
  loading : State
  success : Option (List Entity) → State
  IsError : State → Prop
  mapEventToState : Network → Event → Emission State

def IsErrorState {Entity : Type} : LoadState Entity → Prop
  | .error _ => True
  | _ => False

/-- The BLoCs with what each is constructed with. -/
inductive Bloc
  | search
  | purchased (id : Option String)
  | random
  | byCats (id : ℤ)
  | creditCard (id : String)
  | ratings (id : ℤ)
  | suggest (path : String)

def loadBloc {Entity : Type} (url : String)
    (fromJson : JsonValue → Except ErrorKind (Option (List Entity)))
    (mapEventToState : Network → Emission (LoadState Entity)) : FetchBloc where
  Event := Unit
  Entity := Entity
  State := LoadState Entity
  url := fun _ => url
  fromJson := fromJson
  initial := .initial
  loading := .loading
  success := .success
  IsError := IsErrorState
  mapEventToState := fun network _ => mapEventToState network

def Bloc.machine (toText : Thrown → String) : Bloc → FetchBloc
  | .search =>
      { Event := String
        Entity := EbookModel
        State := EbookSearchState
        url := fun query => BASE_URL ++ API ++ SEARCH ++ query
        fromJson := EbookResultModel.fromJson
        initial := .initial
        loading := .loading
        success := .success
        IsError := fun state => state = .error
        mapEventToState := SearchBloc.mapEventToState }
  | .purchased id =>
      loadBloc (BASE_URL ++ API ++ PURCHASED ++ id.getD "null")
        EbookResultModel.fromJson (EbookPurchasedBloc.mapEventToState toText id)
  | .random =>
      loadBloc (BASE_URL ++ API ++ LATEST) EbookResultModel.fromJson
        (EbookRandomBloc.mapEventToState toText)
  | .byCats id =>
      loadBloc (BASE_URL ++ API ++ EBOOKBYCAT ++ idString id)
        EbookResultModel.fromJson (EbookByCatsBloc.mapEventToState toText id)
  | .creditCard id =>
      loadBloc (BASE_URL ++ API ++ SHOW_CC ++ id) EbookCCModelResult.fromJson
        (EbookCreditCardBloc.mapEventToState toText id)
  | .ratings id =>
      loadBloc (BASE_URL ++ API ++ SHOW_RATINGS ++ idString id)
        EbookRatingsModel.fromJson (EbookRatingsBloc.mapEventToState toText id)
  | .suggest path =>
      loadBloc (BASE_URL ++ API ++ path) EbookResultModel.fromJson
        (EbookSuggestBloc.mapEventToState path)

/-- The elements that the lists of a BLoC's responses may have. -/
def Bloc.Shape : Bloc → JsonValue → Prop
  | .creditCard _ => CardShape
  | .ratings _ => RatingShape
  | _ => BookShape

/-- A load event together with what the network answers while it is handled. -/
abbrev Request (bloc : FetchBloc) := bloc.Event × Network

/-- Handle one event: the last state that the handler emits stays.  An exception
that ends the handler's stream reaches `onError`, and the next event is handled. -/
def handle (bloc : FetchBloc) (state : bloc.State) (request : Request bloc) :
    bloc.State :=
  (bloc.mapEventToState request.2 request.1).states.foldl (fun _ next => next) state

/-- The state once all the events have been handled, one at a time. -/
def stateAfter (bloc : FetchBloc) (requests : List (Request bloc)) : bloc.State :=
  requests.foldl (handle bloc) bloc.initial

/-- The response to the request decodes to the list. -/
def Decodes (bloc : FetchBloc) (request : Request bloc)
    (list : Option (List bloc.Entity)) : Prop :=
  ∃ response json, request.2 (bloc.url request.1) = .received response ∧
    response.body = some json ∧ bloc.fromJson json = .ok list

/-- After the last request the state is that of its outcome, whatever came
before. -/
structure Settles (bloc : FetchBloc) (earlier : List (Request bloc))
    (last : Request bloc) : Prop where
  success_of_decodes : ∀ list, Decodes bloc last list →
    stateAfter bloc (earlier ++ [last]) = bloc.success list
  error_of_not_decodes : (¬∃ list, Decodes bloc last list) →
    bloc.IsError (stateAfter bloc (earlier ++ [last]))
  independent : ∀ other,
    stateAfter bloc (earlier ++ [last]) = stateAfter bloc (other ++ [last])

theorem getData_eq_ok_iff {Entity : Type}
    {fromJson : JsonValue → Except ErrorKind (Option (List Entity))}
    {failure : Thrown → String} {url : String} {network : Network}
    {list : Option (List Entity)} :
    getData fromJson failure url network = .ok list ↔
      ∃ response json, network url = .received response ∧
        response.body = some json ∧ fromJson json = .ok list := by
  rw [getData, bind_eq_ok_iff]
  simp only [httpGet_eq_ok_iff]
  apply exists_congr
  intro response
  have hdecode : (do decoded (fromJson (← jsonDecode response))) = .ok list ↔
      ∃ json, response.body = some json ∧ fromJson json = .ok list := by
    rw [bind_eq_ok_iff]
    simp only [jsonDecode_eq_ok_iff, decoded_eq_ok_iff]
  rw [exists_and_left]
  apply and_congr_right
  intro _
  rw [← hdecode]
  cases (do decoded (fromJson (← jsonDecode response))) with
  | ok other => exact Iff.rfl
  | error error =>
      constructor
      · intro h
        cases h
      · intro h
        cases h

/-- A handler emits success with the decoded list, or loading alone. -/
theorem emit_states {Entity State : Type}
    {fromJson : JsonValue → Except ErrorKind (Option (List Entity))}
    {failure : Thrown → String} {url : String} {network : Network} {loading : State}
    {success : Option (List Entity) → State} {onCatch : Thrown → Option Thrown} :
    (∃ list, (∃ response json, network url = .received response ∧
          response.body = some json ∧ fromJson json = .ok list) ∧
        (emit loading success onCatch (getData fromJson failure url network)).states =
          [loading, success list]) ∨
      ((¬∃ list response json, network url = .received response ∧
          response.body = some json ∧ fromJson json = .ok list) ∧
        (emit loading success onCatch (getData fromJson failure url network)).states =
          [loading]) := by
  simp only [← @getData_eq_ok_iff Entity fromJson failure url network]
  cases getData fromJson failure url network with
  | ok list => exact Or.inl ⟨list, rfl, rfl⟩
  | error error =>
      refine Or.inr ⟨?_, rfl⟩
      rintro ⟨list, h⟩
      cases h

variable {toText : Thrown → String}

/-- The state after an event is the success state of its list, or loading. -/
theorem handle_cases (bloc : Bloc) (state : (bloc.machine toText).State)
    (request : Request (bloc.machine toText)) :
    (∃ list, Decodes (bloc.machine toText) request list ∧
        handle (bloc.machine toText) state request =
          (bloc.machine toText).success list) ∨
      ((¬∃ list, Decodes (bloc.machine toText) request list) ∧
        handle (bloc.machine toText) state request = (bloc.machine toText).loading) := by
  have hstates : (∃ list, Decodes (bloc.machine toText) request list ∧
        ((bloc.machine toText).mapEventToState request.2 request.1).states =
          [(bloc.machine toText).loading, (bloc.machine toText).success list]) ∨
      ((¬∃ list, Decodes (bloc.machine toText) request list) ∧
        ((bloc.machine toText).mapEventToState request.2 request.1).states =
          [(bloc.machine toText).loading]) := by
    cases bloc <;> exact emit_states
  rcases hstates with ⟨list, hlist, hstates⟩ | ⟨hnone, hstates⟩
  · exact Or.inl ⟨list, hlist, by rw [handle, hstates]; rfl⟩
  · exact Or.inr ⟨hnone, by rw [handle, hstates]; rfl⟩

theorem decodes_unique {bloc : FetchBloc} {request : Request bloc}
    {first second : Option (List bloc.Entity)} (hfirst : Decodes bloc request first)
    (hsecond : Decodes bloc request second) : first = second := by
  obtain ⟨response, json, hreply, hbody, hlist⟩ := hfirst
  obtain ⟨other, otherJson, hother, hotherBody, hotherList⟩ := hsecond
  rw [hreply, Reply.received.injEq] at hother
  subst hother
  rw [hbody, Option.some.injEq] at hotherBody
  subst hotherBody
  rw [hlist, Except.ok.injEq] at hotherList
  exact hotherList

theorem handle_of_decodes {bloc : Bloc} {request : Request (bloc.machine toText)}
    {list : Option (List (bloc.machine toText).Entity)}
    (hlist : Decodes (bloc.machine toText) request list)
    (state : (bloc.machine toText).State) :
    handle (bloc.machine toText) state request = (bloc.machine toText).success list := by
  rcases handle_cases bloc state request with ⟨other, hother, hsuccess⟩ | ⟨hnone, -⟩
  · rw [hsuccess, decodes_unique hother hlist]
  · exact absurd ⟨list, hlist⟩ hnone

theorem not_isError_loading (bloc : Bloc) :
    ¬(bloc.machine toText).IsError (bloc.machine toText).loading := by
  cases bloc with
  | search =>
      intro h
      exact Bool.noConfusion (congrArg EbookSearchState.isError h)
  | _ => exact not_false

theorem decodes_iff (bloc : Bloc) (request : Request (bloc.machine toText)) :
    (∃ list, Decodes (bloc.machine toText) request list) ↔
      ∃ response json,
        request.2 ((bloc.machine toText).url request.1) = .received response ∧
        response.body = some json ∧ ListShape "pdf" bloc.Shape json := by
  have hshape : ∀ json, (∃ list, (bloc.machine toText).fromJson json = .ok list) ↔
      ListShape "pdf" bloc.Shape json := by
    intro json
    cases bloc with
    | creditCard id => exact listFromJson_accepts_iff fun _ => cardShape_iff
    | ratings id => exact listFromJson_accepts_iff fun _ => ratingShape_iff
    | _ => exact resultFromJson_accepts_iff
  simp only [← hshape, Decodes]
  constructor
  · rintro ⟨list, response, json, hreply, hbody, hlist⟩
    exact ⟨response, json, hreply, hbody, list, hlist⟩
  · rintro ⟨response, json, hreply, hbody, list, hlist⟩
    exact ⟨list, response, json, hreply, hbody, hlist⟩

/-- A BLoC settles after its last request exactly if the response to that
request is JSON of the shape that its model decodes. -/
theorem settles_iff (toText : Thrown → String) (bloc : Bloc)
    (earlier : List (Request (bloc.machine toText)))
    (last : Request (bloc.machine toText)) :
    Settles (bloc.machine toText) earlier last ↔
      ∃ response json,
        last.2 ((bloc.machine toText).url last.1) = .received response ∧
        response.body = some json ∧ ListShape "pdf" bloc.Shape json := by
  have hafter : ∀ before : List (Request (bloc.machine toText)),
      stateAfter (bloc.machine toText) (before ++ [last]) =
        handle (bloc.machine toText) (stateAfter (bloc.machine toText) before) last := by
    intro before
    exact List.foldl_append
  rw [← decodes_iff]
  constructor
  · intro hsettles
    rcases handle_cases bloc (stateAfter (bloc.machine toText) earlier) last with
      ⟨list, hlist, -⟩ | ⟨hnone, hloading⟩
    · exact ⟨list, hlist⟩
    · have herror := hsettles.error_of_not_decodes hnone
      rw [hafter, hloading] at herror
      exact absurd herror (not_isError_loading bloc)
  · rintro ⟨list, hlist⟩
    refine ⟨fun other hother => ?_, fun hnone => absurd ⟨list, hlist⟩ hnone,
      fun other => ?_⟩
    · rw [hafter, handle_of_decodes hother]
    · rw [hafter, hafter, handle_of_decodes hlist, handle_of_decodes hlist]

/-- The text of no thrown object. -/
def noText : Thrown → String := fun _ => ""

/-- A search without a network stays in the loading state. -/
theorem failed_search_keeps_loading :
    ¬∀ (bloc : Bloc) (earlier : List (Request (bloc.machine noText)))
      (last : Request (bloc.machine noText)),
      Settles (bloc.machine noText) earlier last := by
  intro hall
  have herror := (hall .search [] ("tafsir", fun _ => .failed)).error_of_not_decodes (by
    rintro ⟨list, response, json, hreply, -⟩
    cases hreply)
  exact Bool.noConfusion (congrArg EbookSearchState.isError herror)

end EduEbook.FetchBlocs
