import EduEbook.Blocs.SearchQuery
import EduEbook.Blocs.SuccessStates
import EduEbook.Library.EventQueue

/-!
# The BLoCs while events keep coming

A page may add an event at any moment: the tabs and the search bar do so at every
tap and every keystroke, while the answer to an earlier request is still out.  A BLoC
handles its events one at a time, as is assumed of the `bloc` package, so what it shows
is never an answer to anything but the event it took last.  On the search page that is
the text in the search bar once all is quiet.
-/

namespace EduEbook.SuccessStates

open EduEbook.ApiClient
open EduEbook.BookModels
open EduEbook.EventQueue
open EduEbook.FetchBlocs
open EduEbook.Json
open EduEbook.Models
open EduEbook.Runs
open EduEbook.SearchQuery
open EduEbook.TabBloc

/-- The state that the handler of an event emits before it awaits anything. -/
def BookBloc.loading (toText : Thrown → String) :
    (bloc : BookBloc) → (bloc.machine toText).State
  | .tab => EbookTabInitial
  | .search => EbookSearchState.loading
  | .explores => LoadState.loading
  | .related => LoadState.loading
  | .random => LoadState.loading
  | .purchased _ => LoadState.loading
  | .byCats _ => LoadState.loading
  | .suggest _ => LoadState.loading

theorem head?_emit {Entity State : Type} (loading : State)
    (success : Option (List Entity) → State) (onCatch : Thrown → Option Thrown)
    (data : Except Thrown (Option (List Entity))) :
    (emit loading success onCatch data).states.head? = some loading := by
  cases data <;> rfl

theorem head?_emitFold {State : Type} (loading error : State)
    (success : EbookResultModel → State)
    (outcome : Except Thrown (Repository.Either EbookResultModel)) :
    (emitFold loading error success outcome).head? = some loading := by
  cases outcome <;> rfl

theorem head?_tab (network : Network) (index : ℤ) :
    (EbookTabBloc.mapEventToState network index).head? = some EbookTabInitial := by
  unfold EbookTabBloc.mapEventToState
  split
  · exact head?_emitFold _ _ _ _
  · exact head?_emitFold _ _ _ _
  · exact head?_emitFold _ _ _ _
  · rfl

theorem head?_states (toText : Thrown → String) (bloc : BookBloc)
    (event : (bloc.machine toText).Event) (network : Network) :
    ((bloc.machine toText).states network event).head? = some (bloc.loading toText) := by
  cases bloc with
  | tab => exact head?_tab network event
  | explores => exact head?_emitFold _ _ _ _
  | related => exact head?_emitFold _ _ _ _
  | random => exact head?_emit _ _ _ _
  | purchased id => exact head?_emit _ _ _ _
  | byCats id => exact head?_emit _ _ _ _
  | suggest path => exact head?_emit _ _ _ _
  | search => exact head?_emit _ _ _ _

/-- The handler of a BLoC, with what the network answers as its replies. -/
def BookBloc.handler (toText : Thrown → String) (bloc : BookBloc) :
    Handler (bloc.machine toText).Event Network (bloc.machine toText).State where
  initial := (bloc.machine toText).initial
  states := fun event network => (bloc.machine toText).states network event
  first := fun _ => bloc.loading toText
  head?_states := head?_states toText bloc

/-- No list is shown while an event is handled. -/
theorem listOf_loading (toText : Thrown → String) (bloc : BookBloc) :
    (bloc.machine toText).listOf (bloc.loading toText) = none := by
  cases bloc <;> rfl

/-- What a BLoC shows in a session: the events are answered in the order in which
they were added; while one is handled no list is shown; otherwise the state is the
one after the answered events, and a list that is shown is the one the BLoC starts
with, or the one decoded from the answer to the event answered last. -/
structure Shows (toText : Thrown → String) (bloc : BookBloc)
    (added : List (bloc.machine toText).Event)
    (queue : Queue (bloc.machine toText).Event Network (bloc.machine toText).State) :
    Prop where
  order : queue.answered.map Prod.fst ++ (queue.current.toList ++ queue.waiting) = added
  loading : queue.current ≠ none →
    (bloc.machine toText).listOf (queue.state (bloc.handler toText)) = none
  idle : queue.current = none →
    queue.state (bloc.handler toText) = stateAfter (bloc.machine toText) queue.answered
  decoded : ∀ list,
    (bloc.machine toText).listOf (queue.state (bloc.handler toText)) = some list →
    queue.answered = [] ∧ list = some [] ∨
      ∃ before request json, queue.answered = before ++ [request] ∧
        (bloc.machine toText).body request.2 request.1 = some json ∧
        EbookResultModel.fromJson json = .ok list

theorem listOf_initial_eq {toText : Thrown → String} (bloc : BookBloc)
    {list : EbookResultModel}
    (hlist : (bloc.machine toText).listOf (bloc.machine toText).initial = some list) :
    list = some [] := by
  cases bloc with
  | search => exact (Option.some.inj hlist).symm
  | _ => cases hlist

/-- However the events and the answers interleave, a BLoC shows nothing but the
outcome of the event it has answered last, and it takes the events in order. -/
theorem shows_run (toText : Thrown → String) (bloc : BookBloc)
    (actions : List (Action (bloc.machine toText).Event Network))
    (final : Queue (bloc.machine toText).Event Network (bloc.machine toText).State)
    (hrun : run (EventQueue.step (bloc.handler toText)) EventQueue.start actions =
      some final) :
    Shows toText bloc (actions.filterMap Action.added) final := by
  have hturn := inTurn_run hrun
  have hloading : final.current ≠ none →
      (bloc.machine toText).listOf (final.state (bloc.handler toText)) = none := by
    intro hcurrent
    obtain ⟨event, hevent⟩ := Option.ne_none_iff_exists'.1 hcurrent
    rw [state_of_current hturn hevent]
    exact listOf_loading toText bloc
  have hidle : final.current = none → final.state (bloc.handler toText) =
      stateAfter (bloc.machine toText) final.answered := state_of_idle hturn
  refine ⟨hturn.order, hloading, hidle, fun list hlist => ?_⟩
  have hcurrent : final.current = none := by
    by_contra hsome
    rw [hloading hsome] at hlist
    cases hlist
  rw [hidle hcurrent] at hlist
  rcases List.eq_nil_or_concat final.answered with hnil | ⟨before, request, hsplit⟩
  · rw [hnil] at hlist ⊢
    exact Or.inl ⟨rfl, listOf_initial_eq bloc hlist⟩
  · rw [List.concat_eq_append] at hsplit
    rw [hsplit] at hlist ⊢
    right
    have houtcome := outcome_stateAfter toText bloc before request
    cases hbody : (bloc.machine toText).body request.2 request.1 with
    | none =>
        rw [hbody] at houtcome
        cases houtcome with
        | missing hnone =>
            rw [hnone] at hlist
            cases hlist
    | some json =>
        rw [hbody] at houtcome
        cases houtcome with
        | decoded hjson hdecoded _ =>
            rw [hdecoded, Option.some.injEq] at hlist
            exact ⟨before, request, json, rfl, hbody, hlist ▸ hjson⟩
        | thrown _ hnone _ =>
            rw [hnone] at hlist
            cases hlist

/-- Without a network: three texts are asked for, and the first has failed. -/
theorem shows_search :
    Shows noText .search ["a", "ab", "abc"]
      ⟨["ab", "abc"], none, [("a", fun _ => .failed)], [EbookSearchState.loading]⟩ :=
  shows_run noText .search
    [.add "a", .begin, .add "ab", .add "abc", .reply fun _ => .failed] _ rfl

/-! ## The search page -/

end EduEbook.SuccessStates
