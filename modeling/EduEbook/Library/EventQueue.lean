import EduEbook.Library.Runs

/-!
# Events that are handled one at a time

A component takes events at any moment and handles them in the order in which they
came.  The handler of an event emits a first state at once, asks for something, and
emits the rest of its states when the answer comes; only then does the next handler
begin.  Whatever the timing of events and answers, what is emitted is what handling
the events one after the other emits, as far as it has come.
-/

namespace EduEbook.EventQueue

open EduEbook.Runs

variable {Event Reply State : Type*}

/-- What handling an event emits, by the answer that comes to it.  The first state
does not wait for the answer. -/
structure Handler (Event Reply State : Type*) where
  initial : State
  states : Event → Reply → List State
  first : Event → State
  head?_states : ∀ event reply, (states event reply).head? = some (first event)

/-- The events that wait, the one that is handled, and what has happened: the events
with their answers, and the states emitted. -/
structure Queue (Event Reply State : Type*) where
  waiting : List Event
  current : Option Event
  answered : List (Event × Reply)
  emitted : List State

inductive Action (Event Reply : Type*)
  | add (event : Event)
  | begin
  | reply (reply : Reply)

def start : Queue Event Reply State := ⟨[], none, [], []⟩

variable (handler : Handler Event Reply State)

def step (queue : Queue Event Reply State) :
    Action Event Reply → Option (Queue Event Reply State)
  | .add event => some { queue with waiting := queue.waiting ++ [event] }
  | .begin =>
      match queue.current, queue.waiting with
      | none, event :: waiting => some
          { queue with
            waiting := waiting
            current := some event
            emitted := queue.emitted ++ [handler.first event] }
      | _, _ => none
  | .reply reply =>
      match queue.current with
      | none => none
      | some event => some
          { queue with
            current := none
            answered := queue.answered ++ [(event, reply)]
            emitted := queue.emitted ++ (handler.states event reply).tail }

/-- The event that an action adds. -/
def Action.added : Action Event Reply → Option Event
  | .add event => some event
  | _ => none

/-- What handling the answered events one after the other emits. -/
def emittedBy (answered : List (Event × Reply)) : List State :=
  answered.flatMap fun pair => handler.states pair.1 pair.2

/-- The last state emitted, which is the state that is seen. -/
def Queue.state (queue : Queue Event Reply State) : State :=
  queue.emitted.foldl (fun _ next => next) handler.initial

theorem Handler.states_eq (event : Event) (reply : Reply) :
    handler.states event reply =
      handler.first event :: (handler.states event reply).tail := by
  have hhead := handler.head?_states event reply
  cases hstates : handler.states event reply with
  | nil =>
      rw [hstates] at hhead
      cases hhead
  | cons state rest =>
      rw [hstates, List.head?_cons, Option.some.injEq] at hhead
      rw [hhead, List.tail_cons]

/-- The events are accounted for in the order in which they came, and the states are
those that handling them so far emits. -/
structure InTurn (added : List Event) (queue : Queue Event Reply State) : Prop where
  order : queue.answered.map Prod.fst ++ (queue.current.toList ++ queue.waiting) = added
  emitted_eq : queue.emitted =
    emittedBy handler queue.answered ++ (queue.current.map handler.first).toList

variable {handler}

theorem inTurn_step {added : List Event} {queue next : Queue Event Reply State}
    {action : Action Event Reply} (hturn : InTurn handler added queue)
    (hstep : step handler queue action = some next) :
    InTurn handler (added ++ action.added.toList) next := by
  obtain ⟨horder, hemitted⟩ := hturn
  cases action with
  | add event =>
      rw [step, Option.some.injEq] at hstep
      subst hstep
      refine ⟨?_, hemitted⟩
      rw [← horder, List.append_assoc, List.append_assoc]
      rfl
  | begin =>
      rw [step] at hstep
      split at hstep
      · rename_i event waiting hcurrent hwaiting
        rw [Option.some.injEq] at hstep
        subst hstep
        rw [hcurrent] at horder hemitted
        constructor
        · rw [← horder, hwaiting]
          exact (List.append_nil _).symm
        · rw [hemitted]
          exact congrArg (· ++ [handler.first event]) (List.append_nil _)
      · cases hstep
  | reply reply =>
      rw [step] at hstep
      split at hstep
      · cases hstep
      · rename_i event hcurrent
        rw [Option.some.injEq] at hstep
        subst hstep
        rw [hcurrent] at horder hemitted
        constructor
        · rw [← horder, List.map_append, List.append_assoc]
          exact (List.append_nil _).symm
        · rw [hemitted, emittedBy, emittedBy, List.flatMap_append, List.flatMap_singleton,
            handler.states_eq event reply, List.append_assoc]
          exact (List.append_nil _).symm

/-- Whatever the timing, the events are handled in turn. -/
theorem inTurn_run {actions : List (Action Event Reply)}
    {final : Queue Event Reply State}
    (hrun : run (step handler) start actions = some final) :
    InTurn handler (actions.filterMap Action.added) final := by
  have hgeneral : ∀ (added : List Event) (queue : Queue Event Reply State),
      InTurn handler added queue → run (step handler) queue actions = some final →
      InTurn handler (added ++ actions.filterMap Action.added) final := by
    clear hrun
    induction actions with
    | nil =>
        intro added queue hturn hrun
        rw [run_nil, Option.some.injEq] at hrun
        rw [← hrun, List.filterMap_nil, List.append_nil]
        exact hturn
    | cons action actions ih =>
        intro added queue hturn hrun
        obtain ⟨next, hnext, hrest⟩ := run_cons_eq_some_iff.1 hrun
        have hfinal := ih _ next (inTurn_step hturn hnext) hrest
        rw [List.filterMap_cons]
        cases hadded : action.added with
        | none =>
            rw [hadded] at hfinal
            simpa using hfinal
        | some event =>
            rw [hadded] at hfinal
            simpa using hfinal
  exact hgeneral [] start ⟨rfl, rfl⟩ hrun

/-- While an event is handled its first state is seen. -/
theorem state_of_current {added : List Event} {queue : Queue Event Reply State}
    (hturn : InTurn handler added queue) {event : Event}
    (hcurrent : queue.current = some event) :
    queue.state handler = handler.first event := by
  rw [Queue.state, hturn.emitted_eq, hcurrent, List.foldl_append]
  rfl

/-- Between two events the last state of the answered ones is seen. -/
theorem state_of_idle {added : List Event} {queue : Queue Event Reply State}
    (hturn : InTurn handler added queue) (hcurrent : queue.current = none) :
    queue.state handler =
      (emittedBy handler queue.answered).foldl (fun _ next => next) handler.initial := by
  rw [Queue.state, hturn.emitted_eq, hcurrent, Option.map_none, Option.toList_none,
    List.append_nil]

end EduEbook.EventQueue
