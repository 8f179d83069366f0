import Mathlib.Data.List.Basic

/-!
# Runs of a partial step function

An event that is impossible in the current state has no successor, so a run is
a monadic fold in `Option`.  A safety statement about every reached state is a
statement about the end of every run, because each prefix of a run is a run.
`Meets` records that every step of a run satisfies a condition on the state it
starts from; it is how the results below say which runs a property covers.
-/

namespace EduEbook.Runs

variable {State Event : Type*} (step : State → Event → Option State)

/-- The state a finite sequence of events leads to, if each is possible. -/
def run (start : State) (events : List Event) : Option State :=
  events.foldlM step start

/-- Every event of the sequence meets `condition` in the state it acts on. -/
def Meets (condition : State → Event → Prop) : State → List Event → Prop
  | _, [] => True
  | state, event :: events =>
      condition state event ∧
        ∀ next ∈ step state event, Meets condition next events

@[simp]
theorem run_nil (start : State) : run step start [] = some start := rfl

@[simp]
theorem run_cons (start : State) (event : Event) (events : List Event) :
    run step start (event :: events) =
      (step start event).bind fun next => run step next events := rfl

variable {step}

theorem run_cons_eq_some_iff {start final : State} {event : Event}
    {events : List Event} :
    run step start (event :: events) = some final ↔
      ∃ next, step start event = some next ∧ run step next events = some final := by
  rw [run_cons, Option.bind_eq_some_iff]

/-- A property that each step meeting `condition` preserves holds at the end
of every run whose steps all meet it. -/
theorem run_invariant_of_meets {condition : State → Event → Prop}
    {Invariant : State → Prop}
    (hstep : ∀ state event next, Invariant state → condition state event →
      step state event = some next → Invariant next)
    {start final : State} {events : List Event}
    (hstart : Invariant start) (hmeets : Meets step condition start events)
    (hrun : run step start events = some final) : Invariant final := by
  induction events generalizing start with
  | nil =>
      rw [run_nil, Option.some.injEq] at hrun
      exact hrun ▸ hstart
  | cons event events ih =>
      obtain ⟨next, hnext, hrest⟩ := run_cons_eq_some_iff.1 hrun
      exact ih (hstep start event next hstart hmeets.1 hnext)
        (hmeets.2 next hnext) hrest

theorem meets_cons {condition : State → Event → Prop} {state next : State}
    {event : Event} {events : List Event} (hcondition : condition state event)
    (hnext : step state event = some next)
    (hrest : Meets step condition next events) :
    Meets step condition state (event :: events) := by
  refine ⟨hcondition, fun other hother => ?_⟩
  rw [hnext, Option.mem_some_iff] at hother
  exact hother ▸ hrest

theorem meets_of_forall {condition : State → Event → Prop}
    (hall : ∀ state event, condition state event)
    (start : State) (events : List Event) : Meets step condition start events := by
  induction events generalizing start with
  | nil => trivial
  | cons event events ih => exact ⟨hall start event, fun next _ => ih next⟩

/-- The unconditional invariant rule. -/
theorem run_invariant {Invariant : State → Prop}
    (hstep : ∀ state event next, Invariant state →
      step state event = some next → Invariant next)
    {start final : State} {events : List Event} (hstart : Invariant start)
    (hrun : run step start events = some final) : Invariant final :=
  run_invariant_of_meets
    (fun state event next hstate (_ : True) => hstep state event next hstate) hstart
    (meets_of_forall (fun _ _ => trivial) start events) hrun

/-- A property holds in every state that a run reaches exactly if it holds at the
start and each step leads to a state in which it holds. -/
theorem forall_prefix_iff_meets {Good : State → Prop} {start : State}
    {events : List Event} :
    (∀ before, before <+: events → ∀ state ∈ run step start before, Good state) ↔
      Good start ∧
        Meets step (fun state event => ∀ next ∈ step state event, Good next) start
          events := by
  induction events generalizing start with
  | nil =>
      constructor
      · intro hall
        exact ⟨hall [] List.nil_prefix start rfl, trivial⟩
      · rintro ⟨hstart, -⟩ before hprefix state hstate
        obtain rfl := List.prefix_nil.1 hprefix
        cases hstate
        exact hstart
  | cons event events ih =>
      constructor
      · intro hall
        have hnext : ∀ next ∈ step start event, Good next ∧
            Meets step (fun state event => ∀ next ∈ step state event, Good next) next
              events := by
          intro next hnext
          refine ih.1 fun before hprefix state hstate => ?_
          exact hall (event :: before) (List.cons_prefix_cons.2 ⟨rfl, hprefix⟩) state
            (run_cons_eq_some_iff.2 ⟨next, hnext, hstate⟩)
        exact ⟨hall [] List.nil_prefix start rfl, fun next hmem => (hnext next hmem).1,
          fun next hmem => (hnext next hmem).2⟩
      · rintro ⟨hstart, hfirst, hrest⟩ before hprefix state hstate
        cases before with
        | nil =>
            cases hstate
            exact hstart
        | cons other before =>
            obtain ⟨rfl, hbefore⟩ := List.cons_prefix_cons.1 hprefix
            obtain ⟨next, hnext, hrun⟩ := run_cons_eq_some_iff.1 hstate
            exact ih.2 ⟨hfirst next hnext, hrest next hnext⟩ before hbefore state hrun

/-- Two conditions that agree on the possible events of invariant states are met
by the same runs. -/
theorem meets_congr_of_invariant {first second : State → Event → Prop}
    {Invariant : State → Prop}
    (hiff : ∀ state event next, Invariant state → step state event = some next →
      (first state event ↔ second state event))
    (hstep : ∀ state event next, Invariant state → first state event →
      step state event = some next → Invariant next)
    {start final : State} {events : List Event} (hstart : Invariant start)
    (hrun : run step start events = some final) :
    Meets step first start events ↔ Meets step second start events := by
  induction events generalizing start with
  | nil => exact Iff.rfl
  | cons event events ih =>
      obtain ⟨next, hnext, hrest⟩ := run_cons_eq_some_iff.1 hrun
      have hfirst := hiff start event next hstart hnext
      constructor
      · rintro ⟨hcondition, hmeets⟩
        have hinvariant := hstep start event next hstart hcondition hnext
        exact meets_cons (hfirst.1 hcondition) hnext
          ((ih hinvariant hrest).1 (hmeets next hnext))
      · rintro ⟨hcondition, hmeets⟩
        have hinvariant := hstep start event next hstart (hfirst.2 hcondition) hnext
        exact meets_cons (hfirst.2 hcondition) hnext
          ((ih hinvariant hrest).2 (hmeets next hnext))

/-- A condition on the events alone is met by every run over them. -/
theorem meets_of_forall_mem {condition : Event → Prop} {events : List Event}
    (hall : ∀ event ∈ events, condition event) (start : State) :
    Meets step (fun _ event => condition event) start events := by
  induction events generalizing start with
  | nil => trivial
  | cons event events ih =>
      exact ⟨hall event List.mem_cons_self, fun next _ =>
        ih (fun other hother => hall other (List.mem_cons_of_mem event hother)) next⟩

theorem run_append_eq_some_iff {start final : State} {first second : List Event} :
    run step start (first ++ second) = some final ↔
      ∃ middle, run step start first = some middle ∧
        run step middle second = some final := by
  rw [run, List.foldlM_append]
  exact Option.bind_eq_some_iff

theorem meets_left {condition : State → Event → Prop} {start : State}
    {first second : List Event} (hmeets : Meets step condition start (first ++ second)) :
    Meets step condition start first := by
  induction first generalizing start with
  | nil => trivial
  | cons event first ih =>
      exact ⟨hmeets.1, fun next hnext => ih (hmeets.2 next hnext)⟩

section Projection

variable {Hidden : Type*} {hiddenStep : Hidden → Event → Option Hidden}
  {project : Hidden → State}
  (hproject : ∀ hidden event,
    step (project hidden) event = (hiddenStep hidden event).map project)

include hproject

/-- History variables that no step reads do not change which runs exist. -/
theorem run_project (start : Hidden) (events : List Event) :
    run step (project start) events = (run hiddenStep start events).map project := by
  induction events generalizing start with
  | nil => rfl
  | cons event events ih =>
      rw [run_cons, run_cons, hproject, Option.map_bind, Option.bind_map]
      exact congrArg _ (funext ih)

theorem meets_project {condition : State → Event → Prop} {start : Hidden}
    {events : List Event} (hmeets : Meets step condition (project start) events) :
    Meets hiddenStep (fun hidden => condition (project hidden)) start events := by
  induction events generalizing start with
  | nil => trivial
  | cons event events ih =>
      refine ⟨hmeets.1, fun next hnext => ih (hmeets.2 (project next) ?_)⟩
      rw [hproject, Option.mem_def.1 hnext]
      rfl

end Projection

/-- Machines that take related steps from related states, or none, have related
runs. -/
theorem rel_run {Other : Type*} {otherStep : Other → Event → Option Other}
    {relation : State → Other → Prop}
    (hstep : ∀ state other event, relation state other →
      Option.Rel relation (step state event) (otherStep other event))
    {start : State} {otherStart : Other} (hstart : relation start otherStart)
    (events : List Event) :
    Option.Rel relation (run step start events) (run otherStep otherStart events) := by
  induction events generalizing start otherStart with
  | nil => exact Option.Rel.some hstart
  | cons event events ih =>
      rw [run_cons, run_cons]
      have hfirst := hstep start otherStart event hstart
      revert hfirst
      generalize step start event = next
      generalize otherStep otherStart event = otherNext
      intro hfirst
      cases hfirst with
      | none => exact Option.Rel.none
      | some hnext => exact ih hnext

end EduEbook.Runs
