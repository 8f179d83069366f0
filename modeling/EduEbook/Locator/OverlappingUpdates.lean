import EduEbook.Library.Runs
import EduEbook.Locator.Locators
import Mathlib.Tactic.Common

/-!
# Overlapping calls of `updateItem`

The locator stream does not await its handler, so several calls of `updateItem`
for one book can be in progress.  Each store operation is atomic here; the
updates happen in the order the calls were started, and the insertion of a call
whose update matched nothing comes at any time after it.
-/

namespace EduEbook.OverlappingUpdates

open EduEbook.Json
open EduEbook.Locators
open EduEbook.ObjectDb
open EduEbook.Runs

/-- The argument of one call, and the `_id` an insertion of it would get. -/
structure Save where
  map : DartMap
  key : JsonValue

/-- `waiting` are the calls before their update, in start order; `inserting`
are those whose update returned zero, before their insertion. -/
structure State where
  locators : List DartMap
  waiting : List Save
  inserting : List Save

inductive StoreOp
  | update
  | insert (index : ℕ)

def step (state : State) : StoreOp → Option State
  | .update =>
      match state.waiting with
      | [] => none
      | save :: waiting => some
          { locators := update save.map state.locators
            waiting := waiting
            inserting :=
              if updated save.map state.locators = 0 then
                state.inserting ++ [save]
              else state.inserting }
  | .insert index =>
      match state.inserting[index]? with
      | none => none
      | some save => some
          { state with
            locators := insert save.key save.map state.locators
            inserting := state.inserting.eraseIdx index }

def State.Finished (state : State) : Prop :=
  state.waiting = [] ∧ state.inserting = []

/-- The locator has the value of the event on every key of the event. -/
def Agrees (event record : DartMap) : Prop :=
  ∀ name value, event.lookup name = some value → record.lookup name = some value

/-- The book has one locator, and it agrees with the last event. -/
def OneLocator (id : String) (locators : List DartMap) (last : DartMap) : Prop :=
  ∃ record, getLocator id locators = [record] ∧ Agrees last record

/-- The two operations of a call that nothing overlaps are `updateItem`. -/
theorem run_updateItem (locators : List DartMap) (save : Save) :
    run step ⟨locators, [save], []⟩
        (if updated save.map locators = 0 then [.update, .insert 0]
          else [.update]) =
      some ⟨updateItem save.key save.map locators, [], []⟩ := by
  by_cases hcount : updated save.map locators = 0
  · simp [step, updateItem, hcount]
  · simp [step, updateItem, hcount]

theorem agrees_merge (event record : DartMap) : Agrees event (merge event record) := by
  intro name value hvalue
  rw [lookup_merge, hvalue, Option.some_or]

theorem agrees_withKey (key : JsonValue) (event : DartMap) :
    Agrees event (withKey key event) :=
  fun _ _ hvalue => lookup_withKey_of_some hvalue

/-- What one step does: the first waiting call updates, or a call whose update
matched nothing inserts. -/
theorem step_cases {state next : State} {operation : StoreOp}
    (hstep : step state operation = some next) :
    (∃ save waiting, state.waiting = save :: waiting ∧
      next =
        { locators := update save.map state.locators
          waiting := waiting
          inserting :=
            if updated save.map state.locators = 0 then state.inserting ++ [save]
            else state.inserting }) ∨
    (∃ index save, state.inserting[index]? = some save ∧
      next =
        { state with
          locators := insert save.key save.map state.locators
          inserting := state.inserting.eraseIdx index }) := by
  cases operation with
  | update =>
      rw [step] at hstep
      split at hstep
      · cases hstep
      · rename_i save waiting hwaiting
        exact Or.inl ⟨save, waiting, hwaiting, (Option.some.inj hstep).symm⟩
  | insert index =>
      rw [step] at hstep
      split at hstep
      · cases hstep
      · rename_i save hsave
        exact Or.inr ⟨index, save, hsave, (Option.some.inj hstep).symm⟩

variable {id : String}

/-- All calls in progress are for the book. -/
def ForBook (id : String) (state : State) : Prop :=
  ∀ save ∈ state.waiting ++ state.inserting,
    save.map.lookup "bookId" = some (.string id)

theorem forBook_step {state next : State} {operation : StoreOp}
    (hbook : ForBook id state) (hstep : step state operation = some next) :
    ForBook id next := by
  intro other hother
  apply hbook
  rcases step_cases hstep with
    ⟨save, waiting, hwaiting, rfl⟩ | ⟨index, save, hsave, rfl⟩
  · rw [hwaiting]
    rcases List.mem_append.1 hother with hmem | hmem
    · exact List.mem_append_left _ (List.mem_cons_of_mem save hmem)
    · dsimp only at hmem
      split at hmem
      · rcases List.mem_append.1 hmem with hold | hnew
        · exact List.mem_append_right _ hold
        · rw [List.mem_singleton.1 hnew]
          exact List.mem_append_left _ List.mem_cons_self
      · exact List.mem_append_right _ hmem
  · rcases List.mem_append.1 hother with hmem | hmem
    · exact List.mem_append_left _ hmem
    · exact List.mem_append_right _ (List.mem_of_mem_eraseIdx hmem)

/-- Once the book has a locator and no insertion is ahead, every further update
goes into that locator. -/
structure Settled (id : String) (last : Save) (state : State) : Prop where
  forBook : ForBook id state
  no_insert : state.inserting = []
  last_waiting : ∀ save ∈ state.waiting.getLast?, save = last
  one : ∃ record, getLocator id state.locators = [record] ∧
    (state.waiting = [] → Agrees last.map record)

theorem settled_step {last : Save} {state next : State} {operation : StoreOp}
    (hsettled : Settled id last state) (hstep : step state operation = some next) :
    Settled id last next := by
  obtain ⟨hbook, hinserting, hlast, record, hone, _⟩ := hsettled
  have hnextBook := forBook_step hbook hstep
  rcases step_cases hstep with
    ⟨save, waiting, hwaiting, rfl⟩ | ⟨index, save, hsave, rfl⟩
  · have hsave : save.map.lookup "bookId" = some (.string id) :=
      hbook save (List.mem_append_left _ (hwaiting ▸ List.mem_cons_self))
    have hcount : ¬ updated save.map state.locators = 0 := by
      rw [updated_eq_length hsave, hone]
      exact Nat.one_ne_zero
    refine ⟨hnextBook, ?_, fun other hother => ?_, merge save.map record, ?_,
      fun hdone => ?_⟩
    · rw [if_neg hcount, hinserting]
    · apply hlast other
      rw [hwaiting, List.getLast?_cons, hother]
      rfl
    · rw [getLocator_update_same hsave, hone]
      rfl
    · rw [show waiting = [] from hdone] at hwaiting
      rw [← hlast save (by rw [hwaiting]; rfl)]
      exact agrees_merge save.map record
  · rw [hinserting] at hsave
    cases hsave

/-- Once two locators of the book exist or are still to be inserted, there will
be two of them. -/
structure Doubled (id : String) (state : State) : Prop where
  forBook : ForBook id state
  two : 2 ≤ (getLocator id state.locators).length + state.inserting.length

theorem doubled_step {state next : State} {operation : StoreOp}
    (hdoubled : Doubled id state) (hstep : step state operation = some next) :
    Doubled id next := by
  obtain ⟨hbook, htwo⟩ := hdoubled
  refine ⟨forBook_step hbook hstep, ?_⟩
  rcases step_cases hstep with
    ⟨save, waiting, hwaiting, rfl⟩ | ⟨index, save, hsave, rfl⟩
  · have hsave : save.map.lookup "bookId" = some (.string id) :=
      hbook save (List.mem_append_left _ (hwaiting ▸ List.mem_cons_self))
    dsimp only
    rw [getLocator_update_same hsave, List.length_map]
    split
    · rw [List.length_append]
      omega
    · exact htwo
  · have hlookup : save.map.lookup "bookId" = some (.string id) :=
      hbook save (List.mem_append_right _ (List.mem_of_getElem? hsave))
    obtain ⟨hindex, _⟩ := List.getElem?_eq_some_iff.1 hsave
    dsimp only
    rw [getLocator_insert_same hlookup, List.length_append,
      List.length_singleton, List.length_eraseIdx_of_lt hindex]
    omega

theorem oneLocator_of_settled {last : Save} {state : State}
    (hsettled : Settled id last state) (hfinished : state.Finished) :
    OneLocator id state.locators last.map := by
  obtain ⟨record, hone, hagrees⟩ := hsettled.one
  exact ⟨record, hone, hagrees hfinished.1⟩

theorem not_oneLocator_of_doubled {last : DartMap} {state : State}
    (hdoubled : Doubled id state) (hfinished : state.Finished) :
    ¬ OneLocator id state.locators last := by
  rintro ⟨record, hone, _⟩
  have htwo := hdoubled.two
  rw [hone, hfinished.2, List.length_singleton, List.length_nil] at htwo
  omega

/-- From a store with one locator of the book, every order is settled. -/
theorem settled_of_locator {locators : List DartMap} {calls : List Save}
    {last : Save} {record : DartMap}
    (hbook : ∀ save ∈ calls, save.map.lookup "bookId" = some (.string id))
    (hlast : calls.getLast? = some last)
    (hone : getLocator id locators = [record]) :
    Settled id last ⟨locators, calls, []⟩ where
  forBook := fun save hsave => hbook save (by simpa using hsave)
  no_insert := rfl
  last_waiting := fun save hsave => by
    rw [Option.mem_def, hlast, Option.some.injEq] at hsave
    exact hsave.symm
  one := by
    refine ⟨record, hone, fun hdone => ?_⟩
    rw [show calls = [] from hdone] at hlast
    cases hlast

/-- Without a locator of the book, an update alone leaves an insertion ahead. -/
theorem step_update_of_no_locator {locators : List DartMap} {save : Save}
    (waiting inserting : List Save)
    (hbook : save.map.lookup "bookId" = some (.string id))
    (hnone : getLocator id locators = []) :
    step ⟨locators, save :: waiting, inserting⟩ .update =
      some ⟨update save.map locators, waiting, inserting ++ [save]⟩ := by
  have hcount : updated save.map locators = 0 := by
    rw [updated_eq_length hbook, hnone, List.length_nil]
  exact congrArg (fun ahead => some (State.mk (update save.map locators) waiting
    ahead)) (if_pos hcount)

theorem no_locator_update {locators : List DartMap} {save : Save}
    (hbook : save.map.lookup "bookId" = some (.string id))
    (hnone : getLocator id locators = []) :
    getLocator id (update save.map locators) = [] := by
  rw [getLocator_update_same hbook, hnone, List.map_nil]

/-- Without a locator of the book, the second operation of a finished run is the
insertion of the first call or the update of the second. -/
theorem run_cases_of_no_locator {locators : List DartMap} {first : Save}
    {waiting : List Save} {schedule : List StoreOp} {final : State}
    (hbook : ∀ save ∈ first :: waiting,
      save.map.lookup "bookId" = some (.string id))
    (hnone : getLocator id locators = [])
    (hrun : run step ⟨locators, first :: waiting, []⟩ schedule = some final)
    (hfinished : final.Finished) :
    (∃ later, schedule = .update :: .insert 0 :: later ∧
      run step ⟨insert first.key first.map (update first.map locators), waiting,
        []⟩ later = some final) ∨
    (∃ second rest later, waiting = second :: rest ∧
      schedule = .update :: .update :: later ∧
      run step ⟨update second.map (update first.map locators), rest,
        [first, second]⟩ later = some final) := by
  have hfirst := hbook first List.mem_cons_self
  match schedule with
  | [] =>
      cases hrun
      exact absurd hfinished.1 (List.cons_ne_nil _ _)
  | .insert index :: schedule => cases hrun
  | .update :: schedule =>
      rw [run_cons, step_update_of_no_locator waiting [] hfirst hnone,
        Option.bind_some] at hrun
      match schedule with
      | [] =>
          cases hrun
          exact absurd hfinished.2 (List.cons_ne_nil _ _)
      | .insert (index + 1) :: later => cases hrun
      | .insert 0 :: later => exact Or.inl ⟨later, rfl, hrun⟩
      | .update :: later =>
          match waiting with
          | [] => cases hrun
          | second :: rest =>
              have hsecond := hbook second
                (List.mem_cons_of_mem first List.mem_cons_self)
              rw [run_cons, step_update_of_no_locator rest ([] ++ [first])
                hsecond (no_locator_update hfirst hnone), Option.bind_some]
                at hrun
              exact Or.inr ⟨second, rest, later, rfl, rfl, hrun⟩

/-- The first insertion before the next update leaves one locator. -/
theorem settled_of_insert {locators : List DartMap} {first last : Save}
    {waiting : List Save}
    (hbook : ∀ save ∈ first :: waiting,
      save.map.lookup "bookId" = some (.string id))
    (hlast : (first :: waiting).getLast? = some last)
    (hnone : getLocator id locators = []) :
    Settled id last ⟨insert first.key first.map (update first.map locators),
      waiting, []⟩ where
  forBook := fun save hsave =>
    hbook save (List.mem_cons_of_mem first (by simpa using hsave))
  no_insert := rfl
  last_waiting := fun save hsave => by
    rw [List.getLast?_cons, show waiting.getLast? = some save from hsave,
      Option.getD_some, Option.some.injEq] at hlast
    exact hlast
  one := by
    have hfirst := hbook first List.mem_cons_self
    refine ⟨withKey first.key first.map, ?_, fun hdone => ?_⟩
    · rw [getLocator_insert_same hfirst, no_locator_update hfirst hnone,
        List.nil_append]
    · rw [show waiting = [] from hdone] at hlast
      cases hlast
      exact agrees_withKey first.key first.map

/-- Two updates before the first insertion leave two insertions ahead. -/
theorem doubled_of_updates {locators : List DartMap} {first second : Save}
    {rest : List Save}
    (hbook : ∀ save ∈ first :: second :: rest,
      save.map.lookup "bookId" = some (.string id)) :
    Doubled id ⟨locators, rest, [first, second]⟩ where
  forBook := fun save hsave => hbook save (by
    simp only [List.mem_append, List.mem_cons, List.not_mem_nil] at hsave ⊢
    tauto)
  two := Nat.le_add_left 2 _

/-- Once every call has finished, the book has exactly one locator, agreeing
with the last event, if and only if it had a locator before or the first call
inserted its own before the next one made its update. -/
theorem oneLocator_iff (id : String) (locators : List DartMap)
    (earlier : List Save) (last : Save) (schedule : List StoreOp)
    (final : State)
    (hbook : ∀ save ∈ earlier ++ [last],
      save.map.lookup "bookId" = some (.string id))
    (hunique : (getLocator id locators).length ≤ 1)
    (hrun : run step ⟨locators, earlier ++ [last], []⟩ schedule = some final)
    (hfinished : final.Finished) :
    OneLocator id final.locators last.map ↔
      getLocator id locators ≠ [] ∨
        ∃ later, schedule = .update :: .insert 0 :: later := by
  have hlast : (earlier ++ [last]).getLast? = some last :=
    List.getLast?_concat
  generalize earlier ++ [last] = calls at hbook hrun hlast
  cases hlocators : getLocator id locators with
  | cons record others =>
      rw [hlocators, List.length_cons] at hunique
      have hothers : others = [] := List.length_eq_zero_iff.1 (by omega)
      subst hothers
      have hsettled : Settled id last final :=
        run_invariant (fun _ _ _ => settled_step)
          (settled_of_locator hbook hlast hlocators) hrun
      exact iff_of_true (oneLocator_of_settled hsettled hfinished)
        (Or.inl (List.cons_ne_nil _ _))
  | nil =>
      cases calls with
      | nil => cases hlast
      | cons first waiting =>
          rcases run_cases_of_no_locator hbook hlocators hrun hfinished with
            ⟨later, rfl, hrest⟩ | ⟨second, rest, later, rfl, rfl, hrest⟩
          · have hsettled : Settled id last final :=
              run_invariant (fun _ _ _ => settled_step)
                (settled_of_insert hbook hlast hlocators) hrest
            exact iff_of_true (oneLocator_of_settled hsettled hfinished)
              (Or.inr ⟨later, rfl⟩)
          · have hdoubled : Doubled id final :=
              run_invariant (fun _ _ _ => doubled_step)
                (doubled_of_updates hbook) hrest
            refine iff_of_false (not_oneLocator_of_doubled hdoubled hfinished) ?_
            rintro (hsome | ⟨_, heq⟩)
            · exact hsome rfl
            · cases heq

/-- A page-turn event of book 1. -/
def pageTurn (page : ℤ) : Save :=
  ⟨(field "bookId" (.string "1")).insert "page" (.int page), .int page⟩

theorem pageTurn_bookId (page : ℤ) :
    (pageTurn page).map.lookup "bookId" = some (.string "1") :=
  (Finmap.lookup_insert_of_ne _ (by decide)).trans Finmap.lookup_singleton_eq

theorem pageTurns_bookId :
    ∀ save ∈ [pageTurn 7] ++ [pageTurn 8],
      save.map.lookup "bookId" = some (.string "1") := by
  intro save hsave
  rcases List.mem_cons.1 hsave with rfl | hsave
  · exact pageTurn_bookId 7
  · rw [List.mem_singleton.1 hsave]
    exact pageTurn_bookId 8

theorem oneLocator_pageTurns :
    OneLocator "1" (update (pageTurn 8).map
      (insert (.int 7) (pageTurn 7).map [])) (pageTurn 8).map ↔
      getLocator "1" [] ≠ [] ∨ ∃ later,
        [StoreOp.update, .insert 0, .update] = .update :: .insert 0 :: later :=
  oneLocator_iff "1" [] [pageTurn 7] (pageTurn 8) [.update, .insert 0, .update]
    ⟨update (pageTurn 8).map (insert (.int 7) (pageTurn 7).map []), [], []⟩
    pageTurns_bookId (by decide) rfl ⟨rfl, rfl⟩

/-- Two page turns of a book without a locator both find nothing to update, and
the book gets two locators. -/
theorem two_locators_of_pageTurns :
    ¬ ∀ (id : String) (locators : List DartMap) (earlier : List Save)
      (last : Save) (schedule : List StoreOp) (final : State),
      (∀ save ∈ earlier ++ [last],
        save.map.lookup "bookId" = some (.string id)) →
      (getLocator id locators).length ≤ 1 →
      run step ⟨locators, earlier ++ [last], []⟩ schedule = some final →
      final.Finished → OneLocator id final.locators last.map := by
  intro hall
  obtain ⟨record, hone, _⟩ := hall "1" [] [pageTurn 7] (pageTurn 8)
    [.update, .update, .insert 0, .insert 0]
    ⟨insert (.int 8) (pageTurn 8).map (insert (.int 7) (pageTurn 7).map []),
      [], []⟩
    pageTurns_bookId (by decide) rfl ⟨rfl, rfl⟩
  rw [getLocator_insert_same (pageTurn_bookId 8),
    getLocator_insert_same (pageTurn_bookId 7)] at hone
  exact Nat.succ_ne_self 1 (congrArg List.length hone)

end EduEbook.OverlappingUpdates
