import EduEbook.Library.LogStore
import Mathlib.Data.List.Nodup

/-!
# Linearizability of overlapping calls on a log file

Each call is given one step at which it takes effect: a read takes effect when
it opens its handle, since it answers from that snapshot, and a write when the
records of the file change.  Listing the calls in the order of these steps gives
one history that explains the whole run: the file holds the records of the calls
listed, every read answered from the records of the calls listed before it, and
a call that had returned before another one opened its handle is listed first.
The history exists at every moment of a run, so it also says what a crash leaves.
-/

namespace EduEbook.LogStore

open EduEbook.Runs

variable {Doc Query : Type*} (sem : Semantics Doc Query)

def Call.isRead : Call Doc Query → Bool
  | .read _ _ => true
  | _ => false

def HandleStep.isOpen : HandleStep Doc Query → Bool
  | .open => true
  | _ => false

/-- Whether the step at which the call takes effect is still ahead. -/
def Thread.waiting (thread : Thread Doc Query) : Bool :=
  if thread.call.isRead then thread.remaining.any HandleStep.isOpen
  else thread.pending

/-- The calls at the positions of `order`, in that order. -/
def inOrder (calls : List (Call Doc Query)) (order : List ℕ) :
    List (Call Doc Query) :=
  order.filterMap fun index => calls[index]?

/-- The call at `index` takes effect between the two states. -/
def takesEffect (system next : System Doc Query) (index : ℕ) : Bool :=
  system.threads[index]?.any Thread.waiting && !next.threads[index]?.any Thread.waiting

/-- A step, along with the positions of the calls that have taken effect. -/
def trackedStep (state : System Doc Query × List ℕ) (index : ℕ) :
    Option (System Doc Query × List ℕ) :=
  (step sem state.1 index).map fun next =>
    (next, if takesEffect state.1 next index then state.2 ++ [index] else state.2)

/-- What one step of the scheduler does. -/
theorem step_cases {system next : System Doc Query} {index : ℕ}
    (hstep : step sem system index = some next) :
    ∃ call handle action rest,
      system.threads[index]? = some ⟨call, handle, action :: rest⟩ ∧
      next = ⟨(perform sem (system.file, handle) action).1,
        system.threads.set index
          ⟨call, (perform sem (system.file, handle) action).2, rest⟩⟩ := by
  unfold step at hstep
  split at hstep
  · cases hstep
  rename_i thread hthread
  split at hstep
  · cases hstep
  rename_i action rest hremaining
  rw [Option.some.injEq] at hstep
  obtain ⟨call, handle, remaining⟩ := thread
  subst hremaining
  exact ⟨call, handle, action, rest, hthread, hstep.symm⟩

/-! ## One step of one call -/

/-- A step of a call that leaves its effect where it was. -/
structure Idles (file : List (Entry Doc Query)) (call : Call Doc Query)
    (handle : Handle Doc) (action : HandleStep Doc Query)
    (rest : List (HandleStep Doc Query)) : Prop where
  file_eq : load sem (perform sem (file, handle) action).1 = load sem file
  waiting_eq : Thread.waiting ⟨call, (perform sem (file, handle) action).2, rest⟩ =
    Thread.waiting ⟨call, handle, action :: rest⟩
  snapshot_eq : call.isRead = true →
    Thread.waiting ⟨call, handle, action :: rest⟩ = false →
    (perform sem (file, handle) action).2.records = handle.records

/-- The step at which a call takes effect. -/
structure Acts (file : List (Entry Doc Query)) (call : Call Doc Query)
    (handle : Handle Doc) (action : HandleStep Doc Query)
    (rest : List (HandleStep Doc Query)) : Prop where
  before : Thread.waiting ⟨call, handle, action :: rest⟩ = true
  after : Thread.waiting ⟨call, (perform sem (file, handle) action).2, rest⟩ = false
  file_eq : load sem (perform sem (file, handle) action).1 =
    call.effect sem (load sem file)
  snapshot_eq : call.isRead = true →
    (perform sem (file, handle) action).2.records = load sem file

/-- Opening takes the snapshot a read answers from; its later steps keep it. -/
theorem idles_or_acts_read {query : Query} {tidies : Bool}
    {file : List (Entry Doc Query)} {handle : Handle Doc}
    {action : HandleStep Doc Query} {rest : List (HandleStep Doc Query)}
    (hshape : action :: rest <:+ (Call.read query tidies).program)
    (hcurrent : Thread.Current sem file ⟨.read query tidies, handle, action :: rest⟩) :
    Idles sem file (.read query tidies) handle action rest ∨
      Acts sem file (.read query tidies) handle action rest := by
  have hclose : action :: rest <:+ [.close] →
      Idles sem file (.read query tidies) handle action rest := by
    intro hlast
    rcases head_or_suffix hlast with ⟨rfl, rfl⟩ | hnil
    · exact ⟨rfl, rfl, fun _ _ => rfl⟩
    · exact absurd (List.suffix_nil.1 hnil) (List.cons_ne_nil _ _)
  rcases head_or_suffix hshape with ⟨rfl, rfl⟩ | hshape
  · right
    cases tidies <;> exact ⟨rfl, rfl, rfl, fun _ => rfl⟩
  left
  rcases head_or_suffix hshape with ⟨rfl, rfl⟩ | hshape
  · exact ⟨rfl, rfl, fun _ _ => rfl⟩
  cases tidies with
  | false => exact hclose hshape
  | true =>
      rcases head_or_suffix hshape with ⟨rfl, rfl⟩ | hlast
      · have hrecords : handle.records = load sem file := hcurrent
        exact ⟨(load_rewrite sem handle.records).trans hrecords, rfl, fun _ _ => rfl⟩
      · exact hclose hlast

/-- A step of a call either is the one at which it takes effect or idles. -/
theorem idles_or_acts {call : Call Doc Query} {file : List (Entry Doc Query)}
    {handle : Handle Doc} {action : HandleStep Doc Query}
    {rest : List (HandleStep Doc Query)} (hshape : action :: rest <:+ call.program)
    (hcurrent : Thread.Current sem file ⟨call, handle, action :: rest⟩) :
    Idles sem file call handle action rest ∨ Acts sem file call handle action rest := by
  by_cases hread : call.isRead = true
  · cases call with
    | read query tidies => exact idles_or_acts_read sem hshape hcurrent
    | insert doc tidies => exact Bool.noConfusion hread
    | remove query tidies => exact Bool.noConfusion hread
    | upsert query changes doc tidies => exact Bool.noConfusion hread
  · have hwaiting : ∀ (handle : Handle Doc) (remaining : List (HandleStep Doc Query)),
        Thread.waiting ⟨call, handle, remaining⟩ =
          Thread.pending ⟨call, handle, remaining⟩ :=
      fun _ _ => if_neg hread
    rcases thread_step sem hshape hcurrent with ⟨hsame, hpending⟩ |
      ⟨hbefore, hafter, heffect⟩
    · refine Or.inl ⟨hsame, ?_, fun hcall => absurd hcall hread⟩
      rw [hwaiting, hwaiting, hpending]
    · refine Or.inr ⟨?_, ?_, heffect, fun hcall => absurd hcall hread⟩
      · rw [hwaiting, hbefore]
      · rw [hwaiting, hafter]

/-! ## The history of a run -/

/-- The positions listed explain the state: they are those of the calls that have
taken effect, the file holds what these calls make of it one after the other, and
each read has the records that the calls before it leave. -/
structure Linearized (file : List (Entry Doc Query)) (calls : List (Call Doc Query))
    (system : System Doc Query) (order : List ℕ) : Prop where
  calls_eq : system.threads.map Thread.call = calls
  shape : ∀ thread ∈ system.threads, thread.remaining <:+ thread.call.program
  nodup : order.Nodup
  mem_order : ∀ index, index ∈ order ↔
    ∃ thread, system.threads[index]? = some thread ∧ thread.waiting = false
  file_eq : load sem system.file = load sem (serial sem file (inOrder calls order))
  snapshot_eq : ∀ before index after, order = before ++ index :: after →
    ∀ thread, system.threads[index]? = some thread → thread.call.isRead = true →
      thread.handle.records = load sem (serial sem file (inOrder calls before))

theorem waiting_startThread (call : Call Doc Query) :
    (startThread call).waiting = true := by
  cases call <;> rfl

theorem linearized_start (file : List (Entry Doc Query))
    (calls : List (Call Doc Query)) :
    Linearized sem file calls (start file calls) [] where
  calls_eq := (explained_start sem file calls).calls_eq
  shape := (explained_start sem file calls).shape
  nodup := List.nodup_nil
  mem_order := by
    intro index
    constructor
    · intro hmem
      exact absurd hmem List.not_mem_nil
    · rintro ⟨thread, hthread, hwaiting⟩
      obtain ⟨call, _, rfl⟩ := List.mem_map.1 (List.mem_of_getElem? hthread)
      rw [waiting_startThread] at hwaiting
      exact Bool.noConfusion hwaiting
  file_eq := rfl
  snapshot_eq := by
    intro before index after hsplit
    exact absurd hsplit (List.append_ne_nil_of_right_ne_nil _ (List.cons_ne_nil _ _)).symm

theorem load_serial_append_singleton {file : List (Entry Doc Query)}
    {calls : List (Call Doc Query)} {order : List ℕ} {index : ℕ}
    {call : Call Doc Query} (hcall : calls[index]? = some call) :
    load sem (serial sem file (inOrder calls (order ++ [index]))) =
      call.effect sem (load sem (serial sem file (inOrder calls order))) := by
  have hlast : inOrder calls (order ++ [index]) = inOrder calls order ++ [call] := by
    simp [inOrder, hcall]
  rw [hlast, serial, List.foldl_append, List.foldl_cons, List.foldl_nil, load_runAlone]
  rfl

section Step

variable {system : System Doc Query} {index : ℕ} {call : Call Doc Query}
  {handle : Handle Doc} {remaining : List (HandleStep Doc Query)}
  (hthread : system.threads[index]? = some ⟨call, handle, remaining⟩)
  (changed : Handle Doc) (rest : List (HandleStep Doc Query))

include hthread

theorem getElem?_set_of_some (other : ℕ) :
    (system.threads.set index ⟨call, changed, rest⟩)[other]? =
      if other = index then some ⟨call, changed, rest⟩ else system.threads[other]? := by
  obtain ⟨hindex, -⟩ := List.getElem?_eq_some_iff.1 hthread
  by_cases hother : other = index
  · subst hother
    rw [if_pos rfl, List.getElem?_set_self hindex]
  · rw [if_neg hother, List.getElem?_set_ne (Ne.symm hother)]

theorem map_call_set :
    (system.threads.set index ⟨call, changed, rest⟩).map Thread.call =
      system.threads.map Thread.call := by
  refine List.ext_getElem? fun other => ?_
  rw [List.getElem?_map, List.getElem?_map,
    getElem?_set_of_some hthread changed rest]
  by_cases hother : other = index
  · subst hother
    rw [if_pos rfl, hthread]
    rfl
  · rw [if_neg hother]

theorem shape_set
    (hshape : ∀ thread ∈ system.threads, thread.remaining <:+ thread.call.program)
    (hrest : rest <:+ remaining) :
    ∀ thread ∈ system.threads.set index ⟨call, changed, rest⟩,
      thread.remaining <:+ thread.call.program := by
  intro thread hmem
  rcases List.mem_or_eq_of_mem_set hmem with hold | rfl
  · exact hshape thread hold
  · exact hrest.trans (hshape _ (List.mem_of_getElem? hthread))

theorem takesEffect_set (file : List (Entry Doc Query)) :
    takesEffect system
        ⟨file, system.threads.set index ⟨call, changed, rest⟩⟩ index =
      (Thread.waiting ⟨call, handle, remaining⟩ &&
        !Thread.waiting ⟨call, changed, rest⟩) := by
  rw [takesEffect, hthread, getElem?_set_of_some hthread changed rest index,
    if_pos rfl]
  rfl

end Step

section Preserved

variable {file : List (Entry Doc Query)} {calls : List (Call Doc Query)}
  {system : System Doc Query} {order : List ℕ} {index : ℕ} {call : Call Doc Query}
  {handle : Handle Doc} {action : HandleStep Doc Query}
  {rest : List (HandleStep Doc Query)}

theorem linearized_of_idles (hlinear : Linearized sem file calls system order)
    (hthread : system.threads[index]? = some ⟨call, handle, action :: rest⟩)
    (hidles : Idles sem system.file call handle action rest) :
    Linearized sem file calls
      ⟨(perform sem (system.file, handle) action).1,
        system.threads.set index
          ⟨call, (perform sem (system.file, handle) action).2, rest⟩⟩ order where
  calls_eq := (map_call_set hthread _ _).trans hlinear.calls_eq
  shape := shape_set hthread _ _ hlinear.shape (List.suffix_cons action rest)
  nodup := hlinear.nodup
  mem_order := by
    intro other
    rw [hlinear.mem_order, getElem?_set_of_some hthread]
    by_cases hother : other = index
    · subst hother
      rw [if_pos rfl, hthread]
      simp only [Option.some.injEq, exists_eq_left']
      rw [hidles.waiting_eq]
    · rw [if_neg hother]
  file_eq := hidles.file_eq.trans hlinear.file_eq
  snapshot_eq := by
    intro before other after hsplit thread hother hread
    rw [getElem?_set_of_some hthread] at hother
    by_cases hsame : other = index
    · subst hsame
      rw [if_pos rfl, Option.some.injEq] at hother
      subst hother
      -- A listed read has its snapshot already, and this step keeps it.
      have hlisted : other ∈ order := by rw [hsplit]; simp
      obtain ⟨listed, hget, hwaiting⟩ := (hlinear.mem_order other).1 hlisted
      rw [hthread, Option.some.injEq] at hget
      subst hget
      exact (hidles.snapshot_eq hread hwaiting).trans
        (hlinear.snapshot_eq before other after hsplit _ hthread hread)
    · rw [if_neg hsame] at hother
      exact hlinear.snapshot_eq before other after hsplit thread hother hread

theorem linearized_of_acts (hlinear : Linearized sem file calls system order)
    (hthread : system.threads[index]? = some ⟨call, handle, action :: rest⟩)
    (hacts : Acts sem system.file call handle action rest) :
    Linearized sem file calls
      ⟨(perform sem (system.file, handle) action).1,
        system.threads.set index
          ⟨call, (perform sem (system.file, handle) action).2, rest⟩⟩
      (order ++ [index]) := by
  have hfresh : index ∉ order := by
    intro hlisted
    obtain ⟨listed, hget, hwaiting⟩ := (hlinear.mem_order index).1 hlisted
    rw [hthread, Option.some.injEq] at hget
    rw [← hget, hacts.before] at hwaiting
    exact Bool.noConfusion hwaiting
  have hcall : calls[index]? = some call := by
    rw [← hlinear.calls_eq, List.getElem?_map, hthread]
    rfl
  refine ⟨(map_call_set hthread _ _).trans hlinear.calls_eq,
    shape_set hthread _ _ hlinear.shape (List.suffix_cons action rest), ?_, ?_, ?_, ?_⟩
  · exact List.nodup_append.2 ⟨hlinear.nodup, List.nodup_singleton index,
      fun other hother _ hmem hsame =>
        hfresh (List.mem_singleton.1 (hsame ▸ hmem) ▸ hother)⟩
  · intro other
    rw [List.mem_append, List.mem_singleton, hlinear.mem_order,
      getElem?_set_of_some hthread]
    by_cases hother : other = index
    · rw [if_pos hother]
      exact iff_of_true (Or.inr hother) ⟨_, rfl, hacts.after⟩
    · rw [if_neg hother, or_iff_left hother]
  · rw [load_serial_append_singleton sem hcall, ← hlinear.file_eq]
    exact hacts.file_eq
  · intro before other after hsplit thread hother hread
    rw [getElem?_set_of_some hthread] at hother
    rcases List.eq_nil_or_concat after with rfl | ⟨most, last, rfl⟩
    · -- The call listed last has just taken effect.
      obtain ⟨rfl, hlast⟩ := List.append_inj' hsplit rfl
      obtain rfl := (List.cons.inj hlast).1
      rw [if_pos rfl, Option.some.injEq] at hother
      subst hother
      exact (hacts.snapshot_eq hread).trans hlinear.file_eq
    · rw [List.concat_eq_append, ← List.cons_append, ← List.append_assoc] at hsplit
      obtain ⟨horder, -⟩ := List.append_inj' hsplit rfl
      have hsame : other ≠ index := by
        rintro rfl
        exact hfresh (by rw [horder]; simp)
      rw [if_neg hsame] at hother
      exact hlinear.snapshot_eq before other most horder thread hother hread

theorem linearized_step {state next : System Doc Query × List ℕ}
    (hlinear : Linearized sem file calls state.1 state.2)
    (hcurrent : Current sem state.1 index)
    (hstep : trackedStep sem state index = some next) :
    Linearized sem file calls next.1 next.2 := by
  obtain ⟨reached, hreached, rfl⟩ := Option.map_eq_some_iff.1 hstep
  obtain ⟨call, handle, action, rest, hthread, rfl⟩ := step_cases sem hreached
  have hshape : action :: rest <:+ call.program :=
    hlinear.shape _ (List.mem_of_getElem? hthread)
  dsimp only
  rw [takesEffect_set hthread]
  rcases idles_or_acts sem hshape (hcurrent _ hthread) with hidles | hacts
  · rw [hidles.waiting_eq, Bool.and_not_self, if_neg Bool.false_ne_true]
    exact linearized_of_idles sem hlinear hthread hidles
  · rw [hacts.before, hacts.after, Bool.not_false, Bool.true_and, if_pos rfl]
    exact linearized_of_acts sem hlinear hthread hacts

end Preserved

/-! ## Real time -/

/-- A call that takes no step of a run is left as it was. -/
theorem getElem?_run_of_not_mem {system final : System Doc Query} {schedule : List ℕ}
    (hrun : run (step sem) system schedule = some final) {index : ℕ}
    (hindex : index ∉ schedule) : final.threads[index]? = system.threads[index]? := by
  induction schedule generalizing system with
  | nil =>
      rw [run_nil, Option.some.injEq] at hrun
      rw [hrun]
  | cons moved schedule ih =>
      obtain ⟨next, hnext, hrest⟩ := run_cons_eq_some_iff.1 hrun
      obtain ⟨call, handle, action, rest, hthread, rfl⟩ := step_cases sem hnext
      rw [List.mem_cons, not_or] at hindex
      rw [ih hrest hindex.2, getElem?_set_of_some hthread, if_neg hindex.1]

/-- Each step of a call is scheduled once, so counting tells how far it is. -/
theorem length_remaining_add_count {system final : System Doc Query}
    {schedule : List ℕ} (hrun : run (step sem) system schedule = some final)
    {index : ℕ} {thread : Thread Doc Query}
    (hthread : final.threads[index]? = some thread) :
    ∃ first, system.threads[index]? = some first ∧ first.call = thread.call ∧
      first.remaining.length = thread.remaining.length + schedule.count index := by
  induction schedule generalizing system with
  | nil =>
      rw [run_nil, Option.some.injEq] at hrun
      subst hrun
      exact ⟨thread, hthread, rfl, rfl⟩
  | cons moved schedule ih =>
      obtain ⟨next, hnext, hrest⟩ := run_cons_eq_some_iff.1 hrun
      obtain ⟨call, handle, action, rest, hmoved, rfl⟩ := step_cases sem hnext
      obtain ⟨first, hfirst, hcall, hlength⟩ := ih hrest
      rw [getElem?_set_of_some hmoved] at hfirst
      by_cases hindex : index = moved
      · subst hindex
        rw [if_pos rfl, Option.some.injEq] at hfirst
        subst hfirst
        refine ⟨_, hmoved, hcall, ?_⟩
        rw [List.count_cons_self, List.length_cons, ← Nat.add_assoc, ← hlength]
      · rw [if_neg hindex] at hfirst
        refine ⟨first, hfirst, hcall, ?_⟩
        rw [List.count_cons_of_ne (Ne.symm hindex), hlength]

/-- The history of a run only grows. -/
theorem prefix_of_run_trackedStep {state final : System Doc Query × List ℕ}
    {schedule : List ℕ} (hrun : run (trackedStep sem) state schedule = some final) :
    state.2 <+: final.2 := by
  have hgrows : ∀ (reached : System Doc Query × List ℕ) index next,
      state.2 <+: reached.2 → trackedStep sem reached index = some next →
      state.2 <+: next.2 := by
    intro reached index next hprefix hstep
    obtain ⟨system, _, rfl⟩ := Option.map_eq_some_iff.1 hstep
    dsimp only
    split
    · exact hprefix.trans (List.prefix_append _ _)
    · exact hprefix
  exact run_invariant hgrows List.prefix_rfl hrun

/-- Every call that had returned when `first` ended is listed before every call
that had not opened its handle by then. -/
def RealTime (schedule : List ℕ) (system : System Doc Query) (order : List ℕ) :
    Prop :=
  ∀ first second, schedule = first ++ second →
    ∀ returned later, returned ∉ second → later ∉ first →
      (∃ thread, system.threads[returned]? = some thread ∧ thread.remaining = []) →
      later ∈ order → [returned, later].Sublist order

theorem waiting_of_returned {thread : Thread Doc Query}
    (hreturned : thread.remaining = []) : thread.waiting = false := by
  rw [Thread.waiting, Thread.pending, hreturned, List.any_nil, List.any_nil, ite_self]

/-- If no call acts on a stale snapshot, the state a run reaches, at any moment, has
one history that explains it and respects real time. -/
theorem exists_linearized {file : List (Entry Doc Query)}
    {calls : List (Call Doc Query)} {schedule : List ℕ} {system : System Doc Query}
    (hcurrent : Meets (step sem) (Current sem) (start file calls) schedule)
    (hrun : run (step sem) (start file calls) schedule = some system) :
    ∃ order, Linearized sem file calls system order ∧ RealTime schedule system order := by
  have hproject : ∀ (state : System Doc Query × List ℕ) index,
      step sem state.1 index = (trackedStep sem state index).map Prod.fst := by
    intro state index
    rw [trackedStep, Option.map_map]
    exact (congrFun Option.map_id _).symm
  have hstart := run_project hproject (start file calls, []) schedule
  rw [hrun] at hstart
  obtain ⟨⟨reached, order⟩, htracked, rfl⟩ := Option.map_eq_some_iff.1 hstart.symm
  have hinvariant : ∀ {before : List ℕ} {state : System Doc Query × List ℕ},
      before <+: schedule →
      run (trackedStep sem) (start file calls, []) before = some state →
      Linearized sem file calls state.1 state.2 := by
    rintro before state ⟨after, rfl⟩ hbefore
    have hmeets : Meets (trackedStep sem) (fun state => Current sem state.1)
        (start file calls, []) (before ++ after) := meets_project hproject hcurrent
    exact run_invariant_of_meets (fun _ _ _ hlinear hnow hstep =>
      linearized_step sem hlinear hnow hstep) (linearized_start sem file calls)
      (meets_left hmeets) hbefore
  refine ⟨order, hinvariant List.prefix_rfl htracked, ?_⟩
  rintro first second rfl returned later hreturned hlater ⟨thread, hthread, hdone⟩ hmem
  obtain ⟨⟨middle, listed⟩, hfirst, hsecond⟩ := run_append_eq_some_iff.1 htracked
  have hmiddle : Linearized sem file calls middle listed :=
    hinvariant (List.prefix_append _ _) hfirst
  obtain ⟨tail, rfl⟩ := prefix_of_run_trackedStep sem hsecond
  have hsteps : run (step sem) (start file calls) first = some middle := by
    rw [run_project hproject (start file calls, []) first, hfirst]
    rfl
  have hrest : run (step sem) middle second = some reached := by
    rw [run_project hproject (middle, listed) second, hsecond]
    rfl
  have hearly : returned ∈ listed := by
    rw [getElem?_run_of_not_mem sem hrest hreturned] at hthread
    exact (hmiddle.mem_order returned).2 ⟨thread, hthread, waiting_of_returned hdone⟩
  have hlate : later ∉ listed := by
    intro hlisted
    obtain ⟨other, hother, hwaiting⟩ := (hmiddle.mem_order later).1 hlisted
    rw [getElem?_run_of_not_mem sem hsteps hlater] at hother
    obtain ⟨call, _, rfl⟩ := List.mem_map.1 (List.mem_of_getElem? hother)
    rw [waiting_startThread] at hwaiting
    exact Bool.noConfusion hwaiting
  have htail : later ∈ tail := (List.mem_append.1 hmem).resolve_left hlate
  exact List.Sublist.append (List.singleton_sublist.2 hearly)
    (List.singleton_sublist.2 htail)

/-- Only a call that has taken a step can be listed. -/
theorem mem_schedule_of_mem_order {file : List (Entry Doc Query)}
    {calls : List (Call Doc Query)} {schedule order : List ℕ}
    {system : System Doc Query}
    (hrun : run (step sem) (start file calls) schedule = some system)
    (hlinear : Linearized sem file calls system order) {index : ℕ}
    (hindex : index ∈ order) : index ∈ schedule := by
  by_contra hidle
  obtain ⟨thread, hthread, hwaiting⟩ := (hlinear.mem_order index).1 hindex
  rw [getElem?_run_of_not_mem sem hrun hidle] at hthread
  obtain ⟨call, _, rfl⟩ := List.mem_map.1 (List.mem_of_getElem? hthread)
  rw [waiting_startThread] at hwaiting
  exact Bool.noConfusion hwaiting

/-! ## Calls that never act on a stale snapshot -/

/-- Calls that neither tidy nor decide what to write by what they find. -/
def Call.isPlain : Call Doc Query → Bool
  | .read _ tidies => !tidies
  | .insert _ tidies => !tidies
  | .remove _ tidies => !tidies
  | .upsert _ _ _ _ => false

theorem current_of_isPlain {file : List (Entry Doc Query)} {thread : Thread Doc Query}
    (hplain : thread.call.isPlain = true)
    (hshape : thread.remaining <:+ thread.call.program) : thread.Current sem file := by
  obtain ⟨call, handle, remaining⟩ := thread
  have hsteps : ∀ action ∈ remaining, action ≠ .tidy := by
    intro action hmem
    have hprogram := hshape.mem hmem
    cases call with
    | upsert query changes doc tidies => exact Bool.noConfusion hplain
    | read query tidies =>
        obtain rfl : tidies = false := Bool.not_eq_true' _ ▸ hplain
        rintro rfl
        simp [Call.program, ending] at hprogram
    | insert doc tidies =>
        obtain rfl : tidies = false := Bool.not_eq_true' _ ▸ hplain
        rintro rfl
        simp [Call.program, ending] at hprogram
    | remove query tidies =>
        obtain rfl : tidies = false := Bool.not_eq_true' _ ▸ hplain
        rintro rfl
        simp [Call.program, ending] at hprogram
  cases remaining with
  | nil => cases call <;> trivial
  | cons action rest =>
      cases action with
      | tidy => exact absurd rfl (hsteps .tidy List.mem_cons_self)
      | _ => cases call <;> trivial

/-- Plain calls may overlap in any way. -/
theorem meets_current_of_isPlain {file : List (Entry Doc Query)}
    {calls : List (Call Doc Query)} (hplain : ∀ call ∈ calls, call.isPlain = true)
    (schedule : List ℕ) :
    Meets (step sem) (Current sem) (start file calls) schedule := by
  suffices hall : ∀ system : System Doc Query,
      (∀ thread ∈ system.threads, thread.call.isPlain = true ∧
        thread.remaining <:+ thread.call.program) →
      Meets (step sem) (Current sem) system schedule by
    refine hall _ fun thread hthread => ?_
    obtain ⟨call, hcall, rfl⟩ := List.mem_map.1 hthread
    exact ⟨hplain call hcall, List.suffix_rfl⟩
  induction schedule with
  | nil => exact fun _ _ => trivial
  | cons index schedule ih =>
      intro system hthreads
      constructor
      · intro thread hthread
        obtain ⟨hcall, hshape⟩ := hthreads thread (List.mem_of_getElem? hthread)
        exact current_of_isPlain sem hcall hshape
      · intro next hnext
        obtain ⟨call, handle, action, rest, hthread, rfl⟩ := step_cases sem hnext
        refine ih _ fun thread hmem => ?_
        rcases List.mem_or_eq_of_mem_set hmem with hold | rfl
        · exact hthreads thread hold
        · obtain ⟨hcall, hshape⟩ := hthreads _ (List.mem_of_getElem? hthread)
          exact ⟨hcall, (List.suffix_cons action rest).trans hshape⟩

end EduEbook.LogStore
