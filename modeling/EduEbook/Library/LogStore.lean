import EduEbook.Library.Runs
import Mathlib.Data.List.Perm.Basic
import Mathlib.Data.List.Infix

/-!
# A log file shared by private snapshots

A document store kept in one append-only file.  Opening a handle replays the
file into the handle's own records; a mutation changes those records and
appends an entry to the file; tidying replaces the file by the handle's
records.  Nothing coordinates two handles on one file, so this module asks what
their overlap can do: if every tidy writes back what the file already holds,
and every upsert's match test is true of the file as well, then the file ends
with the records of a serial execution of the same calls.
-/

namespace EduEbook.LogStore

open EduEbook.Runs

variable {Doc Query : Type*}

/-- What a query selects, and how changes are merged into a document. -/
structure Semantics (Doc Query : Type*) where
  selects : Query → Doc → Bool
  merge : Doc → Doc → Doc

/-- One line of the file. -/
inductive Entry (Doc Query : Type*)
  | insert (doc : Doc)
  | remove (query : Query)
  | update (query : Query) (changes : Doc)

variable (sem : Semantics Doc Query)

/-- Replay one entry over the records read so far. -/
def applyEntry (records : List Doc) : Entry Doc Query → List Doc
  | .insert doc => records ++ [doc]
  | .remove query => records.filter fun doc => !sem.selects query doc
  | .update query changes =>
      records.map fun doc =>
        if sem.selects query doc then sem.merge changes doc else doc

/-- The number of records an entry matches, as removals and updates return it. -/
def matchedBy (records : List Doc) : Entry Doc Query → ℕ
  | .insert _ => 0
  | .remove query => records.countP (sem.selects query)
  | .update query _ => records.countP (sem.selects query)

/-- The records a handle has right after it is opened on the file. -/
def load (file : List (Entry Doc Query)) : List Doc :=
  file.foldl (applyEntry sem) []

/-- The file a tidy leaves: one insertion for each record. -/
def rewrite (records : List Doc) : List (Entry Doc Query) :=
  records.map .insert

@[simp]
theorem load_append (file : List (Entry Doc Query)) (entry : Entry Doc Query) :
    load sem (file ++ [entry]) = applyEntry sem (load sem file) entry := by
  simp [load]

@[simp]
theorem load_rewrite (records : List Doc) :
    load sem (rewrite records : List (Entry Doc Query)) = records := by
  have hreplay : ∀ (rest loaded : List Doc),
      (rewrite rest : List (Entry Doc Query)).foldl (applyEntry sem) loaded =
        loaded ++ rest := by
    intro rest
    induction rest with
    | nil => intro loaded; simp [rewrite]
    | cons doc rest ih =>
        intro loaded
        have htail := ih (loaded ++ [doc])
        simp only [rewrite] at htail
        simp [rewrite, applyEntry, htail]
  simpa [load] using hreplay records []

/-! ## Handles and calls -/

/-- One step of a call on its own handle. -/
inductive HandleStep (Doc Query : Type*)
  | open
  | find (query : Query)
  | mutate (entry : Entry Doc Query)
  | insertIfUnmatched (doc : Doc)
  | tidy
  | close

/-- A handle's own records and the count its last mutation returned. -/
structure Handle (Doc : Type*) where
  records : List Doc := []
  matched : ℕ := 0

def perform : List (Entry Doc Query) × Handle Doc → HandleStep Doc Query →
    List (Entry Doc Query) × Handle Doc
  | (file, handle), .open => (file, { handle with records := load sem file })
  | (file, handle), .find _ => (file, handle)
  | (file, handle), .mutate entry =>
      (file ++ [entry],
        { records := applyEntry sem handle.records entry
          matched := matchedBy sem handle.records entry })
  | (file, handle), .insertIfUnmatched doc =>
      if handle.matched = 0 then
        (file ++ [.insert doc],
          { handle with records := handle.records ++ [doc] })
      else (file, handle)
  | (_, handle), .tidy => (rewrite handle.records, handle)
  | (file, handle), .close => (file, handle)

/-- The calls a store offers; `tidies` says whether the call tidies the file
before it closes its handle. -/
inductive Call (Doc Query : Type*)
  | read (query : Query) (tidies : Bool)
  | insert (doc : Doc) (tidies : Bool)
  | remove (query : Query) (tidies : Bool)
  | upsert (query : Query) (changes doc : Doc) (tidies : Bool)

def ending (tidies : Bool) : List (HandleStep Doc Query) :=
  if tidies then [.tidy, .close] else [.close]

def Call.program : Call Doc Query → List (HandleStep Doc Query)
  | .read query tidies => .open :: .find query :: ending tidies
  | .insert doc tidies => .open :: .mutate (.insert doc) :: ending tidies
  | .remove query tidies => .open :: .mutate (.remove query) :: ending tidies
  | .upsert query changes doc tidies =>
      .open :: .mutate (.update query changes) :: .insertIfUnmatched doc ::
        ending tidies

/-- What a call does to the stored records when nothing overlaps it. -/
def Call.effect : Call Doc Query → List Doc → List Doc
  | .read _ _, records => records
  | .insert doc _, records => applyEntry sem records (.insert doc)
  | .remove query _, records => applyEntry sem records (.remove query)
  | .upsert query changes doc _, records =>
      if records.any (sem.selects query) then
        applyEntry sem records (.update query changes)
      else records ++ [doc]

/-- The file after a call that runs from open to close on its own. -/
def runAlone (file : List (Entry Doc Query)) (call : Call Doc Query) :
    List (Entry Doc Query) :=
  (call.program.foldl (perform sem) (file, {})).1

/-- The file after the calls run one after the other. -/
def serial (file : List (Entry Doc Query)) (calls : List (Call Doc Query)) :
    List (Entry Doc Query) :=
  calls.foldl (runAlone sem) file

/-- An update that matches nothing changes nothing. -/
theorem applyEntry_update_of_unmatched {records : List Doc} {query : Query}
    (changes : Doc) (hnone : records.any (sem.selects query) = false) :
    applyEntry sem records (.update query changes) = records := by
  rw [List.any_eq_false] at hnone
  refine (List.map_congr_left fun doc hdoc => ?_).trans (List.map_id records)
  exact if_neg (hnone doc hdoc)

theorem matchedBy_update_eq_zero_iff {records : List Doc} {query : Query}
    (changes : Doc) :
    matchedBy sem records (.update query changes) = 0 ↔
      records.any (sem.selects query) = false := by
  rw [matchedBy, List.countP_eq_zero, List.any_eq_false]

theorem load_ending (file : List (Entry Doc Query)) (handle : Handle Doc)
    (tidies : Bool) (hcurrent : handle.records = load sem file) :
    load sem ((ending tidies).foldl (perform sem) (file, handle)).1 =
      load sem file := by
  cases tidies with
  | false => rfl
  | true => exact (load_rewrite sem handle.records).trans hcurrent

/-- Alone, the steps of a call amount to its effect on the records. -/
theorem load_runAlone (file : List (Entry Doc Query)) (call : Call Doc Query) :
    load sem (runAlone sem file call) = call.effect sem (load sem file) := by
  cases call with
  | read query tidies => exact load_ending sem file _ tidies rfl
  | insert doc tidies =>
      refine (load_ending sem (file ++ [.insert doc]) _ tidies ?_).trans
        (load_append sem file (.insert doc))
      exact (load_append sem file (.insert doc)).symm
  | remove query tidies =>
      refine (load_ending sem (file ++ [.remove query]) _ tidies ?_).trans
        (load_append sem file (.remove query))
      exact (load_append sem file (.remove query)).symm
  | upsert query changes doc tidies =>
      have hrun : runAlone sem file (.upsert query changes doc tidies) =
          ((ending tidies).foldl (perform sem)
            (perform sem (file ++ [.update query changes],
              { records := applyEntry sem (load sem file) (.update query changes)
                matched := matchedBy sem (load sem file) (.update query changes) })
              (.insertIfUnmatched doc))).1 := rfl
      rw [hrun, perform, Call.effect]
      by_cases hany : (load sem file).any (sem.selects query) = true
      · have hmatched : ¬ matchedBy sem (load sem file)
            (.update query changes) = 0 := by
          rw [matchedBy_update_eq_zero_iff, hany]
          exact Bool.noConfusion
        rw [if_neg hmatched, if_pos hany, load_ending sem _ _ tidies
          (load_append sem file (.update query changes)).symm, load_append]
      · have hnone : (load sem file).any (sem.selects query) = false :=
          Bool.eq_false_iff.2 hany
        rw [if_pos ((matchedBy_update_eq_zero_iff sem changes).2 hnone), if_neg hany,
          load_ending sem _ _ tidies (by rw [load_append, load_append]; rfl),
          load_append, load_append,
          applyEntry_update_of_unmatched sem changes hnone]
        rfl

theorem load_serial (file : List (Entry Doc Query))
    (calls : List (Call Doc Query)) :
    load sem (serial sem file calls) =
      calls.foldl (fun records call => call.effect sem records)
        (load sem file) := by
  induction calls generalizing file with
  | nil => rfl
  | cons call calls ih =>
      rw [serial, List.foldl_cons, ← serial, ih, load_runAlone, List.foldl_cons]

/-! ## Overlapping calls -/

/-- A call in progress. -/
structure Thread (Doc Query : Type*) where
  call : Call Doc Query
  handle : Handle Doc
  remaining : List (HandleStep Doc Query)

structure System (Doc Query : Type*) where
  file : List (Entry Doc Query)
  threads : List (Thread Doc Query)

def startThread (call : Call Doc Query) : Thread Doc Query :=
  ⟨call, {}, call.program⟩

/-- All the calls have been made, and none has opened its handle yet. -/
def start (file : List (Entry Doc Query)) (calls : List (Call Doc Query)) :
    System Doc Query :=
  ⟨file, calls.map startThread⟩

/-- The scheduler lets the call at `index` take its next step. -/
def step (system : System Doc Query) (index : ℕ) : Option (System Doc Query) :=
  match system.threads[index]? with
  | none => none
  | some thread =>
      match thread.remaining with
      | [] => none
      | next :: rest =>
          let result := perform sem (system.file, thread.handle) next
          some ⟨result.1,
            system.threads.set index ⟨thread.call, result.2, rest⟩⟩

def System.Finished (system : System Doc Query) : Prop :=
  ∀ thread ∈ system.threads, thread.remaining = []

/-- What the next step of a call relies on, read off the file: a tidy writes
back the records the file holds, and whether an upsert matches is the same in
its snapshot and in the file, both when it updates and when it inserts. -/
def Thread.Current (file : List (Entry Doc Query)) (thread : Thread Doc Query) :
    Prop :=
  match thread.call, thread.remaining with
  | .upsert query _ _ _, .mutate _ :: _ =>
      thread.handle.records.any (sem.selects query) =
        (load sem file).any (sem.selects query)
  | .upsert query _ _ _, .insertIfUnmatched _ :: _ =>
      thread.handle.matched = 0 →
        (load sem file).any (sem.selects query) = false
  | _, .tidy :: _ => thread.handle.records = load sem file
  | _, _ => True

def Current (system : System Doc Query) (index : ℕ) : Prop :=
  ∀ thread ∈ system.threads[index]?, thread.Current sem system.file

theorem current_of_getElem? {system : System Doc Query} {index : ℕ}
    {thread : Thread Doc Query} (hthread : system.threads[index]? = some thread)
    (hcurrent : thread.Current sem system.file) : Current sem system index := by
  intro other hother
  rw [hthread, Option.mem_some_iff] at hother
  exact hother ▸ hcurrent

/-- Whether a step of the call that can still change the records is ahead. -/
def Thread.pending (thread : Thread Doc Query) : Bool :=
  thread.remaining.any fun
    | .mutate _ => true
    | .insertIfUnmatched _ => thread.handle.matched == 0
    | _ => false

theorem pending_ending (call : Call Doc Query) (handle : Handle Doc)
    (tidies : Bool) : Thread.pending ⟨call, handle, ending tidies⟩ = false := by
  cases tidies <;> rfl

theorem pending_insertIfUnmatched (call : Call Doc Query) (handle : Handle Doc)
    (doc : Doc) (tidies : Bool) :
    Thread.pending ⟨call, handle, .insertIfUnmatched doc :: ending tidies⟩ =
      (handle.matched == 0) := by
  have hending := pending_ending call handle tidies
  rw [Thread.pending] at hending ⊢
  rw [List.any_cons, hending, Bool.or_false]

/-- What comes first in a suffix of a list is its head, or the suffix is one of the
tail. -/
theorem head_or_suffix {α : Type*} {next first : α} {rest tail : List α}
    (hshape : next :: rest <:+ first :: tail) :
    next = first ∧ rest = tail ∨ next :: rest <:+ tail :=
  (List.suffix_cons_iff.1 hshape).imp_left List.cons.inj

/-- The steps that end a call change neither the records nor what is pending. -/
theorem step_of_ending {call : Call Doc Query} {tidies : Bool}
    {file : List (Entry Doc Query)} {handle : Handle Doc}
    {next : HandleStep Doc Query} {rest : List (HandleStep Doc Query)}
    (hshape : next :: rest <:+ ending tidies)
    (hcurrent : Thread.Current sem file ⟨call, handle, next :: rest⟩) :
    load sem (perform sem (file, handle) next).1 = load sem file ∧
      Thread.pending ⟨call, (perform sem (file, handle) next).2, rest⟩ =
        Thread.pending ⟨call, handle, next :: rest⟩ := by
  have hclose : next :: rest <:+ [.close] →
      next = .close ∧ rest = [] := by
    intro hsuffix
    rcases head_or_suffix hsuffix with hsame | hnil
    · exact hsame
    · exact absurd (List.suffix_nil.1 hnil) (List.cons_ne_nil _ _)
  cases tidies with
  | false =>
      obtain ⟨rfl, rfl⟩ := hclose hshape
      exact ⟨rfl, rfl⟩
  | true =>
      rcases head_or_suffix hshape with ⟨rfl, rfl⟩ | hlast
      · have hrecords : handle.records = load sem file := by
          cases call <;> exact hcurrent
        exact ⟨(load_rewrite sem handle.records).trans hrecords, rfl⟩
      · obtain ⟨rfl, rfl⟩ := hclose hlast
        exact ⟨rfl, rfl⟩

/-- A step either leaves the records and what is pending alone, or it is the one
at which the call takes effect on the file. -/
def Advances (file : List (Entry Doc Query)) (call : Call Doc Query)
    (handle : Handle Doc) (next : HandleStep Doc Query)
    (rest : List (HandleStep Doc Query)) : Prop :=
  (load sem (perform sem (file, handle) next).1 = load sem file ∧
    Thread.pending ⟨call, (perform sem (file, handle) next).2, rest⟩ =
      Thread.pending ⟨call, handle, next :: rest⟩) ∨
  (Thread.pending ⟨call, handle, next :: rest⟩ = true ∧
    Thread.pending ⟨call, (perform sem (file, handle) next).2, rest⟩ = false ∧
    load sem (perform sem (file, handle) next).1 =
      call.effect sem (load sem file))

/-- The update of an upsert is its effect exactly when it matches. -/
theorem upsert_update_advances {file : List (Entry Doc Query)}
    {handle : Handle Doc} {query : Query} {changes doc : Doc} {tidies : Bool}
    (hagree : handle.records.any (sem.selects query) =
      (load sem file).any (sem.selects query)) :
    Advances sem file (.upsert query changes doc tidies) handle
      (.mutate (.update query changes)) (.insertIfUnmatched doc :: ending tidies) := by
  by_cases hany : (load sem file).any (sem.selects query) = true
  · have hmatched : ¬ matchedBy sem handle.records (.update query changes) = 0 := by
      rw [matchedBy_update_eq_zero_iff, hagree, hany]
      exact Bool.noConfusion
    right
    refine ⟨rfl, ?_, ?_⟩
    · rw [pending_insertIfUnmatched]
      exact beq_eq_false_iff_ne.2 hmatched
    · rw [Call.effect, if_pos hany]
      exact load_append sem file _
  · have hnone : (load sem file).any (sem.selects query) = false :=
      Bool.eq_false_iff.2 hany
    left
    constructor
    · exact (load_append sem file _).trans
        (applyEntry_update_of_unmatched sem changes hnone)
    · rw [pending_insertIfUnmatched]
      exact beq_iff_eq.2
        ((matchedBy_update_eq_zero_iff sem changes).2 (hagree.trans hnone))

/-- The insertion of an upsert is its effect exactly when the update had no
match. -/
theorem upsert_insert_advances {file : List (Entry Doc Query)}
    {handle : Handle Doc} {query : Query} {changes doc : Doc} {tidies : Bool}
    (hnone : handle.matched = 0 →
      (load sem file).any (sem.selects query) = false) :
    Advances sem file (.upsert query changes doc tidies) handle
      (.insertIfUnmatched doc) (ending tidies) := by
  by_cases hzero : handle.matched = 0
  · right
    refine ⟨?_, ?_, ?_⟩
    · rw [pending_insertIfUnmatched]
      exact beq_iff_eq.2 hzero
    · exact pending_ending _ _ tidies
    · rw [perform, if_pos hzero, Call.effect, hnone hzero, if_neg Bool.false_ne_true]
      exact load_append sem file _
  · left
    constructor
    · rw [perform, if_neg hzero]
    · rw [pending_insertIfUnmatched, beq_eq_false_iff_ne.2 hzero]
      exact pending_ending _ _ tidies

/-- Every step of a call advances it. -/
theorem thread_step {call : Call Doc Query} {file : List (Entry Doc Query)}
    {handle : Handle Doc} {next : HandleStep Doc Query}
    {rest : List (HandleStep Doc Query)}
    (hshape : next :: rest <:+ call.program)
    (hcurrent : Thread.Current sem file ⟨call, handle, next :: rest⟩) :
    Advances sem file call handle next rest := by
  cases call with
  | read query tidies =>
      rcases head_or_suffix hshape with ⟨rfl, rfl⟩ | hshape
      · exact Or.inl ⟨rfl, rfl⟩
      rcases head_or_suffix hshape with ⟨rfl, rfl⟩ | hshape
      · exact Or.inl ⟨rfl, rfl⟩
      exact Or.inl (step_of_ending sem hshape hcurrent)
  | insert doc tidies =>
      rcases head_or_suffix hshape with ⟨rfl, rfl⟩ | hshape
      · exact Or.inl ⟨rfl, rfl⟩
      rcases head_or_suffix hshape with ⟨rfl, rfl⟩ | hshape
      · exact Or.inr ⟨rfl, pending_ending _ _ tidies, load_append sem file _⟩
      exact Or.inl (step_of_ending sem hshape hcurrent)
  | remove query tidies =>
      rcases head_or_suffix hshape with ⟨rfl, rfl⟩ | hshape
      · exact Or.inl ⟨rfl, rfl⟩
      rcases head_or_suffix hshape with ⟨rfl, rfl⟩ | hshape
      · exact Or.inr ⟨rfl, pending_ending _ _ tidies, load_append sem file _⟩
      exact Or.inl (step_of_ending sem hshape hcurrent)
  | upsert query changes doc tidies =>
      rcases head_or_suffix hshape with ⟨rfl, rfl⟩ | hshape
      · exact Or.inl ⟨rfl, rfl⟩
      rcases head_or_suffix hshape with ⟨rfl, rfl⟩ | hshape
      · exact upsert_update_advances sem hcurrent
      rcases head_or_suffix hshape with ⟨rfl, rfl⟩ | hshape
      · exact upsert_insert_advances sem hcurrent
      exact Or.inl (step_of_ending sem hshape hcurrent)

/-- What is known of every reached state: the records in the file are those of
a serial execution of the calls that have taken effect. -/
structure Explained (file : List (Entry Doc Query))
    (calls : List (Call Doc Query)) (system : System Doc Query) : Prop where
  calls_eq : system.threads.map Thread.call = calls
  shape : ∀ thread ∈ system.threads, thread.remaining <:+ thread.call.program
  serial : ∃ order : List (Call Doc Query),
    order.Perm ((system.threads.filter fun thread => !thread.pending).map
      Thread.call) ∧
    load sem system.file = load sem (serial sem file order)

/-- Only reads have nothing pending at the start, and they change nothing. -/
theorem foldl_effect_of_not_pending (calls : List (Call Doc Query))
    (hcalls : ∀ call ∈ calls, (startThread call).pending = false)
    (records : List Doc) :
    calls.foldl (fun records call => call.effect sem records) records =
      records := by
  induction calls with
  | nil => rfl
  | cons call calls ih =>
      rw [List.foldl_cons]
      have hcall : call.effect sem records = records := by
        have hpending := hcalls call List.mem_cons_self
        cases call with
        | read query tidies => rfl
        | insert doc tidies => exact Bool.noConfusion hpending
        | remove query tidies => exact Bool.noConfusion hpending
        | upsert query changes doc tidies => exact Bool.noConfusion hpending
      rw [hcall]
      exact ih fun other hother => hcalls other (List.mem_cons_of_mem call hother)

theorem explained_start (file : List (Entry Doc Query))
    (calls : List (Call Doc Query)) :
    Explained sem file calls (start file calls) where
  calls_eq := by
    rw [start, List.map_map]
    exact List.map_id calls
  shape := by
    intro thread hthread
    obtain ⟨call, _, rfl⟩ := List.mem_map.1 hthread
    exact List.suffix_rfl
  serial := by
    refine ⟨_, List.Perm.refl _, ?_⟩
    rw [load_serial]
    refine (foldl_effect_of_not_pending sem _ ?_ _).symm
    intro call hcall
    obtain ⟨thread, hthread, rfl⟩ := List.mem_map.1 hcall
    obtain ⟨hmem, hquiet⟩ := List.mem_filter.1 hthread
    obtain ⟨call, _, rfl⟩ := List.mem_map.1 hmem
    exact Bool.not_eq_true' _ ▸ hquiet

/-- Splitting the list of calls at the one that takes a step. -/
theorem exists_split_of_getElem? {threads : List (Thread Doc Query)} {index : ℕ}
    {thread : Thread Doc Query} (hthread : threads[index]? = some thread) :
    ∃ before after, threads = before ++ thread :: after ∧
      ∀ other, threads.set index other = before ++ other :: after := by
  obtain ⟨hindex, hget⟩ := List.getElem?_eq_some_iff.1 hthread
  refine ⟨threads.take index, threads.drop (index + 1), ?_, fun other => ?_⟩
  · rw [← hget, List.getElem_cons_drop, List.take_append_drop]
  · exact List.set_eq_take_append_cons_drop.trans (if_pos hindex)

theorem explained_step {file : List (Entry Doc Query)}
    {calls : List (Call Doc Query)} {system next : System Doc Query} {index : ℕ}
    (hexplained : Explained sem file calls system)
    (hcurrent : Current sem system index)
    (hstep : step sem system index = some next) :
    Explained sem file calls next := by
  unfold step at hstep
  split at hstep
  · cases hstep
  rename_i thread hthread
  split at hstep
  · cases hstep
  rename_i action rest hremaining
  rw [Option.some.injEq] at hstep
  subst hstep
  obtain ⟨before, after, hsplit, hset⟩ := exists_split_of_getElem? hthread
  obtain ⟨hcalls, hshapes, order, hperm, hload⟩ := hexplained
  obtain ⟨call, handle, remaining⟩ := thread
  subst hremaining
  have hshape : action :: rest <:+ call.program :=
    hshapes ⟨call, handle, action :: rest⟩ (by rw [hsplit]; simp)
  have hnow : Thread.Current sem system.file ⟨call, handle, action :: rest⟩ :=
    hcurrent _ hthread
  rw [hsplit] at hcalls hshapes hperm
  refine ⟨?_, ?_, ?_⟩
  · rw [hset, ← hcalls, List.map_append, List.map_append, List.map_cons,
      List.map_cons]
  · intro other hother
    rw [hset, List.mem_append, List.mem_cons] at hother
    rcases hother with hmem | rfl | hmem
    · exact hshapes other (List.mem_append_left _ hmem)
    · exact (List.suffix_cons action rest).trans hshape
    · exact hshapes other
        (List.mem_append_right _ (List.mem_cons_of_mem _ hmem))
  · rw [hset]
    rcases thread_step sem hshape hnow with ⟨hsame, hpending⟩ |
      ⟨hbefore, hafter, heffect⟩
    · refine ⟨order, ?_, hsame.trans hload⟩
      rw [List.filter_append, List.filter_cons, hpending]
      rw [List.filter_append, List.filter_cons] at hperm
      split at hperm <;> rename_i hquiet
      · rw [if_pos hquiet, List.map_append, List.map_cons]
        rw [List.map_append, List.map_cons] at hperm
        exact hperm
      · rw [if_neg hquiet]
        exact hperm
    · refine ⟨order ++ [call], ?_, ?_⟩
      · rw [List.filter_append, List.filter_cons_of_neg (by simp [hbefore])]
          at hperm
        rw [List.filter_append, List.filter_cons_of_pos (by simp [hafter]),
          List.map_append, List.map_cons]
        rw [List.map_append] at hperm
        exact ((List.perm_append_singleton call order).trans
          (hperm.cons call)).trans List.perm_middle.symm
      · rw [heffect, hload, load_serial, load_serial, List.foldl_append]
        rfl

/-- If every tidy writes back what the file holds and every upsert's match test
is true of the file, the file ends with the records of a serial execution. -/
theorem load_eq_serial {file : List (Entry Doc Query)}
    {calls : List (Call Doc Query)} {schedule : List ℕ}
    {final : System Doc Query}
    (hcurrent : Meets (step sem) (Current sem) (start file calls) schedule)
    (hrun : run (step sem) (start file calls) schedule = some final)
    (hfinished : final.Finished) :
    ∃ order : List (Call Doc Query), order.Perm calls ∧
      load sem final.file = load sem (serial sem file order) := by
  have hexplained : Explained sem file calls final :=
    run_invariant_of_meets (fun _ _ _ hstate hmeets hstep =>
      explained_step sem hstate hmeets hstep) (explained_start sem file calls)
      hcurrent hrun
  obtain ⟨hcalls, _, order, hperm, hload⟩ := hexplained
  refine ⟨order, ?_, hload⟩
  have hquiet : final.threads.filter (fun thread => !thread.pending) =
      final.threads := by
    rw [List.filter_eq_self]
    intro thread hthread
    rw [Thread.pending, hfinished thread hthread]
    rfl
  rwa [hquiet, hcalls] at hperm

end EduEbook.LogStore
