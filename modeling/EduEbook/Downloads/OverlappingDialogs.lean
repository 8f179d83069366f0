import EduEbook.Library.Runs

/-!
# Overlapping download dialogs

Nothing stops a second tap on the download button before the dialog of the first is
shown, so dialogs can lie above each other.  A dialog that sees its transfer complete
does not close itself but pops whatever is on top, and a dialog that was popped is still
mounted until its exit is over; after that its callback throws before it can pop.  This
module follows any number of dialogs and asks when all of them close, and when each
book is recorded with the size of its own transfer.
-/

namespace EduEbook.OverlappingDialogs

open EduEbook.Runs

/-- The dialogs by the order in which they were opened: those on the navigator with the
top one first, those that were popped and are still mounted, and those whose transfer
goes on.  `recorded` pairs each dialog whose `then` recorded a book with the transfer
whose size it got; `pagesClosed` are pops that found no dialog. -/
structure State where
  opened : ℕ
  dialogs : List ℕ
  leaving : List ℕ
  transfers : List ℕ
  recorded : List (ℕ × ℕ)
  pagesClosed : ℕ

/-- `startDownload` shows a dialog; a transfer makes the callback that reports the
total; a transfer ends without one; the exit of a popped dialog is over. -/
inductive Event
  | showDialog
  | completes (dialog : ℕ)
  | ends (dialog : ℕ)
  | disposed (dialog : ℕ)

def start : State := ⟨0, [], [], [], [], 0⟩

/-- `initState` starts the transfer. -/
def showDialog (state : State) : State :=
  { state with
    opened := state.opened + 1
    dialogs := state.opened :: state.dialogs
    transfers := state.opened :: state.transfers }

/-- `Navigator.pop(context, formatBytes(totalProgress, 1))`, and the `then` of the
dialog that it closes. -/
def pop (size : ℕ) (state : State) : State :=
  match state.dialogs with
  | [] => { state with pagesClosed := state.pagesClosed + 1 }
  | top :: dialogs =>
      { state with
        dialogs := dialogs
        leaving := top :: state.leaving
        recorded := state.recorded ++ [(top, size)] }

def Mounted (state : State) (dialog : ℕ) : Prop :=
  dialog ∈ state.dialogs ∨ dialog ∈ state.leaving

instance (state : State) (dialog : ℕ) : Decidable (Mounted state dialog) :=
  inferInstanceAs (Decidable (_ ∨ _))

/-- The callbacks before the last one set the fields of their dialog alone. -/
def step (state : State) : Event → Option State
  | .showDialog => some (showDialog state)
  | .completes dialog =>
      if dialog ∈ state.transfers then
        let ended := { state with transfers := state.transfers.erase dialog }
        -- `setState` throws in a dialog that is not mounted.
        some (if Mounted state dialog then pop dialog ended else ended)
      else none
  | .ends dialog =>
      if dialog ∈ state.transfers then
        some { state with transfers := state.transfers.erase dialog }
      else none
  | .disposed dialog =>
      if dialog ∈ state.leaving then
        some { state with leaving := state.leaving.erase dialog }
      else none

/-- A transfer that ends completes, and its dialog is still mounted. -/
def InTime (state : State) : Event → Prop
  | .completes dialog => Mounted state dialog
  | .ends _ => False
  | _ => True

/-- The dialog that pops is the one on top. -/
def OnTop (state : State) : Event → Prop
  | .completes dialog => Mounted state dialog → state.dialogs.head? = some dialog
  | _ => True

/-- There is a dialog for each transfer, so no pop has closed a page. -/
structure Covered (state : State) : Prop where
  length_le : state.transfers.length ≤ state.dialogs.length
  pagesClosed_eq : state.pagesClosed = 0

section Step

variable {state next : State} {event : Event} {dialog : ℕ}

/-- While a transfer goes on there is a dialog to pop. -/
theorem exists_top (hcovered : Covered state) (hdialog : dialog ∈ state.transfers) :
    ∃ top rest, state.dialogs = top :: rest := by
  have hpositive : 0 < state.dialogs.length := by
    have htransfers := List.length_pos_of_mem hdialog
    have hlength := hcovered.length_le
    omega
  exact List.exists_cons_of_length_pos hpositive

/-- A transfer that has ended, and the dialog `top` that was popped for it. -/
def poppedBy (dialog top : ℕ) (rest : List ℕ) (state : State) : State :=
  { state with
    dialogs := rest
    leaving := top :: state.leaving
    transfers := state.transfers.erase dialog
    recorded := state.recorded ++ [(top, dialog)] }

/-- Besides a new dialog, the end of a pop's exit and a transfer that ends without a pop,
a step is a pop of the dialog on top. -/
theorem step_cases (hcovered : Covered state) (hstep : step state event = some next) :
    (event = .showDialog ∧ next = showDialog state) ∨
      (∃ dialog top rest, event = .completes dialog ∧ dialog ∈ state.transfers ∧
        Mounted state dialog ∧ state.dialogs = top :: rest ∧
        next = poppedBy dialog top rest state) ∨
      (∃ dialog, dialog ∈ state.transfers ∧ ¬InTime state event ∧ OnTop state event ∧
        next = { state with transfers := state.transfers.erase dialog }) ∨
      (∃ dialog, event = .disposed dialog ∧
        next = { state with leaving := state.leaving.erase dialog }) := by
  cases event with
  | showDialog => exact Or.inl ⟨rfl, by simpa [step] using hstep.symm⟩
  | completes dialog =>
      rw [step] at hstep
      split at hstep
      · rename_i hdialog
        simp only [Option.some.injEq] at hstep
        by_cases hmounted : Mounted state dialog
        · obtain ⟨top, rest, htop⟩ := exists_top hcovered hdialog
          rw [if_pos hmounted] at hstep
          have hpop : next = poppedBy dialog top rest state := by
            rw [← hstep]
            simp only [pop, htop, poppedBy]
          exact Or.inr (Or.inl ⟨dialog, top, rest, rfl, hdialog, hmounted, htop, hpop⟩)
        · rw [if_neg hmounted] at hstep
          have hontop : OnTop state (.completes dialog) := fun h => absurd h hmounted
          exact Or.inr (Or.inr (Or.inl ⟨dialog, hdialog, hmounted, hontop, hstep.symm⟩))
      · cases hstep
  | ends dialog =>
      rw [step] at hstep
      split at hstep
      · rename_i hdialog
        simp only [Option.some.injEq] at hstep
        exact Or.inr (Or.inr (Or.inl ⟨dialog, hdialog, id, trivial, hstep.symm⟩))
      · cases hstep
  | disposed dialog =>
      rw [step] at hstep
      split at hstep
      · simp only [Option.some.injEq] at hstep
        exact Or.inr (Or.inr (Or.inr ⟨dialog, rfl, hstep.symm⟩))
      · cases hstep

end Step

end EduEbook.OverlappingDialogs
