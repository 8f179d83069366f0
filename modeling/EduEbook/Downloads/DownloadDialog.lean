import EduEbook.Data.Json
import Mathlib.Data.List.Basic

/-!
# The download dialog

The dialog cannot be dismissed; it pops itself when a progress callback reports
as many bytes as the total.  Without an announced length the total is -1, and a
transfer that fails reports no total at all, so in both cases it stays open.
What it pops is the text of the size, and the download method records the book
when that is not null.
-/

namespace EduEbook.DownloadDialog

open EduEbook.Json

/-- The progress callbacks of a whole transfer.  The counts grow, and the last is
the announced length if there is one. -/
structure Transfer where
  received : List ℕ
  total : Option ℕ
  increasing : received.Pairwise (· < ·)
  whole : ∀ length, total = some length → received.getLastD 0 = length

/-- `totalBytes` in the callbacks. -/
def Transfer.totalBytes (transfer : Transfer) : ℤ :=
  transfer.total.elim (-1) Int.ofNat

inductive Ending
  | completed
  | failedAfter (callbacks : ℕ)

/-- The callbacks that are made before the transfer ends. -/
def Transfer.callbacks (transfer : Transfer) : Ending → List ℕ
  | .completed => transfer.received
  | .failedAfter callbacks => transfer.received.take callbacks

/-- The dialog's fields, and the results of its `Navigator.pop` calls.  The first
of these closes the dialog, a second one would close the page below. -/
structure DialogState where
  received : ℤ
  totalProgress : ℤ
  pops : List JsonValue

def initialState : DialogState := ⟨0, 0, []⟩

section Dialog

-- The digits and the unit that the logarithm of the size selects.
variable (sizeText : ℤ → ℕ → String)

def formatBytes (bytes : ℤ) (decimals : ℕ) : JsonValue :=
  if bytes = 0 then .double (.finite 0) else .string (sizeText bytes decimals)

def onReceiveProgress (totalBytes : ℤ) (state : DialogState) (receiverBytes : ℕ) :
    DialogState where
  received := receiverBytes
  totalProgress := totalBytes
  pops :=
    if (receiverBytes : ℤ) = totalBytes then
      state.pops ++ [formatBytes sizeText totalBytes 1]
    else state.pops

def dialogAfter (totalBytes : ℤ) (callbacks : List ℕ) : DialogState :=
  callbacks.foldl (onReceiveProgress sizeText totalBytes) initialState

/-- The sizes that `startDownload` records: its `then` runs when the dialog
closes, and records the book unless the result is null. -/
def recordedSizes (state : DialogState) : List JsonValue :=
  match state.pops with
  | [] => []
  | .null :: _ => []
  | value :: _ => [value]

/-- The dialog has closed once, at the last byte, and the book is recorded once
if the transfer completed and else not at all. -/
structure ClosesOnce (transfer : Transfer) (ending : Ending) : Prop where
  popped_once :
    (dialogAfter sizeText transfer.totalBytes (transfer.callbacks ending)).pops.length = 1
  not_popped_before : ∀ count, count < transfer.received.length →
    (dialogAfter sizeText transfer.totalBytes (transfer.received.take count)).pops = []
  recorded : (recordedSizes (dialogAfter sizeText transfer.totalBytes
      (transfer.callbacks ending))).length =
    match ending with
    | .completed => 1
    | .failedAfter _ => 0

variable {sizeText}

/-- The dialog pops at the callbacks that report the total. -/
theorem pops_dialogAfter (totalBytes : ℤ) (callbacks : List ℕ) :
    (dialogAfter sizeText totalBytes callbacks).pops =
      (callbacks.filter fun receiverBytes : ℕ => (receiverBytes : ℤ) = totalBytes).map
        fun _ => formatBytes sizeText totalBytes 1 := by
  induction callbacks using List.reverseRecOn with
  | nil => rfl
  | append_singleton callbacks receiverBytes ih =>
      rw [dialogAfter, List.foldl_append, List.foldl_cons, List.foldl_nil,
        onReceiveProgress, ← dialogAfter, ih, List.filter_append, List.map_append]
      by_cases htotal : (receiverBytes : ℤ) = totalBytes
      · rw [if_pos htotal, List.filter_singleton, decide_eq_true htotal]
        rfl
      · rw [if_neg htotal, List.filter_singleton, decide_eq_false htotal]
        exact (List.append_nil _).symm

theorem recordedSizes_of_pops {state : DialogState} {totalBytes : ℤ}
    (hpops : state.pops = [formatBytes sizeText totalBytes 1]) :
    (recordedSizes state).length = 1 := by
  rw [recordedSizes, hpops, formatBytes]
  by_cases hzero : totalBytes = 0
  · rw [if_pos hzero]
    rfl
  · rw [if_neg hzero]
    rfl

/-- No count is -1. -/
theorem pops_of_unknown {transfer : Transfer} (htotal : transfer.total = none)
    (callbacks : List ℕ) :
    (dialogAfter sizeText transfer.totalBytes callbacks).pops = [] := by
  have hnever : ∀ receiverBytes ∈ callbacks,
      ¬decide ((receiverBytes : ℤ) = transfer.totalBytes) = true := by
    intro receiverBytes _
    rw [Transfer.totalBytes, htotal, decide_eq_true_iff]
    change (receiverBytes : ℤ) ≠ -1
    omega
  rw [pops_dialogAfter, List.filter_eq_nil_iff.2 hnever]
  rfl

/-- Of the callbacks of a transfer of known length only the last pops. -/
theorem pops_of_known {transfer : Transfer} {length : ℕ}
    (htotal : transfer.total = some length) (hreceived : transfer.received ≠ []) :
    (dialogAfter sizeText transfer.totalBytes transfer.received).pops =
        [formatBytes sizeText transfer.totalBytes 1] ∧
      ∀ count, count < transfer.received.length →
        (dialogAfter sizeText transfer.totalBytes
          (transfer.received.take count)).pops = [] := by
  obtain ⟨before, last, hsplit⟩ :=
    (List.eq_nil_or_concat' transfer.received).resolve_left hreceived
  have hincreasing := transfer.increasing
  have hlast := transfer.whole length htotal
  rw [hsplit] at hincreasing hlast
  rw [List.getLastD_concat] at hlast
  have hbytes : transfer.totalBytes = last := by
    rw [Transfer.totalBytes, htotal, hlast]
    rfl
  -- The counts before the last are smaller than the total.
  have hsmaller : ∀ receiverBytes ∈ before,
      ¬decide ((receiverBytes : ℤ) = transfer.totalBytes) = true := by
    intro receiverBytes hmem
    have hlt := (List.pairwise_append.1 hincreasing).2.2 receiverBytes hmem last
      (List.mem_singleton.2 rfl)
    rw [hbytes, decide_eq_true_iff, Int.natCast_inj]
    exact hlt.ne
  constructor
  · rw [pops_dialogAfter, hsplit, List.filter_append,
      List.filter_eq_nil_iff.2 hsmaller, List.filter_singleton, hbytes]
    simp
  · intro count hcount
    rw [hsplit, List.length_append, List.length_singleton, Nat.lt_succ_iff] at hcount
    rw [pops_dialogAfter, hsplit, List.take_append_of_le_length hcount,
      List.filter_eq_nil_iff.2 fun receiverBytes hmem =>
        hsmaller receiverBytes (List.mem_of_mem_take hmem)]
    rfl

end Dialog

/-- The dialog closes once, at the right moment and with the right record,
exactly for the completed transfers of announced length with a callback. -/
theorem closesOnce_iff (sizeText : ℤ → ℕ → String) (transfer : Transfer)
    (ending : Ending) :
    ClosesOnce sizeText transfer ending ↔
      ending = .completed ∧ transfer.total ≠ none ∧ transfer.received ≠ [] := by
  constructor
  · intro hcloses
    have htotal : transfer.total ≠ none := by
      intro htotal
      have honce := hcloses.popped_once
      rw [pops_of_unknown htotal] at honce
      cases honce
    have hreceived : transfer.received ≠ [] := by
      intro hnil
      have honce := hcloses.popped_once
      cases ending with
      | completed =>
          rw [Transfer.callbacks, hnil] at honce
          cases honce
      | failedAfter callbacks =>
          rw [Transfer.callbacks, hnil, List.take_nil] at honce
          cases honce
    refine ⟨?_, htotal, hreceived⟩
    cases ending with
    | completed => rfl
    | failedAfter callbacks =>
        obtain ⟨length, hlength⟩ := Option.ne_none_iff_exists'.1 htotal
        obtain ⟨hpops, hbefore⟩ := @pops_of_known sizeText _ _ hlength hreceived
        rcases Nat.lt_or_ge callbacks transfer.received.length with hfew | hall
        · have honce := hcloses.popped_once
          rw [Transfer.callbacks, hbefore callbacks hfew] at honce
          cases honce
        -- The failure came after the last byte: the book was recorded already.
        · have hrecorded := hcloses.recorded
          rw [Transfer.callbacks, List.take_of_length_le hall,
            recordedSizes_of_pops hpops] at hrecorded
          cases hrecorded
  · rintro ⟨rfl, htotal, hreceived⟩
    obtain ⟨length, hlength⟩ := Option.ne_none_iff_exists'.1 htotal
    obtain ⟨hpops, hbefore⟩ := @pops_of_known sizeText _ _ hlength hreceived
    refine ⟨?_, hbefore, recordedSizes_of_pops hpops⟩
    rw [Transfer.callbacks, hpops]
    rfl

/-- Three bytes that arrive one by one. -/
def threeBytes : Transfer where
  received := [1, 2, 3]
  total := some 3
  increasing := by decide
  whole := by
    rintro length hlength
    cases hlength
    rfl

/-- A transfer that fails after the second byte leaves the dialog open. -/
theorem failed_transfer_keeps_dialog :
    ¬ClosesOnce (fun _ _ => "") threeBytes (.failedAfter 2) := by
  intro hcloses
  cases hcloses.popped_once

end EduEbook.DownloadDialog
