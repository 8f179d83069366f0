import EduEbook.Downloads.DownloadDialog
import Mathlib.Analysis.SpecialFunctions.Log.Base

/-!
# The text of a size

`formatBytes` picks the unit by a quotient of logarithms, divides, and rounds to one
decimal.  A size just below the next unit is rounded up to 1024.0 of its own, and a
download without an announced length has a size of -1, whose logarithm has no floor.
Logarithms and quotients are exact here.
-/

namespace EduEbook.SizeText

open EduEbook.Json

inductive Thrown
  | unsupportedError
  | rangeError

/-- The digits of `toStringAsFixed` as one number: the nearest multiple of the last
place, and the larger one of two. -/
def fixedDigits (value : ℚ) (places : ℕ) : ℕ := ⌊value * 10 ^ places + 1 / 2⌋₊

/-- The digits with a point before the last `places`. -/
def decimalText (digits places : ℕ) : String :=
  if places = 0 then toString digits
  else toString (digits / 10 ^ places) ++ "." ++
    String.ofList (List.leftpad places '0' (Nat.toDigits 10 (digits % 10 ^ places)))

def toStringAsFixed (value : ℚ) (places : ℕ) : String :=
  decimalText (fixedDigits value places) places

def sizes : List String := ["Bytes", "KB", "MB", "GB", "TB", "PB", "EB", "ZB", "YB"]

/-- `(log(bytes) / log(k)).floor()`; no number but a positive one has a logarithm with
a floor. -/
def unitIndex (bytes : ℤ) : Except Thrown ℕ :=
  if 0 < bytes then .ok (Nat.log 1024 bytes.toNat) else .error .unsupportedError

def sizeUnit (index : ℕ) : Except Thrown String :=
  match sizes[index]? with
  | some unit => .ok unit
  | none => .error .rangeError

def formatBytes (bytes decimals : ℤ) : Except Thrown JsonValue :=
  if bytes = 0 then .ok (.double (.finite 0))
  else do
    let dm := if decimals ≤ 0 then 0 else decimals.toNat
    let i ← unitIndex bytes
    let mantissa := toStringAsFixed (bytes / 1024 ^ i) dm
    let unit ← sizeUnit i
    return .string (mantissa ++ " " ++ unit)

/-- The text that the dialog pops for a size that has one. -/
def sizeText (bytes : ℤ) (decimals : ℕ) : String :=
  let i := Nat.log 1024 bytes.toNat
  toStringAsFixed (bytes / 1024 ^ i) decimals ++ " " ++ sizes.getD i ""

/-- What a progress callback can store: an announced length is a positive `int`, and
-1 stands for none. -/
structure ProgressReport where
  received : ℤ
  totalProgress : ℤ
  received_nonneg : 0 ≤ received
  received_lt : received < 2 ^ 63
  total_cases : totalProgress = -1 ∨ 0 < totalProgress ∧ totalProgress < 2 ^ 63

/-- The mantissa of one decimal, in tenths. -/
def tenths (bytes : ℤ) (index : ℕ) : ℕ := fixedDigits (bytes / 1024 ^ index) 1

structure Normalised (bytes : ℤ) (index : ℕ) : Prop where
  floor_eq : ⌊Real.log bytes / Real.log 1024⌋ = index
  index_lt : index < 9
  pow_le : 1024 ^ index ≤ bytes
  lt_pow : bytes < 1024 ^ (index + 1)
  text : formatBytes bytes 1 =
    .ok (.string (decimalText (tenths bytes index) 1 ++ " " ++ sizes.getD index ""))
  le_tenths : 10 ≤ tenths bytes index
  tenths_lt : tenths bytes index < 10240

/-- The dialog builds, and the sizes it shows are normalised. -/
structure ShowsSizes (report : ProgressReport) : Prop where
  received_returns : ∃ text, formatBytes report.received 1 = .ok text
  total_returns : ∃ text, formatBytes report.totalProgress 1 = .ok text
  normalised : ∀ bytes ∈ [report.received, report.totalProgress], 0 < bytes →
    ∃ index, Normalised bytes index

/-- The size is less than a twentieth of its unit below the next one. -/
def Carries (bytes : ℤ) : Prop :=
  ∃ index : ℕ, 20479 * 1024 ^ index ≤ 20 * bytes ∧ bytes < 1024 ^ (index + 1)

theorem le_fixedDigits_iff {value : ℚ} (hvalue : 0 ≤ value) {digits places : ℕ} :
    digits ≤ fixedDigits value places ↔ (digits : ℚ) ≤ value * 10 ^ places + 1 / 2 := by
  apply Nat.le_floor_iff
  positivity

/-- The unit is the one between two powers of 1024 that the size lies in. -/
theorem unitIndex_eq {bytes : ℤ} {index : ℕ} (hle : 1024 ^ index ≤ bytes)
    (hlt : bytes < 1024 ^ (index + 1)) : unitIndex bytes = .ok index := by
  have hpos : 0 < bytes := lt_of_lt_of_le (by positivity) hle
  lift bytes to ℕ using hpos.le
  rw [unitIndex, if_pos hpos, Int.toNat_natCast]
  congr 1
  apply Nat.log_eq_of_pow_le_of_lt_pow
  · exact_mod_cast hle
  · exact_mod_cast hlt

theorem floor_log_eq {bytes : ℤ} {index : ℕ} (hle : 1024 ^ index ≤ bytes)
    (hlt : bytes < 1024 ^ (index + 1)) :
    ⌊Real.log bytes / Real.log 1024⌋ = index := by
  have hpos : 0 < bytes := lt_of_lt_of_le (by positivity) hle
  lift bytes to ℕ using hpos.le
  have hlog : Nat.log 1024 bytes = index := by
    apply Nat.log_eq_of_pow_le_of_lt_pow
    · exact_mod_cast hle
    · exact_mod_cast hlt
  calc ⌊Real.log ((bytes : ℤ) : ℝ) / Real.log 1024⌋
    _ = ⌊Real.logb ((1024 : ℕ) : ℝ) (bytes : ℝ)⌋ := by
        rw [Real.logb]
        norm_cast
    _ = Int.log 1024 (bytes : ℝ) := Real.floor_logb_natCast (Nat.cast_nonneg bytes)
    _ = (Nat.log 1024 bytes : ℤ) := Int.log_natCast 1024 bytes
    _ = (index : ℤ) := by rw [hlog]

theorem exists_index {bytes : ℤ} (hpos : 0 < bytes) (hlt : bytes < 2 ^ 63) :
    ∃ index : ℕ, index < 9 ∧ 1024 ^ index ≤ bytes ∧ bytes < 1024 ^ (index + 1) := by
  lift bytes to ℕ using hpos.le
  have hne : bytes ≠ 0 := by omega
  refine ⟨Nat.log 1024 bytes, ?_, ?_, ?_⟩
  · apply Nat.log_lt_of_lt_pow hne
    omega
  · exact_mod_cast Nat.pow_log_le_self 1024 hne
  · exact_mod_cast Nat.lt_pow_succ_log_self (by decide) bytes

theorem sizeUnit_eq {index : ℕ} (hindex : index < 9) :
    sizeUnit index = .ok (sizes.getD index "") := by
  have hsome : sizes[index]? = some (sizes.getD index "") := by
    rw [List.getD_eq_getElem?_getD, List.getElem?_eq_getElem hindex]
    rfl
  rw [sizeUnit, hsome]

theorem formatBytes_eq {bytes : ℤ} {index : ℕ} (hindex : index < 9)
    (hle : 1024 ^ index ≤ bytes) (hlt : bytes < 1024 ^ (index + 1)) :
    formatBytes bytes 1 =
      .ok (.string (decimalText (tenths bytes index) 1 ++ " " ++ sizes.getD index "")) := by
  have hpos : 0 < bytes := lt_of_lt_of_le (by positivity) hle
  rw [formatBytes, if_neg hpos.ne', unitIndex_eq hle hlt]
  change (sizeUnit index >>= fun unit => _) = _
  rw [sizeUnit_eq hindex]
  rfl

/-- For the sizes that it is called with, `formatBytes` is the function the dialog is
modelled with. -/
theorem formatBytes_eq_dialog {bytes : ℤ} (hnonneg : 0 ≤ bytes) (hlt : bytes < 2 ^ 63) :
    formatBytes bytes 1 = .ok (DownloadDialog.formatBytes sizeText bytes 1) := by
  rcases hnonneg.eq_or_lt with rfl | hpos
  · rfl
  · obtain ⟨index, hindex, hle, hupper⟩ := exists_index hpos hlt
    have hlog : Nat.log 1024 bytes.toNat = index := by
      have hunit := unitIndex_eq hle hupper
      rw [unitIndex, if_pos hpos] at hunit
      exact Except.ok.inj hunit
    rw [formatBytes_eq hindex hle hupper, DownloadDialog.formatBytes, if_neg hpos.ne',
      sizeText, hlog]
    rfl

theorem le_tenths {bytes : ℤ} {index : ℕ} (hle : 1024 ^ index ≤ bytes) :
    10 ≤ tenths bytes index := by
  have hpow : (0 : ℚ) < 1024 ^ index := by positivity
  have hcast : (1024 : ℚ) ^ index ≤ bytes := by exact_mod_cast hle
  have hone : (1 : ℚ) ≤ bytes / 1024 ^ index := (one_le_div hpow).2 hcast
  rw [tenths, le_fixedDigits_iff (le_trans zero_le_one hone)]
  push_cast
  linarith

/-- The mantissa is rounded up to 1024.0 from 1023.95 on. -/
theorem tenths_lt_iff {bytes : ℤ} (hpos : 0 < bytes) (index : ℕ) :
    tenths bytes index < 10240 ↔ 20 * bytes < 20479 * 1024 ^ index := by
  have hpow : (0 : ℚ) < 1024 ^ index := by positivity
  have hbytes : (0 : ℚ) < bytes := by exact_mod_cast hpos
  have hsum : (0 : ℚ) ≤ bytes / 1024 ^ index * 10 ^ 1 + 1 / 2 := by positivity
  calc tenths bytes index < 10240
    _ ↔ (bytes : ℚ) / 1024 ^ index * 10 ^ 1 + 1 / 2 < (10240 : ℕ) := Nat.floor_lt hsum
    _ ↔ (bytes : ℚ) / 1024 ^ index < 20479 / 20 := by
        push_cast
        constructor
        · intro h
          linarith
        · intro h
          linarith
    _ ↔ (bytes : ℚ) < 20479 / 20 * 1024 ^ index := div_lt_iff₀ hpow
    _ ↔ (20 : ℚ) * bytes < 20479 * 1024 ^ index := by
        constructor
        · intro h
          linarith
        · intro h
          linarith
    _ ↔ 20 * bytes < 20479 * 1024 ^ index := by exact_mod_cast Iff.rfl

/-- The unit of a size that lies between two powers of 1024 is the only one. -/
theorem index_unique {bytes : ℤ} {left right : ℕ} (hleft : 1024 ^ left ≤ bytes)
    (hright : bytes < 1024 ^ (right + 1)) : left ≤ right := by
  apply Nat.lt_succ_iff.1
  apply (Nat.pow_lt_pow_iff_right (a := 1024) (by decide)).1
  exact_mod_cast lt_of_le_of_lt hleft hright

/-- The text of a size is normalised unless the rounding carries into the next unit. -/
theorem exists_normalised_iff {bytes : ℤ} (hpos : 0 < bytes) (hlt : bytes < 2 ^ 63) :
    (∃ index, Normalised bytes index) ↔ ¬Carries bytes := by
  constructor
  · rintro ⟨index, hnormalised⟩ ⟨other, hcarry, hother⟩
    have hle : 1024 ^ other ≤ bytes := by
      have hpow : (0 : ℤ) < 1024 ^ other := by positivity
      linarith
    have hsame : other = index := le_antisymm (index_unique hle hnormalised.lt_pow)
      (index_unique hnormalised.pow_le hother)
    have htenths := (tenths_lt_iff hpos index).1 hnormalised.tenths_lt
    rw [hsame] at hcarry
    linarith
  · intro hcarry
    obtain ⟨index, hindex, hle, hupper⟩ := exists_index hpos hlt
    refine ⟨index, floor_log_eq hle hupper, hindex, hle, hupper,
      formatBytes_eq hindex hle hupper, le_tenths hle, ?_⟩
    rw [tenths_lt_iff hpos]
    by_contra hnot
    exact hcarry ⟨index, not_lt.1 hnot, hupper⟩

theorem formatBytes_returns {bytes : ℤ} (hnonneg : 0 ≤ bytes) (hlt : bytes < 2 ^ 63) :
    ∃ text, formatBytes bytes 1 = .ok text :=
  ⟨_, formatBytes_eq_dialog hnonneg hlt⟩

/-- The size -1 has no text. -/
theorem formatBytes_unknown (decimals : ℤ) :
    formatBytes (-1) decimals = .error .unsupportedError := rfl

theorem not_carries_of_nonpos {bytes : ℤ} (hbytes : bytes ≤ 0) : ¬Carries bytes := by
  rintro ⟨index, hcarry, -⟩
  have hpow : (0 : ℤ) < 1024 ^ index := by positivity
  linarith

/-- The dialog shows normalised sizes exactly if the length is announced and neither
size is rounded up into the next unit. -/
theorem showsSizes_iff (report : ProgressReport) :
    ShowsSizes report ↔ report.totalProgress ≠ -1 ∧ ¬Carries report.received ∧
      ¬Carries report.totalProgress := by
  constructor
  · intro hshows
    have htotal : report.totalProgress ≠ -1 := by
      intro htotal
      obtain ⟨text, htext⟩ := hshows.total_returns
      rw [htotal, formatBytes_unknown] at htext
      cases htext
    obtain ⟨hpos, hlt⟩ := report.total_cases.resolve_left htotal
    refine ⟨htotal, ?_, ?_⟩
    · rcases report.received_nonneg.eq_or_lt with hzero | hreceived
      · exact not_carries_of_nonpos hzero.symm.le
      · apply (exists_normalised_iff hreceived report.received_lt).1
        exact hshows.normalised _ (by simp) hreceived
    · apply (exists_normalised_iff hpos hlt).1
      exact hshows.normalised _ (by simp) hpos
  · rintro ⟨htotal, hreceived, hcarry⟩
    obtain ⟨hpos, hlt⟩ := report.total_cases.resolve_left htotal
    refine ⟨formatBytes_returns report.received_nonneg report.received_lt,
      formatBytes_returns hpos.le hlt, ?_⟩
    intro bytes hbytes hbytespos
    rcases List.mem_pair.1 hbytes with rfl | rfl
    · exact (exists_normalised_iff hbytespos report.received_lt).2 hreceived
    · exact (exists_normalised_iff hpos hlt).2 hcarry

/-- A first callback of a download without an announced length. -/
def unannounced : ProgressReport :=
  ⟨1, -1, by decide, by decide, .inl rfl⟩

/-- One byte less than a megabyte has come in of two. -/
def justBelow : ProgressReport :=
  ⟨1048575, 2097152, by decide, by decide, .inr (by decide)⟩

theorem not_showsSizes_unannounced :
    ¬ShowsSizes unannounced ∧ ¬ShowsSizes justBelow ∧
      formatBytes 1048575 1 = .ok (.string "1024.0 KB") := by
  refine ⟨fun hshows => ?_, fun hshows => ?_, ?_⟩
  · obtain ⟨text, htext⟩ := hshows.total_returns
    cases htext
  · have hcarries : Carries 1048575 := ⟨1, by norm_num, by norm_num⟩
    have hnormalised := hshows.normalised 1048575 (by simp [justBelow]) (by norm_num)
    exact (exists_normalised_iff (by norm_num) (by norm_num)).1 hnormalised hcarries
  · have htenths : tenths 1048575 1 = 10240 := by
      rw [tenths, fixedDigits, Nat.floor_eq_iff (by norm_num)]
      norm_num
    rw [@formatBytes_eq 1048575 1 (by norm_num) (by norm_num) (by norm_num), htenths]
    rfl

end EduEbook.SizeText
