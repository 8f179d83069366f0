import Mathlib.Data.Nat.Dist
import Mathlib.Data.Nat.Log

/-!
# Rounding to a number of binary digits

A floating-point format with `digits` significant digits holds a natural number
exactly when it is a number of that many digits times a power of two.  Other
numbers are rounded to the nearest multiple of the weight of the last digit that
is kept, a tie to the even multiple.
-/

namespace EduEbook.Significand

/-- The numbers with at most `digits` significant binary digits. -/
def HasDigits (digits value : ℕ) : Prop :=
  ∃ significand exponent, significand < 2 ^ digits ∧
    value = significand * 2 ^ exponent

/-- The weight of the last digit that is kept. -/
def lastPlace (digits value : ℕ) : ℕ := 2 ^ (value.log2 + 1 - digits)

/-- The nearest multiple of `place`, in a tie the even one. -/
def roundToPlace (place value : ℕ) : ℕ :=
  if 2 * (value % place) < place ∨
      2 * (value % place) = place ∧ value / place % 2 = 0 then
    value / place * place
  else (value / place + 1) * place

def roundToDigits (digits value : ℕ) : ℕ :=
  roundToPlace (lastPlace digits value) value

theorem lastPlace_pos (digits value : ℕ) : 0 < lastPlace digits value :=
  Nat.two_pow_pos _

theorem roundToPlace_of_dvd {place value : ℕ} (hplace : 0 < place)
    (hdvd : place ∣ value) : roundToPlace place value = value := by
  rw [roundToPlace, Nat.mod_eq_zero_of_dvd hdvd, if_pos (Or.inl hplace)]
  exact Nat.div_mul_cancel hdvd

theorem dvd_roundToPlace (place value : ℕ) : place ∣ roundToPlace place value := by
  rw [roundToPlace]
  split
  · exact Nat.dvd_mul_left place _
  · exact Nat.dvd_mul_left place _

/-- No multiple of the place is nearer than the one that rounding picks. -/
theorem roundToPlace_nearest {place value other : ℕ} (hplace : 0 < place)
    (hother : place ∣ other) :
    Nat.dist (roundToPlace place value) value ≤ Nat.dist other value := by
  obtain ⟨factor, rfl⟩ := hother
  have hvalue : place * (value / place) + value % place = value :=
    Nat.div_add_mod value place
  have hrest : value % place < place := Nat.mod_lt value hplace
  have hround : Nat.dist (roundToPlace place value) value =
      min (value % place) (place - value % place) := by
    rw [roundToPlace, Nat.dist]
    split
    · rw [Nat.mul_comm]
      omega
    · rw [Nat.mul_comm, Nat.mul_succ]
      omega
  -- A multiple is at most the lower neighbour or at least the upper one.
  rw [hround, Nat.dist]
  rcases le_or_gt factor (value / place) with hlow | hhigh
  · have hbelow : place * factor ≤ place * (value / place) :=
      Nat.mul_le_mul_left place hlow
    omega
  · have habove : place * (value / place) + place ≤ place * factor := by
      rw [← Nat.mul_succ]
      exact Nat.mul_le_mul_left place hhigh
    omega

theorem value_lt (digits value : ℕ) :
    value < 2 ^ digits * lastPlace digits value := by
  rw [lastPlace, ← Nat.pow_add]
  exact lt_of_lt_of_le Nat.lt_log2_self (Nat.pow_le_pow_right (by decide) (by omega))

/-- A number of `digits` digits in the binade of `value`, or above it, is a
multiple of the last place. -/
theorem lastPlace_dvd_of_le {digits value other : ℕ} (hother : HasDigits digits other)
    (hle : 2 ^ value.log2 ≤ other) : lastPlace digits value ∣ other := by
  obtain ⟨significand, exponent, hsignificand, rfl⟩ := hother
  have hlt : 2 ^ value.log2 < 2 ^ (digits + exponent) := by
    rw [Nat.pow_add]
    exact lt_of_le_of_lt hle
      (Nat.mul_lt_mul_of_pos_right hsignificand (Nat.two_pow_pos exponent))
  have hexponent : value.log2 < digits + exponent :=
    (Nat.pow_lt_pow_iff_right (by decide)).1 hlt
  exact Dvd.dvd.mul_left (Nat.pow_dvd_pow 2 (by omega)) significand

theorem hasDigits_of_lastPlace_dvd {digits value : ℕ}
    (hdvd : lastPlace digits value ∣ value) : HasDigits digits value := by
  obtain ⟨factor, hfactor⟩ := hdvd
  refine ⟨factor, value.log2 + 1 - digits, ?_, ?_⟩
  · have hlt := value_lt digits value
    rw [Nat.mul_comm] at hlt
    refine Nat.lt_of_mul_lt_mul_left (a := lastPlace digits value) ?_
    rwa [← hfactor]
  · rwa [Nat.mul_comm] at hfactor

/-- Rounding changes exactly the numbers with more than `digits` digits. -/
theorem roundToDigits_eq_self_iff {digits value : ℕ} :
    roundToDigits digits value = value ↔ HasDigits digits value := by
  constructor
  · intro hround
    apply hasDigits_of_lastPlace_dvd
    have hdvd := dvd_roundToPlace (lastPlace digits value) value
    rwa [← roundToDigits, hround] at hdvd
  · intro hdigits
    apply roundToPlace_of_dvd (lastPlace_pos digits value)
    rcases Nat.eq_zero_or_pos value with rfl | hpos
    · exact Nat.dvd_zero _
    · exact lastPlace_dvd_of_le hdigits (Nat.log2_self_le hpos.ne')

/-- No number of `digits` digits is nearer than the rounded one. -/
theorem roundToDigits_nearest {digits value other : ℕ} (hdigits : 0 < digits)
    (hother : HasDigits digits other) :
    Nat.dist (roundToDigits digits value) value ≤ Nat.dist other value := by
  rcases Nat.lt_or_ge other (2 ^ value.log2) with hbelow | habove
  · rcases Nat.eq_zero_or_pos value with rfl | hpos
    · have hzero : HasDigits digits 0 := ⟨0, 0, Nat.two_pow_pos digits, rfl⟩
      rw [roundToDigits_eq_self_iff.2 hzero, Nat.dist_self]
      exact Nat.zero_le _
    -- Below the binade of `value` its lower end is nearer, which is a candidate.
    · have hlow : 2 ^ value.log2 ≤ value := Nat.log2_self_le hpos.ne'
      have hend : lastPlace digits value ∣ 2 ^ value.log2 :=
        Nat.pow_dvd_pow 2 (by omega)
      have hnearest := @roundToPlace_nearest _ value _ (lastPlace_pos digits value) hend
      rw [roundToDigits]
      apply hnearest.trans
      rw [Nat.dist, Nat.dist]
      omega
  · exact roundToPlace_nearest (lastPlace_pos digits value)
      (lastPlace_dvd_of_le hother habove)

end EduEbook.Significand
