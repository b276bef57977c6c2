import Mathlib.Data.Nat.Log
import Mathlib.Algebra.Order.Ring.Int

/-! # Integers that pass through a float64

A JSON number decoded without a target type becomes a float64.  An integer of 64 bits that
is decoded so, written again and decoded as an integer has been rounded to 53 significant
bits, or has left the range and is refused.
-/

namespace VkTurn.Text

/-- The nearest number of 53 significant bits, the even one of two. -/
def roundNat (magnitude : Nat) : Nat :=
  let unit := 2 ^ (magnitude.log2 + 1 - 53)
  let quotient := magnitude / unit
  let remainder := magnitude % unit
  if unit < 2 * remainder ∨ (2 * remainder = unit ∧ quotient % 2 = 1) then
    (quotient + 1) * unit
  else quotient * unit

theorem roundNat_of_dvd {magnitude : Nat}
    (divides : 2 ^ (magnitude.log2 + 1 - 53) ∣ magnitude) : roundNat magnitude = magnitude := by
  have positive : 0 < 2 ^ (magnitude.log2 + 1 - 53) := Nat.two_pow_pos _
  have noRemainder : magnitude % 2 ^ (magnitude.log2 + 1 - 53) = 0 := Nat.mod_eq_zero_of_dvd divides
  simp only [roundNat, noRemainder]
  rw [if_neg (by omega)]
  exact Nat.div_mul_cancel divides

theorem roundNat_eq {magnitude : Nat} :
    ∃ quotient, roundNat magnitude = quotient * 2 ^ (magnitude.log2 + 1 - 53) ∧
      quotient ≤ 2 ^ 53 := by
  have small : magnitude / 2 ^ (magnitude.log2 + 1 - 53) < 2 ^ 53 := by
    rw [Nat.div_lt_iff_lt_mul (Nat.two_pow_pos _), ← Nat.pow_add]
    refine lt_of_lt_of_le Nat.lt_log2_self (Nat.pow_le_pow_right (by decide) ?_)
    omega
  simp only [roundNat]
  split
  · exact ⟨_, rfl, small⟩
  · exact ⟨_, rfl, small.le⟩

theorem roundNat_idem (magnitude : Nat) : roundNat (roundNat magnitude) = roundNat magnitude := by
  obtain ⟨quotient, rounded, small⟩ := @roundNat_eq magnitude
  generalize magnitude.log2 + 1 - 53 = excess at rounded
  rw [rounded]
  refine roundNat_of_dvd ?_
  rcases Nat.eq_zero_or_pos quotient with isZero | positive
  · simp [isZero]
  rcases Nat.lt_or_eq_of_le small with below | top
  · have bits : (quotient * 2 ^ excess).log2 < 53 + excess := by
      refine (Nat.log2_lt (Nat.mul_pos positive (Nat.two_pow_pos _)).ne').mpr ?_
      rw [Nat.pow_add]
      exact Nat.mul_lt_mul_of_pos_right below (Nat.two_pow_pos _)
    exact (Nat.pow_dvd_pow 2 (by omega)).trans (Nat.dvd_mul_left _ _)
  · -- rounding up carried into a 54th bit: the number is a power of two
    rw [top, ← Nat.pow_add, Nat.log2_two_pow]
    exact Nat.pow_dvd_pow 2 (by omega)

def roundFloat64 : Int → Int
  | .ofNat magnitude => roundNat magnitude
  | .negSucc magnitude => -(roundNat (magnitude + 1))

theorem roundFloat64_neg (magnitude : Nat) : roundFloat64 (-magnitude) = -(roundNat magnitude) := by
  cases magnitude with
  | zero => rfl
  | succ magnitude => rfl

theorem roundFloat64_idem (number : Int) :
    roundFloat64 (roundFloat64 number) = roundFloat64 number := by
  cases number with
  | ofNat magnitude =>
    show ((roundNat (roundNat magnitude) : Nat) : Int) = roundNat magnitude
    rw [roundNat_idem]
  | negSucc magnitude =>
    show roundFloat64 (-(roundNat (magnitude + 1))) = -(roundNat (magnitude + 1))
    rw [roundFloat64_neg, roundNat_idem]

def throughFloat64 (number : Int) : Option Int :=
  let rounded := roundFloat64 number
  if -2 ^ 63 ≤ rounded ∧ rounded < 2 ^ 63 then some rounded else none

theorem throughFloat64_idem {number reread : Int} (passed : throughFloat64 number = some reread) :
    throughFloat64 reread = some reread := by
  simp only [throughFloat64] at passed ⊢
  split at passed
  · rename_i inRange
    cases passed
    rw [roundFloat64_idem, if_pos inRange]
  · cases passed

end VkTurn.Text
