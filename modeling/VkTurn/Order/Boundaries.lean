import Mathlib.Order.Monotone.Basic
import Mathlib.Algebra.Order.Ring.Int

/-! # Cutting a length into parts

The boundaries of parts that integer division gives: part `k` goes from the `k`th boundary to the
next one.  The parts differ in length where the division leaves a rest, and still meet without a
gap.
-/

namespace VkTurn.Order

/-- A sequence that starts at or before a point and ends after it passes the point in one of its
    steps. -/
theorem exists_step {f : Nat → Int} {n : Nat} {x : Int} (start : f 0 ≤ x) (passed : x < f n) :
    ∃ k < n, f k ≤ x ∧ x < f (k + 1) := by
  induction n with
  | zero => omega
  | succ n ih =>
    by_cases before : x < f n
    · obtain ⟨k, small, step⟩ := ih before
      exact ⟨k, by omega, step⟩
    · exact ⟨n, by omega, by omega, passed⟩

def boundary (low size parts k : Int) : Int :=
  low + (k * size).tdiv parts

variable {low size parts k l x : Int}

@[simp] theorem boundary_zero : boundary low size parts 0 = low := by
  simp [boundary]

theorem boundary_parts (positive : 0 < parts) :
    boundary low size parts parts = low + size := by
  unfold boundary
  rw [Int.mul_tdiv_cancel_left size (by omega)]

theorem boundary_eq_ediv (large : 0 ≤ size) (index : 0 ≤ k) :
    boundary low size parts k = low + k * size / parts := by
  unfold boundary
  rw [Int.tdiv_eq_ediv_of_nonneg (Int.mul_nonneg index large)]

theorem boundary_mono (large : 0 ≤ size) (positive : 0 < parts) (index : 0 ≤ k) (after : k ≤ l) :
    boundary low size parts k ≤ boundary low size parts l := by
  rw [boundary_eq_ediv large index, boundary_eq_ediv large (by omega)]
  have more : k * size ≤ l * size := Int.mul_le_mul_of_nonneg_right after large
  have := Int.ediv_le_ediv positive more
  omega

/-- No part is empty where every part can have one unit. -/
theorem boundary_lt (enough : parts ≤ size) (positive : 0 < parts) (index : 0 ≤ k) :
    boundary low size parts k < boundary low size parts (k + 1) := by
  have large : 0 ≤ size := by omega
  rw [boundary_eq_ediv large index, boundary_eq_ediv large (by omega)]
  have more : k * size + parts ≤ (k + 1) * size := by
    rw [Int.add_mul, Int.one_mul]
    omega
  have := Int.ediv_le_ediv positive more
  rw [Int.add_ediv_of_dvd_right (Int.dvd_refl parts), Int.ediv_self (by omega)] at this
  omega

/-- All parts have one length where the division leaves no rest. -/
theorem boundary_of_dvd (whole : parts ∣ size) :
    boundary low size parts k = low + k * size.tdiv parts := by
  unfold boundary
  rw [Int.mul_tdiv_assoc k whole]

theorem boundary_within (large : 0 ≤ size) (positive : 0 < parts) (index : 0 ≤ k)
    (small : k ≤ parts) :
    low ≤ boundary low size parts k ∧ boundary low size parts k ≤ low + size := by
  constructor
  · calc low = boundary low size parts 0 := boundary_zero.symm
      _ ≤ boundary low size parts k := boundary_mono large positive (by omega) index
  · calc boundary low size parts k ≤ boundary low size parts parts :=
          boundary_mono large positive index small
      _ = low + size := boundary_parts positive

/-- Every point of the length lies in a part. -/
theorem exists_part (positive : 0 < parts) (from_low : low ≤ x) (below : x < low + size) :
    ∃ k, 0 ≤ k ∧ k < parts ∧
      boundary low size parts k ≤ x ∧ x < boundary low size parts (k + 1) := by
  obtain ⟨count, rfl⟩ := Int.eq_ofNat_of_zero_le (show 0 ≤ parts by omega)
  rw [← boundary_parts positive] at below
  have passes : ∃ k < count, boundary low size count (k : Nat) ≤ x ∧
      x < boundary low size count ((k + 1 : Nat) : Int) :=
    exists_step (by simpa using from_low) below
  obtain ⟨k, small, reached, passed⟩ := passes
  exact ⟨k, by omega, by omega, reached, by simpa using passed⟩

/-- Two parts that share a point are the same. -/
theorem part_unique (large : 0 ≤ size) (positive : 0 < parts) (first : 0 ≤ k) (second : 0 ≤ l)
    (inFirst : boundary low size parts k ≤ x ∧ x < boundary low size parts (k + 1))
    (inSecond : boundary low size parts l ≤ x ∧ x < boundary low size parts (l + 1)) : k = l := by
  -- the earlier of two different parts ends before the later one starts
  have apart : ∀ {a b : Int}, 0 ≤ a → a < b → x < boundary low size parts (a + 1) →
      ¬ boundary low size parts b ≤ x := by
    intro a b index before ends starts
    have : boundary low size parts (a + 1) ≤ boundary low size parts b :=
      boundary_mono large positive (by omega) (by omega)
    omega
  rcases Int.lt_trichotomy k l with before | same | after
  · exact absurd inSecond.1 (apart first before inFirst.2)
  · exact same
  · exact absurd inFirst.1 (apart second after inSecond.2)

end VkTurn.Order
