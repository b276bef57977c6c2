import Mathlib.Data.Int.CardIntervalMod

/-! # Positions in cyclic order

The positions below `n` from a starting one on, with wrap-around: the search for the first that
passes a test, and how often each position comes up among the first ones.
-/

namespace VkTurn.Order

def cyclic (start n offset : Nat) : Nat := (start + offset) % n

variable {start n first second position offset other count : Nat} {test : Nat → Bool}

theorem cyclic_lt (positive : 0 < n) : cyclic start n offset < n :=
  Nat.mod_lt _ positive

theorem cyclic_zero (small : start < n) : cyclic start n 0 = start :=
  Nat.mod_eq_of_lt small

/-- Going on from a position of the order. -/
theorem cyclic_add : cyclic (cyclic start n offset) n other = cyclic start n (offset + other) := by
  unfold cyclic
  rw [Nat.mod_add_mod, Nat.add_assoc]

/-- The offset at which a position comes up. -/
def offsetOf (start n position : Nat) : Nat := (position + (n - start % n)) % n

theorem cyclic_eq_iff (small : position < n) :
    cyclic start n offset = position ↔ offset ≡ offsetOf start n position [MOD n] := by
  have positive : 0 < n := by omega
  have belowN := Nat.mod_lt start positive
  have wraps : start + offsetOf start n position ≡ position [MOD n] := by
    calc start + (position + (n - start % n)) % n
        ≡ start % n + (position + (n - start % n)) [MOD n] :=
          (Nat.mod_modEq start n).symm.add (Nat.mod_modEq _ n)
      _ = position + n := by omega
      _ ≡ position [MOD n] := Nat.add_modEq_right
  constructor
  · intro same
    refine Nat.ModEq.add_left_cancel' start ?_
    refine Nat.ModEq.trans ?_ wraps.symm
    rw [← same]
    exact (Nat.mod_modEq _ n).symm
  · intro congruent
    have same : start + offset ≡ position [MOD n] := (congruent.add_left start).trans wraps
    unfold cyclic
    rw [same, Nat.mod_eq_of_lt small]

/-- Every position comes up once among the first `n`. -/
theorem offsetOf_lt (small : position < n) : offsetOf start n position < n :=
  Nat.mod_lt _ (by omega)

theorem cyclic_offsetOf (small : position < n) :
    cyclic start n (offsetOf start n position) = position :=
  (cyclic_eq_iff small).mpr rfl

/-! ## The first position that passes -/

def firstFrom (start n : Nat) (test : Nat → Bool) : Option Nat :=
  ((List.range n).map (cyclic start n)).find? test

theorem firstFrom_eq_some : firstFrom start n test = some position ↔
    ∃ offset < n, cyclic start n offset = position ∧ test position = true ∧
      ∀ earlier < offset, test (cyclic start n earlier) = false := by
  unfold firstFrom
  rw [List.find?_eq_some_iff_getElem]
  simp only [List.length_map, List.length_range, List.getElem_map, List.getElem_range]
  constructor
  · rintro ⟨passes, offset, small, isPosition, fails⟩
    refine ⟨offset, small, isPosition, passes, fun earlier before => ?_⟩
    simpa using fails earlier before
  · rintro ⟨offset, small, isPosition, passes, fails⟩
    refine ⟨passes, offset, small, isPosition, fun earlier before => ?_⟩
    simpa using fails earlier before

theorem firstFrom_eq_none :
    firstFrom start n test = none ↔ ∀ position < n, test position = false := by
  unfold firstFrom
  rw [List.find?_eq_none]
  constructor
  · intro fails position small
    have member : position ∈ (List.range n).map (cyclic start n) :=
      List.mem_map.mpr ⟨offsetOf start n position, List.mem_range.mpr (offsetOf_lt small),
        cyclic_offsetOf small⟩
    simpa using fails position member
  · intro fails position member
    obtain ⟨offset, inRange, rfl⟩ := List.mem_map.mp member
    have positive : 0 < n := Nat.zero_lt_of_lt (List.mem_range.mp inRange)
    simpa using fails _ (cyclic_lt positive)

/-! ## How often a position comes up -/

theorem countP_range {holds : Nat → Prop} [DecidablePred holds] :
    (List.range count).countP (holds ·) = Nat.count holds count := by
  induction count with
  | zero => rfl
  | succ count inductionHypothesis =>
    rw [List.range_succ, List.countP_append, inductionHypothesis, Nat.count_succ]
    simp [List.countP_singleton]

theorem count_cyclic (small : position < n) :
    ((List.range count).map (cyclic start n)).count position =
      count / n + if offsetOf start n position < count % n then 1 else 0 := by
  have positive : 0 < n := by omega
  rw [List.count_eq_countP, List.countP_map]
  calc (List.range count).countP ((· == position) ∘ cyclic start n)
      = (List.range count).countP (· ≡ offsetOf start n position [MOD n]) :=
        List.countP_congr fun offset _ => by simp [cyclic_eq_iff small]
    _ = Nat.count (· ≡ offsetOf start n position [MOD n]) count := countP_range
    _ = _ := by
        rw [Nat.count_modEq_card count positive, Nat.mod_eq_of_lt (offsetOf_lt small)]

/-- Among consecutive positions every one comes up as often as the others, or once more. -/
theorem count_cyclic_le (firstSmall : first < n) (secondSmall : second < n) :
    ((List.range count).map (cyclic start n)).count first ≤
      ((List.range count).map (cyclic start n)).count second + 1 := by
  rw [count_cyclic firstSmall, count_cyclic secondSmall]
  split
  · split <;> omega
  · split <;> omega

end VkTurn.Order
