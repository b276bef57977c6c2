import Mathlib.Order.Basic

/-! # Counting loops

`for i := 0; i < n; i++` over a state, with the rule for what one round keeps and the rule for two
loops that run side by side.
-/

namespace VkTurn.Transition

universe u v

variable {σ : Type u} {τ : Type v} {n : Int}

def forRange (n : Int) (init : σ) (body : σ → Int → σ) : σ :=
  (List.range n.toNat).foldl (fun state (i : Nat) => body state i) init

/-- The invariant says what holds when the rounds below `i` are done. -/
theorem forRange_induction {invariant : Int → σ → Prop} {init : σ} {body : σ → Int → σ}
    (positive : 0 ≤ n) (start : invariant 0 init)
    (round : ∀ i state, 0 ≤ i → i < n → invariant i state → invariant (i + 1) (body state i)) :
    invariant n (forRange n init body) := by
  obtain ⟨count, rfl⟩ := Int.eq_ofNat_of_zero_le positive
  unfold forRange
  rw [Int.toNat_natCast]
  -- a shorter loop has gone through the same rounds
  have done : ∀ m, m ≤ count →
      invariant m ((List.range m).foldl (fun state (i : Nat) => body state i) init) := by
    intro m
    induction m with
    | zero => intro _; simpa using start
    | succ m ih =>
      intro small
      rw [List.range_succ, List.foldl_append]
      exact round m _ (by omega) (by omega) (ih (by omega))
  exact done count (Nat.le_refl count)

/-- Two loops over the same range, the rounds of which keep a relation between their states. -/
theorem forRange_related {related : σ → τ → Prop} {init : σ} {other : τ} {body : σ → Int → σ}
    {otherBody : τ → Int → τ} (start : related init other)
    (round : ∀ i state state', 0 ≤ i → i < n → related state state' →
      related (body state i) (otherBody state' i)) :
    related (forRange n init body) (forRange n other otherBody) := by
  unfold forRange
  have done : ∀ m, m ≤ n.toNat →
      related ((List.range m).foldl (fun state (i : Nat) => body state i) init)
        ((List.range m).foldl (fun state (i : Nat) => otherBody state i) other) := by
    intro m
    induction m with
    | zero => intro _; simpa using start
    | succ m ih =>
      intro small
      rw [List.range_succ, List.foldl_append, List.foldl_append]
      exact round m _ _ (by omega) (by omega) (ih (by omega))
  exact done n.toNat (Nat.le_refl _)

end VkTurn.Transition
