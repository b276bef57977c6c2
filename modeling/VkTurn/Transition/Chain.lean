import Mathlib.Data.Option.Basic
import Mathlib.Data.Set.Finite.Basic

/-! # Chains of a partial function

A partial function is followed from a start for as long as it is defined.  The chain ends if and
only if there is no endless one from the start; where the function is defined on finitely many
points only, if and only if no point is reached twice.
-/

namespace VkTurn.Transition

universe u

variable {Point : Type u} {next : Point → Option Point} {start point : Point} {first second : Nat}

/-- The point that is reached after some steps. -/
def follow (next : Point → Option Point) : Nat → Point → Option Point
  | 0, point => some point
  | steps + 1, point => (next point).bind (follow next steps)

def ChainEnds (next : Point → Option Point) (start : Point) : Prop :=
  ∃ steps, follow next steps start = none

/-- An endless chain from a start. -/
structure EndlessChain (next : Point → Option Point) (start : Point) (points : Nat → Point) :
    Prop where
  zero : points 0 = start
  succ : ∀ steps, next (points steps) = some (points (steps + 1))

theorem follow_add (next : Point → Option Point) (first second : Nat) (start : Point) :
    follow next (first + second) start = (follow next first start).bind (follow next second) := by
  induction first generalizing start with
  | zero => rw [Nat.zero_add, follow, Option.bind_some]
  | succ first inductionHypothesis =>
    rw [Nat.succ_add, follow, follow, Option.bind_assoc]
    congr 1
    funext point
    exact inductionHypothesis point

theorem follow_succ (next : Point → Option Point) (steps : Nat) (start : Point) :
    follow next (steps + 1) start = (follow next steps start).bind next := by
  rw [follow_add]
  congr 1
  funext point
  simp [follow]

/-- A chain that has ended has no later point. -/
theorem follow_none_mono (ended : follow next first start = none) (later : first ≤ second) :
    follow next second start = none := by
  obtain ⟨more, rfl⟩ := Nat.exists_eq_add_of_le later
  rw [follow_add, ended, Option.bind_none]

theorem EndlessChain.follow {points : Nat → Point} (endless : EndlessChain next start points)
    (steps : Nat) : follow next steps start = some (points steps) := by
  induction steps with
  | zero => rw [Transition.follow, endless.zero]
  | succ steps inductionHypothesis =>
    rw [follow_succ, inductionHypothesis, Option.bind_some, endless.succ]

theorem exists_endless (never : ¬ ChainEnds next start) :
    ∃ points, EndlessChain next start points := by
  have defined (steps : Nat) : ∃ point, follow next steps start = some point := by
    apply Option.ne_none_iff_exists'.mp
    exact fun ended => never ⟨steps, ended⟩
  choose points reached using defined
  refine ⟨points, Option.some.inj (reached 0).symm, fun steps => ?_⟩
  have step := reached (steps + 1)
  rwa [follow_succ, reached steps, Option.bind_some] at step

theorem chainEnds_iff_no_endless :
    ChainEnds next start ↔ ¬ ∃ points, EndlessChain next start points := by
  constructor
  · rintro ⟨steps, ended⟩ ⟨points, endless⟩
    rw [endless.follow steps] at ended
    cases ended
  · intro noEndless
    by_contra never
    exact noEndless (exists_endless never)

/-- What comes after a point that is reached twice comes again and again. -/
theorem follow_cycle (reached : follow next first start = some point)
    (again : follow next second start = some point) (later : first < second) (rounds : Nat) :
    follow next (first + rounds * (second - first)) start = some point := by
  induction rounds with
  | zero => rw [Nat.zero_mul, Nat.add_zero, reached]
  | succ rounds inductionHypothesis =>
    have round : follow next (second - first) point = some point := by
      rw [← Nat.add_sub_cancel' later.le, follow_add, reached, Option.bind_some] at again
      exact again
    rw [Nat.succ_mul, ← Nat.add_assoc, follow_add, inductionHypothesis, Option.bind_some, round]

theorem chainEnds_iff_no_repetition (finite : {point | (next point).isSome}.Finite) :
    ChainEnds next start ↔ ∀ first second point, first < second →
      follow next first start = some point → follow next second start ≠ some point := by
  constructor
  · rintro ⟨steps, ended⟩ first second point later reached again
    have cycle := follow_cycle reached again later steps
    have farther : steps ≤ first + steps * (second - first) := by
      have turn : 1 ≤ second - first := Nat.sub_pos_of_lt later
      have product := Nat.mul_le_mul_left steps turn
      omega
    rw [follow_none_mono ended farther] at cycle
    cases cycle
  · intro noRepetition
    by_contra never
    obtain ⟨points, endless⟩ := exists_endless never
    have injective : Function.Injective points := by
      intro first second same
      by_contra differs
      rcases Nat.lt_or_gt_of_ne differs with later | later
      · exact noRepetition first second _ later (endless.follow first)
          (same ▸ endless.follow second)
      · exact noRepetition second first _ later (endless.follow second)
          (same ▸ endless.follow first)
    have defined (steps : Nat) : points steps ∈ {point | (next point).isSome} := by
      rw [Set.mem_ofPred_eq, endless.succ steps]
      rfl
    exact Set.infinite_of_injective_forall_mem injective defined finite

end VkTurn.Transition
