import Mathlib.Logic.Basic

/-! # A flag that one thread holds

A flag that is set by the thread that begins something, tested before, and cleared by the same
thread when it is done, lets one thread at a time in.  `inside` says of each thread whether it is
between the two.
-/

namespace VkTurn.Transition

universe u

/-- The flag is up exactly while a thread is inside, and no two threads are. -/
structure Exclusive {Thread : Type u} (flag : Bool) (inside : Thread → Bool) : Prop where
  held : flag = true ↔ ∃ thread, inside thread = true
  unique : ∀ first second, inside first = true → inside second = true → first = second

namespace Exclusive

variable {Thread : Type u} {flag : Bool} {inside after : Thread → Bool}

theorem nobody (exclusive : Exclusive flag inside) (free : flag = false) (other : Thread) :
    inside other = false := by
  refine Bool.eq_false_iff.mpr fun isInside => ?_
  rw [exclusive.held.mpr ⟨other, isInside⟩] at free
  cases free

theorem start (nobody : ∀ thread, inside thread = false) : Exclusive false inside where
  held := ⟨nofun, fun ⟨thread, isInside⟩ => nomatch (nobody thread).symm.trans isInside⟩
  unique first _ isInside := nomatch (nobody first).symm.trans isInside

theorem frame (exclusive : Exclusive flag inside)
    (same : ∀ other, after other = inside other) : Exclusive flag after := by
  rw [show after = inside from funext same]
  exact exclusive

/-- The thread found the flag down, and puts it up. -/
theorem acquire (thread : Thread) (exclusive : Exclusive flag inside) (free : flag = false)
    (enters : after thread = true) (others : ∀ other, other ≠ thread → after other = inside other) :
    Exclusive true after := by
  have isThread (other : Thread) (isInside : after other = true) : other = thread := by
    by_cases isThread : other = thread
    · exact isThread
    · rw [others other isThread, exclusive.nobody free other] at isInside
      cases isInside
  exact ⟨⟨fun _ => ⟨thread, enters⟩, fun _ => rfl⟩, fun first second isFirst isSecond =>
    (isThread first isFirst).trans (isThread second isSecond).symm⟩

/-- The thread that is inside leaves, and takes the flag down. -/
theorem release (thread : Thread) (exclusive : Exclusive flag inside)
    (wasInside : inside thread = true) (leaves : after thread = false)
    (others : ∀ other, other ≠ thread → after other = inside other) : Exclusive false after := by
  refine start fun other => Bool.eq_false_iff.mpr fun isInside => ?_
  by_cases isThread : other = thread
  · rw [isThread, leaves] at isInside
    cases isInside
  · rw [others other isThread] at isInside
    exact isThread (exclusive.unique other thread isInside wasInside)

/-- The thread that is inside goes on inside. -/
theorem stay (thread : Thread) (exclusive : Exclusive flag inside)
    (wasInside : inside thread = true) (stays : after thread = true)
    (others : ∀ other, other ≠ thread → after other = inside other) : Exclusive flag after := by
  refine exclusive.frame fun other => ?_
  by_cases isThread : other = thread
  · rw [isThread, stays, wasInside]
  · exact others other isThread

end Exclusive

end VkTurn.Transition
