import Mathlib.Data.List.Pairwise
import Mathlib.Data.Option.Basic

/-! # Keys served on behalf of their holders

A pool serves keys.  Holders each hold one key of a pool and want it served or not; what is
served matches when exactly the keys that are wanted are served, as far as keys are held.

Several holders may hold the blank key, which no pool serves.  Every other key of a pool has
one holder, so a pool can change what it serves for one holder without touching the others:
that is `Matches.exchange`.
-/

namespace VkTurn.Store

universe u v

structure Holder (Pool : Type u) (Key : Type v) where
  pool : Pool
  key : Key
  wants : Bool
  deriving DecidableEq

section Holding

variable {Pool : Type u} {Key : Type v} {blank : Key} {pool : Pool}
  {served served' : Pool → Key → Prop} {old new : Option (Holder Pool Key)}
  {others holders : List (Holder Pool Key)}

def Holder.Apart (blank : Key) (first second : Holder Pool Key) : Prop :=
  first.pool = second.pool → first.key = second.key → first.key = blank

instance : Std.Symm (fun first second : Holder Pool Key => first.Apart blank second) where
  symm _ _ apart samePool sameKey := sameKey.trans (apart samePool.symm sameKey.symm)

def Matches (served : Pool → Key → Prop) (holders : List (Holder Pool Key)) : Prop :=
  ∀ holder ∈ holders, holder.wants = true ↔ served holder.pool holder.key

/-- One holder `old` gives way to `new`, and `pool` changes what it serves at their keys only. -/
structure Exchange (blank : Key) (served served' : Pool → Key → Prop) (pool : Pool)
    (old new : Option (Holder Pool Key)) : Prop where
  blankBefore : ¬ served pool blank
  blankAfter : ¬ served' pool blank
  elsewhere : ∀ other key, other ≠ pool → (served' other key ↔ served other key)
  kept : ∀ key, (∀ holder ∈ old, key ≠ holder.key) → (∀ holder ∈ new, key ≠ holder.key) →
    (served' pool key ↔ served pool key)
  oldPool : ∀ holder ∈ old, holder.pool = pool
  newPool : ∀ holder ∈ new, holder.pool = pool
  newMatches : ∀ holder ∈ new, holder.wants = true ↔ served' pool holder.key

theorem Matches.exchange (matching : Matches served (old.toList ++ others))
    (apart : (old.toList ++ others).Pairwise (Holder.Apart blank))
    (exchange : Exchange blank served served' pool old new)
    (fresh : ∀ holder ∈ new, ∀ other ∈ others, holder.Apart blank other) :
    Matches served' (new.toList ++ others) := by
  intro holder member
  rcases List.mem_append.mp member with isNew | inOthers
  · have isNew := Option.mem_toList.mp isNew
    rw [exchange.newPool holder isNew]
    exact exchange.newMatches holder isNew
  · have before := matching holder (List.mem_append_right _ inOthers)
    by_cases here : holder.pool = pool
    · by_cases isBlank : holder.key = blank
      · rw [here, isBlank] at before ⊢
        exact ⟨fun wants => absurd (before.mp wants) exchange.blankBefore,
          fun served => absurd served exchange.blankAfter⟩
      · -- a key that is not blank has one holder, so it is neither the old one nor the new one
        have notOld : ∀ gone ∈ old, holder.key ≠ gone.key := by
          intro gone isOld same
          have pair := (List.pairwise_append.mp apart).2.2 gone (Option.mem_toList.mpr isOld)
            holder inOthers
          have samePool := (exchange.oldPool gone isOld).trans here.symm
          exact isBlank (same.trans (pair samePool same.symm))
        have notNew : ∀ come ∈ new, holder.key ≠ come.key := by
          intro come isNew same
          have samePool := (exchange.newPool come isNew).trans here.symm
          exact isBlank (same.trans (fresh come isNew holder inOthers samePool same.symm))
        rw [before, here]
        exact (exchange.kept holder.key notOld notNew).symm
    · rw [before]
      exact (exchange.elsewhere holder.pool holder.key here).symm

end Holding

end VkTurn.Store
