import Mathlib.Data.List.Basic
import Mathlib.Data.List.Perm.Basic
import Mathlib.Logic.Function.Basic

/-! # Handles that several threads hold

Handles are numbered in the order in which they are acquired, and a thread holds the ones that it
still has to close.  The account says that every handle is held in one place or has been closed
once, so that none is forgotten and none is closed a second time.
-/

namespace VkTurn.Transition

universe u

/-- A list around one of its entries. -/
theorem exists_around {Item : Type u} {items : List Item} {index : Nat} {item : Item}
    (found : items[index]? = some item) :
    ∃ before after, items = before ++ item :: after ∧
      ∀ other, items.set index other = before ++ other :: after := by
  obtain ⟨small, isItem⟩ := List.getElem?_eq_some_iff.mp found
  refine ⟨items.take index, items.drop (index + 1), ?_, fun other => ?_⟩
  · rw [← isItem, ← List.drop_eq_getElem_cons small, List.take_append_drop]
  · rw [List.set_eq_take_append_cons_drop, if_pos small]

section Around

variable {Item Value : Type u} {before after : List Item} {item : Item}

theorem flatMap_around (values : Item → List Value) :
    ((before ++ item :: after).flatMap values).Perm
      (values item ++ (before.flatMap values ++ after.flatMap values)) := by
  rw [List.flatMap_append, List.flatMap_cons]
  exact List.perm_append_comm_assoc ..

theorem filterMap_around (value : Item → Option Value) :
    ((before ++ item :: after).filterMap value).Perm
      ((value item).toList ++ (before.filterMap value ++ after.filterMap value)) := by
  rw [List.filterMap_append, List.filterMap_cons]
  cases value item with
  | none => exact List.Perm.refl _
  | some value =>
    show List.Perm (_ ++ value :: _) (value :: _)
    exact List.perm_middle

end Around

/-- `closes` says how often each handle has been closed, `next` is the first that is free. -/
structure Accounted (next : Nat) (closes : Nat → Nat) (held : List Nat) : Prop where
  once : ∀ handle < next, held.count handle + closes handle = 1
  free : ∀ handle, next ≤ handle → held.count handle + closes handle = 0

namespace Accounted

variable {next handle : Nat} {closes : Nat → Nat} {held held' : List Nat}

theorem start : Accounted 0 (fun _ => 0) [] :=
  ⟨fun _ impossible => absurd impossible (Nat.not_lt_zero _), fun _ _ => rfl⟩

theorem perm (accounted : Accounted next closes held) (same : held'.Perm held) :
    Accounted next closes held' where
  once handle small := by rw [same.count_eq, accounted.once handle small]
  free handle large := by rw [same.count_eq, accounted.free handle large]

theorem acquire (accounted : Accounted next closes held) :
    Accounted (next + 1) closes (next :: held) where
  once handle small := by
    by_cases isNew : handle = next
    · subst isNew
      have unused := accounted.free handle (Nat.le_refl _)
      rw [List.count_cons_self]
      omega
    · rw [List.count_cons_of_ne (Ne.symm isNew)]
      exact accounted.once handle (by omega)
  free handle large := by
    rw [List.count_cons_of_ne (by omega)]
    exact accounted.free handle (by omega)

theorem close (accounted : Accounted next closes (handle :: held)) :
    Accounted next (Function.update closes handle (closes handle + 1)) held where
  once other small := by
    have before := accounted.once other small
    by_cases isClosed : other = handle
    · subst isClosed
      rw [List.count_cons_self] at before
      rw [Function.update_self]
      omega
    · rw [List.count_cons_of_ne (Ne.symm isClosed)] at before
      rwa [Function.update_of_ne isClosed]
  free other large := by
    have before := accounted.free other large
    by_cases isClosed : other = handle
    · subst isClosed
      rw [List.count_cons_self] at before
      omega
    · rw [List.count_cons_of_ne (Ne.symm isClosed)] at before
      rwa [Function.update_of_ne isClosed]

/-- A handle is closed as soon as it is acquired. -/
theorem acquire_close (accounted : Accounted next closes held) :
    Accounted (next + 1) (Function.update closes next (closes next + 1)) held :=
  accounted.acquire.close

theorem nodup (accounted : Accounted next closes held) : held.Nodup := by
  rw [List.nodup_iff_count]
  intro handle
  rcases Nat.lt_or_ge handle next with small | large
  · have once := accounted.once handle small
    omega
  · have free := accounted.free handle large
    omega

/-- Nothing is left open where nobody holds anything. -/
theorem closed_once (accounted : Accounted next closes []) (small : handle < next) :
    closes handle = 1 := by
  have once := accounted.once handle small
  simpa using once

end Accounted

end VkTurn.Transition
