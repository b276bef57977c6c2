import Mathlib.Data.List.InsertIdx

/-! # The first of a kind in front

A list with the first of its items that is chosen moved to the front, or with another item put
there.
-/

namespace VkTurn.Store

universe u v

variable {Item : Type u} {Other : Type v} {chosen : Item → Bool} {fallback : Item}
  {items hoisted : List Item}

/-- The list `items`, and the same with a chosen item in front. -/
inductive Hoisted (chosen : Item → Bool) (fallback : Item) : List Item → List Item → Prop
  | moved {before after : List Item} {item : Item} :
      (∀ other ∈ before, chosen other = false) → chosen item = true →
      Hoisted chosen fallback (before ++ item :: after) (item :: (before ++ after))
  | added {items : List Item} :
      (∀ item ∈ items, chosen item = false) → Hoisted chosen fallback items (fallback :: items)

/-- Moving the item at an index, or putting another one in front. -/
def hoist (fallback : Item) (items : List Item) : Option Nat → List Item
  | some i => (items[i]?).toList ++ items.eraseIdx i
  | none => fallback :: items

theorem hoist_map (convert : Item → Other) (i : Option Nat) :
    hoist (convert fallback) (items.map convert) i = (hoist fallback items i).map convert := by
  cases i with
  | none => rfl
  | some i =>
    simp only [hoist]
    rw [List.map_append, List.eraseIdx_map, List.getElem?_map]
    cases items[i]? <;> rfl

/-- What is found first is what is moved. -/
theorem hoist_findIdx? : Hoisted chosen fallback items
    (hoist fallback items (items.findIdx? chosen)) := by
  cases found : items.findIdx? chosen with
  | none => exact .added (List.findIdx?_eq_none_iff.mp found)
  | some i =>
    obtain ⟨small, isChosen, before⟩ := List.findIdx?_eq_some_iff_getElem.mp found
    have split : items = items.take i ++ items[i] :: items.drop (i + 1) := by
      rw [List.getElem_cons_drop, List.take_append_drop]
    have unchosen : ∀ other ∈ items.take i, chosen other = false := by
      intro other member
      obtain ⟨j, smaller, isAt⟩ := List.mem_iff_getElem.mp member
      rw [List.length_take] at smaller
      rw [List.getElem_take] at isAt
      simpa [isAt] using before j (by omega)
    have moved := @Hoisted.moved _ chosen fallback _ (items.drop (i + 1)) _ unchosen isChosen
    rw [← split] at moved
    simp only [hoist]
    rw [List.getElem?_eq_getElem small, List.eraseIdx_eq_take_drop_succ]
    exact moved

/-- An item that is chosen is in front. -/
theorem Hoisted.front (isHoisted : Hoisted chosen fallback items hoisted)
    (isFallback : chosen fallback = true) : hoisted.findIdx? chosen = some 0 := by
  cases isHoisted with
  | moved _ isChosen => simp [List.findIdx?_cons, isChosen]
  | added _ => simp [List.findIdx?_cons, isFallback]

/-- A list with a chosen item in front is hoisted already. -/
theorem hoisted_self (isFront : items.findIdx? chosen = some 0) :
    Hoisted chosen fallback items items := by
  cases items with
  | nil => cases isFront
  | cons item rest =>
    have isChosen : chosen item = true := by
      by_contra notChosen
      simp [List.findIdx?_cons, notChosen] at isFront
    exact @Hoisted.moved _ chosen fallback [] rest item (by simp) isChosen

/-- No item is lost and none is made twice. -/
theorem Hoisted.perm (isHoisted : Hoisted chosen fallback items hoisted) :
    hoisted.Perm items ∨ hoisted.Perm (fallback :: items) := by
  cases isHoisted with
  | moved _ _ => exact .inl List.perm_middle.symm
  | added _ => exact .inr (List.Perm.refl _)

end VkTurn.Store
