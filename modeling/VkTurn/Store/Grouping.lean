import Mathlib.Data.List.AList
import Mathlib.Data.List.Induction
import Mathlib.Logic.Function.Basic

/-! # Maps that a loop fills

A loop goes through items, and an item that belongs to a key changes the entry of the key, which
the first such item creates.  The entry is then what the items of the key make of it one after
another.
-/

namespace VkTurn.Store

universe u v w

variable {ι : Type u} {κ : Type v} {α : Type w}

structure Grouping (ι : Type u) (κ : Type v) (α : Type w) where
  /-- The key of an item, if it has one. -/
  route : ι → Option κ
  create : ι → α
  change : ι → α → α

namespace Grouping

variable (grouping : Grouping ι κ α)

/-- What an item makes of the entry of its key. -/
def settle (entry : Option α) (item : ι) : Option α :=
  some (grouping.change item (entry.getD (grouping.create item)))

def fill [DecidableEq κ] (entries : κ → Option α) (item : ι) : κ → Option α :=
  match grouping.route item with
  | none => entries
  | some key => Function.update entries key (grouping.settle (entries key) item)

variable {grouping} {items : List ι}

theorem fill_apply [DecidableEq κ] (entries : κ → Option α) (item : ι) (key : κ) :
    grouping.fill entries item key =
      if grouping.route item = some key then grouping.settle (entries key) item
      else entries key := by
  unfold fill
  cases routed : grouping.route item with
  | none => simp
  | some other =>
    by_cases same : key = other
    · subst same
      simp
    · rw [if_neg (by simpa using Ne.symm same)]
      exact Function.update_of_ne same _ _

/-- The entry of a key is made by the items of the key. -/
theorem foldl_fill [DecidableEq κ] (entries : κ → Option α) (items : List ι) (key : κ) :
    items.foldl grouping.fill entries key =
      (items.filter fun item => grouping.route item = some key).foldl grouping.settle
        (entries key) := by
  induction items generalizing entries with
  | nil => rfl
  | cons item items inductionHypothesis =>
    rw [List.foldl_cons, inductionHypothesis, fill_apply, List.filter_cons]
    by_cases routed : grouping.route item = some key
    · simp [routed]
    · simp [routed]

/-- What the first item makes true and every later one keeps is true of the entry. -/
theorem settled_of_kept {holds : α → Prop}
    (created : ∀ item ∈ items, holds (grouping.change item (grouping.create item)))
    (kept : ∀ item ∈ items, ∀ value, holds value → holds (grouping.change item value))
    {entry : Option α} (start : ∀ value, entry = some value → holds value) {value : α}
    (settled : items.foldl grouping.settle entry = some value) : holds value := by
  induction items generalizing entry with
  | nil => exact start value settled
  | cons item items inductionHypothesis =>
    refine inductionHypothesis (fun item member => created item (by simp [member]))
      (fun item member => kept item (by simp [member])) ?_ settled
    intro value first
    rw [← Option.some.inj first]
    cases entry with
    | none => exact created item (by simp)
    | some earlier => exact kept item (by simp) earlier (start earlier rfl)

end Grouping

/-! ## Association lists -/

variable [DecidableEq κ] {map : AList fun _ : κ => α}

theorem lookup_insert_apply (map : AList fun _ : κ => α) (key : κ) (value : α) (other : κ) :
    (map.insert key value).lookup other =
      Function.update (fun key => map.lookup key) key (some value) other := by
  by_cases same : other = key
  · subst same
    simp
  · rw [Function.update_of_ne same, AList.lookup_insert_ne same]

/-- Of the items with one key the last one is stored. -/
theorem lookup_foldl_insert {ι : Type u} (keyOf : ι → κ) (valueOf : ι → α) (items : List ι)
    (key : κ) :
    (items.foldl (fun map item => map.insert (keyOf item) (valueOf item))
        (∅ : AList fun _ : κ => α)).lookup key =
      (items.reverse.find? fun item => keyOf item = key).map valueOf := by
  induction items using List.reverseRecOn with
  | nil => rfl
  | append_singleton items item inductionHypothesis =>
    rw [List.foldl_append, List.foldl_cons, List.foldl_nil, List.reverse_append,
      List.reverse_singleton, List.singleton_append, List.find?_cons]
    by_cases same : keyOf item = key
    · subst same
      simp
    · rw [AList.lookup_insert_ne (Ne.symm same), inductionHypothesis]
      simp [same]

/-- With one item for each key it is that item which is stored. -/
theorem lookup_foldl_insert_iff {ι : Type u} {keyOf : ι → κ} {valueOf : ι → α} {items : List ι}
    (unique : (items.map keyOf).Nodup) {key : κ} {value : α} :
    (items.foldl (fun map item => map.insert (keyOf item) (valueOf item))
        (∅ : AList fun _ : κ => α)).lookup key = some value ↔
      ∃ item ∈ items, keyOf item = key ∧ valueOf item = value := by
  rw [lookup_foldl_insert, Option.map_eq_some_iff]
  constructor
  · rintro ⟨item, found, rfl⟩
    have member := List.mem_of_find?_eq_some found
    exact ⟨item, List.mem_reverse.mp member, by simpa using List.find?_some found, rfl⟩
  · rintro ⟨item, member, rfl, rfl⟩
    have some_found : (items.reverse.find? fun other => keyOf other = keyOf item).isSome := by
      rw [List.find?_isSome]
      exact ⟨item, List.mem_reverse.mpr member, by simp⟩
    obtain ⟨found, isFound⟩ := Option.isSome_iff_exists.mp some_found
    have same : found = item :=
      List.inj_on_of_nodup_map unique
        (List.mem_reverse.mp (List.mem_of_find?_eq_some isFound)) member
        (by simpa using List.find?_some isFound)
    exact ⟨item, same ▸ isFound, rfl⟩

/-- The values that pass a test which only the entry of one key can pass. -/
theorem filter_values {key : κ} {test : α → Bool}
    (only : ∀ other value, map.lookup other = some value → test value = true → other = key) :
    (map.entries.map Sigma.snd).filter test = ((map.lookup key).filter test).toList := by
  have elsewhere : ∀ (entries : List (Sigma fun _ : κ => α)),
      (∀ entry ∈ entries, test entry.2 = false) → (entries.map Sigma.snd).filter test = [] := by
    intro entries fails
    rw [List.filter_eq_nil_iff]
    intro value member
    obtain ⟨entry, inEntries, rfl⟩ := List.mem_map.mp member
    simp [fails entry inEntries]
  have otherwise : ∀ entry ∈ map.entries, entry.1 ≠ key → test entry.2 = false := by
    intro entry member different
    by_contra passes
    exact different (only entry.1 entry.2 (AList.mem_lookup_iff.mpr member) (by simpa using passes))
  cases found : map.lookup key with
  | none =>
    rw [elsewhere]
    · rfl
    · intro entry member
      refine otherwise entry member fun same => ?_
      have absent := AList.lookup_eq_none.mp found
      exact absent (same ▸ List.mem_map_of_mem member)
  | some value =>
    have member := AList.mem_lookup_iff.mp found
    obtain ⟨before, after, cut⟩ := List.append_of_mem member
    -- the key has no second entry
    have nodup := map.nodupKeys
    rw [cut, List.nodupKeys_middle] at nodup
    have others : ∀ entry ∈ before ++ after, entry.1 ≠ key := by
      intro entry inRest same
      have inKeys : entry.1 ∈ (before ++ after).keys := List.mem_map_of_mem inRest
      exact (List.nodupKeys_cons.mp nodup).1 (same ▸ inKeys)
    have fails : ∀ entry ∈ before ++ after, test entry.2 = false := by
      intro entry inRest
      refine otherwise entry ?_ (others entry inRest)
      rw [cut]
      rcases List.mem_append.mp inRest with inBefore | inAfter
      · exact List.mem_append_left _ inBefore
      · exact List.mem_append_right _ (List.mem_cons_of_mem _ inAfter)
    rw [cut, List.map_append, List.map_cons, List.filter_append, List.filter_cons,
      elsewhere before fun entry inBefore => fails entry (List.mem_append_left _ inBefore),
      elsewhere after fun entry inAfter => fails entry (List.mem_append_right _ inAfter)]
    cases passes : test value <;> simp [Option.filter, passes]

end VkTurn.Store
