import Mathlib.Data.List.Forall2
import VkTurn.Store.Transaction

/-! # Programs that go through

`Runs` follows a program that succeeds through each of its statements, to the state that it leaves.

A map that a program fills from a list has the last of the entries under each key.  `KeepsMine`
compares two such lists, entry by entry, where one of them may have more entries of one owner.
-/

namespace VkTurn.Store

universe u v

/-! ## Going through -/

section Runs

variable {State Value Result : Type} {state middle next : State} {program : Program State Value}
  {value : Value} {result : Result}

/-- From `state`, the program succeeds with `value` and leaves `next`. -/
def Runs (program : Program State Value) (state : State) (value : Value) (next : State) : Prop :=
  program state = (.ok value, next)

theorem Runs.pure : Runs (Pure.pure value) state value state := rfl

theorem Runs.bind {after : Value → Program State Result} (first : Runs program state value middle)
    (rest : Runs (after value) middle result next) :
    Runs (program >>= after) state result next := by
  unfold Runs at first rest ⊢
  show (ExceptT.bind program after) state = _
  simp only [ExceptT.bind, ExceptT.mk, Bind.bind, StateT.bind]
  rw [first]
  exact rest

theorem Runs.query {read : State → Except String Value} (answers : read state = .ok value) :
    Runs (Store.query read) state value state := by
  unfold Runs Store.query
  rw [answers]

/-- A check that does not throw. -/
theorem Runs.refuse {refused : Prop} [Decidable refused] {message : String}
    {after : Value → Program State Result} {rest : Program State Result} (passed : ¬ refused)
    (ran : Runs rest state result next) :
    Runs (if refused then (MonadExcept.throw message : Program State Value) >>= after else rest)
      state result next := by
  rw [if_neg passed]
  exact ran

theorem Runs.transaction {body : State → Except String State} (ran : body state = .ok next) :
    Runs (Store.transaction false body) state () next := by
  unfold Runs Store.transaction
  simp [ran]

theorem Runs.uncheckedTransaction {body : State → Except String State}
    (ran : body state = .ok next) :
    Runs (Store.uncheckedTransaction false body) state () next := by
  unfold Runs Store.uncheckedTransaction
  simp [ran]

end Runs

/-! ## The last entry under a key -/

section LastEntry

variable {Key : Type u} {Value : Type v} [BEq Key] {key : Key} {mine : Value → Prop}
  {first second first' second' before after : List (Key × Value)}

/-- What a map that is filled from the entries has under the key. -/
def lastEntry (key : Key) (entries : List (Key × Value)) : Option Value :=
  entries.reverse.lookup key

theorem lastEntry_append : lastEntry key (first ++ second) =
    (lastEntry key second).or (lastEntry key first) := by
  unfold lastEntry
  rw [List.reverse_append, List.lookup_append]

/-- Under the key, the later entries belong to nobody else if the earlier ones do not. -/
structure KeepsMine (mine : Value → Prop) (key : Key) (before after : List (Key × Value)) :
    Prop where
  ofNone : lastEntry key before = none → ∀ value, lastEntry key after = some value → mine value
  ofMine : ∀ value, lastEntry key before = some value → mine value →
    ∃ later, lastEntry key after = some later ∧ mine later

theorem KeepsMine.nil : KeepsMine mine key ([] : List (Key × Value)) [] :=
  ⟨fun _ _ found => (nomatch found), fun _ found => (nomatch found)⟩

theorem KeepsMine.append (atFirst : KeepsMine mine key first first')
    (atSecond : KeepsMine mine key second second') :
    KeepsMine mine key (first ++ second) (first' ++ second') := by
  constructor
  · intro nothing value found
    rw [lastEntry_append, Option.or_eq_none_iff] at nothing
    rw [lastEntry_append, Option.or_eq_some_iff] at found
    obtain inSecond | ⟨_, inFirst⟩ := found
    · exact atSecond.ofNone nothing.1 value inSecond
    · exact atFirst.ofNone nothing.2 value inFirst
  · intro value found isMine
    rw [lastEntry_append, Option.or_eq_some_iff] at found
    rw [lastEntry_append]
    obtain inSecond | ⟨nothing, inFirst⟩ := found
    · obtain ⟨later, isLater, stays⟩ := atSecond.ofMine value inSecond isMine
      exact ⟨later, by rw [isLater, Option.some_or], stays⟩
    · -- a later entry of the second list counts, and is of the same owner
      cases inLater : lastEntry key second' with
      | some later => exact ⟨later, Option.some_or, atSecond.ofNone nothing later inLater⟩
      | none =>
        obtain ⟨later, isLater, stays⟩ := atFirst.ofMine value inFirst isMine
        exact ⟨later, by rw [Option.none_or, isLater], stays⟩

theorem KeepsMine.flatMap {Row Row' : Type*} {entries : Row → List (Key × Value)}
    {entries' : Row' → List (Key × Value)} {rows : List Row} {rows' : List Row'}
    (keeps : List.Forall₂ (fun row row' => KeepsMine mine key (entries row) (entries' row'))
      rows rows') :
    KeepsMine mine key (rows.flatMap entries) (rows'.flatMap entries') := by
  induction keeps with
  | nil => exact KeepsMine.nil
  | cons head _ inductionHypothesis =>
    rw [List.flatMap_cons, List.flatMap_cons]
    exact head.append inductionHypothesis

theorem KeepsMine.filterMap {Row Row' : Type*} {entry : Row → Option (Key × Value)}
    {entry' : Row' → Option (Key × Value)} {rows : List Row} {rows' : List Row'}
    (keeps : List.Forall₂
      (fun row row' => KeepsMine mine key (entry row).toList (entry' row').toList) rows rows') :
    KeepsMine mine key (rows.filterMap entry) (rows'.filterMap entry') := by
  rw [List.filterMap_eq_flatMap_toList, List.filterMap_eq_flatMap_toList]
  exact KeepsMine.flatMap keeps

/-- If the last entry was nobody else's, it still is. -/
theorem KeepsMine.forall_mine (keeps : KeepsMine mine key before after)
    (isMine : ∀ value, lastEntry key before = some value → mine value) :
    ∀ value, lastEntry key after = some value → mine value := by
  intro value found
  cases last : lastEntry key before with
  | none => exact keeps.ofNone last value found
  | some earlier =>
    obtain ⟨later, isLater, stays⟩ := keeps.ofMine earlier last (isMine earlier last)
    cases isLater.symm.trans found
    exact stays

/-- Whatever was there before, the owner has the entry now. -/
theorem KeepsMine.of_single [ReflBEq Key] {value : Value} (isMine : mine value) :
    KeepsMine mine key before [(key, value)] := by
  have isLast : lastEntry key [(key, value)] = some value := List.lookup_cons_self
  refine ⟨fun _ other found => ?_, fun _ _ _ => ⟨value, isLast, isMine⟩⟩
  cases isLast.symm.trans found
  exact isMine

/-- Entries under the same key, of the owner if the earlier one is. -/
theorem KeepsMine.single {other : Key} {value later : Value} (stays : mine value → mine later) :
    KeepsMine mine key [(other, value)] [(other, later)] := by
  have one (value : Value) : lastEntry key [(other, value)] =
      if key == other then some value else none := by
    unfold lastEntry
    rw [List.reverse_singleton, List.lookup_cons, List.lookup_nil]
    cases key == other <;> rfl
  refine ⟨fun nothing value found => ?_, fun value found isMine => ?_⟩
  · rw [one] at nothing found
    split at found
    · rename_i same
      rw [if_pos same] at nothing
      cases nothing
    · cases found
  · rw [one] at found ⊢
    split at found
    · rename_i same
      cases found
      exact ⟨later, if_pos same, stays isMine⟩
    · cases found

end LastEntry

/-! ## One value exchanged -/

/-- A list and the list with one value exchanged, value by value. -/
theorem forall₂_set {Value : Type u} {related : Value → Value → Prop} {values : List Value}
    {index : Nat} {value : Value} (same : ∀ value ∈ values, related value value)
    (exchanged : ∀ old, values[index]? = some old → related old value) :
    List.Forall₂ related values (values.set index value) := by
  induction values generalizing index with
  | nil => exact List.Forall₂.nil
  | cons head tail inductionHypothesis =>
    have tailSame : ∀ value ∈ tail, related value value := fun value member =>
      same value (List.mem_cons_of_mem _ member)
    cases index with
    | zero => exact .cons (exchanged head rfl) (List.forall₂_same.mpr tailSame)
    | succ index =>
      exact .cons (same head List.mem_cons_self)
        (inductionHypothesis tailSame fun old isOld => exchanged old isOld)

end VkTurn.Store
