import Mathlib.Data.List.Basic
import Mathlib.Data.List.Nodup
import Mathlib.Data.List.Flatten

/-! # Tables, and programs that read and write them

A table is its rows with the constraint its schema puts on them; a write that would break the
constraint fails.  A program may fail at any statement and keeps what it wrote before, unless
it wrote inside a transaction.

`Ensures` says what a program started in a state ends with, when it succeeds and when it
fails; its rules follow the shape of the program.
-/

namespace VkTurn.Store

universe u v

/-! ## Fallible statements -/

section Fallible

variable {Error Value Result : Type} {value : Value} {result : Result}

theorem bind_eq_ok {first : Except Error Value} {next : Value → Except Error Result} :
    first >>= next = .ok result ↔ ∃ value, first = .ok value ∧ next value = .ok result := by
  cases first with
  | error message => exact ⟨nofun, fun ⟨_, isOk, _⟩ => nomatch isOk⟩
  | ok value => exact ⟨fun ends => ⟨value, rfl, ends⟩, fun ⟨_, isOk, ends⟩ => by cases isOk; exact ends⟩

theorem pure_eq_ok {other : Value} : (pure other : Except Error Value) = .ok value ↔
    other = value :=
  ⟨fun ends => Except.ok.inj ends, fun same => congrArg Except.ok same⟩

/-- A check that throws, and what follows it. -/
theorem refuse_eq_ok {refused : Prop} [Decidable refused] {message : Error}
    {next : Value → Except Error Result} {rest : Except Error Result} :
    (if refused then (throw message : Except Error Value) >>= next else rest) = .ok result ↔
      ¬ refused ∧ rest = .ok result := by
  by_cases isRefused : refused
  · rw [if_pos isRefused]
    exact ⟨nofun, fun passed => absurd isRefused passed.1⟩
  · rw [if_neg isRefused]
    exact ⟨fun ends => ⟨isRefused, ends⟩, And.right⟩

variable {read : Value → Except Error Value} {values results : List Value}

theorem mapM_cons_eq_ok {head : Value} : (head :: values).mapM read = .ok results ↔
    ∃ first rest, read head = .ok first ∧ values.mapM read = .ok rest ∧
      results = first :: rest := by
  rw [List.mapM_cons]
  simp only [bind_eq_ok, pure_eq_ok]
  exact ⟨fun ⟨first, isFirst, rest, isRest, same⟩ => ⟨first, rest, isFirst, isRest, same.symm⟩,
    fun ⟨first, rest, isFirst, isRest, same⟩ => ⟨first, isFirst, rest, isRest, same.symm⟩⟩

/-- What a reading keeps of each value it keeps of all. -/
theorem mapM_map_eq {Part : Type} {part : Value → Part}
    (keeps : ∀ value result, read value = .ok result → part result = part value)
    (mapped : values.mapM read = .ok results) : results.map part = values.map part := by
  induction values generalizing results with
  | nil =>
    cases pure_eq_ok.mp mapped
    rfl
  | cons head tail inductionHypothesis =>
    obtain ⟨first, rest, isFirst, isRest, rfl⟩ := mapM_cons_eq_ok.mp mapped
    rw [List.map_cons, List.map_cons, keeps _ _ isFirst, inductionHypothesis isRest]

/-- Readings that can only come to one result. -/
theorem mapM_eq_map {reading : Value → Except Error Result} {function : Value → Result}
    (reads : ∀ value result, reading value = .ok result → result = function value)
    {parts : List Result} (mapped : values.mapM reading = .ok parts) :
    parts = values.map function := by
  induction values generalizing parts with
  | nil =>
    cases pure_eq_ok.mp mapped
    rfl
  | cons head tail inductionHypothesis =>
    rw [List.mapM_cons] at mapped
    obtain ⟨first, isFirst, mapped⟩ := bind_eq_ok.mp mapped
    obtain ⟨rest, isRest, mapped⟩ := bind_eq_ok.mp mapped
    cases pure_eq_ok.mp mapped
    rw [List.map_cons, reads _ _ isFirst, inductionHypothesis isRest]

theorem mapM_eq_ok_map {reading : Value → Except Error Result} {function : Value → Result}
    (reads : ∀ value ∈ values, reading value = .ok (function value)) :
    values.mapM reading = .ok (values.map function) := by
  induction values with
  | nil => rfl
  | cons head tail inductionHypothesis =>
    obtain ⟨first, rest⟩ := List.forall_mem_cons.mp reads
    rw [List.mapM_cons, first, inductionHypothesis rest]
    rfl

theorem length_of_mapM_eq_ok {reading : Value → Except Error Result} {parts : List Result}
    (mapped : values.mapM reading = .ok parts) : parts.length = values.length := by
  induction values generalizing parts with
  | nil =>
    cases pure_eq_ok.mp mapped
    rfl
  | cons head tail inductionHypothesis =>
    rw [List.mapM_cons] at mapped
    obtain ⟨first, isFirst, mapped⟩ := bind_eq_ok.mp mapped
    obtain ⟨rest, isRest, mapped⟩ := bind_eq_ok.mp mapped
    cases pure_eq_ok.mp mapped
    rw [List.length_cons, List.length_cons, inductionHypothesis isRest]

theorem exists_of_mapM_eq_ok {reading : Value → Except Error Result} {parts : List Result}
    (mapped : values.mapM reading = .ok parts) {value : Value} (member : value ∈ values) :
    ∃ part ∈ parts, reading value = .ok part := by
  induction values generalizing parts with
  | nil => cases member
  | cons head tail inductionHypothesis =>
    rw [List.mapM_cons] at mapped
    obtain ⟨first, isFirst, mapped⟩ := bind_eq_ok.mp mapped
    obtain ⟨rest, isRest, mapped⟩ := bind_eq_ok.mp mapped
    cases pure_eq_ok.mp mapped
    rcases List.mem_cons.mp member with rfl | inTail
    · exact ⟨first, List.mem_cons_self, isFirst⟩
    · obtain ⟨part, inRest, isPart⟩ := inductionHypothesis isRest inTail
      exact ⟨part, List.mem_cons_of_mem _ inRest, isPart⟩

theorem forall_of_mapM_eq_ok {holds : Value → Prop}
    (reads : ∀ value result, read value = .ok result → holds result)
    (mapped : values.mapM read = .ok results) : ∀ result ∈ results, holds result := by
  induction values generalizing results with
  | nil =>
    cases pure_eq_ok.mp mapped
    nofun
  | cons head tail inductionHypothesis =>
    obtain ⟨first, rest, isFirst, isRest, rfl⟩ := mapM_cons_eq_ok.mp mapped
    intro result member
    rcases List.mem_cons.mp member with rfl | inRest
    · exact reads _ _ isFirst
    · exact inductionHypothesis isRest result inRest

/-- What each step of a loop keeps, the loop keeps. -/
theorem foldlM_keeps {State Item : Type} {step : State → Item → Except Error State}
    (holds : State → Prop) {items : List Item} {state next : State}
    (keeps : ∀ before item after, item ∈ items → holds before → step before item = .ok after →
      holds after)
    (held : holds state) (ran : items.foldlM step state = .ok next) : holds next := by
  induction items generalizing state with
  | nil =>
    cases pure_eq_ok.mp ran
    exact held
  | cons head tail inductionHypothesis =>
    rw [List.foldlM_cons] at ran
    obtain ⟨middle, first, rest⟩ := bind_eq_ok.mp ran
    exact inductionHypothesis (fun before item after member => keeps before item after (by simp [member]))
      (keeps _ _ _ List.mem_cons_self held first) rest

/-- What the step of one item brings about, and the steps of the others keep. -/
theorem foldlM_reaches {State Item : Type} {step : State → Item → Except Error State}
    (reached : State → Prop) {items : List Item} {item : Item} {state next : State}
    (member : item ∈ items)
    (keeps : ∀ before other after, reached before → step before other = .ok after → reached after)
    (does : ∀ before after, step before item = .ok after → reached after)
    (ran : items.foldlM step state = .ok next) : reached next := by
  induction items generalizing state with
  | nil => cases member
  | cons head tail inductionHypothesis =>
    rw [List.foldlM_cons] at ran
    obtain ⟨middle, first, rest⟩ := bind_eq_ok.mp ran
    rcases List.mem_cons.mp member with rfl | inTail
    · exact foldlM_keeps reached (fun before other after _ => keeps before other after)
        (does _ _ first) rest
    · exact inductionHypothesis inTail rest

end Fallible

/-! ## Tables -/

structure Table (Row : Type u) (Valid : List Row → Prop) where
  rows : List Row
  valid : Valid rows

namespace Table

variable {Row : Type u} {Valid : List Row → Prop}

def write [DecidablePred Valid] (rows : List Row) : Except String (Table Row Valid) :=
  if valid : Valid rows then .ok ⟨rows, valid⟩ else .error "UNIQUE constraint failed"

theorem write_eq_ok [DecidablePred Valid] {rows : List Row} {table : Table Row Valid} :
    write rows = .ok table ↔ table.rows = rows := by
  unfold write
  split
  · rename_i valid
    constructor
    · intro written
      cases written
      rfl
    · intro same
      cases table
      cases same
      rfl
  · rename_i invalid
    constructor
    · intro written
      cases written
    · intro same
      exact absurd (same ▸ table.valid) invalid

theorem write_of_valid [DecidablePred Valid] {rows : List Row} (valid : Valid rows) :
    write rows = .ok (⟨rows, valid⟩ : Table Row Valid) :=
  write_eq_ok.mpr rfl

end Table

section ReplaceRow

variable {Row : Type u} {Key : Type v} [DecidableEq Key] {key : Row → Key}
  {row found other : Row} {rows : List Row}

/-- The rows after the one with the key of `row` was overwritten by it. -/
def replaceRow (key : Row → Key) (row : Row) (rows : List Row) : List Row :=
  rows.map fun other => if key other = key row then row else other

/-- A column in which the new row agrees with the one it overwrites keeps all its values. -/
theorem map_replaceRow {Column : Type v} {column : Row → Column}
    (agrees : ∀ other ∈ rows, key other = key row → column other = column row) :
    (replaceRow key row rows).map column = rows.map column := by
  rw [replaceRow, List.map_map]
  refine List.map_congr_left fun other member => ?_
  by_cases same : key other = key row
  · simp [same, agrees other member same]
  · simp [same]

theorem replaceRow_cons : replaceRow key row (other :: rows) =
    (if key other = key row then row else other) :: replaceRow key row rows :=
  rfl

theorem any_replaceRow {test : Row → Bool}
    (agrees : ∀ other ∈ rows, key other = key row → test other = test row) :
    (replaceRow key row rows).any test = rows.any test := by
  induction rows with
  | nil => rfl
  | cons head tail inductionHypothesis =>
    have tailAgrees := inductionHypothesis fun other member same =>
      agrees other (List.mem_cons_of_mem _ member) same
    rw [replaceRow_cons, List.any_cons, List.any_cons, tailAgrees]
    by_cases overwritten : key head = key row
    · rw [if_pos overwritten, agrees head List.mem_cons_self overwritten]
    · rw [if_neg overwritten]

theorem find?_replaceRow_self (member : found ∈ rows) (same : key found = key row) :
    (replaceRow key row rows).find? (fun other => key other = key row) = some row := by
  induction rows with
  | nil => cases member
  | cons head tail inductionHypothesis =>
    rw [replaceRow_cons]
    by_cases first : key head = key row
    · simp [first]
    · have tailMember : found ∈ tail := by
        cases member with
        | head => exact absurd same first
        | tail _ tailMember => exact tailMember
      simp [first, inductionHypothesis tailMember]

theorem find?_replaceRow_of_ne {target : Key} (different : target ≠ key row) :
    (replaceRow key row rows).find? (fun other => key other = target) =
      rows.find? (fun other => key other = target) := by
  induction rows with
  | nil => rfl
  | cons head tail inductionHypothesis =>
    rw [replaceRow_cons, List.find?_cons, List.find?_cons, inductionHypothesis]
    by_cases overwritten : key head = key row
    · have headMisses : ¬ key head = target := fun hit => different (hit ▸ overwritten)
      simp [if_pos overwritten, headMisses, Ne.symm different]
    · rw [if_neg overwritten]

theorem find?_key_of_mem (distinct : (rows.map key).Nodup) (member : row ∈ rows) :
    rows.find? (fun other => key other = key row) = some row := by
  cases found : rows.find? (fun other => key other = key row) with
  | none =>
    have misses := List.find?_eq_none.mp found row member
    simp at misses
  | some other =>
    have sameKey : key other = key row := by simpa using List.find?_some found
    rw [List.inj_on_of_nodup_map distinct (List.mem_of_find?_eq_some found) member sameKey]

theorem replaceRow_of_not_mem (absent : ∀ other ∈ rows, key other ≠ key row) :
    replaceRow key row rows = rows := by
  unfold replaceRow
  conv_rhs => rw [← List.map_id rows]
  exact List.map_congr_left fun other member => if_neg (absent other member)

/-- Overwriting one row of a table with distinct keys leaves all the others. -/
theorem replaceRow_perm (distinct : (rows.map key).Nodup) (member : found ∈ rows)
    (same : key found = key row) :
    ∃ others, rows.Perm (found :: others) ∧ (replaceRow key row rows).Perm (row :: others) ∧
      ∀ other ∈ others, key other ≠ key row := by
  obtain ⟨before, after, rfl⟩ := List.append_of_mem member
  rw [List.map_append, List.map_cons, List.nodup_middle, List.nodup_cons] at distinct
  have otherKeys : ∀ other ∈ before ++ after, key other ≠ key row := by
    intro other otherMember hit
    refine distinct.1 ?_
    rw [← List.map_append, same, ← hit]
    exact List.mem_map_of_mem otherMember
  have replaced : replaceRow key row (before ++ found :: after) = before ++ row :: after := by
    have beforeUnchanged := replaceRow_of_not_mem fun other inBefore =>
      otherKeys other (List.mem_append_left after inBefore)
    have afterUnchanged := replaceRow_of_not_mem fun other inAfter =>
      otherKeys other (List.mem_append_right before inAfter)
    unfold replaceRow at beforeUnchanged afterUnchanged ⊢
    rw [List.map_append, List.map_cons, beforeUnchanged, afterUnchanged, if_pos same]
  refine ⟨before ++ after, List.perm_middle, ?_, otherKeys⟩
  rw [replaced]
  exact List.perm_middle

/-- Rows can be selected before or after one of them is overwritten. -/
theorem filter_replaceRow {test : Row → Bool}
    (agrees : ∀ other ∈ rows, key other = key row → test other = test row) :
    (replaceRow key row rows).filter test = replaceRow key row (rows.filter test) := by
  induction rows with
  | nil => rfl
  | cons head tail inductionHypothesis =>
    have tailAgrees := inductionHypothesis fun other member same =>
      agrees other (List.mem_cons_of_mem _ member) same
    rw [replaceRow_cons, List.filter_cons, List.filter_cons, tailAgrees]
    by_cases overwritten : key head = key row
    · rw [if_pos overwritten, agrees head List.mem_cons_self overwritten]
      split
      · rw [replaceRow_cons, if_pos overwritten]
      · rfl
    · rw [if_neg overwritten]
      split
      · rw [replaceRow_cons, if_neg overwritten]
      · rfl

/-- The rows, those whose key is among `updates` as they are there. -/
def overwriteRows (key : Row → Key) (updates rows : List Row) : List Row :=
  rows.map fun row => (updates.find? (key · = key row)).getD row

theorem key_overwritten {updates : List Row} :
    key ((updates.find? (key · = key row)).getD row) = key row := by
  cases found : updates.find? (key · = key row) with
  | none => rfl
  | some other => simpa using List.find?_some found

/-- `INSERT`, or an update of the row that has the key. -/
def upsertRow (key : Row → Key) (row : Row) (rows : List Row) : List Row :=
  if rows.any (key · = key row) then replaceRow key row rows else rows ++ [row]

section Columns

variable {Column : Type v} {column : Row → Column} {columnKey : Column → Key}

/-- Columns that hold the key are written with their row. -/
theorem map_replaceRow_key (sameKey : ∀ row, columnKey (column row) = key row) :
    (replaceRow key row rows).map column = replaceRow columnKey (column row) (rows.map column) := by
  unfold replaceRow
  rw [List.map_map, List.map_map]
  refine List.map_congr_left fun other _ => ?_
  simp only [Function.comp_apply, sameKey]
  split
  · rfl
  · rfl

theorem map_upsertRow_key (sameKey : ∀ row, columnKey (column row) = key row) :
    (upsertRow key row rows).map column = upsertRow columnKey (column row) (rows.map column) := by
  have sameAny : (rows.map column).any (columnKey · = columnKey (column row)) =
      rows.any (key · = key row) := by
    rw [List.any_map]
    simp only [Function.comp_def, sameKey]
  unfold upsertRow
  rw [sameAny]
  split
  · exact map_replaceRow_key sameKey
  · exact List.map_append

end Columns

/-- After an upsert there is the new row, and the rows with other keys. -/
theorem upsertRow_perm (row : Row) (distinct : (rows.map key).Nodup) :
    (upsertRow key row rows).Perm (row :: rows.filter (key · ≠ key row)) := by
  unfold upsertRow
  split
  · rename_i present
    obtain ⟨found, member, same⟩ := List.any_eq_true.mp present
    have same : key found = key row := of_decide_eq_true same
    obtain ⟨others, before, after, differ⟩ := replaceRow_perm distinct member same
    refine after.trans (List.Perm.cons row ?_)
    have filtered := before.filter (key · ≠ key row)
    rw [List.filter_cons_of_neg (by simp [same]), List.filter_eq_self.mpr
      fun other inOthers => decide_eq_true (differ other inOthers)] at filtered
    exact filtered.symm
  · rename_i absent
    have differ : ∀ other ∈ rows, key other ≠ key row := fun other member same =>
      absent (List.any_eq_true.mpr ⟨other, member, decide_eq_true same⟩)
    have all : rows.filter (key · ≠ key row) = rows :=
      List.filter_eq_self.mpr fun other member => decide_eq_true (differ other member)
    rw [all]
    exact List.perm_append_singleton row rows

theorem perm_filter_key (distinct : (rows.map key).Nodup) (member : row ∈ rows) :
    rows.Perm (row :: rows.filter (key · ≠ key row)) := by
  have upserted := upsertRow_perm row distinct
  unfold upsertRow at upserted
  rw [if_pos (List.any_eq_true.mpr ⟨row, member, decide_eq_true rfl⟩)] at upserted
  have unchanged : replaceRow key row rows = rows := by
    unfold replaceRow
    conv_rhs => rw [← List.map_id rows]
    refine List.map_congr_left fun other inRows => ?_
    by_cases same : key other = key row
    · rw [if_pos same]
      exact (List.inj_on_of_nodup_map distinct inRows member same).symm
    · rw [if_neg same]
      rfl
  rwa [unchanged] at upserted

/-- Every row after an upsert is the new one or one with another key. -/
theorem mem_upsertRow (member : other ∈ upsertRow key row rows) :
    other = row ∨ (other ∈ rows ∧ key other ≠ key row) := by
  unfold upsertRow at member
  split at member
  · obtain ⟨before, inRows, rfl⟩ := List.mem_map.mp member
    split
    · exact .inl rfl
    · rename_i differs
      exact .inr ⟨inRows, differs⟩
  · rename_i absent
    obtain inRows | isNew := List.mem_append.mp member
    · refine .inr ⟨inRows, fun same => absent ?_⟩
      exact List.any_eq_true.mpr ⟨other, inRows, decide_eq_true same⟩
    · exact .inl (List.mem_singleton.mp isNew)

end ReplaceRow

/-! ## Lists of keys and values -/

section Lookup

variable {Key : Type u} {Value : Type v} [BEq Key] [LawfulBEq Key] {entries : List (Key × Value)}
  {key : Key} {value : Value}

theorem mem_of_lookup (found : entries.lookup key = some value) : (key, value) ∈ entries := by
  obtain ⟨before, after, rfl, _⟩ := List.lookup_eq_some_iff.mp found
  simp

theorem mem_keys_of_lookup (found : entries.lookup key = some value) :
    key ∈ entries.map Prod.fst :=
  List.mem_map_of_mem (f := Prod.fst) (mem_of_lookup found)

theorem not_mem_keys_of_lookup (missing : entries.lookup key = none) :
    key ∉ entries.map Prod.fst := by
  intro member
  obtain ⟨entry, isEntry, rfl⟩ := List.mem_map.mp member
  have differs := List.lookup_eq_none_iff.mp missing entry isEntry
  simp at differs

end Lookup

/-! ## Programs -/

abbrev Program (State : Type) := ExceptT String (StateM State)

section Program

variable {State Value Result : Type} {state : State}

/-- A statement that only reads. -/
def query (read : State → Except String Value) : Program State Value :=
  fun state => (read state, state)

/-- `body` in a transaction: the state it leaves is kept if it succeeds and is committed. -/
def transaction (commitFails : Bool) (body : State → Except String State) : Program State Unit :=
  fun state => match body state with
    | .error message => (.error message, state)
    | .ok next => if commitFails then (.error "commit failed", state) else (.ok (), next)

/-- A transaction whose commit error nobody looks at. -/
def uncheckedTransaction (commitFails : Bool) (body : State → Except String State) :
    Program State Unit :=
  fun state => match body state with
    | .error message => (.error message, state)
    | .ok next => (.ok (), if commitFails then state else next)

/-- From `state`, `program` ends in `done` when it succeeds and in `failed` when it fails. -/
def Ensures (program : Program State Value) (state : State) (done : Value → State → Prop)
    (failed : State → Prop) : Prop :=
  match program state with
  | (.ok value, next) => done value next
  | (.error _, next) => failed next

variable {program : Program State Value} {done weaker : Value → State → Prop}
  {failed weakerFailed : State → Prop}

theorem Ensures.mono (ensured : Ensures program state done failed)
    (ofDone : ∀ value next, done value next → weaker value next)
    (ofFailed : ∀ next, failed next → weakerFailed next) :
    Ensures program state weaker weakerFailed := by
  unfold Ensures at ensured ⊢
  split at ensured
  · exact ofDone _ _ ensured
  · exact ofFailed _ ensured

theorem Ensures.and (first : Ensures program state done failed)
    (second : Ensures program state weaker weakerFailed) :
    Ensures program state (fun value next => done value next ∧ weaker value next)
      (fun next => failed next ∧ weakerFailed next) := by
  unfold Ensures at first second ⊢
  split at first
  · rename_i outcome
    rw [outcome] at second
    exact ⟨first, second⟩
  · rename_i outcome
    rw [outcome] at second
    exact ⟨first, second⟩

/-- What holds where the program ends, however it ends. -/
theorem Ensures.of_ends {holds : State → Prop} (held : holds (program state).2) :
    Ensures program state (fun _ => holds) holds := by
  unfold Ensures
  split
  · rename_i ended
    rw [ended] at held
    exact held
  · rename_i ended
    rw [ended] at held
    exact held

theorem Ensures.ends {holds : State → Prop}
    (ensured : Ensures program state (fun _ => holds) holds) : holds (program state).2 := by
  unfold Ensures at ensured
  split at ensured
  · rename_i ended
    rw [ended]
    exact ensured
  · rename_i ended
    rw [ended]
    exact ensured

/-- What holds anyway. -/
theorem Ensures.of_forall (holds : ∀ value next, done value next) (failing : ∀ next, failed next) :
    Ensures program state done failed := by
  unfold Ensures
  split
  · exact holds _ _
  · exact failing _

theorem Ensures.bind {after : Value → Program State Result} {finished : Result → State → Prop}
    (first : Ensures program state (fun value next => Ensures (after value) next finished failed)
      failed) : Ensures (program >>= after) state finished failed := by
  unfold Ensures at first ⊢
  show match (ExceptT.bind program after) state with
    | (.ok value, next) => finished value next
    | (.error _, next) => failed next
  simp only [ExceptT.bind, ExceptT.mk, Bind.bind, StateT.bind]
  cases outcome : program state with
  | mk result next =>
    rw [outcome] at first
    cases result with
    | ok value => exact first
    | error message => exact first

theorem Ensures.pure {value : Value} (holds : done value state) :
    Ensures (Pure.pure value) state done failed :=
  holds

theorem Ensures.throw {message : String} (holds : failed state) :
    Ensures (throw message : Program State Value) state done failed :=
  holds

/-- A check that throws, and what follows it. -/
theorem Ensures.refuse {refused : Prop} [Decidable refused] {message : String}
    {after : Value → Program State Result} {rest : Program State Result}
    {finished : Result → State → Prop} (failing : refused → failed state)
    (passing : ¬ refused → Ensures rest state finished failed) :
    Ensures (if refused then (MonadExcept.throw message : Program State Value) >>= after else rest)
      state finished failed := by
  split
  · rename_i isRefused
    exact Ensures.bind (Ensures.throw (failing isRefused))
  · rename_i passed
    exact passing passed

theorem Ensures.query {read : State → Except String Value}
    (holds : ∀ value, read state = .ok value → done value state) (failing : failed state) :
    Ensures (Store.query read) state done failed := by
  show match ((read state, state) : Except String Value × State) with
    | (.ok value, next) => done value next
    | (.error _, next) => failed next
  cases outcome : read state with
  | ok value => exact holds value outcome
  | error message => exact failing

theorem Ensures.transaction {commitFails : Bool} {body : State → Except String State}
    {finished : Unit → State → Prop}
    (holds : ∀ next, body state = .ok next → commitFails = false → finished () next)
    (failing : (commitFails = true ∨ ∃ message, body state = .error message) → failed state) :
    Ensures (Store.transaction commitFails body) state finished failed := by
  unfold Ensures Store.transaction
  cases outcome : body state with
  | error message => exact failing (.inr ⟨message, outcome⟩)
  | ok next =>
    cases commits : commitFails with
    | true => exact failing (.inl commits)
    | false => exact holds next outcome commits

theorem Ensures.uncheckedTransaction {commitFails : Bool} {body : State → Except String State}
    {finished : Unit → State → Prop}
    (holds : ∀ next, body state = .ok next →
      finished () (if commitFails then state else next))
    (failing : failed state) :
    Ensures (Store.uncheckedTransaction commitFails body) state finished failed := by
  unfold Ensures Store.uncheckedTransaction
  cases outcome : body state with
  | error message => exact failing
  | ok next => exact holds next outcome

/-- `program` ends in `holds` whenever it starts there, whether it succeeds or fails. -/
def Keeps (program : Program State Value) (holds : State → Prop) : Prop :=
  ∀ state, holds state → Ensures program state (fun _ => holds) holds

variable {holds : State → Prop}

/-- The state that a program ends in. -/
theorem Keeps.ends (keeps : Keeps program holds) (held : holds state) : holds (program state).2 :=
  (keeps state held).ends

theorem Keeps.bind {after : Value → Program State Result} (first : Keeps program holds)
    (rest : ∀ value, Keeps (after value) holds) : Keeps (program >>= after) holds :=
  fun state held => Ensures.bind
    ((first state held).mono (fun value next => rest value next) fun _ => id)

theorem Keeps.pure (value : Value) : Keeps (Pure.pure value) holds :=
  fun _ held => Ensures.pure held

theorem Keeps.throw (message : String) :
    Keeps (MonadExcept.throw message : Program State Value) holds :=
  fun _ held => Ensures.throw held

theorem Keeps.query (read : State → Except String Value) : Keeps (Store.query read) holds :=
  fun _ held => Ensures.query (fun _ _ => held) held

/-- A statement that only reads, with what is known of its answer. -/
theorem Keeps.afterQuery {read : State → Except String Value}
    {after : Value → Program State Result}
    (rest : ∀ value state, holds state → read state = .ok value → Keeps (after value) holds) :
    Keeps (Store.query read >>= after) holds :=
  fun state held => Ensures.bind
    (Ensures.query (fun value answered => rest value state held answered state held) held)

theorem Keeps.refuse {refused : Prop} [Decidable refused] {message : String}
    {after : Value → Program State Result} {rest : Program State Result}
    (passing : ¬ refused → Keeps rest holds) :
    Keeps (if refused then (MonadExcept.throw message : Program State Value) >>= after else rest)
      holds :=
  fun state held => Ensures.refuse (fun _ => held) fun passed => passing passed state held

theorem Keeps.transaction {commitFails : Bool} {body : State → Except String State}
    (keeps : ∀ state next, holds state → body state = .ok next → holds next) :
    Keeps (Store.transaction commitFails body) holds :=
  fun state held => Ensures.transaction (fun next ran _ => keeps state next held ran) fun _ => held

theorem Keeps.uncheckedTransaction {commitFails : Bool} {body : State → Except String State}
    (keeps : ∀ state next, holds state → body state = .ok next → holds next) :
    Keeps (Store.uncheckedTransaction commitFails body) holds := by
  intro state held
  refine Ensures.uncheckedTransaction (fun next ran => ?_) held
  split
  · exact held
  · exact keeps state next held ran

end Program

end VkTurn.Store
