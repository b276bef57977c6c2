import VkTurn.Text.JsonValue

/-! # Serializers of records with defaults

A record is written without the fields that equal their defaults, and a field that is not there is
read as its default.  A default may be drawn anew each time it is needed, so what a serializer
writes and reads depends on an environment: the draws made while writing, and those made while
reading.  `reread` says what becomes of a value that was written in one environment and read in
another.
-/

namespace VkTurn.Text

variable {δ α : Type}

/-- The text of a primitive that is not `null`. -/
def JsonValue.contentOrNull : JsonValue → Option String
  | .bool true => some "true"
  | .bool false => some "false"
  | .number text | .string text => some text
  | _ => none

structure Serializer (δ α : Type) where
  encode : δ → α → JsonValue
  decode : δ → JsonValue → Option α
  /-- A value that is read as if the field were not there. -/
  absent : JsonValue → Bool
  reread : δ → δ → α → α
  decode_encode : ∀ (saving loading : δ) (value : α),
    decode loading (encode saving value) = some (reread saving loading value)
  absent_encode : ∀ (saving : δ) (value : α), absent (encode saving value) = false

/-- The object that a list of entries makes up; an entry without a value is left out. -/
def objectOf (entries : List (String × Option JsonValue)) : JsonFields :=
  fun key => (entries.lookup key).join

theorem objectOf_head {key : String} {value : Option JsonValue}
    {rest : List (String × Option JsonValue)} : objectOf ((key, value) :: rest) key = value := by
  simp [objectOf]

theorem objectOf_tail {key other : String} {value : Option JsonValue}
    {rest : List (String × Option JsonValue)} (differs : (key == other) = false) :
    objectOf ((other, value) :: rest) key = objectOf rest key := by
  simp [objectOf, List.lookup_cons, differs]

/-- A key that no entry has. -/
theorem objectOf_eq_none {entries : List (String × Option JsonValue)} {key : String}
    (isFree : ∀ entry ∈ entries, entry.1 ≠ key) : objectOf entries key = none := by
  induction entries with
  | nil => rfl
  | cons entry rest inductionHypothesis =>
    have differs : (key == entry.1) = false :=
      beq_false_of_ne (Ne.symm (isFree entry List.mem_cons_self))
    rw [objectOf_tail differs]
    exact inductionHypothesis fun other member => isFree other (List.mem_cons_of_mem _ member)

/-- The entry at a position, where no two entries have the same key. -/
theorem objectOf_getElem {entries : List (String × Option JsonValue)} {key : String}
    {value : Option JsonValue} (distinct : (entries.map Prod.fst).Nodup) (position : Nat)
    (isEntry : entries[position]? = some (key, value)) : objectOf entries key = value := by
  induction entries generalizing position with
  | nil => simp at isEntry
  | cons entry rest inductionHypothesis =>
    obtain ⟨isFree, distinctRest⟩ := List.nodup_cons.mp distinct
    cases position with
    | zero =>
      obtain rfl : entry = (key, value) := by simpa using isEntry
      exact objectOf_head
    | succ position =>
      have inRest : rest[position]? = some (key, value) := by simpa using isEntry
      -- the first entry has another key, as this one comes later
      have differs : key ≠ entry.1 := by
        rintro rfl
        exact isFree (List.mem_map.mpr ⟨_, List.mem_of_getElem? inRest, rfl⟩)
      rw [objectOf_tail (beq_false_of_ne differs)]
      exact inductionHypothesis distinctRest position inRest

namespace Serializer

/-! ## Fields -/

section Fields

variable (serializer : Serializer δ α)

/-- The value of a field, or its default. -/
def field (loading : δ) (key : String) (default : α) (fields : JsonFields) : Option α :=
  match fields key with
  | none => some default
  | some value => if serializer.absent value then some default else serializer.decode loading value

variable {serializer} in
theorem field_missing {loading : δ} {key : String} {default : α} {fields : JsonFields}
    (missing : fields key = none) : serializer.field loading key default fields = some default := by
  rw [field, missing]

variable [DecidableEq α]

/-- The entry of a field: none for the default. -/
def entry (saving : δ) (default value : α) : Option JsonValue :=
  if value = default then none else some (serializer.encode saving value)

/-- What becomes of a field. -/
def rereadField (saving loading : δ) (saved loaded value : α) : α :=
  if value = saved then loaded else serializer.reread saving loading value

variable {serializer}

theorem field_entry {saving loading : δ} {key : String} {saved loaded value : α}
    {fields : JsonFields} (written : fields key = serializer.entry saving saved value) :
    serializer.field loading key loaded fields =
      some (serializer.rereadField saving loading saved loaded value) := by
  unfold field rereadField
  rw [written, entry]
  by_cases isDefault : value = saved
  · -- not written, so read as the default of the time of reading
    rw [if_pos isDefault, if_pos isDefault]
  · rw [if_neg isDefault, if_neg isDefault]
    dsimp only
    rw [serializer.absent_encode, if_neg Bool.false_ne_true, serializer.decode_encode]

theorem entry_isSome {saving : δ} {default value : α} :
    (serializer.entry saving default value).isSome = true ↔ value ≠ default := by
  unfold entry
  split
  · rename_i isDefault
    simp [isDefault]
  · rename_i differs
    simp [differs]

/-- A field comes back as it was when its default is the same both times. -/
theorem rereadField_default {saving loading : δ} {default value : α}
    (same : serializer.reread saving loading value = value) :
    serializer.rereadField saving loading default default value = value := by
  unfold rereadField
  split
  · rename_i isDefault
    exact isDefault.symm
  · exact same

/-- The field at a position of the entries. -/
theorem field_at {saving loading : δ} {key : String} {saved loaded value : α}
    {entries : List (String × Option JsonValue)} (distinct : (entries.map Prod.fst).Nodup)
    (position : Nat)
    (isEntry : entries[position]? = some (key, serializer.entry saving saved value)) :
    serializer.field loading key loaded (objectOf entries) =
      some (serializer.rereadField saving loading saved loaded value) :=
  field_entry (objectOf_getElem distinct position isEntry)

/-- The field at a position, when its default is the same both times. -/
theorem plain_at {saving loading : δ} {key : String} {default value : α}
    {entries : List (String × Option JsonValue)} (distinct : (entries.map Prod.fst).Nodup)
    (position : Nat)
    (isEntry : entries[position]? = some (key, serializer.entry saving default value))
    (same : serializer.reread saving loading value = value) :
    serializer.field loading key default (objectOf entries) = some value := by
  rw [field_at distinct position isEntry, rereadField_default same]

end Fields

/-! ## Lists -/

def readEach (read : Nat → JsonValue → Option α) : List JsonValue → Option (List α)
  | [] => some []
  | element :: rest => do
    let value ← read 0 element
    let values ← readEach (fun position => read (position + 1)) rest
    some (value :: values)

theorem readEach_mapIdx {write : Nat → α → JsonValue} {read : Nat → JsonValue → Option α}
    {back : Nat → α → α}
    (reads : ∀ position value, read position (write position value) = some (back position value))
    (values : List α) : readEach read (values.mapIdx write) = some (values.mapIdx back) := by
  induction values generalizing write read back with
  | nil => rfl
  | cons value rest inductionHypothesis =>
    rw [List.mapIdx_cons, List.mapIdx_cons, readEach, reads]
    simp only [Option.bind_eq_bind, Option.bind_some]
    rw [inductionHypothesis fun position => reads (position + 1), Option.bind_some]

/-- A list is as it was when each of its elements is. -/
theorem mapIdx_eq_self {back : Nat → α → α} {values : List α} :
    values.mapIdx back = values ↔
      ∀ position value, values[position]? = some value → back position value = value := by
  constructor
  · intro same position value isValue
    have isBack : (values.mapIdx back)[position]? = some (back position value) := by
      rw [List.getElem?_mapIdx, isValue, Option.map_some]
    rw [same, isValue] at isBack
    exact (Option.some.inj isBack).symm
  · intro each
    apply List.ext_getElem?
    intro position
    rw [List.getElem?_mapIdx]
    cases isValue : values[position]? with
    | none => rfl
    | some value => rw [Option.map_some, each position value isValue]

/-- A list, whose elements have environments of their own. -/
def list (nth : Nat → δ → δ) (serializer : Serializer δ α) : Serializer δ (List α) where
  encode saving values :=
    .array (values.mapIdx fun position => serializer.encode (nth position saving))
  decode loading
    | .array elements =>
      readEach (fun position => serializer.decode (nth position loading)) elements
    | _ => none
  absent
    | .null => true
    | _ => false
  reread saving loading values :=
    values.mapIdx fun position => serializer.reread (nth position saving) (nth position loading)
  decode_encode _ _ values :=
    readEach_mapIdx (fun _ value => serializer.decode_encode _ _ value) values
  absent_encode _ _ := rfl

/-! ## Enumerations, primitives and records -/

/-- A name that is not known is read as if the field were not there (`coerceInputValues`). -/
def enumeration (entries : List α) (name : α → String)
    (named : ∀ value, entries.find? (name · = name value) = some value) : Serializer δ α where
  encode _ value := .string (name value)
  decode _ written := written.contentOrNull.bind fun text => entries.find? (name · = text)
  absent
    | .null => true
    | .array _ | .object _ => false
    | written => written.contentOrNull.bind (fun text => entries.find? (name · = text)) = none
  reread _ _ value := value
  decode_encode _ _ value := named value
  absent_encode _ value := by simp [JsonValue.contentOrNull, named]

/-- A value that is never `null`; `null` is read as if the field were not there. -/
def primitive (write : α → JsonValue) (read : JsonValue → Option α)
    (read_write : ∀ value, read (write value) = some value)
    (write_ne_null : ∀ value, write value ≠ .null) : Serializer δ α where
  encode _ value := write value
  decode _ := read
  absent
    | .null => true
    | _ => false
  reread _ _ value := value
  decode_encode _ _ value := read_write value
  absent_encode _ value := by
    split
    · rename_i isNull
      exact absurd isNull (write_ne_null value)
    · rfl

/-- An object; what is read depends on its fields only. -/
def record (entries : δ → α → List (String × Option JsonValue)) (read : δ → JsonFields → Option α)
    (reread : δ → δ → α → α)
    (read_entries : ∀ saving loading value,
      read loading (objectOf (entries saving value)) = some (reread saving loading value)) :
    Serializer δ α where
  encode saving value := .object (objectOf (entries saving value))
  decode loading
    | .object fields => read loading fields
    | _ => none
  absent
    | .null => true
    | _ => false
  reread := reread
  decode_encode := read_entries
  absent_encode _ _ := rfl

end Serializer

end VkTurn.Text
