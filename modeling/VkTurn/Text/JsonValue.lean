import Mathlib.Data.List.Basic

/-! # JSON values

A value as it is written, with the texts of its numbers; an object is a finite map, whatever the
order of its fields.  A value that is decoded without a type has its numbers as floats, and is
written again with those.
-/

namespace VkTurn.Text

inductive JsonValue where
  | null
  | bool (value : Bool)
  | number (text : String)
  | string (text : String)
  | array (elements : List JsonValue)
  | object (fields : String → Option JsonValue)

abbrev JsonFields := String → Option JsonValue

def JsonValue.object? : JsonValue → Option JsonFields
  | .object fields => some fields
  | _ => none

/-! ## Fields -/

/-- A field that holds an object. -/
def objectField (key : String) (fields : JsonFields) : Option JsonFields :=
  (fields key).bind JsonValue.object?

/-- A field that holds a text. -/
def stringField (key : String) (fields : JsonFields) : Option String :=
  match fields key with
  | some (.string text) => some text
  | _ => none

/-- A field that holds a truth value. -/
def boolField (key : String) (fields : JsonFields) : Option Bool :=
  match fields key with
  | some (.bool truth) => some truth
  | _ => none

def fieldsOfList (fields : List (String × JsonValue)) : JsonFields := fun key => fields.lookup key

def setField (key : String) (value : JsonValue) (fields : JsonFields) : JsonFields :=
  fun other => if other = key then some value else fields other

def deleteField (key : String) (fields : JsonFields) : JsonFields :=
  fun other => if other = key then none else fields other

section Fields

variable {fields : JsonFields} {key other : String} {value : JsonValue}

@[simp] theorem setField_self : setField key value fields key = some value := if_pos rfl

theorem setField_of_ne (differs : other ≠ key) : setField key value fields other = fields other :=
  if_neg differs

@[simp] theorem deleteField_self : deleteField key fields key = none := if_pos rfl

theorem deleteField_of_ne (differs : other ≠ key) : deleteField key fields other = fields other :=
  if_neg differs

theorem objectField_eq_some {inner : JsonFields} :
    objectField key fields = some inner ↔ fields key = some (.object inner) := by
  unfold objectField
  cases fields key with
  | none => exact ⟨nofun, nofun⟩
  | some value =>
    rw [Option.bind_some]
    cases value with
    | object other => exact ⟨fun same => by cases same; rfl, fun same => by cases same; rfl⟩
    | null => exact ⟨nofun, nofun⟩
    | bool truth => exact ⟨nofun, nofun⟩
    | number text => exact ⟨nofun, nofun⟩
    | string text => exact ⟨nofun, nofun⟩
    | array elements => exact ⟨nofun, nofun⟩

/-- Writing a field as it is changes nothing. -/
theorem setField_eq_self : setField key value fields = fields ↔ fields key = some value := by
  refine ⟨fun same => ?_, fun present => funext fun other => ?_⟩
  · rw [← same, setField_self]
  · by_cases same : other = key
    · rw [same, setField_self, present]
    · exact setField_of_ne same

theorem deleteField_eq_self : deleteField key fields = fields ↔ fields key = none := by
  refine ⟨fun same => ?_, fun missing => funext fun other => ?_⟩
  · rw [← same, deleteField_self]
  · by_cases same : other = key
    · rw [same, deleteField_self, missing]
    · exact deleteField_of_ne same

end Fields

/-! ## Decoding without a type -/

namespace JsonValue

variable (float : String → String)

mutual

/-- The value that is written after it was decoded without a type; `float` is the text of the
    float that a number's text is read as. -/
def reprint : JsonValue → JsonValue
  | .null => .null
  | .bool value => .bool value
  | .number text => .number (float text)
  | .string text => .string text
  | .array elements => .array (reprintAll elements)
  | .object fields => .object fun key => reprintField (fields key)

def reprintAll : List JsonValue → List JsonValue
  | [] => []
  | element :: rest => reprint element :: reprintAll rest

def reprintField : Option JsonValue → Option JsonValue
  | none => none
  | some value => some (reprint value)

end

theorem reprintAll_eq_map (elements : List JsonValue) :
    reprintAll float elements = elements.map (reprint float) := by
  induction elements with
  | nil => rfl
  | cons element rest inductionHypothesis => rw [reprintAll, inductionHypothesis, List.map_cons]

theorem reprintField_eq_map (field : Option JsonValue) :
    reprintField float field = field.map (reprint float) := by
  cases field with
  | none => rfl
  | some value => rfl

end JsonValue

/-- The fields of an object that was decoded without a type. -/
def reprintFields (float : String → String) (fields : JsonFields) : JsonFields :=
  fun key => JsonValue.reprintField float (fields key)

theorem reprintFields_apply {float : String → String} {fields : JsonFields} {key : String} :
    reprintFields float fields key = (fields key).map (JsonValue.reprint float) :=
  JsonValue.reprintField_eq_map float (fields key)

section Reprint

variable {float : String → String} {fields : JsonFields} {key : String}

/-- Decoding without a type changes no text and no truth value. -/
theorem stringField_reprint :
    stringField key (reprintFields float fields) = stringField key fields := by
  unfold stringField
  rw [reprintFields_apply]
  cases fields key with
  | none => rfl
  | some value =>
    cases value with
    | string text => rfl
    | null => rfl
    | bool truth => rfl
    | number text => rfl
    | array elements => rfl
    | object inner => rfl

theorem boolField_reprint : boolField key (reprintFields float fields) = boolField key fields := by
  unfold boolField
  rw [reprintFields_apply]
  cases fields key with
  | none => rfl
  | some value =>
    cases value with
    | bool truth => rfl
    | string text => rfl
    | null => rfl
    | number text => rfl
    | array elements => rfl
    | object inner => rfl

end Reprint

/-! ## Numbers that a float holds -/

namespace JsonValue

mutual

/-- Whatever is said of the texts of a value's numbers. -/
def AllNumbers (holds : String → Prop) : JsonValue → Prop
  | .null => True
  | .bool _ => True
  | .number text => holds text
  | .string _ => True
  | .array elements => AllNumbersOf holds elements
  | .object fields => ∀ key, NumbersOfField holds (fields key)

def AllNumbersOf (holds : String → Prop) : List JsonValue → Prop
  | [] => True
  | element :: rest => AllNumbers holds element ∧ AllNumbersOf holds rest

def NumbersOfField (holds : String → Prop) : Option JsonValue → Prop
  | none => True
  | some value => AllNumbers holds value

end

variable {holds : String → Prop}

mutual

theorem allNumbers_of_forall (always : ∀ text, holds text) :
    ∀ value : JsonValue, value.AllNumbers holds
  | .null => trivial
  | .bool _ => trivial
  | .number text => always text
  | .string _ => trivial
  | .array elements => allNumbersOf_of_forall always elements
  | .object fields => fun key => numbersOfField_of_forall always (fields key)

theorem allNumbersOf_of_forall (always : ∀ text, holds text) :
    ∀ elements : List JsonValue, AllNumbersOf holds elements
  | [] => trivial
  | element :: rest => ⟨allNumbers_of_forall always element, allNumbersOf_of_forall always rest⟩

theorem numbersOfField_of_forall (always : ∀ text, holds text) :
    ∀ field : Option JsonValue, NumbersOfField holds field
  | none => trivial
  | some value => allNumbers_of_forall always value

end

/-- Values that differ in the texts of their numbers only, which `number` tells to be the same. -/
def Same (number : String → String) (value other : JsonValue) : Prop :=
  value.reprint number = other.reprint number

variable {float number : String → String}

theorem Same.rfl {value : JsonValue} : Same number value value := Eq.refl _

mutual

/-- Numbers that a float holds are the same when they were decoded without a type. -/
theorem reprint_same : ∀ {value : JsonValue},
    value.AllNumbers (fun text => number (float text) = number text) →
      Same number (value.reprint float) value
  | .null, _ => Eq.refl _
  | .bool _, _ => Eq.refl _
  | .number _, exact => congrArg JsonValue.number exact
  | .string _, _ => Eq.refl _
  | .array _, exact => congrArg JsonValue.array (reprintAll_same exact)
  | .object _, exact => congrArg JsonValue.object (funext fun key => reprintField_same (exact key))

theorem reprintAll_same : ∀ {elements : List JsonValue},
    AllNumbersOf (fun text => number (float text) = number text) elements →
      reprintAll number (reprintAll float elements) = reprintAll number elements
  | [], _ => Eq.refl _
  | _ :: _, exact => by
    obtain ⟨first, rest⟩ := exact
    simp only [reprintAll]
    rw [reprint_same first, reprintAll_same rest]

theorem reprintField_same : ∀ {field : Option JsonValue},
    NumbersOfField (fun text => number (float text) = number text) field →
      reprintField number (reprintField float field) = reprintField number field
  | none, _ => Eq.refl _
  | some _, exact => congrArg some (reprint_same exact)

end

end JsonValue

theorem JsonValue.reprint_object {float : String → String} {fields : JsonFields} :
    (JsonValue.object fields).reprint float = .object (reprintFields float fields) :=
  rfl

theorem JsonValue.object?_reprint {float : String → String} (value : JsonValue) :
    (value.reprint float).object? = value.object?.map (reprintFields float) := by
  cases value with
  | object fields => rfl
  | null => rfl
  | bool truth => rfl
  | number text => rfl
  | string text => rfl
  | array elements => rfl

end VkTurn.Text
