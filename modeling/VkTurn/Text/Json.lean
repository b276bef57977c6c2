import Mathlib.Data.List.Basic

/-! # JSON objects of strings

The writer is Go's `encoding/json` for an object whose values are strings, and the reader is the
part of a JSON parser that such objects need.
-/

namespace VkTurn.Text

inductive Json where
  /-- A string, a number, a truth value or `null`, with its content as text. -/
  | primitive (content : String)
  | array (elements : List Json)
  | object (fields : List (String × Json))

/-- `content` of a `JsonPrimitive`; the other elements are none. -/
def Json.content? : Json → Option String
  | .primitive content => some content
  | _ => none

def Json.field? (key : String) : Json → Option Json
  | .object fields => fields.lookup key
  | _ => none

/-! ## Writing -/

def hexDigits (code : Nat) : List Char :=
  [(code / 4096 % 16).digitChar, (code / 256 % 16).digitChar, (code / 16 % 16).digitChar,
    (code % 16).digitChar]

/-- The characters that Go writes by their code: control characters, those that HTML gives a
    meaning, and the line separators of JavaScript. -/
def needsCode (char : Char) : Bool :=
  char.toNat < 0x20 || char = '<' || char = '>' || char = '&' || char.toNat = 0x2028 ||
    char.toNat = 0x2029

def escapeChar (char : Char) : List Char :=
  if char = '"' then ['\\', '"']
  else if char = '\\' then ['\\', '\\']
  else if char.toNat = 0x08 then ['\\', 'b']
  else if char.toNat = 0x0c then ['\\', 'f']
  else if char = '\n' then ['\\', 'n']
  else if char = '\r' then ['\\', 'r']
  else if char = '\t' then ['\\', 't']
  else if needsCode char then '\\' :: 'u' :: hexDigits char.toNat
  else [char]

/-- A string in quotes. -/
def quoted (text : String) : List Char := '"' :: text.toList.flatMap escapeChar ++ ['"']

def marshalFields : List (String × String) → List Char
  | [] => []
  | [(key, value)] => quoted key ++ ':' :: quoted value
  | (key, value) :: rest => quoted key ++ ':' :: quoted value ++ ',' :: marshalFields rest

/-- `json.Marshal` of a struct of strings. -/
def marshalStrings (fields : List (String × String)) : String :=
  String.ofList ('{' :: marshalFields fields ++ ['}'])

/-- The object that such a text stands for. -/
def Json.ofStrings (fields : List (String × String)) : Json :=
  .object (fields.map fun field => (field.1, .primitive field.2))

/-- A parser that reads what Go writes for a struct of strings. -/
def ReadsStrings (parseToJsonElement : String → Option Json) : Prop :=
  ∀ fields : List (String × String), (fields.map Prod.fst).Nodup →
    parseToJsonElement (marshalStrings fields) = some (.ofStrings fields)

/-! ## Reading -/

def hexValue (char : Char) : Option Nat :=
  if char.isDigit then some (char.toNat - 0x30)
  else if 'a' ≤ char ∧ char ≤ 'f' then some (char.toNat - 0x61 + 10)
  else if 'A' ≤ char ∧ char ≤ 'F' then some (char.toNat - 0x41 + 10)
  else none

def unescape (char : Char) : Option Char :=
  match char with
  | '"' => some '"'
  | '\\' => some '\\'
  | '/' => some '/'
  | 'b' => some (Char.ofNat 0x08)
  | 'f' => some (Char.ofNat 0x0c)
  | 'n' => some '\n'
  | 'r' => some '\r'
  | 't' => some '\t'
  | _ => none

/-- The character with a code of four digits. -/
def codeChar (a b c d : Char) : Option Char := do
  let a ← hexValue a
  let b ← hexValue b
  let c ← hexValue c
  let d ← hexValue d
  some (Char.ofNat (a * 4096 + b * 256 + c * 16 + d))

/-- Puts a character before the characters that are read. -/
def pushChar (char : Char) (read : Option (List Char × List Char)) :
    Option (List Char × List Char) :=
  read.map fun (chars, rest) => (char :: chars, rest)

/-- Reads up to the closing quote, and gives the rest. -/
def readChars : List Char → Option (List Char × List Char)
  | [] => none
  | '"' :: rest => some ([], rest)
  | '\\' :: 'u' :: a :: b :: c :: d :: rest =>
    (codeChar a b c d).bind fun char => pushChar char (readChars rest)
  | '\\' :: escaped :: rest => (unescape escaped).bind fun char => pushChar char (readChars rest)
  | char :: rest => pushChar char (readChars rest)

def readQuoted : List Char → Option (String × List Char)
  | '"' :: rest => (readChars rest).map fun (chars, rest) => (String.ofList chars, rest)
  | _ => none

def readField (chars : List Char) : Option ((String × Json) × List Char) := do
  let (key, rest) ← readQuoted chars
  match rest with
  | ':' :: rest =>
    let (value, rest) ← readQuoted rest
    some ((key, .primitive value), rest)
  | _ => none

/-- The fields up to the end of the object; every field takes some of the `fuel`. -/
def readFields : Nat → List Char → Option (List (String × Json))
  | 0, _ => none
  | fuel + 1, chars => do
    let (field, rest) ← readField chars
    match rest with
    | ['}'] => some [field]
    | ',' :: rest => (readFields fuel rest).map (field :: ·)
    | _ => none

def readStrings (text : String) : Option Json :=
  match text.toList with
  | ['{', '}'] => some (.object [])
  | '{' :: rest => (readFields rest.length rest).map .object
  | _ => none

/-! ## The reader inverts the writer -/

theorem hexValue_digitChar {digit : Nat} (small : digit < 16) :
    hexValue digit.digitChar = some digit := by
  have digits : ∀ digit < 16, hexValue digit.digitChar = some digit := by decide
  exact digits digit small

theorem codeChar_hexDigits {char : Char} (small : char.toNat < 65536) :
    codeChar (char.toNat / 4096 % 16).digitChar (char.toNat / 256 % 16).digitChar
      (char.toNat / 16 % 16).digitChar (char.toNat % 16).digitChar = some char := by
  have digit (value : Nat) : hexValue (value % 16).digitChar = some (value % 16) :=
    hexValue_digitChar (Nat.mod_lt _ (by omega))
  have whole : char.toNat / 4096 % 16 * 4096 + char.toNat / 256 % 16 * 256 +
      char.toNat / 16 % 16 * 16 + char.toNat % 16 = char.toNat := by omega
  simp [codeChar, digit, whole]

theorem needsCode_small {char : Char} (needs : needsCode char = true) : char.toNat < 65536 := by
  simp only [needsCode, Bool.or_eq_true, decide_eq_true_eq] at needs
  obtain (((((control | rfl) | rfl) | rfl) | separator) | separator) := needs
  · omega
  · decide
  · decide
  · decide
  · omega
  · omega

theorem readChars_escapeChar (char : Char) (rest : List Char) :
    readChars (escapeChar char ++ rest) = pushChar char (readChars rest) := by
  have code {value : Nat} (isCode : char.toNat = value) : char = Char.ofNat value := by
    rw [← isCode, Char.ofNat_toNat]
  unfold escapeChar
  split
  · subst_vars
    simp [readChars, unescape]
  split
  · subst_vars
    simp [readChars, unescape]
  split
  · rename_i isCode
    rw [code isCode]
    simp [readChars, unescape]
  split
  · rename_i isCode
    rw [code isCode]
    simp [readChars, unescape]
  split
  · subst_vars
    simp [readChars, unescape]
  split
  · subst_vars
    simp [readChars, unescape]
  split
  · subst_vars
    simp [readChars, unescape]
  split
  · rename_i needs
    simp [readChars, hexDigits, codeChar_hexDigits (needsCode_small needs)]
  · rename_i notEscape _ _ _ _ _ _
    simp [readChars, notEscape]

theorem readChars_escaped (chars rest : List Char) :
    readChars (chars.flatMap escapeChar ++ '"' :: rest) = some (chars, rest) := by
  induction chars with
  | nil => simp [readChars]
  | cons char chars inductionHypothesis =>
    rw [List.flatMap_cons, List.append_assoc, readChars_escapeChar, inductionHypothesis]
    rfl

theorem readQuoted_quoted (text : String) (rest : List Char) :
    readQuoted (quoted text ++ rest) = some (text, rest) := by
  simp [quoted, readQuoted, readChars_escaped]

theorem readField_quoted (key value : String) (rest : List Char) :
    readField (quoted key ++ ':' :: (quoted value ++ rest)) =
      some ((key, .primitive value), rest) := by
  simp [readField, readQuoted_quoted]

theorem length_marshalFields (fields : List (String × String)) :
    fields.length ≤ (marshalFields fields).length := by
  induction fields with
  | nil => exact Nat.le_refl 0
  | cons field fields inductionHypothesis =>
    cases fields with
    | nil =>
      simp only [marshalFields, quoted, List.length_append, List.length_cons, List.length_nil]
      omega
    | cons second others =>
      simp only [marshalFields, List.length_append, List.length_cons] at inductionHypothesis ⊢
      omega

theorem readFields_marshalFields {fields : List (String × String)} {fuel : Nat}
    (nonempty : fields ≠ []) (enough : fields.length ≤ fuel) :
    readFields fuel (marshalFields fields ++ ['}']) =
      some (fields.map fun field => (field.1, .primitive field.2)) := by
  induction fields generalizing fuel with
  | nil => exact absurd rfl nonempty
  | cons field fields inductionHypothesis =>
    obtain ⟨fuel, rfl⟩ := Nat.exists_eq_add_one_of_ne_zero (Nat.ne_zero_of_lt enough)
    cases fields with
    | nil => simp [marshalFields, readFields, readField_quoted]
    | cons second others =>
      have later := inductionHypothesis (List.cons_ne_nil second others)
        (Nat.le_of_succ_le_succ enough)
      simp [marshalFields, readFields, readField_quoted, later]

/-- An object of strings is read back. -/
theorem readStrings_marshalStrings (fields : List (String × String)) :
    readStrings (marshalStrings fields) = some (.ofStrings fields) := by
  cases fields with
  | nil => rfl
  | cons field fields =>
    have enough : (field :: fields).length ≤ (marshalFields (field :: fields) ++ ['}']).length := by
      rw [List.length_append]
      exact Nat.le_add_right_of_le (length_marshalFields _)
    have read := readFields_marshalFields (List.cons_ne_nil field fields) enough
    have started : ∃ rest, marshalFields (field :: fields) = '"' :: rest := by
      cases fields with
      | nil => exact ⟨_, rfl⟩
      | cons second others => exact ⟨_, rfl⟩
    obtain ⟨rest, isRest⟩ := started
    simp only [isRest, List.cons_append] at read
    simp [readStrings, marshalStrings, isRest, Json.ofStrings]
    simpa using read

theorem readStrings_reads : ReadsStrings readStrings :=
  fun fields _ => readStrings_marshalStrings fields

theorem field?_ofStrings (key : String) (fields : List (String × String)) :
    (Json.ofStrings fields).field? key = (fields.lookup key).map .primitive := by
  rw [Json.ofStrings, Json.field?]
  induction fields with
  | nil => rfl
  | cons field fields inductionHypothesis =>
    obtain ⟨name, value⟩ := field
    cases same : key == name with
    | true => simp [List.lookup_cons, same]
    | false => simpa [List.lookup_cons, same] using inductionHypothesis

end VkTurn.Text
