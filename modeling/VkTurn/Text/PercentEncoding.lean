import Mathlib.Data.List.Basic

/-! # Percent-encoded texts

A character of a text stands for itself, where the place allows it, or is written by the bytes of
its UTF-8 form, each by two hexadecimal digits in either case.
-/

namespace VkTurn.Text

/-- The characters that stand for themselves everywhere. -/
def isUnreserved (char : Char) : Bool :=
  char.isAlphanum || char = '-' || char = '.' || char = '_' || char = '~'

/-- The characters that may stand for themselves in a value of a query. -/
def isQueryChar (char : Char) : Bool :=
  isUnreserved char || char.toNat = 0x27 || "!$()*+,;=:@/?".toList.contains char

inductive EncodedChar (literal : Char → Bool) where
  | plain (char : Char) (isLiteral : literal char = true)
  /-- The digits that `upper` points to are in upper case. -/
  | escaped (char : Char) (upper : Nat → Bool)

abbrev Encoded (literal : Char → Bool) := List (EncodedChar literal)

def hexDigit (upper : Bool) (digit : Nat) : Char :=
  if upper then digit.digitChar.toUpper else digit.digitChar

def escapeBytes : List UInt8 → (Nat → Bool) → List Char
  | [], _ => []
  | byte :: rest, upper =>
    '%' :: hexDigit (upper 0) (byte.toNat / 16) :: hexDigit (upper 1) (byte.toNat % 16) ::
      escapeBytes rest fun position => upper (position + 2)

variable {literal : Char → Bool}

/-- The character that is meant. -/
def EncodedChar.original : EncodedChar literal → Char
  | .plain char _ => char
  | .escaped char _ => char

/-- The characters that are written. -/
def EncodedChar.chars : EncodedChar literal → List Char
  | .plain char _ => [char]
  | .escaped char upper => escapeBytes (String.utf8EncodeChar char) upper

def Encoded.original (encoded : Encoded literal) : String :=
  String.ofList (encoded.map EncodedChar.original)

def Encoded.chars (encoded : Encoded literal) : List Char := encoded.flatMap EncodedChar.chars

/-! ## The characters of an encoded text -/

theorem isUnreserved_hexDigit {digit : Nat} (small : digit < 16) (upper : Bool) :
    isUnreserved (hexDigit upper digit) = true := by
  have digits : ∀ digit < 16, ∀ upper, isUnreserved (hexDigit upper digit) = true := by decide
  exact digits digit small upper

theorem mem_escapeBytes {bytes : List UInt8} {upper : Nat → Bool} {char : Char}
    (member : char ∈ escapeBytes bytes upper) : char = '%' ∨ isUnreserved char = true := by
  induction bytes generalizing upper with
  | nil => cases member
  | cons byte rest inductionHypothesis =>
    simp only [escapeBytes, List.mem_cons] at member
    have small : byte.toNat / 16 < 16 := Nat.div_lt_of_lt_mul byte.toNat_lt
    obtain isPercent | rfl | rfl | later := member
    · exact .inl isPercent
    · exact .inr (isUnreserved_hexDigit small _)
    · exact .inr (isUnreserved_hexDigit (Nat.mod_lt _ (by decide)) _)
    · exact inductionHypothesis later

/-- An encoded text holds escapes, and characters that may stand for themselves. -/
theorem Encoded.mem_chars {encoded : Encoded literal} {char : Char}
    (member : char ∈ encoded.chars) :
    char = '%' ∨ isUnreserved char = true ∨ literal char = true := by
  obtain ⟨part, _, inPart⟩ := List.mem_flatMap.mp member
  cases part with
  | plain plain isLiteral =>
    obtain rfl := List.mem_singleton.mp inPart
    exact .inr (.inr isLiteral)
  | escaped escaped upper =>
    obtain isPercent | isUnreserved := mem_escapeBytes inPart
    · exact .inl isPercent
    · exact .inr (.inl isUnreserved)

/-- What is in neither class is not in the text. -/
theorem Encoded.not_mem_chars {encoded : Encoded literal} {char : Char} (notPercent : char ≠ '%')
    (notUnreserved : isUnreserved char = false) (notLiteral : literal char = false) :
    char ∉ encoded.chars := by
  intro member
  obtain isPercent | isUnreserved | isLiteral := Encoded.mem_chars member
  · exact notPercent isPercent
  · cases notUnreserved.symm.trans isUnreserved
  · cases notLiteral.symm.trans isLiteral

end VkTurn.Text
