import Mathlib.Algebra.Group.Int.Defs
import Mathlib.Algebra.Group.Nat.Defs
import Mathlib.Data.List.Basic

/-! # Integers on a command line

`strconv.ParseInt` with base 0 and 64 bits, and `strconv.ParseBool`: the readers of the integer
and boolean flags of Go's `flag` package.
-/

namespace VkTurn.Flags

def digitValue (char : Char) : Option Nat :=
  if '0' ≤ char ∧ char ≤ '9' then some (char.toNat - '0'.toNat)
  else if 'a' ≤ char ∧ char ≤ 'z' then some (char.toNat - 'a'.toNat + 10)
  else if 'A' ≤ char ∧ char ≤ 'Z' then some (char.toNat - 'A'.toNat + 10)
  else none

/-- The digits of a number in the given base; underscores are skipped. -/
def parseDigits (base : Nat) : List Char → Nat → Option Nat
  | [], value => some value
  | '_' :: rest, value => parseDigits base rest value
  | char :: rest, value =>
    match digitValue char with
    | none => none
    | some digit => if digit < base then parseDigits base rest (base * value + digit) else none

/-- What `underscoreOK` saw last. -/
inductive Seen where
  | start
  | digit
  | underscore
  | other
  deriving DecidableEq

def underscoresBetweenDigits (hex : Bool) : List Char → Seen → Bool
  | [], seen => seen ≠ .underscore
  | char :: rest, seen =>
    let isDigit := ('0' ≤ char ∧ char ≤ '9') ∨
      (hex ∧ 'a' ≤ char.toLower ∧ char.toLower ≤ 'f')
    if isDigit then underscoresBetweenDigits hex rest .digit
    else if char = '_' then
      if seen ≠ .digit then false else underscoresBetweenDigits hex rest .underscore
    else if seen = .underscore then false
    else underscoresBetweenDigits hex rest .other

/-- Underscores stand between digits or after the base prefix. -/
def underscoreOK : List Char → Bool
  | '0' :: prefixChar :: rest =>
    if prefixChar.toLower = 'x' then underscoresBetweenDigits true rest .digit
    else if prefixChar.toLower = 'b' ∨ prefixChar.toLower = 'o' then
      underscoresBetweenDigits false rest .digit
    else underscoresBetweenDigits false ('0' :: prefixChar :: rest) .start
  | chars => underscoresBetweenDigits false chars .start

def parseUint (chars : List Char) : Option Nat :=
  let value :=
    match chars with
    | [] => none
    | '0' :: prefixChar :: digit :: rest =>
      if prefixChar.toLower = 'b' then parseDigits 2 (digit :: rest) 0
      else if prefixChar.toLower = 'o' then parseDigits 8 (digit :: rest) 0
      else if prefixChar.toLower = 'x' then parseDigits 16 (digit :: rest) 0
      else parseDigits 8 (prefixChar :: digit :: rest) 0
    | '0' :: rest => parseDigits 8 rest 0
    | chars => parseDigits 10 chars 0
  if '_' ∈ chars ∧ ¬ underscoreOK chars then none else value

def splitSign : List Char → Bool × List Char
  | '-' :: rest => (true, rest)
  | '+' :: rest => (false, rest)
  | chars => (false, chars)

def parseInt (text : String) : Except String Int :=
  let (negative, chars) := splitSign text.toList
  match parseUint chars with
  | none => .error "parse error"
  | some value =>
    if negative then
      if value ≤ 2 ^ 63 then .ok (-value) else .error "value out of range"
    else if value < 2 ^ 63 then .ok value
    else .error "value out of range"

def parseBool (text : String) : Except String Bool :=
  if text ∈ ["1", "t", "T", "true", "TRUE", "True"] then .ok true
  else if text ∈ ["0", "f", "F", "false", "FALSE", "False"] then .ok false
  else .error "parse error"

/-! ## Decimal numbers -/

theorem digitValue_digit {char : Char} (isDigit : char.isDigit = true) :
    digitValue char = some (char.toNat - '0'.toNat) ∧ char.toNat - '0'.toNat < 10 := by
  simp only [Char.isDigit, Bool.and_eq_true, decide_eq_true_eq] at isDigit
  obtain ⟨low, high⟩ := isDigit
  have bounds : '0' ≤ char ∧ char ≤ '9' := ⟨low, high⟩
  refine ⟨by rw [digitValue, if_pos bounds], ?_⟩
  have bound : char.toNat ≤ '9'.toNat := high
  have nine : '9'.toNat = 57 := rfl
  have zero : '0'.toNat = 48 := rfl
  omega

theorem parseDigits_decimal {digits : List Char} (areDigits : ∀ char ∈ digits, char.isDigit = true)
    (value : Nat) : parseDigits 10 digits value = some (Nat.ofDigitChars 10 digits value) := by
  induction digits generalizing value with
  | nil => simp [parseDigits]
  | cons first rest inductionHypothesis =>
    obtain ⟨digit, small⟩ := digitValue_digit (areDigits first List.mem_cons_self)
    have notUnderscore : first ≠ '_' := by
      intro same
      have isDigit := areDigits first List.mem_cons_self
      rw [same] at isDigit
      exact absurd isDigit (by decide)
    rw [Nat.ofDigitChars_cons, parseDigits.eq_3 _ _ _ _ notUnderscore, digit]
    simp only [small, if_true]
    exact inductionHypothesis (fun char member => areDigits char (List.mem_cons_of_mem _ member)) _

/-- A positive number is not written with a leading zero. -/
theorem head_toDigits {number : Nat} (positive : 0 < number) :
    ∃ first rest, Nat.toDigits 10 number = first :: rest ∧ first ≠ '0' := by
  induction number using Nat.strongRecOn with
  | ind number inductionHypothesis =>
    by_cases single : number < 10
    · have notZero : ∀ digit < 10, 0 < digit → digit.digitChar ≠ '0' := by decide
      exact ⟨number.digitChar, [], Nat.toDigits_of_lt_base single, notZero number single positive⟩
    · obtain ⟨first, rest, digits, notZero⟩ :=
        inductionHypothesis (number / 10) (by omega) (by omega)
      refine ⟨first, rest ++ [(number % 10).digitChar], ?_, notZero⟩
      rw [Nat.toDigits_of_base_le (by decide) (by omega), digits, List.cons_append]

theorem parseInt_repr {number : Nat} (positive : 0 < number) (small : number < 2 ^ 63) :
    parseInt number.repr = .ok number := by
  have areDigits : ∀ char ∈ Nat.toDigits 10 number, char.isDigit = true :=
    fun char member => Nat.isDigit_of_mem_toDigits (by decide) (by decide) member
  have parsed := parseDigits_decimal areDigits 0
  rw [Nat.ofDigitChars_ten_toDigits] at parsed
  obtain ⟨first, rest, digits, notZero⟩ := head_toDigits positive
  rw [digits] at areDigits parsed
  have unsigned : parseUint (first :: rest) = some number := by
    have noUnderscore : '_' ∉ first :: rest := by
      intro member
      exact absurd (areDigits '_' member) (by decide)
    simp only [parseUint, noUnderscore, false_and, if_false]
    split
    · contradiction
    · rename_i same
      cases same
      exact absurd rfl notZero
    · rename_i same
      cases same
      exact absurd rfl notZero
    · exact parsed
  have notSign : first ≠ '-' ∧ first ≠ '+' := by
    have isDigit := areDigits first List.mem_cons_self
    constructor
    · rintro rfl
      exact absurd isDigit (by decide)
    · rintro rfl
      exact absurd isDigit (by decide)
  have unsignedText : splitSign (first :: rest) = (false, first :: rest) := by
    unfold splitSign
    split
    · rename_i same
      cases same
      exact absurd rfl notSign.1
    · rename_i same
      cases same
      exact absurd rfl notSign.2
    · rfl
  simp only [parseInt, Nat.toList_repr, digits, unsignedText, unsigned, small, if_true,
    Bool.false_eq_true, if_false]

end VkTurn.Flags
