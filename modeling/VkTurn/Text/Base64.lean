import Mathlib.Tactic.Common

/-! # Base64 with padding

The encoding with the standard alphabet.
-/

namespace VkTurn.Text

def base64Alphabet : List Char :=
  "ABCDEFGHIJKLMNOPQRSTUVWXYZabcdefghijklmnopqrstuvwxyz0123456789+/".toList

/-- The character of a six-bit value. -/
def base64Char (value : Nat) : Char := base64Alphabet.getD value '/'

def base64Chars : List UInt8 → List Char
  | [] => []
  | [a] => [base64Char (a.toNat / 4), base64Char (a.toNat % 4 * 16), '=', '=']
  | [a, b] =>
    [base64Char (a.toNat / 4), base64Char (a.toNat % 4 * 16 + b.toNat / 16),
      base64Char (b.toNat % 16 * 4), '=']
  | a :: b :: c :: rest =>
    base64Char (a.toNat / 4) :: base64Char (a.toNat % 4 * 16 + b.toNat / 16) ::
      base64Char (b.toNat % 16 * 4 + c.toNat / 64) :: base64Char (c.toNat % 64) ::
      base64Chars rest

def base64Encode (bytes : List UInt8) : String := String.ofList (base64Chars bytes)

theorem base64Alphabet_eq : base64Alphabet =
    ['A', 'B', 'C', 'D', 'E', 'F', 'G', 'H', 'I', 'J', 'K', 'L', 'M', 'N', 'O', 'P', 'Q', 'R',
      'S', 'T', 'U', 'V', 'W', 'X', 'Y', 'Z', 'a', 'b', 'c', 'd', 'e', 'f', 'g', 'h', 'i', 'j',
      'k', 'l', 'm', 'n', 'o', 'p', 'q', 'r', 's', 't', 'u', 'v', 'w', 'x', 'y', 'z', '0', '1',
      '2', '3', '4', '5', '6', '7', '8', '9', '+', '/'] :=
  String.toList_ofList

theorem base64Char_mem (value : Nat) : base64Char value ∈ base64Alphabet := by
  simp only [base64Char, List.getD_eq_getElem?_getD]
  cases inAlphabet : base64Alphabet[value]? with
  | none => simp [base64Alphabet_eq]
  | some char => exact List.mem_of_getElem? inAlphabet

theorem mem_base64Chars {bytes : List UInt8} {char : Char} (member : char ∈ base64Chars bytes) :
    char = '=' ∨ char ∈ base64Alphabet := by
  have digit : ∀ value, char = base64Char value → char ∈ base64Alphabet := by
    rintro value rfl
    exact base64Char_mem value
  fun_induction base64Chars bytes with
  | case1 => cases member
  | case2 a =>
    simp only [List.mem_cons, List.not_mem_nil, or_false] at member
    obtain isDigit | isDigit | isPad | isPad := member
    · exact .inr (digit _ isDigit)
    · exact .inr (digit _ isDigit)
    · exact .inl isPad
    · exact .inl isPad
  | case3 a b =>
    simp only [List.mem_cons, List.not_mem_nil, or_false] at member
    obtain isDigit | isDigit | isDigit | isPad := member
    · exact .inr (digit _ isDigit)
    · exact .inr (digit _ isDigit)
    · exact .inr (digit _ isDigit)
    · exact .inl isPad
  | case4 a b c rest inductionHypothesis =>
    simp only [List.mem_cons] at member
    obtain isDigit | isDigit | isDigit | isDigit | inRest := member
    · exact .inr (digit _ isDigit)
    · exact .inr (digit _ isDigit)
    · exact .inr (digit _ isDigit)
    · exact .inr (digit _ isDigit)
    · exact inductionHypothesis inRest

/-- What a padded encoding is made of: a character outside the alphabet is not in it. -/
theorem not_mem_base64Encode {char : Char} (notPad : char ≠ '=') (outside : char ∉ base64Alphabet)
    (bytes : List UInt8) : char ∉ (base64Encode bytes).toList := by
  rw [base64Encode, String.toList_ofList]
  intro member
  exact (mem_base64Chars member).elim notPad outside

end VkTurn.Text
