import VkTurn.Text.Kotlin

/-! # Integers as Kotlin writes and reads them

What `toString` makes of an integer, `toIntOrNull` reads back.
-/

namespace VkTurn.Text

theorem isDigit_toString {number : Nat} : ∀ char ∈ (toString number).toList, char.isDigit = true := by
  intro char member
  rw [Nat.toString_eq_ofList_toDigits, String.toList_ofList] at member
  exact Nat.isDigit_of_mem_toDigits (by decide) (by decide) member

theorem digitOf_digit {char : Char} (isDigit : char.isDigit = true) :
    digitOf char = some (char.toNat - '0'.toNat) := by
  simp only [Char.isDigit, Bool.and_eq_true, decide_eq_true_eq] at isDigit
  have low : 0x30 ≤ char.toNat := isDigit.1
  have high : char.toNat ≤ 0x39 := isDigit.2
  have isFirst : decimalZeros.find? (fun start => start ≤ char.toNat ∧ char.toNat < start + 10) =
      some 0x30 := List.find?_cons_of_pos (decide_eq_true ⟨low, by omega⟩)
  rw [digitOf, isFirst]
  rfl

theorem digits?_decimal {digits : List Char} (areDigits : ∀ char ∈ digits, char.isDigit = true)
    (value : Nat) : digits? digits value = some (Nat.ofDigitChars 10 digits value) := by
  induction digits generalizing value with
  | nil => simp [digits?]
  | cons first rest inductionHypothesis =>
    have isDigit := digitOf_digit (areDigits first List.mem_cons_self)
    rw [digits?, isDigit, Option.bind_some, Nat.ofDigitChars_cons, Nat.mul_comm]
    exact inductionHypothesis (fun char member => areDigits char (List.mem_cons_of_mem _ member)) _

theorem digits?_toString (number : Nat) : digits? (toString number).toList 0 = some number := by
  rw [digits?_decimal isDigit_toString, Nat.toString_eq_ofList_toDigits, String.toList_ofList,
    Nat.ofDigitChars_ten_toDigits]

/-- A number within the bounds. -/
theorem toIntegerOrNull_toString {low high : Int} {number : Nat} (isLow : low ≤ number)
    (isHigh : number ≤ high) : toIntegerOrNull low high (toString number) = some (number : Int) := by
  have value := digits?_toString number
  have areDigits := @isDigit_toString number
  unfold toIntegerOrNull
  cases isText : (toString number).toList with
  | nil =>
    rw [Nat.toString_eq_ofList_toDigits, String.toList_ofList] at isText
    exact absurd isText Nat.toDigits_ne_nil
  | cons first rest =>
    rw [isText] at value areDigits
    have isDigit := areDigits first List.mem_cons_self
    simp only [Char.isDigit, Bool.and_eq_true, decide_eq_true_eq] at isDigit
    have notBelow : ¬ first < '0' := UInt32.not_lt.mpr isDigit.1
    simp only [notBelow, if_false, value, Option.bind_some, isLow, isHigh, and_self, if_true]

theorem toIntegerOrNull_neg {low high : Int} {number : Nat} (isLow : low ≤ -(number : Int))
    (isHigh : -(number : Int) ≤ high) :
    toIntegerOrNull low high ("-" ++ toString number) = some (-(number : Int)) := by
  have value := digits?_toString number
  have isText : ("-" ++ toString number).toList = '-' :: (toString number).toList := by
    rw [String.toList_append]
    rfl
  have nonempty : (toString number).toList ≠ [] := by
    rw [Nat.toString_eq_ofList_toDigits, String.toList_ofList]
    exact Nat.toDigits_ne_nil
  have below : '-' < '0' := by decide
  unfold toIntegerOrNull
  simp only [isText, below, if_true, nonempty, if_false, value, Option.bind_some, isLow, isHigh,
    and_self]

/-- An integer within the bounds, whatever its sign. -/
theorem toIntegerOrNull_toString_int {low high number : Int} (isLow : low ≤ number)
    (isHigh : number ≤ high) : toIntegerOrNull low high (toString number) = some number := by
  cases number with
  | ofNat value => exact toIntegerOrNull_toString isLow isHigh
  | negSucc value =>
    -- `Int.negSucc value` is the negative of `value + 1`, and so is its text
    rw [Int.negSucc_eq] at isLow isHigh
    have negative := @toIntegerOrNull_neg low high (value + 1) (by omega) (by omega)
    exact negative

theorem toIntOrNull_toString (number : Int32) :
    toIntOrNull (toString number.toInt) = some number := by
  have low := number.le_toInt
  have high := number.toInt_lt
  rw [toIntOrNull, toIntegerOrNull_toString_int (by omega) (by omega), Option.map_some,
    Int32.ofInt_toInt]

theorem toLongOrNull_toString (number : Int64) :
    toLongOrNull (toString number.toInt) = some number := by
  have low := number.le_toInt
  have high := number.toInt_lt
  rw [toLongOrNull, toIntegerOrNull_toString_int (by omega) (by omega), Option.map_some,
    Int64.ofInt_toInt]

/-- The text of an integer holds digits and a sign. -/
theorem mem_toString_int {number : Int} {char : Char} (member : char ∈ (toString number).toList) :
    char = '-' ∨ char.isDigit = true := by
  cases number with
  | ofNat value => exact .inr (isDigit_toString char member)
  | negSucc value =>
    have isText : (toString (Int.negSucc value)).toList = '-' :: (toString (value + 1)).toList := by
      have written : toString (Int.negSucc value) = "-" ++ toString (value + 1) := rfl
      rw [written, String.toList_append]
      rfl
    rw [isText] at member
    obtain rfl | inNumber := List.mem_cons.mp member
    · exact .inl rfl
    · exact .inr (isDigit_toString char inNumber)

/-- An integer is read back from its text, so that the text is that of one integer. -/
theorem toString_int_inj {number other : Int} (same : toString number = toString other) :
    number = other := by
  have read := @toIntegerOrNull_toString_int (min number other) (max number other) number
    (by omega) (by omega)
  have readOther := @toIntegerOrNull_toString_int (min number other) (max number other) other
    (by omega) (by omega)
  rw [same, readOther] at read
  exact (Option.some.inj read).symm

end VkTurn.Text
