import Mathlib.Algebra.Order.BigOperators.Group.List
import Mathlib.Algebra.Order.Ring.Nat
import Mathlib.Data.Bool.AllAny
import VkTurn.Frontend.VlessLink
import VkTurn.Text.PercentEncoding

/-! # Decoding the values of a VLESS link

An escape becomes a character of its own, so that a character of several bytes becomes several, and
a plus that stands for itself becomes a blank.  A count of the pluses, and one of the characters in
which a leading byte counts more than what it may stand for, show that every such value is decoded
to another one, also where only its entries are kept.
-/

namespace VkTurn.Frontend

open VkTurn.Launcher VkTurn.Text

variable {literal : Char → Bool}

/-- The character of a byte. -/
def byteChar (byte : UInt8) : Char := Char.ofNat byte.toNat

theorem toNat_byteChar (byte : UInt8) : (byteChar byte).toNat = byte.toNat := by
  have valid : byte.toNat.isValidChar := .inl (Nat.lt_trans byte.toNat_lt (by decide))
  rw [byteChar, Char.ofNat, dif_pos valid]
  rfl

/-- What a character of an encoded text is decoded to. -/
def decodedChars : EncodedChar literal → List Char
  | .plain char _ => [if char = '+' then ' ' else char]
  | .escaped char _ => (String.utf8EncodeChar char).map byteChar

/-- The character is ASCII, and no plus that stands for itself. -/
def IsSimple : EncodedChar literal → Prop
  | .plain char _ => char.toNat < 128 ∧ char ≠ '+'
  | .escaped char _ => char.toNat < 128

/-! ## The decoded text -/

theorem hexDigitOf_hexDigit {digit : Nat} (small : digit < 16) (upper : Bool) :
    hexDigitOf (hexDigit upper digit) = some digit ∧ ¬ hexDigit upper digit < '0' := by
  have digits : ∀ digit < 16, ∀ upper, hexDigitOf (hexDigit upper digit) = some digit ∧
      ¬ hexDigit upper digit < '0' := by decide +kernel
  exact digits digit small upper

theorem hexNumber_hexDigit (byte : UInt8) (first second : Bool) :
    hexNumber (hexDigit first (byte.toNat / 16)) (hexDigit second (byte.toNat % 16)) =
      some (byte.toNat : Int) := by
  obtain ⟨high, notSign⟩ :=
    hexDigitOf_hexDigit (Nat.div_lt_of_lt_mul byte.toNat_lt : byte.toNat / 16 < 16) first
  obtain ⟨low, _⟩ := hexDigitOf_hexDigit (Nat.mod_lt byte.toNat (by decide : 0 < 16)) second
  rw [hexNumber, if_neg notSign, high, low, Option.bind_some, Option.map_some]
  congr 2
  omega

theorem intToChar_byte (byte : UInt8) : intToChar (byte.toNat : Int) = byteChar byte := by
  have small := byte.toNat_lt
  rw [intToChar, byteChar]
  congr 1
  omega

theorem decodeChars_escapeBytes (bytes : List UInt8) (upper : Nat → Bool) (rest : List Char) :
    decodeChars (escapeBytes bytes upper ++ rest) = bytes.map byteChar ++ decodeChars rest := by
  induction bytes generalizing upper with
  | nil => rfl
  | cons byte bytes inductionHypothesis =>
    simp only [escapeBytes, List.cons_append, decodeChars, hexNumber_hexDigit, intToChar_byte,
      List.map_cons, inductionHypothesis]

theorem decodeChars_cons {char : Char} (notPercent : char ≠ '%') (rest : List Char) :
    decodeChars (char :: rest) = (if char = '+' then ' ' else char) :: decodeChars rest := by
  rw [decodeChars]
  exact fun _ _ _ same => absurd same notPercent

theorem decodeChars_chars (noPercent : literal '%' = false) (encoded : Encoded literal) :
    decodeChars encoded.chars = encoded.flatMap decodedChars := by
  induction encoded with
  | nil => rfl
  | cons part encoded inductionHypothesis =>
    have whole : Encoded.chars (part :: encoded) = part.chars ++ Encoded.chars encoded := rfl
    rw [whole, List.flatMap_cons, ← inductionHypothesis]
    cases part with
    | plain char isLiteral =>
      have notPercent : char ≠ '%' := by
        rintro rfl
        cases noPercent.symm.trans isLiteral
      exact decodeChars_cons notPercent _
    | escaped char upper => exact decodeChars_escapeBytes _ _ _

/-! ## The bytes of a character -/

theorem utf8EncodeChar_ascii {char : Char} (ascii : char.toNat < 128) :
    (String.utf8EncodeChar char).map byteChar = [char] := by
  have small : char.val.toNat ≤ 0x7f := Nat.le_of_lt_succ ascii
  rw [String.utf8EncodeChar]
  simp only [if_pos small, List.map_cons, List.map_nil, List.cons.injEq, and_true]
  rw [byteChar, UInt8.toNat_ofNat_of_lt' (by change char.toNat < 256; omega)]
  exact Char.ofNat_toNat char

theorem continuation_byte (value : Nat) :
    0x80 ≤ (UInt8.ofNat (value % 0x40 + 0x80)).toNat ∧
      (UInt8.ofNat (value % 0x40 + 0x80)).toNat ≤ 0xbf := by
  rw [UInt8.toNat_ofNat_of_lt' (by change _ < 256; omega)]
  omega

/-- The leading byte, and the bytes that follow it. -/
theorem utf8EncodeChar_wide {char : Char} (wide : 128 ≤ char.toNat) :
    ∃ lead next rest, String.utf8EncodeChar char = lead :: next :: rest ∧
      (0xc2 ≤ lead.toNat ∧ lead.toNat ≤ 0xf4) ∧
      ∀ byte ∈ next :: rest, 0x80 ≤ byte.toNat ∧ byte.toNat ≤ 0xbf := by
  have top : char.val.toNat < 0x110000 := by
    obtain low | ⟨_, high⟩ := char.valid
    · exact Nat.lt_trans low (by decide)
    · exact high
  have notAscii : ¬ char.val.toNat ≤ 0x7f := by
    change ¬ char.toNat ≤ 0x7f
    omega
  rw [String.utf8EncodeChar]
  simp only [if_neg notAscii]
  split
  · refine ⟨_, _, _, rfl, ?_, ?_⟩
    · rw [UInt8.toNat_ofNat_of_lt' (by change _ < 256; omega)]
      omega
    · simp only [List.forall_mem_cons, continuation_byte, true_and, List.not_mem_nil, false_implies,
        implies_true]
  split
  · refine ⟨_, _, _, rfl, ?_, ?_⟩
    · rw [UInt8.toNat_ofNat_of_lt' (by change _ < 256; omega)]
      omega
    · simp only [List.forall_mem_cons, continuation_byte, true_and, List.not_mem_nil, false_implies,
        implies_true]
  · refine ⟨_, _, _, rfl, ?_, ?_⟩
    · rw [UInt8.toNat_ofNat_of_lt' (by change _ < 256; omega)]
      omega
    · simp only [List.forall_mem_cons, continuation_byte, true_and, List.not_mem_nil, false_implies,
        implies_true]

/-! ## Counting -/

/-- Blank characters and commas do not count, and a leading byte counts most. -/
def weight (char : Char) : Nat :=
  let code := char.toNat
  if kotlinSpace char || char = ',' then 0
  else if code = 0xc3 then 3
  else if 0xc2 ≤ code && code ≤ 0xf4 then 2
  else 1

def plusses (char : Char) : Nat := if char = '+' then 1 else 0

def total (count : Char → Nat) (chars : List Char) : Nat := (chars.map count).sum

/-- The characters below the first one with a leading byte that is not of Latin letters. -/
theorem weight_latin : ∀ code < 128,
    weight (Char.ofNat (code + 128)) <
      total weight ((String.utf8EncodeChar (Char.ofNat (code + 128))).map byteChar) := by
  decide +kernel

theorem weight_le_one {char : Char} (large : 256 ≤ char.toNat) : weight char ≤ 1 := by
  unfold weight
  dsimp only
  split
  · exact Nat.zero_le 1
  rw [if_neg (by omega)]
  split
  · rename_i isLead
    simp only [Bool.and_eq_true, decide_eq_true_eq] at isLead
    omega
  · exact le_refl 1

theorem weight_lead : ∀ offset < 51, 2 ≤ weight (Char.ofNat (offset + 0xc2)) := by
  decide

/-- A character that is not ASCII weighs less than its bytes. -/
theorem weight_wide {char : Char} (wide : 128 ≤ char.toNat) :
    weight char < total weight ((String.utf8EncodeChar char).map byteChar) := by
  by_cases large : 256 ≤ char.toNat
  · obtain ⟨lead, next, rest, isBytes, ⟨low, high⟩, _⟩ := utf8EncodeChar_wide wide
    have light := weight_le_one large
    have heavy : 2 ≤ weight (byteChar lead) := by
      have offset := weight_lead (lead.toNat - 0xc2) (by omega)
      rwa [Nat.sub_add_cancel low] at offset
    rw [isBytes, total, List.map_cons, List.map_cons, List.sum_cons]
    omega
  · have latin := weight_latin (char.toNat - 128) (by omega)
    rwa [Nat.sub_add_cancel wide, Char.ofNat_toNat] at latin

theorem plusses_wide {char : Char} (wide : 128 ≤ char.toNat) :
    total plusses ((String.utf8EncodeChar char).map byteChar) = 0 := by
  have noPlus (byte : UInt8) (wide : 128 ≤ byte.toNat) : plusses (byteChar byte) = 0 := by
    refine if_neg fun isPlus => ?_
    rw [← toNat_byteChar, isPlus] at wide
    exact absurd wide (by decide)
  obtain ⟨lead, next, rest, isBytes, ⟨low, _⟩, follow⟩ := utf8EncodeChar_wide wide
  refine List.sum_eq_zero fun count isCount => ?_
  simp only [List.mem_map, isBytes] at isCount
  obtain ⟨_, ⟨byte, isByte, rfl⟩, rfl⟩ := isCount
  refine noPlus byte ?_
  obtain rfl | later := List.mem_cons.mp isByte
  · omega
  · exact (follow byte later).1

/-! ## Simple values -/

section Exact

variable {encoded : Encoded literal}

theorem total_flatMap {Part : Type} (count : Char → Nat) (chars : Part → List Char)
    (parts : List Part) : total count (parts.flatMap chars) =
      (parts.map fun part => total count (chars part)).sum := by
  induction parts with
  | nil => rfl
  | cons part parts inductionHypothesis =>
    rw [List.flatMap_cons, List.map_cons, List.sum_cons, ← inductionHypothesis, total, total, total,
      List.map_append, List.sum_append]

theorem decodedChars_of_simple {part : EncodedChar literal} (simple : IsSimple part) :
    decodedChars part = [part.original] := by
  cases part with
  | plain char isLiteral => simp only [decodedChars, if_neg simple.2, EncodedChar.original]
  | escaped char upper => exact utf8EncodeChar_ascii simple

theorem total_map {Part : Type} (count : Char → Nat) (char : Part → Char) (parts : List Part) :
    total count (parts.map char) = (parts.map fun part => count (char part)).sum := by
  rw [total, List.map_map]
  rfl

/-- A plus that stands for itself. -/
def IsPlus : EncodedChar literal → Prop
  | .plain char _ => char = '+'
  | .escaped .. => False

theorem plusses_decodedChars (part : EncodedChar literal) :
    total plusses (decodedChars part) ≤ plusses part.original ∧
      (IsPlus part → total plusses (decodedChars part) < plusses part.original) := by
  cases part with
  | plain char isLiteral =>
    by_cases isPlus : char = '+'
    · subst isPlus
      have lost : total plusses (decodedChars (.plain '+' isLiteral)) < 1 := Nat.zero_lt_one
      exact ⟨lost.le, fun _ => lost⟩
    · simp only [decodedChars, if_neg isPlus, EncodedChar.original]
      exact ⟨le_refl _, fun plus => absurd plus isPlus⟩
  | escaped char upper =>
    refine ⟨?_, False.elim⟩
    by_cases ascii : char.toNat < 128
    · rw [decodedChars, utf8EncodeChar_ascii ascii]
      exact le_refl _
    · rw [decodedChars, plusses_wide (Nat.le_of_not_lt ascii)]
      exact Nat.zero_le _

theorem weight_decodedChars (ascii : ∀ char, literal char = true → char.toNat < 128)
    {part : EncodedChar literal} (notPlus : ¬ IsPlus part) :
    weight part.original ≤ total weight (decodedChars part) ∧
      (¬ IsSimple part → weight part.original < total weight (decodedChars part)) := by
  by_cases simple : IsSimple part
  · rw [decodedChars_of_simple simple]
    exact ⟨le_refl _, fun notSimple => absurd simple notSimple⟩
  · cases part with
    | plain char isLiteral => exact absurd ⟨ascii char isLiteral, notPlus⟩ simple
    | escaped char upper =>
      have heavier := weight_wide (Nat.le_of_not_lt simple : 128 ≤ char.toNat)
      exact ⟨heavier.le, fun _ => heavier⟩

/-- A value with the pluses and the weight of what it is decoded to is simple. -/
theorem simple_of_total (ascii : ∀ char, literal char = true → char.toNat < 128)
    (samePlusses : total plusses (encoded.flatMap decodedChars) =
      total plusses (encoded.map EncodedChar.original))
    (sameWeight : total weight (encoded.flatMap decodedChars) =
      total weight (encoded.map EncodedChar.original)) :
    ∀ part ∈ encoded, IsSimple part := by
  rw [total_flatMap, total_map] at samePlusses sameWeight
  have noPlus : ∀ part ∈ encoded, ¬ IsPlus part := by
    intro part isPart isPlus
    refine samePlusses.not_lt (List.sum_lt_sum _ _ ?_ ⟨part, isPart, ?_⟩)
    · exact fun other _ => (plusses_decodedChars other).1
    · exact (plusses_decodedChars part).2 isPlus
  intro part isPart
  by_contra notSimple
  refine sameWeight.not_gt (List.sum_lt_sum _ _ ?_ ⟨part, isPart, ?_⟩)
  · exact fun other isOther => (weight_decodedChars ascii (noPlus other isOther)).1
  · exact (weight_decodedChars ascii (noPlus part isPart)).2 notSimple

end Exact

/-! ## The decoded values -/

theorem total_append (count : Char → Nat) (first second : List Char) :
    total count (first ++ second) = total count first + total count second := by
  rw [total, List.map_append, List.sum_append, total, total]

theorem total_eq_zero {count : Char → Nat} {chars : List Char}
    (none : ∀ char ∈ chars, count char = 0) : total count chars = 0 := by
  refine List.sum_eq_zero fun value isValue => ?_
  obtain ⟨char, member, rfl⟩ := List.mem_map.mp isValue
  exact none char member

theorem total_splitOn {separator : Char} {count : Char → Nat} (noSeparator : count separator = 0)
    (chars : List Char) :
    ((chars.splitOn separator).map (total count)).sum = total count chars := by
  induction chars with
  | nil => simp [total]
  | cons first rest inductionHypothesis =>
    rw [List.splitOn_cons_eq_if_modifyHead]
    by_cases isSeparator : first = separator
    · simp only [isSeparator, beq_self_eq_true, if_true, List.map_cons, List.sum_cons,
        inductionHypothesis]
      simp [total, noSeparator]
    · obtain ⟨head, tail, split⟩ :=
        List.exists_cons_of_ne_nil (List.splitOn_ne_nil separator rest)
      rw [split, List.map_cons, List.sum_cons] at inductionHypothesis
      simp only [isSeparator, beq_iff_eq, if_false, split, List.modifyHead_cons, List.map_cons,
        List.sum_cons]
      have whole (chars : List Char) :
          total count (first :: chars) = count first + total count chars := rfl
      rw [whole, whole, Nat.add_assoc, inductionHypothesis]

theorem total_trimChars {blank : Char → Bool} {count : Char → Nat}
    (noBlank : ∀ char, blank char = true → count char = 0) (chars : List Char) :
    total count (trimChars blank chars) = total count chars := by
  obtain ⟨before, after, split, blankBefore, blankAfter⟩ := trimChars_split blank chars
  have noBefore : total count before = 0 :=
    total_eq_zero fun char member => noBlank char (blankBefore char member)
  have noAfter : total count after = 0 :=
    total_eq_zero fun char member => noBlank char (blankAfter char member)
  conv_rhs => rw [split, total_append, total_append, noBefore, noAfter, Nat.zero_add, Nat.add_zero]

/-- Empty texts do not count. -/
theorem sum_total_filter (count : Char → Nat) (parts : List String) :
    ((parts.filter (· ≠ "")).map fun part => total count part.toList).sum =
      (parts.map fun part => total count part.toList).sum := by
  induction parts with
  | nil => rfl
  | cons part parts inductionHypothesis =>
    by_cases isEmpty : part = ""
    · rw [List.filter_cons_of_neg (by simp [isEmpty]), List.map_cons, List.sum_cons,
        inductionHypothesis, isEmpty]
      simp [total]
    · rw [List.filter_cons_of_pos (by simp [isEmpty]), List.map_cons, List.sum_cons, List.map_cons,
        List.sum_cons, inductionHypothesis]

/-- What counts neither blanks nor separators counts a text by its entries. -/
theorem total_entries {blank : Char → Bool} {separator : Char} {count : Char → Nat}
    (noBlank : ∀ char, blank char = true → count char = 0) (noSeparator : count separator = 0)
    (text : String) :
    ((entries blank separator text).map fun entry => total count entry.toList).sum =
      total count text.toList := by
  have trimmed (part : List Char) :
      total count (trim blank (String.ofList part)).toList = total count part := by
    rw [trim, String.toList_ofList, String.toList_ofList, total_trimChars noBlank]
  rw [← total_splitOn noSeparator, entries, sum_total_filter, splitOn, List.map_map, List.map_map]
  simp only [Function.comp_def, trimmed]

/-- The characters that a value may hold for themselves are visible. -/
theorem isQueryChar_visible {char : Char} (isLiteral : isQueryChar char = true) :
    0x20 < char.toNat ∧ char.toNat < 128 := by
  have marks : ∀ char ∈ "!$()*+,;=:@/?".toList, 0x20 < char.toNat ∧ char.toNat < 128 :=
    List.all_iff_forall_prop.mp (by decide)
  simp only [isQueryChar, isUnreserved, Bool.or_eq_true, decide_eq_true_eq, List.contains_iff_mem]
    at isLiteral
  obtain (((((alphanumeric | rfl) | rfl) | rfl) | rfl) | quote) | isMark := isLiteral
  · delta Char.isAlphanum Char.isAlpha Char.isUpper Char.isLower Char.isDigit at alphanumeric
    simp only [Bool.or_eq_true, Bool.and_eq_true, decide_eq_true_eq, ge_iff_le,
      UInt32.le_iff_toNat_le] at alphanumeric
    change 0x20 < char.val.toNat ∧ char.val.toNat < 128
    obtain ((⟨low, high⟩ | ⟨low, high⟩) | ⟨low, high⟩) := alphanumeric
    · exact ⟨Nat.lt_of_lt_of_le (by decide) low, Nat.lt_of_le_of_lt high (by decide)⟩
    · exact ⟨Nat.lt_of_lt_of_le (by decide) low, Nat.lt_of_le_of_lt high (by decide)⟩
    · exact ⟨Nat.lt_of_lt_of_le (by decide) low, Nat.lt_of_le_of_lt high (by decide)⟩
  · decide
  · decide
  · decide
  · decide
  · omega
  · exact marks char isMark

section Values

variable {encoded : Encoded literal}

theorem decode_chars (noPercent : literal '%' = false) (encoded : Encoded literal) :
    decode (String.ofList encoded.chars) = String.ofList (encoded.flatMap decodedChars) := by
  rw [decode, String.toList_ofList, decodeChars_chars noPercent]

theorem flatMap_decodedChars (simple : ∀ part ∈ encoded, IsSimple part) :
    encoded.flatMap decodedChars = encoded.map EncodedChar.original := by
  induction encoded with
  | nil => rfl
  | cons part encoded inductionHypothesis =>
    rw [List.forall_mem_cons] at simple
    rw [List.flatMap_cons, decodedChars_of_simple simple.1, inductionHypothesis simple.2]
    rfl

theorem decode_of_simple (noPercent : literal '%' = false)
    (simple : ∀ part ∈ encoded, IsSimple part) :
    decode (String.ofList encoded.chars) = encoded.original := by
  rw [decode_chars noPercent, flatMap_decodedChars simple, Encoded.original]

/-- What is decoded to ASCII text without blanks is simple. -/
theorem simple_of_decodedChars (ascii : ∀ char, literal char = true → char.toNat < 128)
    (plain : ∀ char ∈ encoded.flatMap decodedChars, char.toNat < 128 ∧ char ≠ ' ') :
    ∀ part ∈ encoded, IsSimple part := by
  intro part isPart
  have chars : ∀ char ∈ decodedChars part, char.toNat < 128 ∧ char ≠ ' ' :=
    fun char member => plain char (List.mem_flatMap.mpr ⟨part, isPart, member⟩)
  cases part with
  | plain char isLiteral =>
    refine ⟨ascii char isLiteral, ?_⟩
    rintro rfl
    exact (chars ' ' (List.mem_singleton_self _)).2 rfl
  | escaped char upper =>
    by_contra wide
    obtain ⟨lead, next, rest, isBytes, ⟨low, _⟩, _⟩ :=
      utf8EncodeChar_wide (Nat.le_of_not_lt wide : 128 ≤ char.toNat)
    have isLead : byteChar lead ∈ (String.utf8EncodeChar char).map byteChar := by
      rw [isBytes]
      exact List.mem_cons_self
    have small := (chars _ isLead).1
    rw [toNat_byteChar] at small
    omega

/-- A value that has the entries of what it is decoded to is simple. -/
theorem simple_of_entries (noPercent : literal '%' = false)
    (ascii : ∀ char, literal char = true → char.toNat < 128)
    (same : entries kotlinSpace ',' (decode (String.ofList encoded.chars)) =
      entries kotlinSpace ',' encoded.original) : ∀ part ∈ encoded, IsSimple part := by
  rw [decode_chars noPercent, Encoded.original] at same
  have counted {count : Char → Nat} (noBlank : ∀ char, kotlinSpace char = true → count char = 0)
      (noComma : count ',' = 0) : total count (encoded.flatMap decodedChars) =
        total count (encoded.map EncodedChar.original) := by
    have decoded := total_entries noBlank noComma (String.ofList (encoded.flatMap decodedChars))
    rw [same, total_entries noBlank noComma, String.toList_ofList,
      String.toList_ofList] at decoded
    exact decoded.symm
  refine simple_of_total ascii (counted ?_ rfl) (counted ?_ rfl)
  · intro char isBlank
    rw [plusses, if_neg]
    rintro rfl
    exact absurd isBlank (by decide)
  · intro char isBlank
    simp only [weight, isBlank, Bool.true_or, if_true]

end Values

section QueryValues

variable {encoded : Encoded isQueryChar}

/-- A value is decoded to what is meant if and only if it is simple. -/
theorem decode_eq_iff : decode (String.ofList encoded.chars) = encoded.original ↔
    ∀ part ∈ encoded, IsSimple part := by
  constructor
  · intro same
    refine simple_of_entries (by decide) (fun _ isLiteral => ?_) (by rw [same])
    exact (isQueryChar_visible isLiteral).2
  · exact decode_of_simple (by decide)

/-- The same holds when only the entries of the value are kept. -/
theorem entries_decode_eq_iff : entries kotlinSpace ',' (decode (String.ofList encoded.chars)) =
    entries kotlinSpace ',' encoded.original ↔ ∀ part ∈ encoded, IsSimple part := by
  constructor
  · exact simple_of_entries (by decide) fun _ isLiteral => (isQueryChar_visible isLiteral).2
  · intro simple
    rw [decode_of_simple (by decide) simple]

end QueryValues

end VkTurn.Frontend
