import Mathlib.Algebra.Group.Int.Defs
import Mathlib.Data.List.Infix
import VkTurn.Text.Split

/-! # Kotlin's text functions -/

namespace VkTurn.Text

/-- The characters of `lineSequence`: a line ends at a line feed, a carriage return, or both. -/
def lineChars : List Char → List (List Char)
  | [] => [[]]
  | '\r' :: '\n' :: rest => [] :: lineChars rest
  | char :: rest =>
    if char = '\n' ∨ char = '\r' then [] :: lineChars rest
    else
      match lineChars rest with
      | [] => [[char]]
      | line :: lines => (char :: line) :: lines

def lineSequence (text : String) : List String := (lineChars text.toList).map String.ofList

def substringBefore (separator : Char) (text : String) : String :=
  String.ofList (text.toList.takeWhile (· ≠ separator))

def removePrefix (start text : String) : String :=
  if start.toList.isPrefixOf text.toList then
    String.ofList (text.toList.drop start.toList.length)
  else text

def joinToString (separator : String) (parts : List String) : String :=
  String.ofList (separator.toList.intercalate (parts.map String.toList))

/-- `lowercase` as far as ASCII text sees it: besides the ASCII capitals, only the Kelvin sign and
    the dotted capital I, which becomes two characters, have ASCII letters in their lower case. -/
def lowercase (chars : List Char) : List Char :=
  chars.flatMap fun char =>
    if char.toNat = 0x212a then ['k']
    else if char.toNat = 0x130 then ['i', Char.ofNat 0x307]
    else [char.toLower]

/-- `indexOf`, when it is not -1. -/
def indexOf (needle : String) (chars : List Char) : Option Nat :=
  chars.tails.findIdx? needle.toList.isPrefixOf

/-- The code points of the zeros of the decimal digits in the basic plane. -/
def decimalZeros : List Nat :=
  [0x30, 0x660, 0x6f0, 0x7c0, 0x966, 0x9e6, 0xa66, 0xae6, 0xb66, 0xbe6, 0xc66, 0xce6, 0xd66, 0xde6,
    0xe50, 0xed0, 0xf20, 0x1040, 0x1090, 0x17e0, 0x1810, 0x1946, 0x19d0, 0x1a80, 0x1a90, 0x1b50,
    0x1bb0, 0x1c40, 0x1c50, 0xa620, 0xa8d0, 0xa900, 0xa9d0, 0xa9f0, 0xaa50, 0xabf0, 0xff10]

/-- `digitOf` in base 10. -/
def digitOf (char : Char) : Option Nat :=
  (decimalZeros.find? fun start => start ≤ char.toNat ∧ char.toNat < start + 10).map
    fun start => char.toNat - start

def digits? : List Char → Nat → Option Nat
  | [], value => some value
  | char :: rest, value => (digitOf char).bind fun digit => digits? rest (value * 10 + digit)

/-- `toIntOrNull` for integers between the bounds; only a character below the digits may be a
    sign. -/
def toIntegerOrNull (low high : Int) (text : String) : Option Int :=
  let within (value : Int) : Option Int := if low ≤ value ∧ value ≤ high then some value else none
  match text.toList with
  | [] => none
  | first :: rest =>
    if first < '0' then
      if rest = [] then none
      else if first = '-' then (digits? rest 0).bind fun value => within (-value)
      else if first = '+' then (digits? rest 0).bind fun value => within value
      else none
    else (digits? (first :: rest) 0).bind fun value => within value

def toIntOrNull (text : String) : Option Int32 :=
  (toIntegerOrNull (-2 ^ 31) (2 ^ 31 - 1) text).map Int32.ofInt

def toLongOrNull (text : String) : Option Int64 :=
  (toIntegerOrNull (-2 ^ 63) (2 ^ 63 - 1) text).map Int64.ofInt

/-- No lower-case text holds an ASCII capital. -/
theorem lowercase_free {chars : List Char} {capital : Char} (isCapital : capital.isUpper) :
    capital ∉ lowercase chars := by
  intro member
  obtain ⟨char, _, inLower⟩ := List.mem_flatMap.mp member
  split at inLower
  · obtain rfl := List.mem_singleton.mp inLower
    exact absurd isCapital (by decide)
  · split at inLower
    · simp only [List.mem_cons, List.not_mem_nil, or_false] at inLower
      obtain rfl | rfl := inLower
      · exact absurd isCapital (by decide)
      · exact absurd isCapital (by decide)
    · obtain rfl := List.mem_singleton.mp inLower
      delta Char.isUpper Char.toLower at isCapital
      split at isCapital <;> grind [UInt32.toNat_add, Char.toNat_val]

/-- What is found is part of the text. -/
theorem mem_of_indexOf {needle : String} {chars : List Char} {start : Nat} {char : Char}
    (found : indexOf needle chars = some start) (member : char ∈ needle.toList) :
    char ∈ chars := by
  obtain ⟨isIndex, matched, _⟩ := List.findIdx?_eq_some_iff_getElem.mp found
  have suffix : chars.tails[start] <:+ chars := (List.mem_tails _ _).mp (List.getElem_mem isIndex)
  have occurs : needle.toList <+: chars.tails[start] := by simpa using matched
  exact suffix.subset (occurs.subset member)

/-- No line of the sequence holds a line break. -/
theorem lineChars_free {chars line : List Char} (member : line ∈ lineChars chars) :
    '\n' ∉ line := by
  fun_induction lineChars chars generalizing line with
  | case1 => simp_all
  | case2 rest inductionHypothesis =>
    rcases List.mem_cons.mp member with rfl | inRest
    · exact List.not_mem_nil
    · exact inductionHypothesis inRest
  | case3 char rest _ isBreak inductionHypothesis =>
    rcases List.mem_cons.mp member with rfl | inRest
    · exact List.not_mem_nil
    · exact inductionHypothesis inRest
  | case4 char rest _ noBreak isNil inductionHypothesis =>
    cases List.mem_singleton.mp member
    simp only [List.mem_singleton]
    exact fun same => noBreak (.inl same.symm)
  | case5 char rest _ noBreak first lines isLines inductionHypothesis =>
    rcases List.mem_cons.mp member with rfl | inRest
    · have inFirst : '\n' ∉ first := inductionHypothesis (by simp [isLines])
      simp only [List.mem_cons, not_or]
      exact ⟨fun same => noBreak (.inl same.symm), inFirst⟩
    · exact inductionHypothesis (by simp [isLines, inRest])

end VkTurn.Text
