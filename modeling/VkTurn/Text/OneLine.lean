import VkTurn.Text.Base64
import VkTurn.Text.Kotlin

/-! # Texts of one line -/

namespace VkTurn.Text

/-- A text without a line feed. -/
def OneLine (text : String) : Prop := '\n' ∉ text.toList

instance (text : String) : Decidable (OneLine text) :=
  inferInstanceAs (Decidable ('\n' ∉ text.toList))

variable {text other : String}

theorem OneLine.of_sublist (isLine : OneLine other)
    (sublist : text.toList.Sublist other.toList) : OneLine text :=
  fun member => isLine (sublist.subset member)

theorem oneLine_empty : OneLine "" := List.not_mem_nil

theorem OneLine.append (isLine : OneLine text) (isOther : OneLine other) :
    OneLine (text ++ other) := by
  rw [OneLine, String.toList_append, List.mem_append, not_or]
  exact ⟨isLine, isOther⟩

theorem oneLine_append : OneLine (text ++ other) ↔ OneLine text ∧ OneLine other := by
  rw [OneLine, String.toList_append, List.mem_append, not_or, OneLine, OneLine]

theorem trim_sublist (blank : Char → Bool) (text : String) :
    (trim blank text).toList.Sublist text.toList := by
  obtain ⟨before, after, split, _⟩ := trimChars_split blank text.toList
  rw [trim, String.toList_ofList]
  nth_rewrite 2 [split]
  exact (List.sublist_append_right before _).trans (List.sublist_append_left _ after)

theorem OneLine.trim (isLine : OneLine text) (blank : Char → Bool) : OneLine (trim blank text) :=
  isLine.of_sublist (trim_sublist blank text)

theorem mem_joinToString {separator : String} {parts : List String} {char : Char} :
    char ∈ (joinToString separator parts).toList →
      char ∈ separator.toList ∨ ∃ part ∈ parts, char ∈ part.toList := by
  rw [joinToString, String.toList_ofList]
  induction parts with
  | nil => simp [List.intercalate]
  | cons first rest inductionHypothesis =>
    cases rest with
    | nil =>
      intro member
      exact .inr ⟨first, List.mem_singleton_self first, by simpa [List.intercalate] using member⟩
    | cons second others =>
      intro member
      have split : char ∈ first.toList ∨ char ∈ separator.toList ∨
          char ∈ separator.toList.intercalate ((second :: others).map String.toList) := by
        simpa [List.intercalate] using member
      obtain inFirst | inSeparator | later := split
      · exact .inr ⟨first, List.mem_cons_self, inFirst⟩
      · exact .inl inSeparator
      · obtain inSeparator | ⟨part, isPart, inPart⟩ := inductionHypothesis later
        · exact .inl inSeparator
        · exact .inr ⟨part, List.mem_cons_of_mem _ isPart, inPart⟩

theorem mem_joinToString_of_mem {separator : String} {parts : List String} {part : String}
    (isPart : part ∈ parts) {char : Char} (member : char ∈ part.toList) :
    char ∈ (joinToString separator parts).toList := by
  rw [joinToString, String.toList_ofList]
  induction parts with
  | nil => cases isPart
  | cons first rest inductionHypothesis =>
    cases rest with
    | nil =>
      cases List.mem_singleton.mp isPart
      simpa [List.intercalate] using member
    | cons second others =>
      have split : char ∈ first.toList ∨ char ∈ separator.toList ∨
          char ∈ separator.toList.intercalate ((second :: others).map String.toList) := by
        obtain rfl | later := List.mem_cons.mp isPart
        · exact .inl member
        · exact .inr (.inr (inductionHypothesis later))
      simpa [List.intercalate] using split

theorem oneLine_joinToString {separator : String} {parts : List String}
    (isSeparator : OneLine separator) :
    OneLine (joinToString separator parts) ↔ ∀ part ∈ parts, OneLine part := by
  constructor
  · intro isLine part isPart member
    exact isLine (mem_joinToString_of_mem isPart member)
  · intro areLines member
    obtain inSeparator | ⟨part, isPart, inPart⟩ := mem_joinToString member
    · exact isSeparator inSeparator
    · exact areLines part isPart inPart

theorem digitChar_ne_lineFeed (digit : Nat) : digit.digitChar ≠ '\n' := by
  by_cases small : digit < 16
  · have digits : ∀ digit < 16, Nat.digitChar digit ≠ '\n' := by decide
    exact digits digit small
  · have isOther : digit.digitChar = '*' := by
      simp only [Nat.digitChar]
      repeat rw [if_neg (by omega)]
    rw [isOther]
    decide

theorem toDigits_free {base : Nat} (isBase : 1 < base) (value : Nat) :
    '\n' ∉ Nat.toDigits base value := by
  induction value using Nat.strongRecOn with
  | ind value inductionHypothesis =>
    rw [Nat.toDigits_eq_if isBase]
    split
    · rw [List.mem_singleton]
      exact (digitChar_ne_lineFeed value).symm
    · rename_i large
      have smaller : value / base < value := Nat.div_lt_self (by omega) isBase
      rw [List.mem_append, List.mem_singleton, not_or]
      exact ⟨inductionHypothesis _ smaller, (digitChar_ne_lineFeed _).symm⟩

theorem oneLine_nat (value : Nat) : OneLine (toString value) := by
  rw [OneLine, Nat.toString_eq_ofList_toDigits, String.toList_ofList]
  exact toDigits_free (by decide) value

theorem oneLine_int (value : Int) : OneLine (toString value) := by
  cases value with
  | ofNat value => exact oneLine_nat value
  | negSucc value =>
    have isMinus : OneLine "-" := by decide
    exact isMinus.append (oneLine_nat (value + 1))

theorem oneLine_base64Encode (bytes : List UInt8) : OneLine (base64Encode bytes) :=
  not_mem_base64Encode (by decide +kernel) (by decide +kernel) bytes

theorem oneLine_of_lineSequence {line : String} (member : line ∈ lineSequence text) :
    OneLine line := by
  obtain ⟨chars, isLine, rfl⟩ := List.mem_map.mp member
  rw [OneLine, String.toList_ofList]
  exact lineChars_free isLine

theorem OneLine.substringBefore (isLine : OneLine text) (separator : Char) :
    OneLine (substringBefore separator text) := by
  apply isLine.of_sublist
  rw [Text.substringBefore, String.toList_ofList]
  exact List.takeWhile_sublist _

end VkTurn.Text
