import Mathlib.Data.List.DropRight
import Mathlib.Data.List.TakeWhile

/-! # Trimming and splitting text

Trimming is over an arbitrary class of blank characters, since the languages of the programs
disagree about which characters are blank.
-/

namespace VkTurn.Text

def trimChars (blank : Char → Bool) (chars : List Char) : List Char :=
  (chars.dropWhile blank).rdropWhile blank

def trim (blank : Char → Bool) (text : String) : String :=
  String.ofList (trimChars blank text.toList)

section Lemmas

variable {blank : Char → Bool}

theorem trimChars_eq_nil {chars : List Char} :
    trimChars blank chars = [] ↔ ∀ char ∈ chars, blank char = true := by
  rw [trimChars, List.rdropWhile_eq_nil_iff]
  constructor
  · intro inner char member
    have dropped : chars.dropWhile blank = [] := by
      by_contra notEmpty
      have head := List.head_dropWhile_not blank notEmpty
      rw [inner _ (List.head_mem notEmpty)] at head
      cases head
    exact List.dropWhile_eq_nil_iff.mp dropped char member
  · intro allBlank char member
    exact allBlank char ((List.dropWhile_suffix blank).subset member)

theorem trim_eq_empty {text : String} :
    trim blank text = "" ↔ ∀ char ∈ text.toList, blank char = true := by
  rw [← trimChars_eq_nil, trim, ← String.toList_inj, String.toList_ofList]
  rfl

theorem trimChars_trimChars (chars : List Char) :
    trimChars blank (trimChars blank chars) = trimChars blank chars := by
  have started : (trimChars blank chars).dropWhile blank = trimChars blank chars := by
    unfold trimChars
    cases trimmed : (chars.dropWhile blank).rdropWhile blank with
    | nil => rfl
    | cons first rest =>
      -- what is left starts where the leading blanks end
      have isPrefix : first :: rest <+: chars.dropWhile blank :=
        trimmed ▸ List.rdropWhile_prefix blank _
      have notEmpty : chars.dropWhile blank ≠ [] := by
        intro empty
        rw [empty] at isPrefix
        cases List.prefix_nil.mp isPrefix
      have notBlank := List.head_dropWhile_not blank notEmpty
      rw [← isPrefix.head (List.cons_ne_nil first rest), List.head_cons] at notBlank
      rw [List.dropWhile_cons_of_neg (by simp [notBlank])]
  conv_lhs => rw [trimChars, started]
  exact List.rdropWhile_idempotent blank _

theorem head_trimChars {chars : List Char} {first : Char}
    (isFirst : first ∈ (trimChars blank chars).head?) : blank first = false := by
  have started : (trimChars blank chars).dropWhile blank = trimChars blank chars := by
    have shorter := (List.rdropWhile_prefix blank
      ((trimChars blank chars).dropWhile blank)).length_le
    have whole : ((trimChars blank chars).dropWhile blank).rdropWhile blank =
        trimChars blank chars := trimChars_trimChars chars
    rw [whole] at shorter
    exact (List.dropWhile_suffix blank).eq_of_length_le shorter
  cases trimmed : trimChars blank chars with
  | nil => simp [trimmed] at isFirst
  | cons head rest =>
    rw [trimmed] at started isFirst
    cases isFirst
    exact Bool.eq_false_iff.mpr (List.dropWhile_eq_self_iff.mp started (Nat.succ_pos _))

/-- A text with no blank end is not changed. -/
theorem trimChars_eq_self {init : List Char} {last : Char}
    (starts : ∀ first ∈ (init ++ [last]).head?, blank first = false)
    (ends : blank last = false) : trimChars blank (init ++ [last]) = init ++ [last] := by
  have started : (init ++ [last]).dropWhile blank = init ++ [last] := by
    cases init with
    | nil => simp [ends]
    | cons first rest =>
      have notBlank := starts first rfl
      rw [List.cons_append, List.dropWhile_cons_of_neg (by simp [notBlank])]
  rw [trimChars, started, List.rdropWhile_concat_neg _ _ _ (by simp [ends])]

/-- Behind a text with solid ends only the blank end goes. -/
theorem trimChars_append_solid {before init rest after : List Char} {first last : Char}
    (starts : before = first :: rest) (solidFirst : blank first = false)
    (ends : before = init ++ [last]) (solidLast : blank last = false) :
    trimChars blank (before ++ after) = before ++ after.rdropWhile blank := by
  have kept : (before ++ after).rdropWhile blank = before ++ after.rdropWhile blank := by
    induction after using List.reverseRecOn with
    | nil =>
      rw [List.append_nil, ends, List.rdropWhile_concat_neg _ _ _ (by simp [solidLast])]
      simp
    | append_singleton after char inductionHypothesis =>
      rw [← List.append_assoc]
      cases isBlank : blank char with
      | true =>
        rw [List.rdropWhile_concat_pos _ _ _ isBlank, List.rdropWhile_concat_pos _ _ _ isBlank,
          inductionHypothesis]
      | false =>
        rw [List.rdropWhile_concat_neg _ _ _ (by simp [isBlank]),
          List.rdropWhile_concat_neg _ _ _ (by simp [isBlank]), List.append_assoc]
  have started : (before ++ after).dropWhile blank = before ++ after := by
    rw [starts, List.cons_append, List.dropWhile_cons_of_neg (by simp [solidFirst])]
  rw [trimChars, started, kept]

theorem trim_trim (text : String) : trim blank (trim blank text) = trim blank text := by
  rw [trim, trim, String.toList_ofList, trimChars_trimChars]

end Lemmas

/-- Go's `unicode.IsSpace`, the class of `strings.TrimSpace`. -/
def goSpace (char : Char) : Bool :=
  let code := char.toNat
  (0x09 ≤ code && code ≤ 0x0d) || code == 0x20 || code == 0x85 || code == 0xa0 ||
    code == 0x1680 || (0x2000 ≤ code && code ≤ 0x200a) || code == 0x2028 || code == 0x2029 ||
    code == 0x202f || code == 0x205f || code == 0x3000

def trimSpace (text : String) : String := trim goSpace text

theorem trimSpace_trimSpace (text : String) : trimSpace (trimSpace text) = trimSpace text :=
  trim_trim text

/-- Lower case as far as a search for ASCII text sees it: besides the ASCII capitals, only the
    Kelvin sign and the dotted capital I have an ASCII lower case. -/
def lowerForAscii (char : Char) : Char :=
  if char.toNat = 0x212a then 'k' else if char.toNat = 0x130 then 'i' else char.toLower

/-- `strings.Contains` of the lower-cased text, for an ASCII needle. -/
def containsLower (text needle : String) : Bool :=
  (text.toList.map lowerForAscii).tails.any needle.toList.isPrefixOf

end VkTurn.Text
