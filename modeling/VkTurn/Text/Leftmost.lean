import Mathlib.Data.List.TakeWhile
import Mathlib.Data.List.Infix

/-! # The leftmost match in a text of segments

A separator repeats one character, the mark, and no segment has the mark.  A pattern that asks for
one of some words, the separator and a text behind it is found where a segment ends in such a word.
-/

namespace VkTurn.Text

variable {α : Type} {mark : Char} {count : Nat} {words : List (List Char)}
  {word segment tail chars : List Char} {body : List Char → Option α}

/-- Patterns are tried from left to right. -/
def leftmost (pattern : List Char → Option α) : List Char → Option α
  | [] => pattern []
  | char :: rest => (pattern (char :: rest)).or (leftmost pattern rest)

def separator (mark : Char) (count : Nat) : List Char := List.replicate (count + 1) mark

/-- The first of the words that stands at the front with the separator behind it. -/
def leading (mark : Char) (count : Nat) (words : List (List Char)) (chars : List Char) :
    Option (List Char × List Char) :=
  words.findSome? fun word =>
    ((word ++ separator mark count).isPrefixOf? chars).map (word, ·)

/-- One of the words, the separator, and what the body asks for. -/
def keyed (mark : Char) (count : Nat) (words : List (List Char)) (body : List Char → Option α)
    (chars : List Char) : Option (List Char × α) :=
  (leading mark count words chars).bind fun (word, rest) => (body rest).map (word, ·)

/-- One segment that is not empty, with the separator behind it. -/
def segmentOf (mark : Char) (count : Nat) (chars : List Char) :
    Option (List Char × List Char) :=
  if chars.takeWhile (· ≠ mark) = [] then none
  else ((separator mark count).isPrefixOf? (chars.dropWhile (· ≠ mark))).map
    (chars.takeWhile (· ≠ mark), ·)

/-- The longest of the words that the segment ends in. -/
def ending (words : List (List Char)) (segment : List Char) : Option (List Char) :=
  segment.tails.find? (· ∈ words)

/-! ## One segment -/

theorem takeWhile_segment (free : mark ∉ segment) (rest : List Char) :
    (segment ++ separator mark count ++ rest).takeWhile (· ≠ mark) = segment := by
  have all : ∀ char ∈ segment, decide (char ≠ mark) = true := by
    intro char member
    simpa using ne_of_mem_of_not_mem member free
  rw [List.append_assoc, List.takeWhile_append_of_pos all, separator, List.replicate_succ,
    List.cons_append, List.takeWhile_cons_of_neg (by simp), List.append_nil]

theorem dropWhile_segment (free : mark ∉ segment) (rest : List Char) :
    (segment ++ separator mark count ++ rest).dropWhile (· ≠ mark) =
      separator mark count ++ rest := by
  have all : ∀ char ∈ segment, decide (char ≠ mark) = true := by
    intro char member
    simpa using ne_of_mem_of_not_mem member free
  rw [List.append_assoc, List.dropWhile_append_of_pos all, separator, List.replicate_succ,
    List.cons_append, List.dropWhile_cons_of_neg (by simp)]

theorem segmentOf_segment (free : mark ∉ segment) (full : segment ≠ []) (rest : List Char) :
    segmentOf mark count (segment ++ separator mark count ++ rest) = some (segment, rest) := by
  have behind : (separator mark count).isPrefixOf? (separator mark count ++ rest) = some rest :=
    List.isPrefixOf?_eq_some_iff_append_eq.mpr rfl
  unfold segmentOf
  rw [takeWhile_segment free, dropWhile_segment free, if_neg full, behind, Option.map_some]

theorem mem_separator (char : Char) : char ∈ separator mark count ↔ char = mark := by
  simp [separator]

/-- A word with the separator is at the front only if it is the first segment. -/
theorem word_at_segment (wordFree : mark ∉ word) (free : mark ∉ segment) :
    (word ++ separator mark count).isPrefixOf? (segment ++ separator mark count ++ tail) =
      if word = segment then some tail else none := by
  split
  · rename_i same
    subst same
    exact List.isPrefixOf?_eq_some_iff_append_eq.mpr rfl
  · rename_i different
    rw [Option.eq_none_iff_forall_ne_some]
    intro rest found
    have same := List.isPrefixOf?_eq_some_iff_append_eq.mp found
    have heads : word = segment := by
      rw [← takeWhile_segment wordFree rest, ← takeWhile_segment free tail, same]
    exact different heads

theorem word_at_end (free : mark ∉ chars) :
    (word ++ separator mark count).isPrefixOf? chars = none := by
  rw [Option.eq_none_iff_forall_ne_some]
  intro rest found
  have same := List.isPrefixOf?_eq_some_iff_append_eq.mp found
  apply free
  rw [← same]
  simp [separator]

/-! ## The words at the front -/

theorem leading_segment (wordsFree : ∀ word ∈ words, mark ∉ word) (free : mark ∉ segment) :
    leading mark count words (segment ++ separator mark count ++ tail) =
      if segment ∈ words then some (segment, tail) else none := by
  unfold leading
  induction words with
  | nil => simp
  | cons word words inductionHypothesis =>
    rw [List.findSome?_cons, word_at_segment (wordsFree word (by simp)) free,
      inductionHypothesis fun word member => wordsFree word (by simp [member])]
    by_cases same : word = segment
    · subst same
      simp
    · simp [same, Ne.symm same]

theorem leading_end (free : mark ∉ chars) : leading mark count words chars = none := by
  unfold leading
  rw [List.findSome?_eq_none_iff]
  intro word _
  rw [word_at_end free, Option.map_none]

theorem leading_mark (wordsFree : ∀ word ∈ words, mark ∉ word) (full : [] ∉ words) :
    leading mark count words (mark :: chars) = none := by
  unfold leading
  rw [List.findSome?_eq_none_iff]
  intro word member
  rw [Option.map_eq_none_iff]
  cases word with
  | nil => exact absurd member full
  | cons char word =>
    have other : char ≠ mark := fun same => wordsFree _ member (by simp [same])
    simp [List.isPrefixOf?, other]

/-! ## The leftmost match -/

theorem ending_cons (char : Char) (segment : List Char) :
    ending words (char :: segment) =
      if char :: segment ∈ words then some (char :: segment) else ending words segment := by
  unfold ending
  rw [List.tails_cons, List.find?_cons]
  split <;> simp_all

theorem ending_eq_none_iff : ending words segment = none ↔ ∀ word ∈ words, ¬ word <:+ segment := by
  unfold ending
  rw [List.find?_eq_none]
  simp only [List.mem_tails, decide_eq_true_eq]
  exact ⟨fun other word member isEnd => other word isEnd member,
    fun other word isEnd member => other word member isEnd⟩

theorem ending_mem (found : ending words segment = some word) : word ∈ words := by
  simpa using List.find?_some found

theorem leftmost_marks (wordsFree : ∀ word ∈ words, mark ∉ word) (full : [] ∉ words) (n : Nat) :
    leftmost (keyed mark count words body) (List.replicate n mark ++ tail) =
      leftmost (keyed mark count words body) tail := by
  induction n with
  | zero => rfl
  | succ n inductionHypothesis =>
    rw [List.replicate_succ, List.cons_append, leftmost, keyed, leading_mark wordsFree full,
      Option.bind_none, Option.none_or, inductionHypothesis]

/-- The search goes on behind a segment that does not end in a word, or when the body fails. -/
theorem leftmost_segment (wordsFree : ∀ word ∈ words, mark ∉ word) (full : [] ∉ words)
    (free : mark ∉ segment) :
    leftmost (keyed mark count words body) (segment ++ separator mark count ++ tail) =
      ((ending words segment).bind fun word => (body tail).map (word, ·)).or
        (leftmost (keyed mark count words body) tail) := by
  induction segment with
  | nil =>
    have none_ends : ending words [] = none := by
      rw [ending_eq_none_iff]
      intro word member isEnd
      rw [List.suffix_nil] at isEnd
      exact full (isEnd ▸ member)
    rw [none_ends, Option.bind_none, Option.none_or, List.nil_append, separator,
      leftmost_marks wordsFree full]
  | cons char segment inductionHypothesis =>
    have restFree : mark ∉ segment := fun member => free (by simp [member])
    have here : keyed mark count words body (char :: segment ++ separator mark count ++ tail) =
        if char :: segment ∈ words then (body tail).map (char :: segment, ·) else none := by
      rw [keyed, leading_segment wordsFree free]
      split <;> rfl
    have unfolded : leftmost (keyed mark count words body)
          (char :: segment ++ separator mark count ++ tail) =
        (keyed mark count words body (char :: segment ++ separator mark count ++ tail)).or
          (leftmost (keyed mark count words body) (segment ++ separator mark count ++ tail)) := rfl
    rw [unfolded, here, inductionHypothesis restFree, ending_cons]
    split
    · -- a body that fails here fails for the shorter words too
      cases body tail with
      | none => simp
      | some groups => simp
    · rw [Option.none_or]

/-- The segment ends in a word and the body has a match behind it. -/
theorem leftmost_found {groups : α} (wordsFree : ∀ word ∈ words, mark ∉ word) (full : [] ∉ words)
    (free : mark ∉ segment) (ends : ending words segment = some word)
    (matched : body tail = some groups) :
    leftmost (keyed mark count words body) (segment ++ separator mark count ++ tail) =
      some (word, groups) := by
  rw [leftmost_segment wordsFree full free, ends, Option.bind_some, matched, Option.map_some,
    Option.some_or]

/-- The segment ends in no word. -/
theorem leftmost_skip (wordsFree : ∀ word ∈ words, mark ∉ word) (full : [] ∉ words)
    (free : mark ∉ segment) (ends : ending words segment = none) :
    leftmost (keyed mark count words body) (segment ++ separator mark count ++ tail) =
      leftmost (keyed mark count words body) tail := by
  rw [leftmost_segment wordsFree full free, ends, Option.bind_none, Option.none_or]

theorem leftmost_end (free : mark ∉ chars) :
    leftmost (keyed mark count words body) chars = none := by
  induction chars with
  | nil => rw [leftmost, keyed, leading_end free, Option.bind_none]
  | cons char chars inductionHypothesis =>
    rw [leftmost, keyed, leading_end free, Option.bind_none, Option.none_or,
      inductionHypothesis fun member => free (by simp [member])]

end VkTurn.Text
