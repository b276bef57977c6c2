import Mathlib.Data.List.Basic

/-! # Words at the margins of a text

A text of letters may begin and end with words from a list, such as the encodings of the blanks in
a text of bytes. Where the list is a code these margins are found from either end, and they do not
depend on what the text is joined with.
-/

namespace VkTurn.Text

variable {Letter : Type}

/-- Words that cannot be taken for one another by a reader from the left. -/
structure Separate (words : List (List Letter)) : Prop where
  nonempty : ∀ word ∈ words, word ≠ []
  separate : ∀ word ∈ words, ∀ other ∈ words, word <+: other → word = other

/-- Separate words that do not begin inside one another. -/
structure Code (words : List (List Letter)) : Prop extends Separate words where
  inner : ∀ word ∈ words, ∀ other ∈ words, ∀ letter ∈ other.head?, letter ∉ word.tail

/-- The text is put together from words. -/
def Blank (words : List (List Letter)) (text : List Letter) : Prop :=
  ∃ run : List (List Letter), (∀ word ∈ run, word ∈ words) ∧ run.flatten = text

theorem flatten_letters (text : List Letter) : (text.map ([·])).flatten = text := by
  induction text with
  | nil => rfl
  | cons letter text inductionHypothesis =>
    rw [List.map_cons, List.flatten_cons, inductionHypothesis]
    rfl

/-- The text does not begin with a word. -/
def Bare (words : List (List Letter)) (text : List Letter) : Prop :=
  ∀ word ∈ words, ¬ word <+: text

section Blank

variable {words : List (List Letter)} {text other after : List Letter}

theorem blank_nil : Blank words [] := ⟨[], by simp, rfl⟩

theorem blank_word {word : List Letter} (member : word ∈ words) : Blank words word :=
  ⟨[word], by simpa using member, by simp⟩

theorem Blank.append (blank : Blank words text) (otherBlank : Blank words other) :
    Blank words (text ++ other) := by
  obtain ⟨run, runWords, rfl⟩ := blank
  obtain ⟨otherRun, otherWords, rfl⟩ := otherBlank
  refine ⟨run ++ otherRun, ?_, List.flatten_append⟩
  intro word member
  exact (List.mem_append.mp member).elim (runWords word) (otherWords word)

theorem Blank.reverse (blank : Blank words text) :
    Blank (words.map List.reverse) text.reverse := by
  obtain ⟨run, runWords, rfl⟩ := blank
  refine ⟨(run.map List.reverse).reverse, ?_, by rw [List.reverse_flatten]⟩
  intro word member
  obtain ⟨mirrored, inRun, rfl⟩ := List.mem_map.mp (List.mem_reverse.mp member)
  exact List.mem_map_of_mem (runWords mirrored inRun)

theorem map_reverse_reverse : (words.map List.reverse).map List.reverse = words := by
  simp

theorem blank_reverse : Blank (words.map List.reverse) text.reverse ↔ Blank words text := by
  constructor
  · intro blank
    simpa [map_reverse_reverse] using blank.reverse
  · exact Blank.reverse

/-- Every text is a blank and a bare rest. -/
theorem exists_blank_bare (code : Separate words) (text : List Letter) :
    ∃ before rest, text = before ++ rest ∧ Blank words before ∧ Bare words rest := by
  induction size : text.length using Nat.strongRecOn generalizing text with
  | _ size' inductionHypothesis =>
    by_cases bare : Bare words text
    · exact ⟨[], text, rfl, blank_nil, bare⟩
    · unfold Bare at bare
      push Not at bare
      obtain ⟨word, member, shorter, rfl⟩ := bare
      have smaller : shorter.length < size' := by
        have positive := List.length_pos_of_ne_nil (code.nonempty word member)
        rw [← size, List.length_append]
        omega
      obtain ⟨before, rest, rfl, blank, restBare⟩ :=
        inductionHypothesis shorter.length smaller shorter rfl
      exact ⟨word ++ before, rest, by simp, (blank_word member).append blank, restBare⟩

/-- A bare text stays bare before a blank: no word begins inside another one. -/
theorem Bare.append_blank (code : Code words) (bare : Bare words text) (notEmpty : text ≠ [])
    (blank : Blank words after) : Bare words (text ++ after) := by
  intro word member starts
  rcases List.prefix_or_prefix_of_prefix starts (List.prefix_append text after) with one | two
  · exact bare word member one
  · obtain ⟨last, rfl⟩ := two
    have within : last <+: after := (List.prefix_append_right_inj text).mp starts
    obtain ⟨run, runWords, rfl⟩ := blank
    cases last with
    | nil =>
      rw [List.append_nil] at member
      exact bare text member (List.prefix_refl text)
    | cons letter last =>
      cases run with
      | nil => exact absurd (List.prefix_nil.mp within) (List.cons_ne_nil letter last)
      | cons first run =>
        have firstMember := runWords first (by simp)
        cases first with
        | nil => exact code.nonempty [] firstMember rfl
        | cons head tail =>
          -- the word goes on with the first letter of the blank
          rw [List.flatten_cons, List.cons_append] at within
          obtain rfl : letter = head := (List.cons_prefix_cons.mp within).1
          refine code.inner _ member _ firstMember letter rfl ?_
          cases text with
          | nil => exact absurd rfl notEmpty
          | cons start text => simp

/-- A single letter is blank only as a word of its own. -/
theorem blank_letter (code : Code words) {letter : Letter} (blank : Blank words [letter]) :
    [letter] ∈ words := by
  obtain ⟨run, runWords, isLetter⟩ := blank
  cases run with
  | nil => cases isLetter
  | cons word run =>
    have notEmpty := code.nonempty word (runWords word (by simp))
    rw [List.flatten_cons, List.append_eq_cons_iff] at isLetter
    rcases isLetter with ⟨empty, -⟩ | ⟨rest, isWord, isRest⟩
    · exact absurd empty notEmpty
    · rw [(List.append_eq_nil_iff.mp isRest.symm).1] at isWord
      exact isWord ▸ runWords word (by simp)

/-- A letter that is a word is in no other word. -/
theorem Code.eq_letter (code : Code words) {letter : Letter} (isWord : [letter] ∈ words)
    {word : List Letter} (member : word ∈ words) (inside : letter ∈ word) : word = [letter] := by
  cases word with
  | nil => cases inside
  | cons head tail =>
    rcases List.mem_cons.mp inside with rfl | inTail
    · exact (code.separate [letter] isWord _ member (by simp)).symm
    · exact absurd inTail (code.inner _ member [letter] isWord letter rfl)

end Blank

section Check

variable [DecidableEq Letter]

/-- A list of words is checked for a code word by word. -/
def isCode (words : List (List Letter)) : Bool :=
  words.all fun word => word ≠ [] && words.all fun other =>
    (!word.isPrefixOf other || word = other) && other.head?.all (· ∉ word.tail)

theorem code_of_isCode {words : List (List Letter)} (checked : isCode words = true) :
    Code words := by
  simp only [isCode, List.all_eq_true, Bool.and_eq_true, decide_eq_true_eq] at checked
  refine ⟨⟨fun word member => (checked word member).1, ?_⟩, ?_⟩
  · intro word member other otherMember starts
    have separate := ((checked word member).2 other otherMember).1
    simpa [List.isPrefixOf_iff_prefix.mpr starts] using separate
  · intro word member other otherMember letter isHead
    have inner := ((checked word member).2 other otherMember).2
    simpa [Option.mem_def.mp isHead] using inner

end Check

/-! ## The left margin -/

section Strip

variable [DecidableEq Letter]

/-- The length of the word that a text begins with. -/
def wordLength (words : List (List Letter)) (text : List Letter) : Nat :=
  ((words.find? (·.isPrefixOf text)).map List.length).getD 0

/-- The rest of a text after `skip` more letters and the words that follow them. -/
def stripAfter (words : List (List Letter)) : Nat → List Letter → List Letter
  | _, [] => []
  | skip + 1, _ :: rest => stripAfter words skip rest
  | 0, letter :: rest =>
    match wordLength words (letter :: rest) with
    | 0 => letter :: rest
    | skip + 1 => stripAfter words skip rest

def stripLeft (words : List (List Letter)) (text : List Letter) : List Letter :=
  stripAfter words 0 text

/-- The words are looked for backwards. -/
def stripRight (words : List (List Letter)) (text : List Letter) : List Letter :=
  (stripLeft (words.map List.reverse) text.reverse).reverse

def strip (words : List (List Letter)) (text : List Letter) : List Letter :=
  stripRight words (stripLeft words text)

end Strip

section Left

variable [DecidableEq Letter] {words : List (List Letter)} {text before after word : List Letter}

theorem stripAfter_drop (skip : Nat) (text : List Letter) :
    stripAfter words skip text = stripLeft words (text.drop skip) := by
  induction text generalizing skip with
  | nil =>
    rw [List.drop_nil]
    cases skip <;> rfl
  | cons letter rest inductionHypothesis =>
    cases skip with
    | zero => rfl
    | succ skip => exact inductionHypothesis skip

theorem stripLeft_bare (bare : Bare words text) : stripLeft words text = text := by
  cases text with
  | nil => rfl
  | cons letter rest =>
    have none : wordLength words (letter :: rest) = 0 := by
      have notFound : words.find? (·.isPrefixOf (letter :: rest)) = none := by
        rw [List.find?_eq_none]
        intro word member starts
        exact bare word member (List.isPrefixOf_iff_prefix.mp starts)
      rw [wordLength, notFound]
      rfl
    rw [stripLeft, stripAfter, none]

theorem stripLeft_word (code : Separate words) (member : word ∈ words) (text : List Letter) :
    stripLeft words (word ++ text) = stripLeft words text := by
  -- two words at one place are the same word
  have found : words.find? (·.isPrefixOf (word ++ text)) = some word := by
    cases search : words.find? (·.isPrefixOf (word ++ text)) with
    | none =>
      have absent := List.find?_eq_none.mp search word member
      exact absurd (List.isPrefixOf_iff_prefix.mpr (List.prefix_append word text)) absent
    | some other =>
      have otherMember := List.mem_of_find?_eq_some search
      have isPrefix : other.isPrefixOf (word ++ text) = true :=
        (List.find?_eq_some_iff_append.mp search).1
      have starts := List.isPrefixOf_iff_prefix.mp isPrefix
      rcases List.prefix_or_prefix_of_prefix starts (List.prefix_append word text) with one | two
      · rw [code.separate other otherMember word member one]
      · rw [code.separate word member other otherMember two]
  have length : wordLength words (word ++ text) = word.length := by
    rw [wordLength, found]
    rfl
  cases word with
  | nil => exact absurd rfl (code.nonempty [] member)
  | cons letter rest =>
    rw [List.cons_append] at length ⊢
    rw [stripLeft, stripAfter, length, List.length_cons]
    simp only
    rw [stripAfter_drop, List.drop_left]

theorem stripLeft_blank_append (code : Separate words) (blank : Blank words before)
    (text : List Letter) : stripLeft words (before ++ text) = stripLeft words text := by
  obtain ⟨run, runWords, rfl⟩ := blank
  induction run with
  | nil => rfl
  | cons word run inductionHypothesis =>
    rw [List.flatten_cons, List.append_assoc, stripLeft_word code (runWords word (by simp))]
    exact inductionHypothesis fun other member => runWords other (by simp [member])

/-- What stripping on the left leaves. -/
theorem stripLeft_spec (code : Separate words) (text : List Letter) :
    ∃ before, text = before ++ stripLeft words text ∧ Blank words before ∧
      Bare words (stripLeft words text) := by
  obtain ⟨before, rest, rfl, blank, bare⟩ := exists_blank_bare code text
  rw [stripLeft_blank_append code blank, stripLeft_bare bare]
  exact ⟨before, rfl, blank, bare⟩

end Left

/-! ## Both margins -/

section Both

variable {words : List (List Letter)}

/-- A word at the end of another one begins inside it, so words are separate backwards too. -/
theorem Code.reverse (code : Code words) : Separate (words.map List.reverse) := by
  constructor
  · intro mirrored member
    obtain ⟨word, inWords, rfl⟩ := List.mem_map.mp member
    simpa using code.nonempty word inWords
  · intro mirrored member otherMirrored otherMember starts
    obtain ⟨word, inWords, rfl⟩ := List.mem_map.mp member
    obtain ⟨other, otherInWords, rfl⟩ := List.mem_map.mp otherMember
    obtain ⟨before, rfl⟩ := List.reverse_prefix.mp starts
    cases before with
    | nil => rfl
    | cons letter before =>
      cases word with
      | nil => exact absurd rfl (code.nonempty [] inWords)
      | cons head tail =>
        have inside : head ∈ (letter :: before ++ head :: tail).tail := by simp
        exact absurd inside (code.inner _ otherInWords _ inWords head rfl)

variable [DecidableEq Letter] {text before after : List Letter}

theorem strip_blank_append (code : Code words) (blank : Blank words before)
    (text : List Letter) : strip words (before ++ text) = strip words text := by
  rw [strip, stripLeft_blank_append code.toSeparate blank, strip]

theorem strip_blank (code : Code words) (blank : Blank words text) : strip words text = [] := by
  rw [← List.append_nil text, strip_blank_append code blank]
  rfl

theorem stripRight_append_blank (code : Code words) (blank : Blank words after)
    (text : List Letter) : stripRight words (text ++ after) = stripRight words text := by
  rw [stripRight, List.reverse_append, stripLeft_blank_append code.reverse blank.reverse,
    stripRight]

theorem strip_append_blank (code : Code words) (blank : Blank words after)
    (text : List Letter) : strip words (text ++ after) = strip words text := by
  obtain ⟨before, rest, rfl, beforeBlank, bare⟩ := exists_blank_bare code.toSeparate text
  rw [List.append_assoc, strip_blank_append code beforeBlank,
    strip_blank_append code beforeBlank]
  by_cases empty : rest = []
  · rw [empty, List.nil_append, strip_blank code blank, strip_blank code blank_nil]
  · rw [strip, stripLeft_bare (bare.append_blank code empty blank),
      stripRight_append_blank code blank, strip, stripLeft_bare bare]

/-- A text is what is left of it between blanks. -/
theorem strip_split (code : Code words) (text : List Letter) :
    ∃ before after, text = before ++ strip words text ++ after ∧ Blank words before ∧
      Blank words after := by
  obtain ⟨before, split, blank, -⟩ := stripLeft_spec code.toSeparate text
  obtain ⟨mirrored, mirroredSplit, mirroredBlank, -⟩ :=
    stripLeft_spec code.reverse (stripLeft words text).reverse
  refine ⟨before, mirrored.reverse, ?_, blank, ?_⟩
  · have rest := congrArg List.reverse mirroredSplit
    rw [List.reverse_reverse, List.reverse_append] at rest
    conv_lhs => rw [split, rest]
    rw [List.append_assoc]
    rfl
  · rw [← blank_reverse, List.reverse_reverse]
    exact mirroredBlank

theorem strip_eq_nil (code : Code words) : strip words text = [] ↔ Blank words text := by
  constructor
  · intro stripped
    obtain ⟨before, after, split, blank, afterBlank⟩ := strip_split code text
    rw [split, stripped, List.append_nil]
    exact blank.append afterBlank
  · exact strip_blank code

end Both

end VkTurn.Text
