import VkTurn.Text.Trim

/-! # Lists in one string

A list of entries is written as one string with a separator between the entries, and read back
by splitting at the separator, trimming each part and dropping the blank ones.
-/

namespace VkTurn.Text

def splitOn (separator : Char) (text : String) : List String :=
  (text.toList.splitOn separator).map String.ofList

def joinChars (separator : Char) (parts : List String) : List Char :=
  [separator].intercalate (parts.map String.toList)

def join (separator : Char) (parts : List String) : String :=
  String.ofList (joinChars separator parts)

/-- The trimmed parts of a text that are not blank. -/
def entries (blank : Char → Bool) (separator : Char) (text : String) : List String :=
  ((splitOn separator text).map (trim blank)).filter (· ≠ "")

/-- A separator in a text splits what stands before and after it. -/
theorem splitOn_joined {separator : Char} {text before after : String}
    (joined : text.toList = before.toList ++ separator :: after.toList) :
    splitOn separator text = splitOn separator before ++ splitOn separator after := by
  rw [splitOn, joined, List.splitOn_append_cons_self, List.map_append]
  rfl

theorem splitOn_free {separator : Char} {text : String} (free : separator ∉ text.toList) :
    splitOn separator text = [text] := by
  rw [splitOn, List.splitOn_eq_singleton free, List.map_singleton, String.ofList_toList]

section Trim

variable {blank : Char → Bool} {separator : Char} {chars before after : List Char}

theorem trimChars_append_blank (allBlank : ∀ char ∈ after, blank char = true) :
    trimChars blank (chars ++ after) = trimChars blank chars := by
  induction after using List.reverseRecOn with
  | nil => rw [List.append_nil]
  | append_singleton after last inductionHypothesis =>
    have lastBlank : blank last = true := allBlank last (by simp)
    have restBlank : ∀ char ∈ after, blank char = true :=
      fun char member => allBlank char (List.mem_append_left _ member)
    rw [← inductionHypothesis restBlank, ← List.append_assoc]
    generalize chars ++ after = shorter
    rw [trimChars, trimChars, List.dropWhile_append]
    split
    · rename_i dropped
      rw [List.isEmpty_iff.mp dropped, List.dropWhile_cons_of_pos lastBlank]
      rfl
    · rw [List.rdropWhile_concat_pos _ _ _ lastBlank]

theorem trimChars_blank_append (allBlank : ∀ char ∈ before, blank char = true) :
    trimChars blank (before ++ chars) = trimChars blank chars := by
  rw [trimChars, List.dropWhile_append_of_pos allBlank, trimChars]

/-- Between blank ends stands the trimmed text. -/
theorem trimChars_split (blank : Char → Bool) (chars : List Char) :
    ∃ before after, chars = before ++ trimChars blank chars ++ after ∧
      (∀ char ∈ before, blank char = true) ∧ ∀ char ∈ after, blank char = true := by
  have restSplit : ∀ rest : List Char,
      ∃ after, rest = rest.rdropWhile blank ++ after ∧ ∀ char ∈ after, blank char = true := by
    intro rest
    induction rest using List.reverseRecOn with
    | nil => exact ⟨[], by simp, by simp⟩
    | append_singleton rest last inductionHypothesis =>
      cases lastBlank : blank last with
      | true =>
        obtain ⟨after, split, allBlank⟩ := inductionHypothesis
        refine ⟨after ++ [last], ?_, ?_⟩
        · rw [List.rdropWhile_concat_pos _ _ _ lastBlank, ← List.append_assoc, ← split]
        · intro char member
          rcases List.mem_append.mp member with old | isLast
          · exact allBlank char old
          · rw [List.mem_singleton.mp isLast, lastBlank]
      | false =>
        refine ⟨[], ?_, by simp⟩
        rw [List.rdropWhile_concat_neg _ _ _ (by simp [lastBlank]), List.append_nil]
  obtain ⟨after, split, allBlank⟩ := restSplit (chars.dropWhile blank)
  refine ⟨chars.takeWhile blank, after, ?_, fun char => List.mem_takeWhile_imp, allBlank⟩
  rw [List.append_assoc, trimChars, ← split, List.takeWhile_append_dropWhile]

theorem mem_trimChars {char : Char} (notBlank : blank char = false) :
    char ∈ trimChars blank chars ↔ char ∈ chars := by
  obtain ⟨before, after, split, blankBefore, blankAfter⟩ := trimChars_split blank chars
  constructor
  · intro member
    rw [split]
    simp [member]
  · intro member
    rw [split] at member
    simp only [List.mem_append] at member
    rcases member with (inBefore | inTrimmed) | inAfter
    · rw [blankBefore char inBefore] at notBlank
      cases notBlank
    · exact inTrimmed
    · rw [blankAfter char inAfter] at notBlank
      cases notBlank

end Trim

section Entries

variable {blank : Char → Bool} {separator : Char}

/-- Splitting a text whose ends are extended extends the first and the last part. -/
theorem splitOn_append_free {chars after : List Char} (free : separator ∉ after) :
    ∃ init last, chars.splitOn separator = init ++ [last] ∧
      (chars ++ after).splitOn separator = init ++ [last ++ after] := by
  induction chars with
  | nil => exact ⟨[], [], rfl, by simp [List.splitOn_eq_singleton free]⟩
  | cons first rest inductionHypothesis =>
    obtain ⟨init, last, split, extended⟩ := inductionHypothesis
    rw [List.cons_append, List.splitOn_cons_eq_if_modifyHead,
      List.splitOn_cons_eq_if_modifyHead, split, extended]
    by_cases isSeparator : first = separator
    · exact ⟨[] :: init, last, by simp [isSeparator], by simp [isSeparator]⟩
    · cases init with
      | nil => exact ⟨[], first :: last, by simp [isSeparator], by simp [isSeparator]⟩
      | cons head tail =>
        exact ⟨(first :: head) :: tail, last, by simp [isSeparator], by simp [isSeparator]⟩

theorem splitOn_free_append {before chars : List Char} (free : separator ∉ before) :
    ∃ head tail, chars.splitOn separator = head :: tail ∧
      (before ++ chars).splitOn separator = (before ++ head) :: tail := by
  induction before with
  | nil =>
    obtain ⟨head, tail, split⟩ := List.exists_cons_of_ne_nil (List.splitOn_ne_nil separator chars)
    exact ⟨head, tail, split, by simp [split]⟩
  | cons first rest inductionHypothesis =>
    obtain ⟨head, tail, split, extended⟩ :=
      inductionHypothesis fun member => free (List.mem_cons_of_mem _ member)
    refine ⟨head, tail, split, ?_⟩
    have notSeparator : ¬ first = separator := fun same => free (same ▸ List.mem_cons_self)
    rw [List.cons_append, List.splitOn_cons_eq_if_modifyHead, extended]
    simp [notSeparator]

/-- Blank ends of the whole text do not show in its entries. -/
theorem entries_trim (notBlank : blank separator = false) (text : String) :
    entries blank separator (trim blank text) = entries blank separator text := by
  obtain ⟨before, after, split, blankBefore, blankAfter⟩ := trimChars_split blank text.toList
  have free : ∀ chars : List Char, (∀ char ∈ chars, blank char = true) → separator ∉ chars := by
    intro chars allBlank member
    rw [allBlank separator member] at notBlank
    cases notBlank
  have trimmedParts : (text.toList.splitOn separator).map (trimChars blank) =
      ((trimChars blank text.toList).splitOn separator).map (trimChars blank) := by
    obtain ⟨init, last, middle, extended⟩ :=
      @splitOn_append_free separator (before ++ trimChars blank text.toList) after
        (free after blankAfter)
    obtain ⟨head, tail, trimmed, prefixed⟩ :=
      @splitOn_free_append separator before (trimChars blank text.toList)
        (free before blankBefore)
    calc (text.toList.splitOn separator).map (trimChars blank)
        = (init ++ [last ++ after]).map (trimChars blank) := by rw [← extended, ← split]
      _ = (init ++ [last]).map (trimChars blank) := by
          simp [trimChars_append_blank blankAfter]
      _ = ((before ++ head) :: tail).map (trimChars blank) := by rw [← middle, prefixed]
      _ = (head :: tail).map (trimChars blank) := by simp [trimChars_blank_append blankBefore]
      _ = ((trimChars blank text.toList).splitOn separator).map (trimChars blank) := by
          rw [trimmed]
  have asStrings : ∀ parts : List (List Char),
      (parts.map String.ofList).map (trim blank) =
        (parts.map (trimChars blank)).map String.ofList := by
    intro parts
    simp [trim]
  rw [entries, entries, splitOn, splitOn, asStrings, asStrings, trimmedParts, trim,
    String.toList_ofList]

theorem entries_join (parts : List String) (free : ∀ part ∈ parts, separator ∉ part.toList) :
    entries blank separator (join separator parts) =
      (parts.map (trim blank)).filter (· ≠ "") := by
  cases parts with
  | nil => simp [entries, splitOn, join, joinChars, trim, trimChars]
  | cons first rest =>
    have parted : (joinChars separator (first :: rest)).splitOn separator =
        (first :: rest).map String.toList := by
      apply List.splitOn_intercalate
      · intro chars member
        obtain ⟨part, isPart, rfl⟩ := List.mem_map.mp member
        exact free part isPart
      · simp
    rw [entries, splitOn, join, String.toList_ofList, parted, List.map_map]
    simp [Function.comp_def]

theorem splitOn_part_free {chars : List Char} :
    ∀ part ∈ chars.splitOn separator, separator ∉ part := by
  induction chars with
  | nil => simp
  | cons first rest inductionHypothesis =>
    intro part member
    rw [List.splitOn_cons_eq_if_modifyHead] at member
    by_cases isSeparator : first = separator
    · simp only [isSeparator, beq_self_eq_true, if_true, List.mem_cons] at member
      rcases member with rfl | later
      · simp
      · exact inductionHypothesis part later
    · obtain ⟨head, tail, split⟩ :=
        List.exists_cons_of_ne_nil (List.splitOn_ne_nil separator rest)
      rw [split] at inductionHypothesis member
      simp only [isSeparator, beq_iff_eq, if_false, List.modifyHead_cons, List.mem_cons] at member
      rcases member with rfl | later
      · intro inPart
        rcases List.mem_cons.mp inPart with same | inHead
        · exact isSeparator same.symm
        · exact inductionHypothesis head List.mem_cons_self inHead
      · exact inductionHypothesis part (List.mem_cons_of_mem _ later)

/-- The parts hold only characters of the text. -/
theorem mem_of_mem_splitOn {chars part : List Char} (isPart : part ∈ chars.splitOn separator)
    {char : Char} (member : char ∈ part) : char ∈ chars := by
  induction chars generalizing part with
  | nil => simp_all
  | cons first rest inductionHypothesis =>
    rw [List.splitOn_cons_eq_if_modifyHead] at isPart
    by_cases isSeparator : first = separator
    · simp only [isSeparator, beq_self_eq_true, if_true, List.mem_cons] at isPart
      obtain rfl | later := isPart
      · cases member
      · exact List.mem_cons_of_mem _ (inductionHypothesis later member)
    · obtain ⟨head, tail, split⟩ :=
        List.exists_cons_of_ne_nil (List.splitOn_ne_nil separator rest)
      rw [split] at inductionHypothesis isPart
      simp only [isSeparator, beq_iff_eq, if_false, List.modifyHead_cons, List.mem_cons] at isPart
      obtain rfl | later := isPart
      · obtain rfl | inHead := List.mem_cons.mp member
        · exact List.mem_cons_self
        · exact List.mem_cons_of_mem _ (inductionHypothesis List.mem_cons_self inHead)
      · exact List.mem_cons_of_mem _ (inductionHypothesis (List.mem_cons_of_mem _ later) member)

/-- No entry holds the separator. -/
theorem entries_free {text entry : String} (member : entry ∈ entries blank separator text) :
    separator ∉ entry.toList := by
  obtain ⟨inParts, _⟩ := List.mem_filter.mp member
  obtain ⟨part, isPart, rfl⟩ := List.mem_map.mp inParts
  obtain ⟨chars, isSplit, rfl⟩ := List.mem_map.mp isPart
  have free := splitOn_part_free chars isSplit
  intro inTrim
  obtain ⟨before, after, split, _, _⟩ := trimChars_split blank chars
  rw [trim, String.toList_ofList, String.toList_ofList] at inTrim
  apply free
  rw [split]
  simp [inTrim]

end Entries

/-! ## Lines -/

/-- The text of the lines, each with its line feed. -/
def writeLines (lines : List String) : String :=
  String.ofList (lines.flatMap fun line => line.toList ++ ['\n'])

/-- The lines of a text are those of the texts that were written as lines. -/
theorem splitOn_writeLines_eq (lines : List String) :
    splitOn '\n' (writeLines lines) = lines.flatMap (splitOn '\n') ++ [""] := by
  induction lines with
  | nil => rfl
  | cons first rest inductionHypothesis =>
    have split : splitOn '\n' (writeLines (first :: rest)) =
        splitOn '\n' first ++ splitOn '\n' (writeLines rest) := by
      simp [splitOn, writeLines, List.splitOn_append_cons_self]
    rw [split, inductionHypothesis, List.flatMap_cons, List.append_assoc]

/-- A text holds exactly the lines that were written when none of them has a line feed. -/
theorem splitOn_writeLines (lines : List String) :
    splitOn '\n' (writeLines lines) = lines ++ [""] ↔ ∀ line ∈ lines, '\n' ∉ line.toList := by
  have written : lines.flatMap (fun line => line.toList ++ ['\n']) =
      ['\n'].intercalate (lines.map String.toList ++ [[]]) := by
    induction lines with
    | nil => rfl
    | cons first rest inductionHypothesis =>
      rw [List.flatMap_cons, inductionHypothesis]
      cases rest with
      | nil => simp [List.intercalate]
      | cons second others => simp [List.intercalate]
  rw [splitOn, writeLines, String.toList_ofList]
  constructor
  · intro split line member
    have inText : line ∈ ((lines.flatMap fun line => line.toList ++ ['\n']).splitOn '\n').map
        String.ofList := by
      rw [split]
      exact List.mem_append_left _ member
    obtain ⟨chars, isPart, rfl⟩ := List.mem_map.mp inText
    rw [String.toList_ofList]
    exact splitOn_part_free chars isPart
  · intro free
    rw [written, List.splitOn_intercalate]
    · simp
    · intro chars member
      rcases List.mem_append.mp member with inLines | isLast
      · obtain ⟨line, isLine, rfl⟩ := List.mem_map.mp inLines
        exact free line isLine
      · cases List.mem_singleton.mp isLast
        exact List.not_mem_nil
    · simp

end VkTurn.Text
