import VkTurn.Text.Margins

/-! # Lines of a text that comes in chunks

A text that is split at separators only after it was cut into chunks gives other lines than the
uncut text, unless every line has its ink in one chunk.
-/

namespace VkTurn.Text

/-! ## Lines and pieces -/

/-- The last line of the first text goes on in the first line of the second one. -/
def joinLines {Piece : Type} : List (List Piece) → List (List Piece) → List (List Piece)
  | [], others => others
  | [line], [] => [line]
  | [line], other :: others => (line ++ other) :: others
  | line :: next :: lines, others => line :: joinLines (next :: lines) others

section Join

variable {Piece : Type}

theorem joinLines_single {line : List Piece} (other : List Piece) (others : List (List Piece)) :
    joinLines [line] (other :: others) = (line ++ other) :: others := rfl

theorem joinLines_cons {line : List Piece} {lines : List (List Piece)} (more : lines ≠ [])
    (others : List (List Piece)) :
    joinLines (line :: lines) others = line :: joinLines lines others := by
  cases lines with
  | nil => exact absurd rfl more
  | cons next lines => rfl

theorem flatten_joinLines (lines others : List (List Piece)) :
    (joinLines lines others).flatten = lines.flatten ++ others.flatten := by
  fun_induction joinLines lines others with
  | case1 => rfl
  | case2 => simp
  | case3 => simp
  | case4 line next lines others inductionHypothesis =>
    simp [inductionHypothesis]

theorem map_flatten_joinLines (lines others : List (List (List Piece))) :
    (joinLines lines others).map List.flatten =
      joinLines (lines.map List.flatten) (others.map List.flatten) := by
  fun_induction joinLines lines others with
  | case1 => rfl
  | case2 => rfl
  | case3 => simp [joinLines]
  | case4 line next lines others inductionHypothesis =>
    rw [List.map_cons, inductionHypothesis]
    rfl

end Join

section Split

variable {Letter : Type} [DecidableEq Letter] {separator : Letter}

theorem splitOn_append (text other : List Letter) :
    (text ++ other).splitOn separator =
      joinLines (text.splitOn separator) (other.splitOn separator) := by
  have notEmpty : ∀ rest : List Letter, rest.splitOn separator ≠ [] :=
    List.splitOn_ne_nil separator
  induction text with
  | nil =>
    obtain ⟨first, rest, split⟩ := List.exists_cons_of_ne_nil (notEmpty other)
    rw [List.nil_append, List.splitOn_nil, split, joinLines_single, List.nil_append]
  | cons letter text inductionHypothesis =>
    obtain ⟨first, rest, split⟩ := List.exists_cons_of_ne_nil (notEmpty text)
    rw [List.cons_append, List.splitOn_cons_eq_if_modifyHead, inductionHypothesis,
      List.splitOn_cons_eq_if_modifyHead, split]
    by_cases isSeparator : letter = separator
    · simp only [isSeparator, BEq.rfl, if_true]
      rw [joinLines_cons (List.cons_ne_nil first rest)]
    · simp only [beq_iff_eq, isSeparator, if_false, List.modifyHead_cons]
      -- the letter goes to the front of the first line on both sides
      cases rest with
      | nil =>
        obtain ⟨head, tail, otherSplit⟩ := List.exists_cons_of_ne_nil (notEmpty other)
        rw [otherSplit]
        rfl
      | cons next rest => rfl

/-- The lines of a text in chunks, each as its pieces. -/
def cutLines (separator : Letter) : List (List Letter) → List (List (List Letter))
  | [] => [[]]
  | chunk :: chunks =>
    joinLines ((chunk.splitOn separator).map ([·])) (cutLines separator chunks)

theorem map_flatten_cutLines (chunks : List (List Letter)) :
    (cutLines separator chunks).map List.flatten = chunks.flatten.splitOn separator := by
  induction chunks with
  | nil => rfl
  | cons chunk chunks inductionHypothesis =>
    rw [cutLines, map_flatten_joinLines, inductionHypothesis, List.flatten_cons, splitOn_append]
    simp [Function.comp_def]

theorem flatten_cutLines (chunks : List (List Letter)) :
    (cutLines separator chunks).flatten = chunks.flatMap (·.splitOn separator) := by
  induction chunks with
  | nil => rfl
  | cons chunk chunks inductionHypothesis =>
    rw [cutLines, flatten_joinLines, inductionHypothesis, flatten_letters, List.flatMap_cons]

end Split

/-! ## Ink -/

section Ink

variable {Letter : Type} [DecidableEq Letter] {words : List (List Letter)} {separator : Letter}

/-- The stripped pieces, without the blank ones. -/
def inked (words : List (List Letter)) (pieces : List (List Letter)) : List (List Letter) :=
  (pieces.map (strip words)).filter (· ≠ [])

def inkedLines (words : List (List Letter)) (separator : Letter) (text : List Letter) :
    List (List Letter) :=
  inked words (text.splitOn separator)

@[simp] theorem inked_nil : inked words [] = [] := rfl

theorem inked_append (pieces others : List (List Letter)) :
    inked words (pieces ++ others) = inked words pieces ++ inked words others := by
  simp [inked]

theorem inked_cons (piece : List Letter) (pieces : List (List Letter)) :
    inked words (piece :: pieces) = inked words [piece] ++ inked words pieces :=
  inked_append [piece] pieces

theorem inked_blank (code : Code words) {piece : List Letter} (blank : Blank words piece) :
    inked words [piece] = [] := by
  simp [inked, strip_blank code blank]

theorem inked_not_blank (code : Code words) {piece : List Letter} (ink : ¬ Blank words piece) :
    inked words [piece] = [strip words piece] := by
  simp [inked, mt (strip_eq_nil code).mp ink]

/-- A line without ink is blank as a whole. -/
theorem blank_of_inked (code : Code words) {pieces : List (List Letter)}
    (none : inked words pieces = []) : Blank words pieces.flatten := by
  induction pieces with
  | nil => exact blank_nil
  | cons piece pieces inductionHypothesis =>
    rw [inked_cons, List.append_eq_nil_iff] at none
    have blank : Blank words piece := by
      by_contra ink
      rw [inked_not_blank code ink] at none
      exact List.cons_ne_nil _ _ none.1
    exact blank.append (inductionHypothesis none.2)

theorem inked_single_length (piece : List Letter) : (inked words [piece]).length ≤ 1 := by
  have filtered := List.length_filter_le (· ≠ []) ([piece].map (strip words))
  simpa [inked] using filtered

/-- A line says the same uncut exactly when at most one of its pieces has ink. -/
theorem inked_flatten (code : Code words) (pieces : List (List Letter)) :
    inked words [pieces.flatten] = inked words pieces ↔ (inked words pieces).length ≤ 1 := by
  constructor
  · intro same
    rw [← same]
    exact inked_single_length _
  · intro single
    induction pieces with
    | nil => exact inked_blank code blank_nil
    | cons piece pieces inductionHypothesis =>
      rw [inked_cons piece pieces] at single ⊢
      rw [List.flatten_cons]
      by_cases blank : Blank words piece
      · rw [inked_blank code blank, List.nil_append] at single ⊢
        rw [← inductionHypothesis single]
        unfold inked
        rw [List.map_singleton, List.map_singleton, strip_blank_append code blank]
      · rw [inked_not_blank code blank, List.length_append, List.length_singleton] at single
        have none : inked words pieces = [] := List.length_eq_zero_iff.mp (by omega)
        rw [none, List.append_nil]
        unfold inked
        rw [List.map_singleton, List.map_singleton,
          strip_append_blank code (blank_of_inked code none)]

theorem inked_flatten_length (code : Code words) (pieces : List (List Letter)) :
    (inked words [pieces.flatten]).length ≤ (inked words pieces).length := by
  by_cases single : (inked words pieces).length ≤ 1
  · exact Nat.le_of_eq (congrArg List.length ((inked_flatten code pieces).mpr single))
  · have one := @inked_single_length _ _ words pieces.flatten
    omega

/-- The lines of a text say the same uncut exactly when each of them does. -/
theorem inked_map_flatten (code : Code words) (lines : List (List (List Letter))) :
    inked words (lines.map List.flatten) = inked words lines.flatten ↔
      ∀ line ∈ lines, (inked words line).length ≤ 1 := by
  -- no line has more ink uncut than cut, so that equal sums are equal line by line
  have fewer : ∀ rest : List (List (List Letter)),
      (inked words (rest.map List.flatten)).length ≤ (inked words rest.flatten).length := by
    intro rest
    induction rest with
    | nil => simp
    | cons line rest inductionHypothesis =>
      rw [List.map_cons, inked_cons, List.flatten_cons, inked_append, List.length_append,
        List.length_append]
      have first := inked_flatten_length code line
      omega
  induction lines with
  | nil => simp
  | cons line lines inductionHypothesis =>
    rw [List.map_cons, inked_cons, List.flatten_cons, inked_append, List.forall_mem_cons]
    constructor
    · intro same
      have sum := congrArg List.length same
      rw [List.length_append, List.length_append] at sum
      have first := inked_flatten_length code line
      have rest := fewer lines
      obtain ⟨sameFirst, sameRest⟩ := List.append_inj same (by omega)
      exact ⟨(inked_flatten code line).mp sameFirst, inductionHypothesis.mp sameRest⟩
    · rintro ⟨first, rest⟩
      rw [(inked_flatten code line).mpr first, inductionHypothesis.mpr rest]

/-- Cut lines are the lines of the text exactly when no line has ink in two of its pieces. -/
theorem inkedLines_cut_iff (code : Code words) (chunks : List (List Letter)) :
    chunks.flatMap (inkedLines words separator) = inkedLines words separator chunks.flatten ↔
      ∀ line ∈ cutLines separator chunks, (inked words line).length ≤ 1 := by
  have cut : chunks.flatMap (inkedLines words separator) =
      inked words (cutLines separator chunks).flatten := by
    rw [flatten_cutLines]
    induction chunks with
    | nil => rfl
    | cons chunk chunks inductionHypothesis =>
      rw [List.flatMap_cons, inductionHypothesis, List.flatMap_cons, inked_append]
      rfl
  rw [cut, inkedLines, ← map_flatten_cutLines, eq_comm, inked_map_flatten code]

/-! ## Cutting at every letter -/

/-- The letters that are not words. -/
def ink (words : List (List Letter)) (text : List Letter) : List Letter :=
  text.filter ([·] ∉ words)

theorem ink_append (text other : List Letter) :
    ink words (text ++ other) = ink words text ++ ink words other :=
  List.filter_append _ _

theorem blank_of_ink {text : List Letter} (none : ink words text = []) : Blank words text := by
  refine ⟨text.map ([·]), ?_, flatten_letters text⟩
  intro word member
  obtain ⟨letter, inText, rfl⟩ := List.mem_map.mp member
  by_contra notWord
  have inked : letter ∈ ink words text := List.mem_filter.mpr ⟨inText, by simpa using notWord⟩
  rw [none] at inked
  exact List.not_mem_nil inked

/-- Every piece with ink has a letter for it. -/
theorem inked_length_le (code : Code words) (pieces : List (List Letter)) :
    (inked words pieces).length ≤ (ink words pieces.flatten).length := by
  induction pieces with
  | nil => simp
  | cons piece pieces inductionHypothesis =>
    rw [inked_cons, List.flatten_cons, ink_append, List.length_append, List.length_append]
    by_cases none : ink words piece = []
    · rw [inked_blank code (blank_of_ink none), none]
      simpa using inductionHypothesis
    · have positive := List.length_pos_of_ne_nil none
      have single := @inked_single_length _ _ words piece
      omega

/-- In pieces of one letter the ink is counted letter by letter. -/
theorem inked_length_letters (code : Code words) {pieces : List (List Letter)}
    (short : ∀ piece ∈ pieces, piece.length ≤ 1) :
    (inked words pieces).length = (ink words pieces.flatten).length := by
  induction pieces with
  | nil => rfl
  | cons piece pieces inductionHypothesis =>
    have rest := inductionHypothesis fun other member => short other (by simp [member])
    rw [inked_cons, List.flatten_cons, ink_append, List.length_append, List.length_append, rest]
    congr 1
    match piece, short piece (by simp) with
    | [], _ => rw [inked_blank code blank_nil]; rfl
    | [letter], _ =>
      by_cases isWord : [letter] ∈ words
      · rw [inked_blank code (blank_word isWord)]
        simp [ink, isWord]
      · rw [inked_not_blank code (mt (blank_letter code) isWord)]
        simp [ink, isWord]

theorem length_of_mem_splitOn_letter {letter : Letter} {piece : List Letter}
    (member : piece ∈ [letter].splitOn separator) : piece.length ≤ 1 := by
  rw [List.splitOn_cons_eq_if_modifyHead] at member
  by_cases isSeparator : letter = separator
  · simp only [isSeparator, BEq.rfl, if_true, List.splitOn_nil, List.mem_cons,
      List.not_mem_nil, or_false, or_self] at member
    simp [member]
  · simp only [beq_iff_eq, isSeparator, if_false, List.splitOn_nil, List.modifyHead_cons,
      List.mem_singleton] at member
    simp [member]

/-- All cuttings of a text say the same exactly when each line has ink in one letter at most. -/
theorem inkedLines_cuts_iff (code : Code words) (text : List Letter) :
    (∀ chunks others : List (List Letter), chunks.flatten = text → others.flatten = text →
        chunks.flatMap (inkedLines words separator) =
          others.flatMap (inkedLines words separator)) ↔
      ∀ line ∈ text.splitOn separator, (ink words line).length ≤ 1 := by
  constructor
  · intro agree line member
    -- the text letter by letter, against the uncut text
    have letters := flatten_letters text
    have same := agree (text.map ([·])) [text] letters (by simp)
    have uncut : [text].flatMap (inkedLines words separator) =
        inkedLines words separator (text.map ([·])).flatten := by
      rw [letters]
      simp
    rw [uncut, inkedLines_cut_iff code] at same
    rw [← letters, ← map_flatten_cutLines] at member
    obtain ⟨pieces, inLines, rfl⟩ := List.mem_map.mp member
    have short : ∀ piece ∈ pieces, piece.length ≤ 1 := by
      intro piece inPieces
      have among : piece ∈ (cutLines separator (text.map ([·]))).flatten :=
        List.mem_flatten.mpr ⟨pieces, inLines, inPieces⟩
      rw [flatten_cutLines] at among
      obtain ⟨chunk, inChunks, inChunk⟩ := List.mem_flatMap.mp among
      obtain ⟨letter, -, rfl⟩ := List.mem_map.mp inChunks
      exact length_of_mem_splitOn_letter inChunk
    rw [← inked_length_letters code short]
    exact same pieces inLines
  · intro single
    have whole : ∀ chunks : List (List Letter), chunks.flatten = text →
        chunks.flatMap (inkedLines words separator) = inkedLines words separator text := by
      rintro chunks rfl
      rw [inkedLines_cut_iff code]
      intro pieces inLines
      have isLine : pieces.flatten ∈ chunks.flatten.splitOn separator := by
        rw [← map_flatten_cutLines]
        exact List.mem_map_of_mem inLines
      exact Nat.le_trans (inked_length_le code pieces) (single _ isLine)
    intro chunks others isText otherIsText
    rw [whole chunks isText, whole others otherIsText]

/-! ## Margins of the whole text -/

theorem inked_joinLines_append (code : Code words) {word : List Letter}
    (blank : Blank words word) {lines : List (List Letter)} (notEmpty : lines ≠ [])
    (others : List (List Letter)) :
    inked words (joinLines lines (word :: others)) = inked words lines ++ inked words others := by
  induction lines with
  | nil => exact absurd rfl notEmpty
  | cons line lines inductionHypothesis =>
    by_cases last : lines = []
    · rw [last, joinLines_single, inked_cons]
      unfold inked
      rw [List.map_singleton, strip_append_blank code blank]
      rfl
    · rw [joinLines_cons last, inked_cons, inductionHypothesis last, inked_cons line lines,
        List.append_assoc]

/-- A word on its own is a line without ink, or a break between two of them. -/
theorem splitOn_word (code : Code words) (isWord : [separator] ∈ words) {word : List Letter}
    (member : word ∈ words) :
    word.splitOn separator = [word] ∨ word.splitOn separator = [[], []] := by
  by_cases inside : separator ∈ word
  · right
    rw [code.eq_letter isWord member inside, List.splitOn_cons_eq_if_modifyHead]
    simp
  · exact .inl (List.splitOn_eq_singleton inside)

theorem inkedLines_append_blank (code : Code words) (isWord : [separator] ∈ words)
    {after : List Letter} (blank : Blank words after) (text : List Letter) :
    inkedLines words separator (text ++ after) = inkedLines words separator text := by
  obtain ⟨run, runWords, rfl⟩ := blank
  induction run generalizing text with
  | nil => rw [List.flatten_nil, List.append_nil]
  | cons word run inductionHypothesis =>
    have rest : ∀ other ∈ run, other ∈ words :=
      fun other member => runWords other (by simp [member])
    have isLast := runWords word (by simp)
    rw [List.flatten_cons, ← List.append_assoc, inductionHypothesis (text ++ word) rest]
    unfold inkedLines
    rw [splitOn_append]
    have lines := List.splitOn_ne_nil separator text
    rcases splitOn_word code isWord isLast with split | split
    · rw [split, inked_joinLines_append code (blank_word isLast) lines, inked_nil,
        List.append_nil]
    · rw [split, inked_joinLines_append code blank_nil lines, inked_blank code blank_nil,
        List.append_nil]

theorem inkedLines_blank_append (code : Code words) (isWord : [separator] ∈ words)
    {before : List Letter} (blank : Blank words before) (text : List Letter) :
    inkedLines words separator (before ++ text) = inkedLines words separator text := by
  obtain ⟨run, runWords, rfl⟩ := blank
  induction run with
  | nil => rfl
  | cons word run inductionHypothesis =>
    have rest : ∀ other ∈ run, other ∈ words :=
      fun other member => runWords other (by simp [member])
    have isFirst := runWords word (by simp)
    rw [List.flatten_cons, List.append_assoc, ← inductionHypothesis rest]
    generalize run.flatten ++ text = shorter
    unfold inkedLines
    obtain ⟨first, others, lines⟩ :=
      List.exists_cons_of_ne_nil (List.splitOn_ne_nil separator shorter)
    rw [splitOn_append, lines]
    rcases splitOn_word code isWord isFirst with split | split
    · rw [split, joinLines_single, inked_cons, inked_cons first]
      unfold inked
      rw [List.map_singleton, strip_blank_append code (blank_word isFirst)]
      rfl
    · rw [split, joinLines_cons (List.cons_ne_nil _ _), joinLines_single, inked_cons,
        inked_blank code blank_nil]
      rfl

/-- Stripping the whole text first makes no difference to its lines. -/
theorem inkedLines_strip (code : Code words) (isWord : [separator] ∈ words)
    (text : List Letter) :
    inkedLines words separator (strip words text) = inkedLines words separator text := by
  obtain ⟨before, after, split, blank, afterBlank⟩ := strip_split code text
  conv_rhs => rw [split]
  rw [inkedLines_append_blank code isWord afterBlank, inkedLines_blank_append code isWord blank]

end Ink

end VkTurn.Text
