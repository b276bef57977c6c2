import Mathlib.Data.List.Infix

/-! # LIKE

SQLite's `LIKE` without an escape character: `%` stands for any characters, `_` for one, and every
other character for itself, in either case when it is an ASCII letter.
-/

namespace VkTurn.Text

def sqlLike : List Char → List Char → Bool
  | [], text => text.isEmpty
  | char :: pattern, text =>
    if char = '%' then text.tails.any (sqlLike pattern)
    else match text with
      | [] => false
      | other :: rest =>
        (char = '_' || char.toLower = other.toLower) && sqlLike pattern rest

variable {pattern word before after text : List Char}

theorem sqlLike_percent : sqlLike ('%' :: pattern) text = true ↔
    ∃ rest, rest <:+ text ∧ sqlLike pattern rest = true := by
  simp [sqlLike]

theorem sqlLike_percent_self : sqlLike ['%'] text = true := by
  rw [sqlLike_percent]
  exact ⟨[], List.nil_suffix, rfl⟩

/-- A word is like itself, wildcards and all. -/
theorem sqlLike_append (isLike : sqlLike pattern after = true) :
    sqlLike (word ++ pattern) (word ++ after) = true := by
  induction word with
  | nil => exact isLike
  | cons char word inductionHypothesis =>
    simp only [List.cons_append, sqlLike]
    split
    · -- the wildcard takes itself
      refine List.any_eq_true.mpr ⟨word ++ after, ?_, inductionHypothesis⟩
      rw [List.mem_tails]
      exact List.suffix_cons char (word ++ after)
    · simp [inductionHypothesis]

/-- A text is like every word in it with wildcards on both sides. -/
theorem sqlLike_within :
    sqlLike ('%' :: (word ++ ['%'])) (before ++ (word ++ after)) = true := by
  rw [sqlLike_percent]
  exact ⟨word ++ after, List.suffix_append before _, sqlLike_append sqlLike_percent_self⟩

end VkTurn.Text
