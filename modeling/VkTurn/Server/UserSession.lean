import Mathlib.Data.List.Basic
import Mathlib.Data.List.Nodup

/-! # The connections of one user session

`UserSession.Conns` is a list with one entry for each stream id.  `addConn` replaces
the entry of a stream id that is already there (and closes the connection it held) or
appends a new one; `removeConn` drops the entry of a stream id only while it still holds
the connection of the caller.

The connections are of an arbitrary type: only their identity matters here.
-/

namespace VkTurn.Server

/-- `streamEntry`. -/
structure StreamEntry (Conn : Type) where
  id : UInt8
  key : String
  clientIP : String
  conn : Conn
  deriving DecidableEq

variable {Conn : Type}

/-- The list part of `UserSession.AddConn`: the new list, and the connection that was
    closed because its stream id is taken over. -/
def addConn (entry : StreamEntry Conn) : List (StreamEntry Conn) → List (StreamEntry Conn) × Option Conn
  | [] => ([entry], none)
  | existing :: conns =>
    if existing.id = entry.id then (entry :: conns, some existing.conn)
    else
      let (updated, closed) := addConn entry conns
      (existing :: updated, closed)

theorem addConn_nil (entry : StreamEntry Conn) : addConn entry [] = ([entry], none) := rfl

theorem addConn_cons (entry existing : StreamEntry Conn) (conns : List (StreamEntry Conn)) :
    addConn entry (existing :: conns) =
      if existing.id = entry.id then (entry :: conns, some existing.conn)
      else (existing :: (addConn entry conns).1, (addConn entry conns).2) := rfl

/-- The list part of `UserSession.RemoveConn`. -/
def removeConn [DecidableEq Conn] (id : UInt8) (conn : Conn) (conns : List (StreamEntry Conn)) :
    List (StreamEntry Conn) :=
  conns.eraseP fun entry => entry.id = id ∧ entry.conn = conn

/-- At most one entry for each stream id. -/
def DistinctStreams (conns : List (StreamEntry Conn)) : Prop :=
  (conns.map StreamEntry.id).Nodup

theorem DistinctStreams.tail {entry : StreamEntry Conn} {conns : List (StreamEntry Conn)}
    (distinct : DistinctStreams (entry :: conns)) : DistinctStreams conns :=
  (List.nodup_cons.mp distinct).2

theorem DistinctStreams.head {entry : StreamEntry Conn} {conns : List (StreamEntry Conn)}
    (distinct : DistinctStreams (entry :: conns)) :
    ∀ other ∈ conns, other.id ≠ entry.id := by
  intro other member same
  exact (List.nodup_cons.mp distinct).1 (same ▸ List.mem_map_of_mem member)

/-! ## What `addConn` does -/

theorem mem_addConn {conns : List (StreamEntry Conn)} (distinct : DistinctStreams conns)
    (entry other : StreamEntry Conn) :
    other ∈ (addConn entry conns).1 ↔ other = entry ∨ (other ∈ conns ∧ other.id ≠ entry.id) := by
  induction conns with
  | nil => simp [addConn_nil]
  | cons existing conns inductionHypothesis =>
    simp only [addConn_cons]
    split
    · rename_i same
      have others := distinct.head
      simp only [List.mem_cons]
      constructor
      · rintro (rfl | member)
        · exact .inl rfl
        · exact .inr ⟨.inr member, same ▸ others other member⟩
      · rintro (rfl | ⟨rfl | member, different⟩)
        · exact .inl rfl
        · exact absurd same different
        · exact .inr member
    · rename_i different
      simp only [List.mem_cons, inductionHypothesis distinct.tail]
      constructor
      · rintro (rfl | rfl | ⟨member, notSame⟩)
        · exact .inr ⟨.inl rfl, different⟩
        · exact .inl rfl
        · exact .inr ⟨.inr member, notSame⟩
      · rintro (rfl | ⟨rfl | member, notSame⟩)
        · exact .inr (.inl rfl)
        · exact .inl rfl
        · exact .inr (.inr ⟨member, notSame⟩)

theorem addConn_distinct {entry : StreamEntry Conn} {conns : List (StreamEntry Conn)}
    (distinct : DistinctStreams conns) : DistinctStreams (addConn entry conns).1 := by
  induction conns with
  | nil => simp [addConn_nil, DistinctStreams]
  | cons existing conns inductionHypothesis =>
    simp only [addConn_cons]
    split
    · rename_i same
      simpa [DistinctStreams, same] using distinct
    · rename_i different
      refine List.nodup_cons.mpr ⟨?_, inductionHypothesis distinct.tail⟩
      intro member
      obtain ⟨other, otherMember, sameId⟩ := List.mem_map.mp member
      rcases (mem_addConn distinct.tail entry other).mp otherMember with rfl | ⟨inTail, _⟩
      · exact different sameId.symm
      · exact distinct.head other inTail sameId

/-- A stream id without an entry gets one, and nothing is closed. -/
theorem addConn_fresh {entry : StreamEntry Conn} {conns : List (StreamEntry Conn)}
    (fresh : ∀ existing ∈ conns, existing.id ≠ entry.id) :
    addConn entry conns = (conns ++ [entry], none) := by
  induction conns with
  | nil => rfl
  | cons existing conns inductionHypothesis =>
    have restFresh : ∀ other ∈ conns, other.id ≠ entry.id :=
      fun other member => fresh other (List.mem_cons_of_mem _ member)
    rw [addConn_cons, if_neg (fresh existing List.mem_cons_self), inductionHypothesis restFresh]
    rfl

/-- `AddConn` closes a connection exactly when the stream id had an entry, and then the
    connection of that entry. -/
theorem addConn_closed {entry : StreamEntry Conn} {conns : List (StreamEntry Conn)} (conn : Conn) :
    (addConn entry conns).2 = some conn →
      ∃ existing ∈ conns, existing.id = entry.id ∧ existing.conn = conn := by
  induction conns with
  | nil => simp [addConn_nil]
  | cons existing conns inductionHypothesis =>
    simp only [addConn_cons]
    split
    · rename_i same
      intro closed
      exact ⟨existing, List.mem_cons_self, same, Option.some.inj closed⟩
    · intro closed
      obtain ⟨other, member, sameId, sameConn⟩ := inductionHypothesis closed
      exact ⟨other, List.mem_cons_of_mem _ member, sameId, sameConn⟩

/-- An entry whose stream id is taken over is the one whose connection `AddConn` closes. -/
theorem addConn_replaces {existing : StreamEntry Conn} {conns : List (StreamEntry Conn)}
    (distinct : DistinctStreams conns) (member : existing ∈ conns) (entry : StreamEntry Conn)
    (same : existing.id = entry.id) : (addConn entry conns).2 = some existing.conn := by
  induction conns with
  | nil => cases member
  | cons first conns inductionHypothesis =>
    simp only [addConn_cons]
    split
    · rename_i firstSame
      rcases List.mem_cons.mp member with rfl | inTail
      · rfl
      · exact absurd (same.trans firstSame.symm) (distinct.head existing inTail)
    · rename_i firstDifferent
      rcases List.mem_cons.mp member with rfl | inTail
      · exact absurd same firstDifferent
      · exact inductionHypothesis distinct.tail inTail

/-! ## What `removeConn` does -/

section Remove

variable [DecidableEq Conn]

theorem mem_removeConn {conns : List (StreamEntry Conn)} (distinct : DistinctStreams conns)
    (id : UInt8) (conn : Conn) (other : StreamEntry Conn) :
    other ∈ removeConn id conn conns ↔ other ∈ conns ∧ ¬ (other.id = id ∧ other.conn = conn) := by
  induction conns with
  | nil => simp [removeConn]
  | cons existing conns inductionHypothesis =>
    unfold removeConn at inductionHypothesis ⊢
    by_cases own : existing.id = id ∧ existing.conn = conn
    · rw [List.eraseP_cons_of_pos (by simpa using own)]
      constructor
      · intro member
        refine ⟨List.mem_cons_of_mem _ member, fun same => ?_⟩
        exact distinct.head other member (same.1.trans own.1.symm)
      · rintro ⟨member, notOwn⟩
        rcases List.mem_cons.mp member with rfl | inTail
        · exact absurd own notOwn
        · exact inTail
    · rw [List.eraseP_cons_of_neg (by simpa using own), List.mem_cons, List.mem_cons,
        inductionHypothesis distinct.tail]
      constructor
      · rintro (rfl | ⟨member, notSame⟩)
        · exact ⟨.inl rfl, own⟩
        · exact ⟨.inr member, notSame⟩
      · rintro ⟨rfl | member, notSame⟩
        · exact .inl rfl
        · exact .inr ⟨member, notSame⟩

theorem removeConn_distinct {conns : List (StreamEntry Conn)} (distinct : DistinctStreams conns)
    (id : UInt8) (conn : Conn) : DistinctStreams (removeConn id conn conns) :=
  distinct.sublist (List.eraseP_sublist.map StreamEntry.id)

end Remove

end VkTurn.Server
