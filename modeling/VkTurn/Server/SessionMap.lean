import Mathlib.Data.List.Induction
import Mathlib.Logic.Function.Basic
import VkTurn.Server.UserSession

/-! # A session's connections as a map

`AddConn` looks for the stream id in the slice, `RemoveConn` for the stream id with the connection
of the caller.  Call after call the slice is a map from stream ids: under an id it has the entry
that was added last, until the handler of that connection removes it.
-/

namespace VkTurn.Server

variable {Conn : Type}

inductive ConnCall (Conn : Type) where
  | addConn (entry : StreamEntry Conn)
  | removeConn (id : UInt8) (conn : Conn)
  deriving DecidableEq

/-- One session, and the connections that its calls have closed. -/
structure SessionConns (Conn : Type) where
  conns : List (StreamEntry Conn) := []
  closed : List Conn := []
  cancelled : Bool := false
  /-- `cleanupOnce` is done. -/
  cleanedUp : Bool := false
  deriving DecidableEq

namespace SessionConns

def addConn (session : SessionConns Conn) (entry : StreamEntry Conn) : SessionConns Conn :=
  let (conns, replaced) := Server.addConn entry session.conns
  { session with conns, closed := session.closed ++ replaced.toList }

/-- `UserSession.Cleanup`. -/
def cleanup (session : SessionConns Conn) : SessionConns Conn :=
  if session.cleanedUp then session
  else {
    conns := []
    closed := session.closed ++ session.conns.map (·.conn)
    cancelled := true
    cleanedUp := true }

/-- `UserSession.RemoveConn` with the `Cleanup` that it may end with. -/
def removeConn [DecidableEq Conn] (session : SessionConns Conn) (id : UInt8) (conn : Conn) :
    SessionConns Conn :=
  let session := { session with conns := Server.removeConn id conn session.conns }
  if session.conns.isEmpty then session.cleanup else session

def call [DecidableEq Conn] (session : SessionConns Conn) : ConnCall Conn → SessionConns Conn
  | .addConn entry => session.addConn entry
  | .removeConn id conn => session.removeConn id conn

/-- A new session after one call after the other. -/
def after [DecidableEq Conn] (calls : List (ConnCall Conn)) : SessionConns Conn :=
  calls.foldl call {}

end SessionConns

/-! ## The map -/

/-- Entries under stream ids. -/
abbrev ConnMap (Conn : Type) := UInt8 → Option (StreamEntry Conn)

/-- What a call does to the map. -/
def ConnMap.call [DecidableEq Conn] (map : ConnMap Conn) : ConnCall Conn → ConnMap Conn
  | .addConn entry => Function.update map entry.id (some entry)
  | .removeConn id conn => Function.update map id ((map id).filter (·.conn ≠ conn))

/-- The map that a list of connections stands for. -/
def connMap (conns : List (StreamEntry Conn)) : ConnMap Conn :=
  fun id => conns.find? (·.id = id)

/-- The entry was the last to be added under its stream id, and its own handler has not removed it
    since. -/
def HeldAfter (calls : List (ConnCall Conn)) (entry : StreamEntry Conn) : Prop :=
  ∃ before later, calls = before ++ .addConn entry :: later ∧
    (∀ other, .addConn other ∈ later → other.id ≠ entry.id) ∧
    .removeConn entry.id entry.conn ∉ later

section Map

variable {conns : List (StreamEntry Conn)} {entry : StreamEntry Conn} {id : UInt8}

theorem connMap_eq_some (distinct : DistinctStreams conns) :
    connMap conns id = some entry ↔ entry ∈ conns ∧ entry.id = id := by
  unfold connMap
  constructor
  · intro found
    exact ⟨List.mem_of_find?_eq_some found, by simpa using List.find?_some found⟩
  · rintro ⟨member, rfl⟩
    cases found : conns.find? (·.id = entry.id) with
    | none =>
      have misses := List.find?_eq_none.mp found entry member
      simp at misses
    | some other =>
      have isMember := List.mem_of_find?_eq_some found
      have sameID : other.id = entry.id := by simpa using List.find?_some found
      rw [List.inj_on_of_nodup_map distinct isMember member sameID]

/-- Two maps with the same entries are the same. -/
theorem connMap_ext {map : ConnMap Conn}
    (same : ∀ id entry, connMap conns id = some entry ↔ map id = some entry) :
    connMap conns = map :=
  funext fun id => Option.ext (same id)

end Map

/-! ## Histories -/

section Histories

variable {calls : List (ConnCall Conn)} {call : ConnCall Conn} {entry : StreamEntry Conn}

theorem heldAfter_nil : ¬ HeldAfter [] entry := by
  rintro ⟨before, later, split, _⟩
  simp at split

/-- What the last call makes of the entries held before it. -/
theorem heldAfter_append : HeldAfter (calls ++ [call]) entry ↔ call = .addConn entry ∨
    (HeldAfter calls entry ∧ (∀ other, call = .addConn other → other.id ≠ entry.id) ∧
      call ≠ .removeConn entry.id entry.conn) := by
  constructor
  · rintro ⟨before, later, split, noneLater, notRemoved⟩
    rcases List.eq_nil_or_concat later with rfl | ⟨initial, last, rfl⟩
    · obtain ⟨_, same⟩ := List.append_inj' split rfl
      exact .inl (List.singleton_inj.mp same)
    · rw [List.concat_eq_append] at split noneLater notRemoved
      rw [← List.cons_append, ← List.append_assoc] at split
      obtain ⟨sameCalls, same⟩ := List.append_inj' split rfl
      cases same
      refine .inr ⟨⟨before, initial, sameCalls, ?_, ?_⟩, ?_, ?_⟩
      · exact fun other member => noneLater other (List.mem_append_left _ member)
      · exact fun member => notRemoved (List.mem_append_left _ member)
      · rintro other rfl
        exact noneLater other (by simp)
      · rintro rfl
        exact notRemoved (by simp)
  · rintro (rfl | ⟨⟨before, later, rfl, noneLater, notRemoved⟩, differs, kept⟩)
    · exact ⟨calls, [], rfl, by simp, by simp⟩
    · refine ⟨before, later ++ [call], by simp, fun other member => ?_, ?_⟩
      · rcases List.mem_append.mp member with inLater | isLast
        · exact noneLater other inLater
        · exact differs other (List.mem_singleton.mp isLast).symm
      · rw [List.mem_append, List.mem_singleton]
        rintro (inLater | isLast)
        · exact notRemoved inLater
        · exact kept isLast.symm

end Histories

/-! ## One call -/

section Calls

variable [DecidableEq Conn] {session : SessionConns Conn} {entry : StreamEntry Conn}
  {call : ConnCall Conn} {calls : List (ConnCall Conn)}

/-- A session that `RemoveConn` cleans up has no connection left. -/
theorem conns_removeConn (session : SessionConns Conn) (id : UInt8) (conn : Conn) :
    (session.removeConn id conn).conns = removeConn id conn session.conns ∧
      (session.removeConn id conn).closed = session.closed := by
  unfold SessionConns.removeConn SessionConns.cleanup
  dsimp only
  split
  · rename_i isEmpty
    rw [List.isEmpty_iff] at isEmpty
    split
    · exact ⟨rfl, rfl⟩
    · rw [isEmpty]
      exact ⟨rfl, List.append_nil _⟩
  · exact ⟨rfl, rfl⟩

theorem conns_call_distinct (distinct : DistinctStreams session.conns) :
    DistinctStreams (session.call call).conns := by
  cases call with
  | addConn entry => exact addConn_distinct distinct
  | removeConn id conn =>
    unfold SessionConns.call
    dsimp only
    rw [(conns_removeConn session id conn).1]
    exact removeConn_distinct distinct id conn

/-- A call on the list is the call on the map. -/
theorem connMap_call (distinct : DistinctStreams session.conns) :
    connMap (session.call call).conns = (connMap session.conns).call call := by
  have stillDistinct : DistinctStreams (session.call call).conns := conns_call_distinct distinct
  refine connMap_ext fun id entry => ?_
  rw [connMap_eq_some stillDistinct]
  cases call with
  | addConn added =>
    have members : entry ∈ (session.call (.addConn added)).conns ↔
        entry = added ∨ (entry ∈ session.conns ∧ entry.id ≠ added.id) :=
      mem_addConn distinct added entry
    rw [members]
    unfold ConnMap.call
    dsimp only
    rw [Function.update_apply]
    by_cases isID : id = added.id
    · rw [if_pos isID, Option.some.injEq]
      constructor
      · rintro ⟨rfl | ⟨_, differs⟩, same⟩
        · rfl
        · exact absurd (same.trans isID) differs
      · rintro rfl
        exact ⟨.inl rfl, isID.symm⟩
    · rw [if_neg isID, connMap_eq_some distinct]
      constructor
      · rintro ⟨rfl | ⟨member, _⟩, same⟩
        · exact absurd same.symm isID
        · exact ⟨member, same⟩
      · rintro ⟨member, same⟩
        exact ⟨.inr ⟨member, fun isAdded => isID (same.symm.trans isAdded)⟩, same⟩
  | removeConn removedID conn =>
    have members : entry ∈ (session.call (.removeConn removedID conn)).conns ↔
        entry ∈ session.conns ∧ ¬ (entry.id = removedID ∧ entry.conn = conn) := by
      unfold SessionConns.call
      dsimp only
      rw [(conns_removeConn session removedID conn).1]
      exact mem_removeConn distinct removedID conn entry
    rw [members]
    unfold ConnMap.call
    dsimp only
    rw [Function.update_apply]
    by_cases isID : id = removedID
    · subst isID
      rw [if_pos rfl, Option.filter_eq_some_iff, connMap_eq_some distinct]
      constructor
      · rintro ⟨⟨member, kept⟩, same⟩
        exact ⟨⟨member, same⟩, decide_eq_true fun isConn => kept ⟨same, isConn⟩⟩
      · rintro ⟨⟨member, same⟩, differs⟩
        exact ⟨⟨member, fun removed => of_decide_eq_true differs removed.2⟩, same⟩
    · rw [if_neg isID, connMap_eq_some distinct]
      constructor
      · rintro ⟨⟨member, _⟩, same⟩
        exact ⟨member, same⟩
      · rintro ⟨member, same⟩
        exact ⟨⟨member, fun removed => isID (same.symm.trans removed.1)⟩, same⟩

/-! ## Call after call -/

theorem after_append (calls : List (ConnCall Conn)) (call : ConnCall Conn) :
    SessionConns.after (calls ++ [call]) = (SessionConns.after calls).call call :=
  List.foldl_append ..

theorem conns_after_distinct (calls : List (ConnCall Conn)) :
    DistinctStreams (SessionConns.after calls).conns := by
  induction calls using List.reverseRecOn with
  | nil => exact List.nodup_nil
  | append_singleton calls call inductionHypothesis =>
    rw [after_append]
    exact conns_call_distinct inductionHypothesis

/-- The map after some calls is read off their history. -/
theorem connMap_after (calls : List (ConnCall Conn)) (id : UInt8) (entry : StreamEntry Conn) :
    connMap (SessionConns.after calls).conns id = some entry ↔
      entry.id = id ∧ HeldAfter calls entry := by
  induction calls using List.reverseRecOn generalizing entry with
  | nil => exact ⟨nofun, fun held => absurd held.2 heldAfter_nil⟩
  | append_singleton calls call inductionHypothesis =>
    rw [after_append, connMap_call (conns_after_distinct calls)]
    rw [heldAfter_append]
    cases call with
    | addConn added =>
      unfold ConnMap.call
      dsimp only
      rw [Function.update_apply]
      by_cases isID : id = added.id
      · rw [if_pos isID, Option.some.injEq]
        constructor
        · rintro rfl
          exact ⟨isID.symm, .inl rfl⟩
        · rintro ⟨same, isLast | ⟨_, differs, _⟩⟩
          · cases isLast
            rfl
          · exact absurd (isID.symm.trans same.symm) (differs added rfl)
      · rw [if_neg isID, inductionHypothesis]
        constructor
        · rintro ⟨rfl, held⟩
          refine ⟨rfl, .inr ⟨held, fun other isLast => ?_, nofun⟩⟩
          cases isLast
          exact fun same => isID same.symm
        · rintro ⟨rfl, isLast | ⟨held, _⟩⟩
          · cases isLast
            exact absurd rfl isID
          · exact ⟨rfl, held⟩
    | removeConn removedID conn =>
      unfold ConnMap.call
      dsimp only
      rw [Function.update_apply]
      by_cases isID : id = removedID
      · subst isID
        rw [if_pos rfl, Option.filter_eq_some_iff, inductionHypothesis]
        constructor
        · rintro ⟨⟨same, held⟩, differs⟩
          refine ⟨same, .inr ⟨held, nofun, fun isLast => ?_⟩⟩
          cases isLast
          exact absurd differs (by simp)
        · rintro ⟨rfl, isLast | ⟨held, _, kept⟩⟩
          · cases isLast
          · exact ⟨⟨rfl, held⟩, decide_eq_true fun isConn => kept (isConn ▸ rfl)⟩
      · rw [if_neg isID, inductionHypothesis]
        constructor
        · rintro ⟨rfl, held⟩
          refine ⟨rfl, .inr ⟨held, nofun, fun isLast => ?_⟩⟩
          cases isLast
          exact isID rfl
        · rintro ⟨same, isLast | ⟨held, _⟩⟩
          · cases isLast
          · exact ⟨same, held⟩

/-- What was closed stays closed. -/
theorem closed_call (call : ConnCall Conn) : session.closed ⊆ (session.call call).closed := by
  cases call with
  | addConn added => exact List.subset_append_left _ _
  | removeConn id conn =>
    unfold SessionConns.call
    dsimp only
    rw [(conns_removeConn session id conn).2]
    exact List.Subset.refl _

theorem closed_after (before later : List (ConnCall Conn)) :
    (SessionConns.after before).closed ⊆ (SessionConns.after (before ++ later)).closed := by
  induction later using List.reverseRecOn with
  | nil => rw [List.append_nil]; exact List.Subset.refl _
  | append_singleton later call inductionHypothesis =>
    rw [← List.append_assoc, after_append]
    exact List.Subset.trans inductionHypothesis (closed_call call)

/-- A connection whose stream id is taken over is closed by the call that does it. -/
theorem replaced_closed {replaced : StreamEntry Conn} (held : HeldAfter calls replaced)
    (same : replaced.id = entry.id) :
    replaced.conn ∈ (SessionConns.after (calls ++ [.addConn entry])).closed := by
  have distinct := conns_after_distinct calls
  have member := ((connMap_eq_some distinct).mp
    ((connMap_after calls replaced.id replaced).mpr ⟨rfl, held⟩)).1
  rw [after_append]
  unfold SessionConns.call SessionConns.addConn
  dsimp only
  rw [addConn_replaces distinct member entry same]
  simp

/-- The slice of a session is the map from stream ids to the connections last added under them and
    not yet removed by their handlers. -/
theorem session_refines_map (calls : List (ConnCall Conn)) :
    DistinctStreams (SessionConns.after calls).conns ∧
      (∀ id entry, connMap (SessionConns.after calls).conns id = some entry ↔
        entry.id = id ∧ HeldAfter calls entry) ∧
      (∀ id conn, ∀ entry ∈ (SessionConns.after calls).conns, entry.conn ≠ conn →
        entry ∈ (SessionConns.after (calls ++ [.removeConn id conn])).conns) ∧
      (∀ before entry later replaced, calls = before ++ .addConn entry :: later →
        HeldAfter before replaced → replaced.id = entry.id →
        replaced.conn ∈ (SessionConns.after calls).closed) := by
  refine ⟨conns_after_distinct calls, connMap_after calls, ?_, ?_⟩
  · intro id conn entry member differs
    rw [after_append]
    unfold SessionConns.call
    dsimp only
    rw [(conns_removeConn _ id conn).1, mem_removeConn (conns_after_distinct calls)]
    exact ⟨member, fun removed => differs removed.2⟩
  · rintro before entry later replaced rfl held same
    rw [← List.singleton_append, ← List.append_assoc]
    exact closed_after _ later (replaced_closed held same)

end Calls

end VkTurn.Server
