import Mathlib.Data.List.Nodup
import Mathlib.Order.Bounds.Basic
import VkTurn.Client.SessionRuntime
import VkTurn.Store.Transaction

/-! # The leader of a session

A selection may read the fields of the streams while another call stores `dtlsReady`, but that call
selects again after it.  So the selection that ends last has read everything that was stored.
-/

namespace VkTurn.Client

open VkTurn.Store VkTurn.Transition

/-! ## The choice -/

/-- The smallest of the candidates, if there are any. -/
def Chooses (chosen : Option UInt8) (candidates : Set UInt8) : Prop :=
  match chosen with
  | none => candidates = ∅
  | some leader => IsLeast candidates leader

section Choice

variable {chosen : Option UInt8} {candidates : Set UInt8}

theorem chooses_prefer (streamID : UInt8) (chooses : Chooses chosen candidates) :
    Chooses (SessionRuntime.prefer chosen streamID) (insert streamID candidates) := by
  cases chosen with
  | none =>
    have noCandidate : candidates = ∅ := chooses
    rw [noCandidate]
    refine ⟨Set.mem_insert _ _, fun other member => ?_⟩
    rcases Set.mem_insert_iff.mp member with rfl | isOther
    · exact UInt8.le_refl _
    · cases isOther
  | some leader =>
    obtain ⟨isCandidate, isLeast⟩ : IsLeast candidates leader := chooses
    unfold SessionRuntime.prefer
    dsimp only
    split
    · rename_i smaller
      refine ⟨Set.mem_insert _ _, fun other member => ?_⟩
      rcases Set.mem_insert_iff.mp member with rfl | isOther
      · exact UInt8.le_refl _
      · exact UInt8.le_trans (UInt8.le_of_lt smaller) (isLeast isOther)
    · rename_i notSmaller
      refine ⟨Set.mem_insert_of_mem _ isCandidate, fun other member => ?_⟩
      rcases Set.mem_insert_iff.mp member with rfl | isOther
      · exact UInt8.not_lt.mp notSmaller
      · exact isLeast isOther

theorem chooses_foldl (streamIDs : List UInt8) (chooses : Chooses chosen candidates) :
    Chooses (streamIDs.foldl SessionRuntime.prefer chosen)
      (candidates ∪ {id | id ∈ streamIDs}) := by
  induction streamIDs generalizing chosen candidates with
  | nil => simpa using chooses
  | cons first rest inductionHypothesis =>
    have folded := inductionHypothesis (chooses_prefer first chooses)
    have same : insert first candidates ∪ {id | id ∈ rest} =
        candidates ∪ {id | id ∈ first :: rest} := by
      ext id
      simp only [Set.mem_union, Set.mem_insert_iff, Set.mem_ofPred_eq, List.mem_cons]
      tauto
    rw [same] at folded
    exact folded

end Choice

/-! ## What a leader should be -/

/-- A known stream that is ready, or any known stream when none is. -/
def SessionRuntime.Eligible (runtime : SessionRuntime) (streamID : UInt8) : Prop :=
  streamID ∈ runtime.streamIDs ∧ (runtime.dtlsReady streamID = true ∨
    ∀ other ∈ runtime.streamIDs, runtime.dtlsReady other = false)

structure LeaderElected (runtime : SessionRuntime) : Prop where
  isSet : runtime.leader.isSome ↔ runtime.streams ≠ []
  isLeast : ∀ leader, runtime.leader = some leader → IsLeast {id | runtime.Eligible id} leader

/-- No call is in progress. -/
def SessionRuntime.Quiet (runtime : SessionRuntime) : Prop :=
  ∀ thread, runtime.phases thread = .idle

/-- The call has stored `dtlsReady`, and not begun to select after that. -/
def RuntimePhase.owes : RuntimePhase → Bool
  | .dtlsStored _ | .reselecting => true
  | _ => false

def RuntimePhase.selects : RuntimePhase → Bool
  | .selecting _ _ => true
  | _ => false

/-- The first loop has chosen among the streams that it has read. -/
def Selected (runtime : SessionRuntime) (selection : Selection) : Prop :=
  Chooses selection.nextLeader {id | id ∈ runtime.streamIDs ∧ id ∉ selection.unread ∧
    runtime.dtlsReady id = true}

/-- Nobody owes a selection. -/
def SessionRuntime.Settled (runtime : SessionRuntime) : Prop :=
  ∀ thread, (runtime.phases thread).owes = false

structure RuntimeInv (runtime : SessionRuntime) : Prop where
  known : ∀ streamID stream, (streamID, stream) ∈ runtime.streams → stream < runtime.allocated
  holder : ∀ thread, (runtime.phases thread).selects = true ↔ runtime.lock = some thread
  leader : runtime.lock = none → runtime.Settled → LeaderElected runtime
  /-- Names that are still to be read occur once, so that a name read is read. -/
  reading : ∀ thread selection after, runtime.phases thread = .selecting selection after →
    selection.unread.Nodup ∧ (runtime.Settled → Selected runtime selection)
  distinct : runtime.streamIDs.Nodup

/-! ## The fields of streams -/

section Fields

variable {runtime next : SessionRuntime} {streamID : UInt8} {thread : Nat} {phase : RuntimePhase}

theorem dtlsReady_eq_true : runtime.dtlsReady streamID = true ↔
    ∃ stream, runtime.stream? streamID = some stream ∧ (runtime.heap stream).dtlsReady = true :=
  Option.any_eq_true _ _

theorem mem_streamIDs_of_ready (ready : runtime.dtlsReady streamID = true) :
    streamID ∈ runtime.streamIDs := by
  obtain ⟨stream, isStream, _⟩ := dtlsReady_eq_true.mp ready
  exact mem_keys_of_lookup isStream

theorem selected_congr {selection : Selection} (sameIDs : next.streamIDs = runtime.streamIDs)
    (sameReady : ∀ id, next.dtlsReady id = runtime.dtlsReady id)
    (selected : Selected runtime selection) : Selected next selection := by
  unfold Selected at selected ⊢
  rw [sameIDs]
  simpa only [sameReady] using selected

theorem leaderElected_congr (sameStreams : next.streams = runtime.streams)
    (sameReady : ∀ id, next.dtlsReady id = runtime.dtlsReady id)
    (sameLeader : next.leader = runtime.leader) (elected : LeaderElected runtime) :
    LeaderElected next := by
  have sameEligible (id : UInt8) : next.Eligible id ↔ runtime.Eligible id := by
    unfold SessionRuntime.Eligible SessionRuntime.streamIDs
    rw [sameStreams]
    simp only [sameReady]
  refine ⟨?_, fun leader isLeader => ?_⟩
  · rw [sameLeader, sameStreams]
    exact elected.isSet
  · simp only [sameEligible]
    exact elected.isLeast leader (sameLeader ▸ isLeader)

end Fields

/-! ## Steps -/

section Steps

variable {runtime next : SessionRuntime} {streamID : UInt8} {thread : Nat} {phase : RuntimePhase}
  {stream : StreamRef} {store : NoteStore} {selection : Selection}
  {after : Option (StreamRef × NoteStore)} {now : Int} {call : RuntimeCall}

/-- A step outside of the lock: where nobody owes a selection after it, nobody did before, and no
    stream became ready. -/
theorem RuntimeInv.frame (thread : Nat) (inv : RuntimeInv runtime)
    (sameStreams : next.streams = runtime.streams)
    (sameAllocated : next.allocated = runtime.allocated) (sameLock : next.lock = runtime.lock)
    (sameLeader : next.leader = runtime.leader)
    (phases : next.phases = Function.update runtime.phases thread phase)
    (outside : (runtime.phases thread).selects = false) (stays : phase.selects = false)
    (settles : next.Settled →
      runtime.Settled ∧ ∀ id, next.dtlsReady id = runtime.dtlsReady id) : RuntimeInv next := by
  have sameIDs : next.streamIDs = runtime.streamIDs := congrArg (List.map Prod.fst) sameStreams
  constructor
  case known =>
    rw [sameStreams, sameAllocated]
    exact inv.known
  case holder =>
    intro other
    rw [phases, sameLock, Function.update_apply]
    split
    · rename_i isThread
      rw [← inv.holder other, isThread, outside, stays]
    · exact inv.holder other
  case leader =>
    intro free settled
    obtain ⟨wasSettled, sameReady⟩ := settles settled
    exact leaderElected_congr sameStreams sameReady sameLeader
      (inv.leader (sameLock ▸ free) wasSettled)
  case reading =>
    intro other selection after isSelecting
    rw [phases, Function.update_apply] at isSelecting
    split at isSelecting
    · rw [isSelecting] at stays
      cases stays
    · obtain ⟨nodup, selected⟩ := inv.reading other selection after isSelecting
      refine ⟨nodup, fun settled => ?_⟩
      obtain ⟨wasSettled, sameReady⟩ := settles settled
      exact selected_congr sameIDs sameReady (selected wasSettled)
  case distinct =>
    rw [sameIDs]
    exact inv.distinct

/-- A phase that owes no selection makes room for another such one. -/
theorem settled_update (same : (runtime.phases thread).owes = false)
    (phases : next.phases = Function.update runtime.phases thread phase)
    (settled : next.Settled) : runtime.Settled := by
  intro other
  have isSettled := settled other
  rw [phases, Function.update_apply] at isSettled
  split at isSettled
  · rename_i isThread
    rw [isThread]
    exact same
  · exact isSettled

/-- Where the lock was free, the selection that begins is the only one. -/
theorem RuntimeInv.beginSelect (inv : RuntimeInv runtime) (free : runtime.lock = none)
    (samePhases : next.phases = runtime.phases)
    (known : ∀ streamID stream, (streamID, stream) ∈ next.streams → stream < next.allocated)
    (distinct : next.streamIDs.Nodup) : RuntimeInv (next.beginSelect thread after) := by
  have nobody (other : Nat) : (next.phases other).selects = false := by
    rw [samePhases]
    refine Bool.eq_false_iff.mpr fun selects => ?_
    rw [(inv.holder other).mp selects] at free
    cases free
  unfold SessionRuntime.beginSelect SessionRuntime.setPhase
  constructor
  case known => exact known
  case holder =>
    intro other
    dsimp only
    rw [Function.update_apply]
    split
    · rename_i isThread
      rw [isThread]
      exact ⟨fun _ => rfl, fun _ => rfl⟩
    · rename_i differs
      rw [nobody other]
      refine ⟨nofun, fun isHolder => ?_⟩
      cases isHolder
      exact absurd rfl differs
  case leader => exact fun isFree => nomatch isFree
  case reading =>
    intro other selection isAfter isSelecting
    dsimp only at isSelecting
    rw [Function.update_apply] at isSelecting
    split at isSelecting
    · cases isSelecting
      refine ⟨distinct, fun _ => ?_⟩
      show {id | _} = (∅ : Set UInt8)
      refine Set.eq_empty_iff_forall_notMem.mpr fun id member => ?_
      exact member.2.1 member.1
    · have idle := nobody other
      rw [isSelecting] at idle
      cases idle
  case distinct => exact distinct

theorem RuntimeInv.enter (inv : RuntimeInv runtime)
    (isPhase : runtime.phases thread = .entered call) (free : runtime.lock = none) :
    RuntimeInv (runtime.enter thread now call) := by
  cases call with
  | removeStream streamID =>
    refine inv.beginSelect free rfl ?_ ?_
    · exact fun id stream member => inv.known id stream (List.mem_filter.mp member).1
    · exact inv.distinct.sublist (List.filter_sublist.map _)
  | note note streamID =>
    unfold SessionRuntime.enter
    dsimp only
    split
    · rename_i stream _
      refine inv.frame thread rfl rfl rfl rfl rfl ?_ rfl fun settled => ?_
      · rw [isPhase]
        rfl
      · exact ⟨settled_update (by rw [isPhase]; rfl) rfl settled, fun _ => rfl⟩
    · rename_i isNew
      refine inv.beginSelect free rfl ?_ ?_
      · intro id stream member
        show stream < runtime.allocated + 1
        rcases List.mem_append.mp member with isOld | isLast
        · exact Nat.lt_succ_of_lt (inv.known id stream isOld)
        · cases List.mem_singleton.mp isLast
          exact Nat.lt_succ_self _
      · show ((runtime.streams ++ [(streamID, runtime.allocated)]).map Prod.fst).Nodup
        rw [List.map_append, List.map_singleton, ← List.concat_eq_append]
        exact List.Nodup.concat (not_mem_keys_of_lookup isNew) inv.distinct

/-- The first loop comes to one more stream. -/
theorem selected_read (nodup : selection.unread.Nodup) (member : streamID ∈ selection.unread)
    (selected : Selected runtime selection) :
    Selected runtime (runtime.readStream selection streamID) := by
  have isRead (id : UInt8) : id ∉ selection.unread.erase streamID ↔
      id = streamID ∨ id ∉ selection.unread := by
    rw [nodup.mem_erase_iff]
    tauto
  unfold Selected SessionRuntime.readStream
  dsimp only
  simp only [isRead]
  by_cases ready : runtime.dtlsReady streamID = true
  · rw [if_pos ready]
    have chosen := chooses_prefer streamID selected
    have same : insert streamID {id | id ∈ runtime.streamIDs ∧ id ∉ selection.unread ∧
          runtime.dtlsReady id = true} =
        {id | id ∈ runtime.streamIDs ∧ (id = streamID ∨ id ∉ selection.unread) ∧
          runtime.dtlsReady id = true} := by
      ext id
      simp only [Set.mem_insert_iff, Set.mem_ofPred_eq]
      constructor
      · rintro (rfl | ⟨isKnown, notUnread, isReady⟩)
        · exact ⟨mem_streamIDs_of_ready ready, .inl rfl, ready⟩
        · exact ⟨isKnown, .inr notUnread, isReady⟩
      · rintro ⟨isKnown, rfl | notUnread, isReady⟩
        · exact .inl rfl
        · exact .inr ⟨isKnown, notUnread, isReady⟩
    rw [same] at chosen
    exact chosen
  · rw [if_neg ready]
    have same : {id | id ∈ runtime.streamIDs ∧ id ∉ selection.unread ∧
          runtime.dtlsReady id = true} =
        {id | id ∈ runtime.streamIDs ∧ (id = streamID ∨ id ∉ selection.unread) ∧
          runtime.dtlsReady id = true} := by
      ext id
      simp only [Set.mem_ofPred_eq]
      constructor
      · rintro ⟨isKnown, notUnread, isReady⟩
        exact ⟨isKnown, .inr notUnread, isReady⟩
      · rintro ⟨isKnown, rfl | notUnread, isReady⟩
        · exact absurd isReady ready
        · exact ⟨isKnown, notUnread, isReady⟩
    rw [← same]
    exact selected

/-- When all streams have been read, the choice is the leader that the session should have. -/
theorem elected_of_selected (isRead : selection.unread = []) (selected : Selected runtime selection)
    (isLeader : next.leader = runtime.elected selection)
    (sameStreams : next.streams = runtime.streams)
    (sameReady : ∀ id, next.dtlsReady id = runtime.dtlsReady id) : LeaderElected next := by
  suffices elected : LeaderElected { runtime with leader := runtime.elected selection } from
    leaderElected_congr (by exact sameStreams) (by exact sameReady) (by exact isLeader) elected
  unfold Selected at selected
  rw [isRead] at selected
  unfold SessionRuntime.elected
  cases isChosen : selection.nextLeader with
  | some leader =>
    rw [isChosen] at selected
    obtain ⟨⟨isKnown, _, isReady⟩, isLeast⟩ := selected
    refine ⟨⟨fun _ noStreams => ?_, fun _ => rfl⟩, fun other isOther => ?_⟩
    · have noIDs : runtime.streamIDs = [] := congrArg (List.map Prod.fst) noStreams
      rw [noIDs] at isKnown
      cases isKnown
    · cases isOther
      refine ⟨⟨isKnown, .inl isReady⟩, fun other eligible => ?_⟩
      obtain ⟨otherKnown, otherReady | noneReady⟩ := eligible
      · exact isLeast ⟨otherKnown, List.not_mem_nil, otherReady⟩
      · exact nomatch isReady.symm.trans (noneReady leader isKnown)
  | none =>
    rw [isChosen] at selected
    have noneReady : ∀ id ∈ runtime.streamIDs, runtime.dtlsReady id = false := by
      intro id isKnown
      refine Bool.eq_false_iff.mpr fun isReady => ?_
      exact Set.eq_empty_iff_forall_notMem.mp selected id ⟨isKnown, List.not_mem_nil, isReady⟩
    have chosen := chooses_foldl runtime.streamIDs
      (show Chooses none (∅ : Set UInt8) from rfl)
    rw [Set.empty_union] at chosen
    dsimp only
    constructor
    case isSet =>
      cases isFold : runtime.streamIDs.foldl SessionRuntime.prefer none with
      | none =>
        rw [isFold] at chosen
        refine ⟨nofun, fun hasStreams => ?_⟩
        obtain ⟨entry, member⟩ := List.exists_mem_of_ne_nil _ hasStreams
        exact absurd (List.mem_map_of_mem member)
          (Set.eq_empty_iff_forall_notMem.mp chosen entry.1)
      | some leader =>
        rw [isFold] at chosen
        refine ⟨fun _ noStreams => ?_, fun _ => rfl⟩
        have isKnown : leader ∈ runtime.streams.map Prod.fst := chosen.1
        rw [show runtime.streams = [] from noStreams] at isKnown
        cases isKnown
    case isLeast =>
      intro leader isFold
      rw [show runtime.streamIDs.foldl SessionRuntime.prefer none = some leader from isFold]
        at chosen
      exact ⟨⟨chosen.1, .inr noneReady⟩, fun other eligible => chosen.2 eligible.1⟩

/-- The call that selects goes on with its selection. -/
theorem RuntimeInv.read (inv : RuntimeInv runtime)
    (isPhase : runtime.phases thread = .selecting selection after)
    (member : streamID ∈ selection.unread) :
    RuntimeInv (runtime.setPhase thread
      (.selecting (runtime.readStream selection streamID) after)) := by
  obtain ⟨nodup, selected⟩ := inv.reading thread selection after isPhase
  have isHolder := (inv.holder thread).mp (by rw [isPhase]; rfl)
  unfold SessionRuntime.setPhase
  constructor
  case known => exact inv.known
  case holder =>
    intro other
    dsimp only
    rw [Function.update_apply]
    split
    · rename_i isThread
      rw [isThread]
      exact ⟨fun _ => isHolder, fun _ => rfl⟩
    · exact inv.holder other
  case leader =>
    intro free
    exact nomatch isHolder.symm.trans free
  case reading =>
    intro other otherSelection otherAfter isSelecting
    dsimp only at isSelecting
    rw [Function.update_apply] at isSelecting
    have wasSettled (settled : SessionRuntime.Settled { runtime with
        phases := Function.update runtime.phases thread
          (.selecting (runtime.readStream selection streamID) after) }) : runtime.Settled :=
      settled_update (by rw [isPhase]; rfl) rfl settled
    split at isSelecting
    · cases isSelecting
      exact ⟨nodup.erase streamID, fun settled =>
        selected_congr rfl (fun _ => rfl)
          (selected_read nodup member (selected (wasSettled settled)))⟩
    · obtain ⟨otherNodup, otherSelected⟩ :=
        inv.reading other otherSelection otherAfter isSelecting
      exact ⟨otherNodup, fun settled =>
        selected_congr rfl (fun _ => rfl) (otherSelected (wasSettled settled))⟩
  case distinct => exact inv.distinct

theorem RuntimeInv.elect (inv : RuntimeInv runtime)
    (isPhase : runtime.phases thread = .selecting selection after) (isRead : selection.unread = [])
    (stays : phase.selects = false) :
    RuntimeInv { runtime.setPhase thread phase with
      lock := none, leader := runtime.elected selection } := by
  obtain ⟨_, selected⟩ := inv.reading thread selection after isPhase
  have isHolder := (inv.holder thread).mp (by rw [isPhase]; rfl)
  have nobody (other : Nat) (differs : other ≠ thread) :
      (runtime.phases other).selects = false := by
    refine Bool.eq_false_iff.mpr fun selects => differs ?_
    have otherHolder := (inv.holder other).mp selects
    rw [isHolder] at otherHolder
    exact (Option.some.inj otherHolder).symm
  unfold SessionRuntime.setPhase
  have idle (other : Nat) :
      (Function.update runtime.phases thread phase other).selects = false := by
    rw [Function.update_apply]
    split
    · exact stays
    · rename_i differs
      exact nobody other differs
  constructor
  case known => exact inv.known
  case holder =>
    intro other
    dsimp only
    rw [idle other]
    exact ⟨nofun, nofun⟩
  case leader =>
    intro _ settled
    exact elected_of_selected isRead
      (selected (settled_update (by rw [isPhase]; rfl) rfl settled)) rfl rfl fun _ => rfl
  case reading =>
    intro other otherSelection otherAfter isSelecting
    have isIdle := idle other
    dsimp only at isSelecting
    rw [isSelecting] at isIdle
    cases isIdle
  case distinct => exact inv.distinct

/-- A store other than that of `dtlsReady` leaves which streams are ready. -/
theorem dtlsReady_write (notReady : store ≠ .dtlsReady) (id : UInt8) :
    (runtime.write stream store now).dtlsReady id = runtime.dtlsReady id := by
  unfold SessionRuntime.dtlsReady SessionRuntime.stream? SessionRuntime.write
  dsimp only
  congr 1
  funext other
  rw [Function.update_apply]
  split
  · rename_i isStream
    rw [isStream]
    cases store with
    | nothing => rfl
    | turnReady => rfl
    | dtlsReady => exact absurd rfl notReady
    | lastAliveAt => rfl
  · rfl

theorem RuntimeInv.stored (inv : RuntimeInv runtime)
    (isPhase : runtime.phases thread = .ensured stream store) :
    RuntimeInv ((runtime.write stream store now).setPhase thread
      (if store = .dtlsReady then .dtlsStored stream else .idle)) := by
  refine inv.frame thread rfl rfl rfl rfl rfl (by rw [isPhase]; rfl) ?_
    fun settled => ?_
  · split
    · rfl
    · rfl
  · by_cases isReady : store = .dtlsReady
    · -- the call owes a selection now
      have owes := settled thread
      unfold SessionRuntime.setPhase at owes
      dsimp only at owes
      rw [Function.update_self, if_pos isReady] at owes
      cases owes
    · exact ⟨settled_update (by rw [isPhase]; rfl) rfl settled, dtlsReady_write isReady⟩

theorem RuntimeInv.step (inv : RuntimeInv runtime) {label : RuntimeLabel}
    (stepped : runtime.step label = some next) : RuntimeInv next := by
  obtain ⟨thread, action⟩ := label
  unfold SessionRuntime.step at stepped
  dsimp only at stepped
  split at stepped
  · rename_i call isPhase
    cases stepped
    refine inv.frame thread rfl rfl rfl rfl rfl (by rw [isPhase]; rfl) rfl
      fun settled => ?_
    exact ⟨settled_update (by rw [isPhase]; rfl) rfl settled, fun _ => rfl⟩
  · rename_i call now isPhase
    split at stepped
    · cases stepped
    · rename_i notHeld
      cases stepped
      exact inv.enter isPhase (by simpa using notHeld)
  · rename_i isPhase
    split at stepped
    · cases stepped
    · rename_i notHeld
      cases stepped
      exact inv.beginSelect (by simpa using notHeld) rfl inv.known inv.distinct
  · rename_i selection after streamID isPhase
    split at stepped
    · rename_i member
      cases stepped
      exact inv.read isPhase member
    · cases stepped
  · rename_i selection after isPhase
    split at stepped
    · rename_i isRead
      cases stepped
      refine inv.elect isPhase isRead ?_
      split
      · rfl
      · rfl
    · cases stepped
  · rename_i stream store now isPhase
    cases stepped
    exact inv.stored isPhase
  · rename_i stream now isPhase
    cases stepped
    refine inv.frame thread rfl rfl rfl rfl rfl (by rw [isPhase]; rfl) rfl
      fun settled => ?_
    have owes := settled thread
    unfold SessionRuntime.setPhase at owes
    dsimp only at owes
    rw [Function.update_self] at owes
    cases owes
  · cases stepped

theorem newSessionRuntime_inv (isNew : NewSessionRuntime runtime) : RuntimeInv runtime := by
  obtain ⟨noStreams, noLeader, free, idle⟩ := isNew
  constructor
  case known =>
    intro id stream member
    rw [noStreams] at member
    cases member
  case holder =>
    intro thread
    rw [idle thread, free]
    exact ⟨nofun, nofun⟩
  case leader =>
    intro _ _
    refine ⟨?_, fun leader isLeader => nomatch noLeader.symm.trans isLeader⟩
    rw [noLeader, noStreams]
    exact ⟨nofun, fun differs => absurd rfl differs⟩
  case reading =>
    intro thread selection after isSelecting
    exact nomatch (idle thread).symm.trans isSelecting
  case distinct =>
    unfold SessionRuntime.streamIDs
    rw [noStreams]
    exact List.nodup_nil

theorem runtime_inv (reached : sessionRuntime.Reachable NewSessionRuntime runtime) :
    RuntimeInv runtime :=
  reached.invariant (fun _ => newSessionRuntime_inv) fun _ _ _ inv _ stepped => inv.step stepped

/-- Between calls the leader is the smallest ready stream, or the smallest one if none is ready. -/
theorem leader_elected (reached : sessionRuntime.Reachable NewSessionRuntime runtime)
    (quiet : runtime.Quiet) : LeaderElected runtime := by
  have inv := runtime_inv reached
  refine inv.leader ?_ fun thread => by rw [quiet thread]; rfl
  cases held : runtime.lock with
  | none => rfl
  | some thread =>
    have selects := (inv.holder thread).mpr held
    rw [quiet thread] at selects
    cases selects

/-- Two streams, of which the second becomes ready. -/
theorem leader_elected_second : ∃ runtime : SessionRuntime,
    LeaderElected runtime ∧ runtime.streamIDs = [1, 2] ∧ runtime.leader = some 2 := by
  let empty : SessionRuntime :=
    { heap := fun _ => { id := 0, registeredAt := 0 }, allocated := 0, streams := [],
      leader := none, lock := none, phases := fun _ => .idle }
  let labels : List RuntimeLabel :=
    [⟨0, .call (.note .ensureStream 1)⟩, ⟨1, .call (.note .noteDtlsReady 2)⟩, ⟨0, .lock 5⟩,
      ⟨0, .read 1⟩, ⟨0, .elect⟩, ⟨0, .store 5⟩, ⟨1, .lock 6⟩, ⟨1, .read 2⟩, ⟨1, .read 1⟩,
      ⟨1, .elect⟩, ⟨1, .store 7⟩, ⟨1, .store 7⟩, ⟨1, .lock 7⟩, ⟨1, .read 1⟩, ⟨1, .read 2⟩,
      ⟨1, .elect⟩]
  obtain ⟨runtime, ran, quiet, streamIDs, leader⟩ : ∃ runtime,
      sessionRuntime.run empty labels = some runtime ∧ runtime.Quiet ∧
        runtime.streamIDs = [1, 2] ∧ runtime.leader = some 2 := by
    refine ⟨_, rfl, fun thread => ?_, rfl, rfl⟩
    match thread with
    | 0 => rfl
    | 1 => rfl
    | other + 2 => rfl
  have reached : sessionRuntime.Reachable NewSessionRuntime runtime :=
    Machine.Reachable.run (.start ⟨rfl, rfl, rfl, fun _ => rfl⟩) ran
  exact ⟨runtime, leader_elected reached quiet, streamIDs, leader⟩

end Steps

end VkTurn.Client
