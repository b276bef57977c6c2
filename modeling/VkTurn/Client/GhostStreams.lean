import Mathlib.Data.List.Nodup
import Mathlib.Data.List.Perm.Basic
import VkTurn.Client.SessionRuntime
import VkTurn.Store.Transaction

/-! # Streams without a worker

A worker registers its stream when an attempt to connect begins and removes it when the attempt
ends.  Every note registers the stream too where it is missing.  `oneDtlsConnection` waits for its
read loop alone, so its writer and the worker's TURN connection may still note something after the
stream has been removed.
-/

namespace VkTurn.Client

open VkTurn.Store VkTurn.Transition

/-! ## The map of streams -/

namespace SessionRuntime

/-- What `EnsureStream` does to the map while it holds the lock. -/
def ensureStream (runtime : SessionRuntime) (streamID : UInt8) (now : Int) : SessionRuntime :=
  match runtime.stream? streamID with
  | some _ => runtime
  | none => runtime.insert streamID now

/-- What a call does to the map while it holds the lock. -/
def change (runtime : SessionRuntime) (now : Int) : RuntimeCall → SessionRuntime
  | .note _ streamID => runtime.ensureStream streamID now
  | .removeStream streamID => runtime.delete streamID

variable {runtime next : SessionRuntime} {label : RuntimeLabel} {streamID id : UInt8} {now : Int}

theorem streams_enter (thread : Nat) (call : RuntimeCall) :
    (runtime.enter thread now call).streams = (runtime.change now call).streams := by
  cases call with
  | removeStream streamID => rfl
  | note note streamID =>
    unfold enter change ensureStream
    dsimp only
    cases runtime.stream? streamID with
    | none => rfl
    | some stream => rfl

/-- A call changes the map in one of its steps, so that calls may be taken as steps. -/
theorem streams_step (stepped : runtime.step label = some next) :
    next.streams = runtime.streams ∨ ∃ call now, runtime.phases label.thread = .entered call ∧
      label.action = .lock now ∧ next.streams = (runtime.change now call).streams := by
  unfold step at stepped
  dsimp only at stepped
  split at stepped
  · cases stepped
    exact .inl rfl
  · rename_i call now isPhase isLock
    split at stepped
    · cases stepped
    · cases stepped
      exact .inr ⟨call, now, isPhase, isLock, streams_enter label.thread call⟩
  · split at stepped
    · cases stepped
    · cases stepped
      exact .inl rfl
  · split at stepped
    · cases stepped
      exact .inl rfl
    · cases stepped
  · split at stepped
    · cases stepped
      exact .inl rfl
    · cases stepped
  · cases stepped
    exact .inl rfl
  · cases stepped
    exact .inl rfl
  · cases stepped

theorem streamIDs_insert :
    (runtime.insert streamID now).streamIDs = runtime.streamIDs ++ [streamID] := by
  unfold streamIDs insert
  rw [List.map_append, List.map_singleton]

theorem ensureStream_of_mem (isKnown : streamID ∈ runtime.streamIDs) :
    runtime.ensureStream streamID now = runtime := by
  unfold ensureStream
  split
  · rfl
  · rename_i missing
    exact absurd isKnown (not_mem_keys_of_lookup missing)

theorem mem_ensureStream :
    id ∈ (runtime.ensureStream streamID now).streamIDs ↔
      id = streamID ∨ id ∈ runtime.streamIDs := by
  unfold ensureStream
  split
  · rename_i stream found
    refine ⟨.inr, ?_⟩
    rintro (rfl | isKnown)
    · exact mem_keys_of_lookup found
    · exact isKnown
  · rw [streamIDs_insert, List.mem_append, List.mem_singleton]
    exact or_comm

theorem nodup_ensureStream (distinct : runtime.streamIDs.Nodup) :
    (runtime.ensureStream streamID now).streamIDs.Nodup := by
  unfold ensureStream
  split
  · exact distinct
  · rename_i missing
    rw [streamIDs_insert, ← List.concat_eq_append]
    exact List.Nodup.concat (not_mem_keys_of_lookup missing) distinct

theorem mem_delete :
    id ∈ (runtime.delete streamID).streamIDs ↔
      id ≠ streamID ∧ id ∈ runtime.streamIDs := by
  unfold streamIDs delete
  simp only [List.mem_map, List.mem_filter, decide_eq_true_eq]
  constructor
  · rintro ⟨entry, ⟨member, differs⟩, rfl⟩
    exact ⟨differs, entry, member, rfl⟩
  · rintro ⟨differs, entry, member, rfl⟩
    exact ⟨entry, ⟨member, differs⟩, rfl⟩

theorem nodup_delete (distinct : runtime.streamIDs.Nodup) :
    (runtime.delete streamID).streamIDs.Nodup :=
  distinct.sublist (List.filter_sublist.map _)

end SessionRuntime

/-! ## Workers -/

/-- Where `oneDtlsConnection` stands. -/
inductive WorkerPhase where
  /-- Between two attempts. -/
  | idle
  /-- `EnsureStream` has returned, and the handshake goes on. -/
  | registered
  /-- The read loop runs, and the writer unless the worker only probes. -/
  | serving (writer : Option Nat)
  /-- The read loop has ended. -/
  | closing (writer : Option Nat)
  /-- The connection is closed, and `RemoveStream` comes next. -/
  | closed
  deriving DecidableEq

/-- The goroutine that reads the channel of packets of a worker. -/
inductive WriterPhase where
  | notStarted
  | selecting (worker : Nat)
  /-- `Write` has returned without an error. -/
  | written (worker : Nat)
  | ended
  deriving DecidableEq

/-- Where `oneTurnConnectionLoop` of a worker stands. -/
inductive TurnPhase where
  /-- No attempt has offered its pipe yet. -/
  | noPipe
  | waiting
  /-- In `oneTurnConnection` before `NoteTurnReady`. -/
  | connecting
  | relaying
  deriving DecidableEq

def WorkerPhase.isRegistered : WorkerPhase → Bool
  | .idle => false
  | _ => true

def TurnPhase.offer : TurnPhase → TurnPhase
  | .noPipe => .waiting
  | phase => phase

structure WorkerRuntime where
  runtime : SessionRuntime
  workers : Nat → WorkerPhase
  writers : Nat → WriterPhase
  turns : Nat → TurnPhase

/-- No worker has begun. -/
def NewWorkers (state : WorkerRuntime) : Prop :=
  state.runtime.streams = [] ∧ (∀ worker, state.workers worker = .idle) ∧
    (∀ writer, state.writers writer = .notStarted) ∧ ∀ worker, state.turns worker = .noPipe

/-- 0 for the first worker, and `byte(int(firstStreamID) + i)` from 1 on for the others. -/
def workerStreamID (worker : Nat) : UInt8 := UInt8.ofNat worker

inductive WorkerLabel where
  | ensureStream (worker : Nat) (now : Int)
  /-- `NoteDtlsReady`, and the start of the writer. -/
  | dtlsReady (worker : Nat) (writer : Option Nat) (now : Int)
  | connectFails (worker : Nat)
  /-- `NoteDtlsAlive` or `NoteInbound` of the read loop. -/
  | inbound (worker : Nat) (now : Int)
  | readEnds (worker : Nat)
  | write (writer : Nat)
  | noteOutbound (writer : Nat) (now : Int)
  | writerEnds (writer : Nat)
  | close (worker : Nat)
  | removeStream (worker : Nat)
  /-- The pipe is offered until its goroutine sees that the attempt has ended, at any time later. -/
  | takePipe (worker : Nat)
  | noteTurnReady (worker : Nat) (now : Int)
  | turnEnds (worker : Nat)
  deriving DecidableEq

namespace WorkerRuntime

variable (state : WorkerRuntime)

def note (worker : Nat) (now : Int) : WorkerRuntime :=
  { state with runtime := state.runtime.ensureStream (workerStreamID worker) now }

def setWorker (worker : Nat) (phase : WorkerPhase) : WorkerRuntime :=
  { state with workers := Function.update state.workers worker phase }

def setWriter (writer : Nat) (phase : WriterPhase) : WorkerRuntime :=
  { state with writers := Function.update state.writers writer phase }

def setTurn (worker : Nat) (phase : TurnPhase) : WorkerRuntime :=
  { state with turns := Function.update state.turns worker phase }

/-- The connection that the writer writes to is open. -/
def isOpen (writer worker : Nat) : Bool :=
  state.workers worker = .serving (some writer) ∨ state.workers worker = .closing (some writer)

def step (n : Nat) : WorkerLabel → Option WorkerRuntime
  | .ensureStream worker now =>
    if worker < n ∧ state.workers worker = .idle then
      some (((state.note worker now).setWorker worker .registered).setTurn worker
        (state.turns worker).offer)
    else none
  | .dtlsReady worker writer now =>
    match state.workers worker, writer with
    | .registered, none => some ((state.note worker now).setWorker worker (.serving none))
    | .registered, some writer =>
      if state.writers writer = .notStarted then
        some (((state.note worker now).setWorker worker (.serving (some writer))).setWriter writer
          (.selecting worker))
      else none
    | _, _ => none
  | .connectFails worker =>
    match state.workers worker with
    | .registered => some (state.setWorker worker .closed)
    | _ => none
  | .inbound worker now =>
    match state.workers worker with
    | .serving _ => some (state.note worker now)
    | _ => none
  | .readEnds worker =>
    match state.workers worker with
    | .serving writer => some (state.setWorker worker (.closing writer))
    | _ => none
  | .write writer =>
    match state.writers writer with
    | .selecting worker =>
      if state.isOpen writer worker then some (state.setWriter writer (.written worker)) else none
    | _ => none
  | .noteOutbound writer now =>
    match state.writers writer with
    | .written worker => some ((state.note worker now).setWriter writer (.selecting worker))
    | _ => none
  | .writerEnds writer =>
    match state.writers writer with
    | .selecting _ => some (state.setWriter writer .ended)
    | _ => none
  | .close worker =>
    match state.workers worker with
    | .closing _ => some (state.setWorker worker .closed)
    | _ => none
  | .removeStream worker =>
    match state.workers worker with
    | .closed => some ({ state with
        runtime := state.runtime.delete (workerStreamID worker) }.setWorker worker .idle)
    | _ => none
  | .takePipe worker =>
    match state.turns worker with
    | .waiting => some (state.setTurn worker .connecting)
    | _ => none
  | .noteTurnReady worker now =>
    match state.turns worker with
    | .connecting => some ((state.note worker now).setTurn worker .relaying)
    | _ => none
  | .turnEnds worker =>
    match state.turns worker with
    | .connecting | .relaying => some (state.setTurn worker .waiting)
    | _ => none

end WorkerRuntime

/-- `n` workers. -/
def workerMachine (n : Nat) : Machine WorkerRuntime WorkerLabel := ⟨(·.step n)⟩

/-! ## Ghosts -/

namespace WorkerRuntime

variable (state : WorkerRuntime)

/-- The workers between their `EnsureStream` and their `RemoveStream`. -/
def registered (n : Nat) : List Nat :=
  (List.range n).filter fun worker => (state.workers worker).isRegistered

/-- The stream of the worker is that of a worker that is registered. -/
def HasOwner (worker : Nat) : Prop :=
  ∃ owner, (state.workers owner).isRegistered = true ∧
    workerStreamID owner = workerStreamID worker

end WorkerRuntime

/-- A worker registers a stream that no other worker has, and a goroutine that was not waited for
    notes something only while its stream is registered. -/
def NoLateNote (state : WorkerRuntime) : WorkerLabel → Prop
  | .ensureStream worker _ => ¬ state.HasOwner worker
  | .noteOutbound writer _ => ∀ worker, state.writers writer = .written worker →
      state.HasOwner worker
  | .noteTurnReady worker _ => state.HasOwner worker
  | _ => True

structure WorkersInv (n : Nat) (state : WorkerRuntime) : Prop where
  small : ∀ worker, (state.workers worker).isRegistered = true → worker < n
  distinct : state.runtime.streamIDs.Nodup
  mem : ∀ id, id ∈ state.runtime.streamIDs ↔
    ∃ worker, (state.workers worker).isRegistered = true ∧ workerStreamID worker = id
  apart : ∀ first second, (state.workers first).isRegistered = true →
    (state.workers second).isRegistered = true → workerStreamID first = workerStreamID second →
    first = second

section Steps

variable {n : Nat} {state next : WorkerRuntime} {worker writer : Nat} {now : Int}
  {phase : WorkerPhase} {label : WorkerLabel}

theorem WorkersInv.count (inv : WorkersInv n state) :
    state.runtime.activeStreamCount = (state.registered n).length := by
  have distinctOwners : ((state.registered n).map workerStreamID).Nodup := by
    refine List.Nodup.map_on ?_ (List.nodup_range.filter _)
    intro first isFirst second isSecond same
    exact inv.apart first second (List.mem_filter.mp isFirst).2 (List.mem_filter.mp isSecond).2 same
  have sameStreams : state.runtime.streamIDs.Perm ((state.registered n).map workerStreamID) := by
    refine (List.perm_ext_iff_of_nodup inv.distinct distinctOwners).mpr fun id => ?_
    rw [inv.mem, List.mem_map]
    constructor
    · rintro ⟨worker, isRegistered, isStream⟩
      exact ⟨worker, List.mem_filter.mpr
        ⟨List.mem_range.mpr (inv.small worker isRegistered), isRegistered⟩, isStream⟩
    · rintro ⟨worker, member, isStream⟩
      exact ⟨worker, (List.mem_filter.mp member).2, isStream⟩
  have lengths := sameStreams.length_eq
  rw [SessionRuntime.streamIDs, List.length_map, List.length_map] at lengths
  exact lengths

/-- Steps that leave the map, and who is registered. -/
theorem WorkersInv.frame (inv : WorkersInv n state)
    (sameStreams : next.runtime.streamIDs = state.runtime.streamIDs)
    (sameRegistered : ∀ worker,
      (next.workers worker).isRegistered = (state.workers worker).isRegistered) :
    WorkersInv n next := by
  obtain ⟨small, distinct, mem, apart⟩ := inv
  constructor
  case small => simpa only [sameRegistered] using small
  case distinct => rwa [sameStreams]
  case mem => simpa only [sameRegistered, sameStreams] using mem
  case apart => simpa only [sameRegistered] using apart

theorem isRegistered_setWorker (same : phase.isRegistered = (state.workers worker).isRegistered)
    (other : Nat) : (Function.update state.workers worker phase other).isRegistered =
      (state.workers other).isRegistered := by
  rw [Function.update_apply]
  split
  · rename_i isWorker
    rw [isWorker, same]
  · rfl

/-- A note for a stream that is there changes nothing. -/
theorem note_of_hasOwner (inv : WorkersInv n state) (hasOwner : state.HasOwner worker) :
    state.note worker now = state := by
  have isKnown : workerStreamID worker ∈ state.runtime.streamIDs := (inv.mem _).mpr hasOwner
  unfold WorkerRuntime.note
  rw [SessionRuntime.ensureStream_of_mem isKnown]

theorem hasOwner_self (isRegistered : (state.workers worker).isRegistered = true) :
    state.HasOwner worker :=
  ⟨worker, isRegistered, rfl⟩

theorem WorkersInv.ensureStream (inv : WorkersInv n state) (small : worker < n)
    (isNew : ¬ state.HasOwner worker) (phases : next.workers =
      Function.update state.workers worker .registered)
    (runtime : next.runtime = state.runtime.ensureStream (workerStreamID worker) now) :
    WorkersInv n next := by
  have isRegistered (other : Nat) : (next.workers other).isRegistered = true ↔
      other = worker ∨ (state.workers other).isRegistered = true := by
    rw [phases, Function.update_apply]
    split
    · rename_i isWorker
      exact ⟨fun _ => .inl isWorker, fun _ => rfl⟩
    · rename_i differs
      exact ⟨.inr, fun cases => cases.resolve_left differs⟩
  constructor
  case small =>
    intro other otherRegistered
    rcases (isRegistered other).mp otherRegistered with rfl | wasRegistered
    · exact small
    · exact inv.small other wasRegistered
  case distinct =>
    rw [runtime]
    exact SessionRuntime.nodup_ensureStream inv.distinct
  case mem =>
    intro id
    rw [runtime, SessionRuntime.mem_ensureStream, inv.mem]
    simp only [isRegistered]
    constructor
    · rintro (rfl | ⟨other, wasRegistered, isStream⟩)
      · exact ⟨worker, .inl rfl, rfl⟩
      · exact ⟨other, .inr wasRegistered, isStream⟩
    · rintro ⟨other, rfl | wasRegistered, isStream⟩
      · exact .inl isStream.symm
      · exact .inr ⟨other, wasRegistered, isStream⟩
  case apart =>
    intro first second isFirst isSecond same
    rcases (isRegistered first).mp isFirst with rfl | firstRegistered
    · rcases (isRegistered second).mp isSecond with rfl | secondRegistered
      · rfl
      · exact absurd ⟨second, secondRegistered, same.symm⟩ isNew
    · rcases (isRegistered second).mp isSecond with rfl | secondRegistered
      · exact absurd ⟨first, firstRegistered, same⟩ isNew
      · exact inv.apart first second firstRegistered secondRegistered same

theorem WorkersInv.removeStream (inv : WorkersInv n state)
    (wasRegistered : (state.workers worker).isRegistered = true)
    (phases : next.workers = Function.update state.workers worker .idle)
    (runtime : next.runtime = state.runtime.delete (workerStreamID worker)) :
    WorkersInv n next := by
  have isRegistered (other : Nat) : (next.workers other).isRegistered = true ↔
      other ≠ worker ∧ (state.workers other).isRegistered = true := by
    rw [phases, Function.update_apply]
    split
    · rename_i isWorker
      exact ⟨nofun, fun registered => absurd isWorker registered.1⟩
    · rename_i differs
      exact ⟨fun registered => ⟨differs, registered⟩, And.right⟩
  constructor
  case small => exact fun other registered => inv.small other ((isRegistered other).mp registered).2
  case distinct =>
    rw [runtime]
    exact SessionRuntime.nodup_delete inv.distinct
  case mem =>
    intro id
    rw [runtime, SessionRuntime.mem_delete, inv.mem]
    simp only [isRegistered]
    constructor
    · rintro ⟨differs, other, registered, rfl⟩
      exact ⟨other, ⟨fun same => differs (same ▸ rfl), registered⟩, rfl⟩
    · rintro ⟨other, ⟨differs, registered⟩, rfl⟩
      exact ⟨fun same => differs (inv.apart other worker registered wasRegistered same),
        other, registered, rfl⟩
  case apart =>
    intro first second isFirst isSecond same
    exact inv.apart first second ((isRegistered first).mp isFirst).2
      ((isRegistered second).mp isSecond).2 same

/-- A step in which the worker stays registered and a registered worker notes something. -/
theorem WorkersInv.note (inv : WorkersInv n state) (hasOwner : state.HasOwner worker)
    (runtime : next.runtime = (state.note worker now).runtime)
    (sameRegistered : ∀ other,
      (next.workers other).isRegistered = (state.workers other).isRegistered) :
    WorkersInv n next := by
  rw [note_of_hasOwner inv hasOwner] at runtime
  exact inv.frame (by rw [runtime]) sameRegistered

theorem WorkersInv.step (inv : WorkersInv n state) (allowed : NoLateNote state label)
    (stepped : state.step n label = some next) : WorkersInv n next := by
  cases label with
  | ensureStream worker now =>
    simp only [WorkerRuntime.step] at stepped
    split at stepped
    · rename_i isIdle
      cases stepped
      exact inv.ensureStream isIdle.1 allowed rfl rfl
    · cases stepped
  | dtlsReady worker writer now =>
    simp only [WorkerRuntime.step] at stepped
    split at stepped
    · rename_i isPhase
      cases stepped
      have registered : (state.workers worker).isRegistered = true := by rw [isPhase]; rfl
      exact inv.note (hasOwner_self registered) rfl (isRegistered_setWorker registered.symm)
    · rename_i isPhase
      split at stepped
      · cases stepped
        have registered : (state.workers worker).isRegistered = true := by rw [isPhase]; rfl
        exact inv.note (hasOwner_self registered) rfl (isRegistered_setWorker registered.symm)
      · cases stepped
    · cases stepped
  | connectFails worker =>
    simp only [WorkerRuntime.step] at stepped
    split at stepped
    · rename_i isRegistered
      cases stepped
      exact inv.frame rfl (isRegistered_setWorker (by rw [isRegistered]; rfl))
    · cases stepped
  | inbound worker now =>
    simp only [WorkerRuntime.step] at stepped
    split at stepped
    · rename_i writer isServing
      cases stepped
      exact inv.note (hasOwner_self (by rw [isServing]; rfl)) rfl fun _ => rfl
    · cases stepped
  | readEnds worker =>
    simp only [WorkerRuntime.step] at stepped
    split at stepped
    · rename_i writer isServing
      cases stepped
      exact inv.frame rfl (isRegistered_setWorker (by rw [isServing]; rfl))
    · cases stepped
  | write writer =>
    simp only [WorkerRuntime.step] at stepped
    split at stepped
    · split at stepped
      · cases stepped
        exact inv.frame rfl fun _ => rfl
      · cases stepped
    · cases stepped
  | noteOutbound writer now =>
    simp only [WorkerRuntime.step] at stepped
    split at stepped
    · rename_i worker isWritten
      cases stepped
      exact inv.note (allowed worker isWritten) rfl fun _ => rfl
    · cases stepped
  | writerEnds writer =>
    simp only [WorkerRuntime.step] at stepped
    split at stepped
    · cases stepped
      exact inv.frame rfl fun _ => rfl
    · cases stepped
  | close worker =>
    simp only [WorkerRuntime.step] at stepped
    split at stepped
    · rename_i writer isClosing
      cases stepped
      exact inv.frame rfl (isRegistered_setWorker (by rw [isClosing]; rfl))
    · cases stepped
  | removeStream worker =>
    simp only [WorkerRuntime.step] at stepped
    split at stepped
    · rename_i isClosed
      cases stepped
      exact inv.removeStream (by rw [isClosed]; rfl) rfl rfl
    · cases stepped
  | takePipe worker =>
    simp only [WorkerRuntime.step] at stepped
    split at stepped
    · cases stepped
      exact inv.frame rfl fun _ => rfl
    · cases stepped
  | noteTurnReady worker now =>
    simp only [WorkerRuntime.step] at stepped
    split at stepped
    · cases stepped
      exact inv.note allowed rfl fun _ => rfl
    · cases stepped
  | turnEnds worker =>
    simp only [WorkerRuntime.step] at stepped
    split at stepped
    · cases stepped
      exact inv.frame rfl fun _ => rfl
    · cases stepped
      exact inv.frame rfl fun _ => rfl
    · cases stepped

theorem newWorkers_inv (isNew : NewWorkers state) : WorkersInv n state := by
  obtain ⟨noStreams, idle, _, _⟩ := isNew
  have nobody (worker : Nat) : (state.workers worker).isRegistered ≠ true := by
    rw [idle worker]
    exact nofun
  have noIDs : state.runtime.streamIDs = [] := congrArg (List.map Prod.fst) noStreams
  constructor
  case small => exact fun worker isRegistered => absurd isRegistered (nobody worker)
  case distinct =>
    rw [noIDs]
    exact List.nodup_nil
  case mem =>
    intro id
    rw [noIDs]
    exact ⟨nofun, fun ⟨worker, isRegistered, _⟩ => absurd isRegistered (nobody worker)⟩
  case apart => exact fun first _ isRegistered => absurd isRegistered (nobody first)

/-- Where nothing is noted late and no two workers share a stream, the count of streams is that of
    the workers that are between their `EnsureStream` and their `RemoveStream`. -/
theorem no_ghost_streams
    (reached : (workerMachine n).ReachableWhile NoLateNote NewWorkers state) :
    state.runtime.activeStreamCount = (state.registered n).length := by
  have inv : WorkersInv n state :=
    reached.invariant (fun _ => newWorkers_inv) fun _ _ _ inv allowed stepped =>
      inv.step allowed stepped
  exact inv.count

end Steps

/-! ## One attempt of one worker -/

def newWorkers : WorkerRuntime where
  runtime :=
    { heap := fun _ => { id := 0, registeredAt := 0 }, allocated := 0, streams := [],
      leader := none, lock := none, phases := fun _ => .idle }
  workers := fun _ => .idle
  writers := fun _ => .notStarted
  turns := fun _ => .noPipe

/-- A packet is sent while the worker is connected. -/
theorem no_ghost_streams_connected :
    ∃ state, (workerMachine 1).run newWorkers
        [.ensureStream 0 5, .dtlsReady 0 (some 0) 6, .write 0, .noteOutbound 0 7] = some state ∧
      state.runtime.activeStreamCount = 1 ∧ (state.registered 1).length = 1 := by
  obtain ⟨state, ran, isOne⟩ : ∃ state, (workerMachine 1).run newWorkers
      [.ensureStream 0 5, .dtlsReady 0 (some 0) 6, .write 0, .noteOutbound 0 7] = some state ∧
        (state.registered 1).length = 1 := ⟨_, rfl, rfl⟩
  have started : (workerMachine 1).ReachableWhile NoLateNote NewWorkers newWorkers :=
    .start ⟨rfl, fun _ => rfl, fun _ => rfl, fun _ => rfl⟩
  have ensured := started.step
    (show NoLateNote _ (.ensureStream 0 5) from fun ⟨_, registered, _⟩ => nomatch registered) rfl
  have ready := ensured.step (show NoLateNote _ (.dtlsReady 0 (some 0) 6) from trivial) rfl
  have written := ready.step (show NoLateNote _ (.write 0) from trivial) rfl
  have noted := written.step (show NoLateNote _ (.noteOutbound 0 7) from fun worker isWritten => by
    cases isWritten
    exact hasOwner_self rfl) rfl
  cases ran
  exact ⟨_, rfl, no_ghost_streams noted, isOne⟩

/-- The writer has written its packet, and the attempt ends before it notes that. -/
theorem late_note_leaves_ghost : ¬ ∀ n state, (workerMachine n).Reachable NewWorkers state →
    state.runtime.activeStreamCount = (state.registered n).length := by
  intro always
  have started : (workerMachine 1).Reachable NewWorkers newWorkers :=
    .start ⟨rfl, fun _ => rfl, fun _ => rfl, fun _ => rfl⟩
  obtain ⟨state, ran, hasGhost, nobody⟩ : ∃ state, (workerMachine 1).run newWorkers
        [.ensureStream 0 5, .dtlsReady 0 (some 0) 6, .write 0, .readEnds 0, .close 0,
          .removeStream 0, .noteOutbound 0 7] = some state ∧
      state.runtime.activeStreamCount = 1 ∧ (state.registered 1).length = 0 := ⟨_, rfl, rfl, rfl⟩
  have counted := always 1 state (started.run ran)
  omega

end VkTurn.Client
