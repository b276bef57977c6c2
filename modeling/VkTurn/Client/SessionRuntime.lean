import Mathlib.Logic.Function.Basic
import VkTurn.Transition.Machine

/-! # The streams that a session knows, and their leader

`EnsureStream`, `RemoveStream` and the calls that note what a stream does.  `runtime.lock` is held
for the changes of the map and while the leader is selected; the fields of a stream are atomic
and are read and written also without it, so a selection reads them one after the other.
-/

namespace VkTurn.Client

open VkTurn.Transition

/-- A `*streamRuntime`. -/
abbrev StreamRef := Nat

structure StreamRuntime where
  id : UInt8
  turnReady : Bool := false
  dtlsReady : Bool := false
  lastAliveAt : Int := 0
  registeredAt : Int
  deriving DecidableEq

/-- The calls that begin with `EnsureStream`. -/
inductive StreamNote where
  | ensureStream
  | noteTurnReady
  | noteDtlsReady
  | noteDtlsAlive
  | noteOutbound
  | noteInbound
  deriving DecidableEq

inductive RuntimeCall where
  | note (note : StreamNote) (streamID : UInt8)
  | removeStream (streamID : UInt8)
  deriving DecidableEq

/-- What a call writes to the stream that `EnsureStream` returned. -/
inductive NoteStore where
  | nothing
  | turnReady
  | dtlsReady
  | lastAliveAt
  deriving DecidableEq

def StreamNote.store : StreamNote → NoteStore
  | .ensureStream => .nothing
  | .noteTurnReady => .turnReady
  | .noteDtlsReady => .dtlsReady
  | .noteDtlsAlive => .lastAliveAt
  | .noteOutbound => .nothing
  | .noteInbound => .lastAliveAt

/-- The first loop of `reselectLeaderLocked`: the streams it has not come to, and its choice. -/
structure Selection where
  unread : List UInt8
  nextLeader : Option UInt8 := none
  deriving DecidableEq

/-- Where a call stands; `select` is the last part of all that change the map or `dtlsReady`. -/
inductive RuntimePhase where
  | idle
  /-- Before the lock. -/
  | entered (call : RuntimeCall)
  /-- In `reselectLeaderLocked`, with what comes after the unlock. -/
  | selecting (selection : Selection) (after : Option (StreamRef × NoteStore))
  /-- `EnsureStream` has returned. -/
  | ensured (stream : StreamRef) (store : NoteStore)
  /-- `NoteDtlsReady` has stored `dtlsReady`. -/
  | dtlsStored (stream : StreamRef)
  | reselecting
  deriving DecidableEq

structure SessionRuntime where
  heap : StreamRef → StreamRuntime
  allocated : Nat
  streams : List (UInt8 × StreamRef)
  /-- `leaderStreamID` where `leaderStreamValid`. -/
  leader : Option UInt8
  /-- The thread that holds `runtime.lock`. -/
  lock : Option Nat
  phases : Nat → RuntimePhase

/-- `newSessionRuntime`. -/
def NewSessionRuntime (runtime : SessionRuntime) : Prop :=
  runtime.streams = [] ∧ runtime.leader = none ∧ runtime.lock = none ∧
    ∀ thread, runtime.phases thread = .idle

inductive RuntimeAction where
  | call (call : RuntimeCall)
  /-- The call takes the lock, at the given time. -/
  | lock (now : Int)
  /-- The selection comes to a stream; a map is read in any order. -/
  | read (streamID : UInt8)
  /-- The rest of the selection, and the unlock. -/
  | elect
  | store (now : Int)
  deriving DecidableEq

structure RuntimeLabel where
  thread : Nat
  action : RuntimeAction
  deriving DecidableEq

namespace SessionRuntime

variable (runtime : SessionRuntime)

def setPhase (thread : Nat) (phase : RuntimePhase) : SessionRuntime :=
  { runtime with phases := Function.update runtime.phases thread phase }

def stream? (streamID : UInt8) : Option StreamRef := runtime.streams.lookup streamID

def streamIDs : List UInt8 := runtime.streams.map Prod.fst

def dtlsReady (streamID : UInt8) : Bool :=
  (runtime.stream? streamID).any fun stream => (runtime.heap stream).dtlsReady

/-- `ActiveStreamCount`. -/
def activeStreamCount : Nat := runtime.streams.length

/-- `runtime.streams[streamID] = stream` of a new stream. -/
def insert (streamID : UInt8) (now : Int) : SessionRuntime :=
  { runtime with
    heap := Function.update runtime.heap runtime.allocated { id := streamID, registeredAt := now }
    allocated := runtime.allocated + 1
    streams := runtime.streams ++ [(streamID, runtime.allocated)] }

/-- `delete(runtime.streams, streamID)`. -/
def delete (streamID : UInt8) : SessionRuntime :=
  { runtime with streams := runtime.streams.filter (·.1 ≠ streamID) }

/-- The body of both loops of `reselectLeaderLocked`. -/
def prefer (nextLeader : Option UInt8) (streamID : UInt8) : Option UInt8 :=
  match nextLeader with
  | none => some streamID
  | some leader => if streamID < leader then some streamID else some leader

def beginSelect (thread : Nat) (after : Option (StreamRef × NoteStore)) : SessionRuntime :=
  { runtime.setPhase thread (.selecting { unread := runtime.streamIDs } after) with
    lock := some thread }

/-- The part of a call that begins with the lock. -/
def enter (thread : Nat) (now : Int) : RuntimeCall → SessionRuntime
  | .removeStream streamID => (runtime.delete streamID).beginSelect thread none
  | .note note streamID =>
    match runtime.stream? streamID with
    | some stream => runtime.setPhase thread (.ensured stream note.store)
    | none =>
      (runtime.insert streamID now).beginSelect thread (some (runtime.allocated, note.store))

def readStream (selection : Selection) (streamID : UInt8) : Selection where
  unread := selection.unread.erase streamID
  nextLeader :=
    if runtime.dtlsReady streamID then prefer selection.nextLeader streamID
    else selection.nextLeader

/-- Where no stream is ready, all of them are candidates. -/
def elected (selection : Selection) : Option UInt8 :=
  match selection.nextLeader with
  | some leader => some leader
  | none => runtime.streamIDs.foldl prefer none

def write (stream : StreamRef) (store : NoteStore) (now : Int) : SessionRuntime :=
  let old := runtime.heap stream
  let new : StreamRuntime :=
    match store with
    | .nothing => old
    | .turnReady => { old with turnReady := true }
    | .dtlsReady => { old with dtlsReady := true }
    | .lastAliveAt => { old with lastAliveAt := now }
  { runtime with heap := Function.update runtime.heap stream new }

def step (label : RuntimeLabel) : Option SessionRuntime :=
  let thread := label.thread
  match runtime.phases thread, label.action with
  | .idle, .call call => some (runtime.setPhase thread (.entered call))
  | .entered call, .lock now =>
    if runtime.lock.isSome then none else some (runtime.enter thread now call)
  | .reselecting, .lock _ =>
    if runtime.lock.isSome then none else some (runtime.beginSelect thread none)
  | .selecting selection after, .read streamID =>
    if streamID ∈ selection.unread then
      some (runtime.setPhase thread (.selecting (runtime.readStream selection streamID) after))
    else none
  | .selecting selection after, .elect =>
    if selection.unread = [] then
      let phase :=
        match after with
        | none => .idle
        | some (stream, store) => .ensured stream store
      some { runtime.setPhase thread phase with
        lock := none, leader := runtime.elected selection }
    else none
  | .ensured stream store, .store now =>
    let phase : RuntimePhase := if store = .dtlsReady then .dtlsStored stream else .idle
    some ((runtime.write stream store now).setPhase thread phase)
  | .dtlsStored stream, .store now =>
    some ((runtime.write stream .lastAliveAt now).setPhase thread .reselecting)
  | _, _ => none

end SessionRuntime

def sessionRuntime : Machine SessionRuntime RuntimeLabel := ⟨SessionRuntime.step⟩

end VkTurn.Client
