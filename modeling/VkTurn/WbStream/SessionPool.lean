import Mathlib.Logic.Function.Basic
import VkTurn.SessionProto.Hello
import VkTurn.Transition.Machine

/-! # The server's pool of wb-stream rooms

Calls of `HandleExchange` and `PreJoin` join rooms, and calls of `Close` end the pool.  The lock of
the pool is held for the check of an exchange, for the registration of a peer and for the first
part of `Close`; the steps on the network happen without it.
-/

namespace VkTurn.WbStream

open VkTurn.SessionProto VkTurn.Transition

def roomProviderWbStream : RoomProvider := ⟨1⟩

/-- `AcquireRoomToken` creates a room for such an id. -/
def asksNewRoom (roomID : String) : Bool := roomID = "" || roomID = "any"

/-! ## Calls -/

inductive JoinPhase where
  /-- In `AcquireRoomToken`; its requests fail when the context was cancelled before. -/
  | acquiring (cancelled : Bool)
  /-- In `ConnectToRoomWithToken`, which takes no context. -/
  | connecting (room : String)
  /-- The peer is connected, and not yet registered. -/
  | registering (room : String)
  /-- The peer is closed next; the pool has the given one instead. -/
  | discarding (peer : Option Nat)
  /-- The peer is in the pool, and `watchRoom` waits for the end of its context. -/
  | watched (room : String)
  /-- The call has returned, served by the given peer, and its own peer is closed. -/
  | ended (peer : Option Nat)
  deriving DecidableEq

namespace JoinPhase

def connected : JoinPhase → Bool
  | .registering _ | .discarding _ | .watched _ => true
  | _ => false

/-- A join that has not ended and may connect. -/
def underWay : JoinPhase → Bool
  | .acquiring cancelled => !cancelled
  | .connecting _ | .registering _ | .discarding _ => true
  | _ => false

def active : JoinPhase → Bool
  | .watched _ => true
  | phase => phase.underWay

def room? : JoinPhase → Option String
  | .connecting room | .registering room | .watched room => some room
  | _ => none

end JoinPhase

/-- A call that joins a room; its number is also the number of its peer. -/
structure Join where
  roomID : String
  preJoin : Bool
  /-- The peers that were in the pool for the same requested room when the call began. -/
  existing : List Nat
  phase : JoinPhase
  deriving DecidableEq

inductive Closing where
  /-- The pool is marked as closed, with the given entries. -/
  | cancelling (entries : List Nat)
  | waiting (entries : List Nat)
  | returned
  deriving DecidableEq

structure SessionPool where
  rooms : List (String × Nat) := []
  closed : Bool := false
  /-- The root context is cancelled. -/
  cancelled : Bool := false
  joins : Nat → Option Join := fun _ => none
  closers : Nat → Option Closing := fun _ => none

inductive PoolLabel where
  /-- `HandleExchange` up to `Connect`; a peer whose key is no key fails. -/
  | handleExchange (call : Nat) (exchange : RoomDataExchange) (initFails : Bool)
  | preJoin (call : Nat) (roomID : String) (initFails : Bool)
  | acquire (call : Nat) (room : String)
  | connect (call : Nat)
  | fail (call : Nat)
  | register (call : Nat)
  | discard (call : Nat)
  /-- `watchRoom` sees the end of its context and closes the peer. -/
  | watchEnds (call : Nat)
  | close (caller : Nat)
  | cancel (caller : Nat)
  | closeReturns (caller : Nat)
  deriving DecidableEq

namespace SessionPool

variable (pool : SessionPool)

def setJoin (call : Nat) (join : Join) : SessionPool :=
  { pool with joins := Function.update pool.joins call (some join) }

def setPhase (call : Nat) (join : Join) (phase : JoinPhase) : SessionPool :=
  pool.setJoin call { join with phase := phase }

def setCloser (caller : Nat) (closing : Closing) : SessionPool :=
  { pool with closers := Function.update pool.closers caller (some closing) }

/-- The peers in the pool that were asked for by the given id. -/
def peersFor (roomID : String) : List Nat :=
  (pool.rooms.map Prod.snd).filter fun peer =>
    ((pool.joins peer).map Join.roomID) = some roomID

/-- The start of `joinLocked`. -/
def startJoin (initFails : Bool) : JoinPhase :=
  if initFails then .ended none else .acquiring pool.cancelled

def checkExchange (roomID : String) (initFails : Bool) : JoinPhase :=
  if pool.closed then .ended none
  else
    match pool.rooms.lookup roomID with
    | some peer => .ended (some peer)
    | none => pool.startJoin initFails

def begin (call : Nat) (roomID : String) (preJoin : Bool) (phase : JoinPhase) :
    Option SessionPool :=
  if (pool.joins call).isSome then none
  else some (pool.setJoin call ⟨roomID, preJoin, pool.peersFor roomID, phase⟩)

/-- An exchange that is not about a wb-stream room is dropped. -/
def handleExchange (call : Nat) (exchange : RoomDataExchange) (initFails : Bool) :
    Option SessionPool :=
  if exchange.provider ≠ roomProviderWbStream ∨ exchange.roomId = "" then some pool
  else pool.begin call exchange.roomId false (pool.checkExchange exchange.roomId initFails)

/-- The id of a room is the requested one, or one that the service mints. -/
def acquire (call : Nat) (room : String) : Option SessionPool :=
  match pool.joins call with
  | some join =>
    if join.phase = .acquiring false ∧ asksNewRoom room = false ∧
        (asksNewRoom join.roomID = false → room = join.roomID) then
      some (pool.setPhase call join (.connecting room))
    else none
  | none => none

def connect (call : Nat) : Option SessionPool :=
  match pool.joins call with
  | some join =>
    match join.phase with
    | .connecting room => some (pool.setPhase call join (.registering room))
    | _ => none
  | none => none

def fail (call : Nat) : Option SessionPool :=
  match pool.joins call with
  | some join =>
    match join.phase with
    | .acquiring _ | .connecting _ => some (pool.setPhase call join (.ended none))
    | _ => none
  | none => none

def register (call : Nat) : Option SessionPool :=
  match pool.joins call with
  | some join =>
    match join.phase with
    | .registering room =>
      if pool.closed then some (pool.setPhase call join (.discarding none))
      else
        match pool.rooms.lookup room with
        | some peer => some (pool.setPhase call join (.discarding (some peer)))
        | none =>
          some { pool.setPhase call join (.watched room) with rooms := (room, call) :: pool.rooms }
    | _ => none
  | none => none

def discard (call : Nat) : Option SessionPool :=
  match pool.joins call with
  | some join =>
    match join.phase with
    | .discarding peer => some (pool.setPhase call join (.ended peer))
    | _ => none
  | none => none

def watchEnds (call : Nat) : Option SessionPool :=
  match pool.joins call with
  | some join =>
    match join.phase with
    | .watched room =>
      if pool.cancelled then
        some { pool.setPhase call join (.ended (some call)) with
          rooms := pool.rooms.filter (· ≠ (room, call)) }
      else none
    | _ => none
  | none => none

def close (caller : Nat) : Option SessionPool :=
  if (pool.closers caller).isSome then none
  else if pool.closed then some (pool.setCloser caller .returned)
  else
    some { pool.setCloser caller (.cancelling (pool.rooms.map Prod.snd)) with
      closed := true, rooms := [] }

def cancel (caller : Nat) : Option SessionPool :=
  match pool.closers caller with
  | some (.cancelling entries) =>
    some { pool.setCloser caller (.waiting entries) with cancelled := true }
  | _ => none

/-- `Close` has waited for all of its entries. -/
def closeReturns (caller : Nat) : Option SessionPool :=
  match pool.closers caller with
  | some (.waiting entries) =>
    if entries.all fun peer => (pool.joins peer).all fun join => !join.phase.active then
      some (pool.setCloser caller .returned)
    else none
  | _ => none

def step : PoolLabel → Option SessionPool
  | .handleExchange call exchange initFails => pool.handleExchange call exchange initFails
  | .preJoin call roomID initFails => pool.begin call roomID true (pool.startJoin initFails)
  | .acquire call room => pool.acquire call room
  | .connect call => pool.connect call
  | .fail call => pool.fail call
  | .register call => pool.register call
  | .discard call => pool.discard call
  | .watchEnds call => pool.watchEnds call
  | .close caller => pool.close caller
  | .cancel caller => pool.cancel caller
  | .closeReturns caller => pool.closeReturns caller

end SessionPool

def sessionPool : Machine SessionPool PoolLabel where
  step := SessionPool.step

end VkTurn.WbStream
