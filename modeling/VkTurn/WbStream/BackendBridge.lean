import VkTurn.WbStream.Room
import VkTurn.WbStream.SessionPool

/-! # The backend connections of the server's bridges

A frame opens the backend connection of its stream when there is none; a pump reads the connection
until it fails, and then drops the stream that is listed under its key.  `Close` takes the whole
map and closes what it held.  The pool gives every peer that it joins a bridge of its own, and
closes the bridge of a room before the peer.
-/

namespace VkTurn.WbStream

open VkTurn.SessionProto VkTurn.Transition

/-- The goroutine of `pumpFromBackend` of a connection. -/
inductive PumpPhase where
  | notStarted
  | reading (key : StreamKey)
  /-- A read has failed, and the context of the stream was not cancelled. -/
  | failed (key : StreamKey)
  /-- `dropStream` has taken the given connection out of the map, and not closed it yet. -/
  | dropping (key : StreamKey) (conn : Nat)
  | ended
  deriving DecidableEq

/-- Where the call of `Close` stands. -/
inductive BridgeClose where
  | notCalled
  /-- It has taken these connections out of the map, and not closed those that are left. -/
  | closing (left taken : List Nat)
  | returned
  deriving DecidableEq

/-- Connections are numbered in the order in which they are dialled. -/
structure BackendBridge where
  streams : List (StreamKey × Nat) := []
  opened : Nat := 0
  isOpen : Nat → Bool := fun _ => false
  /-- The contexts of the streams that are cancelled. -/
  cancelled : Nat → Bool := fun _ => false
  pumps : Nat → PumpPhase := fun _ => .notStarted
  close : BridgeClose := .notCalled
  /-- Frames that `handleData` hands over, before `handleFrame` has the lock. -/
  inFlight : List StreamKey := []

inductive BridgeLabel where
  /-- `handleData` of the peer up to the call of the handler. -/
  | receive (key : StreamKey)
  /-- The locked part of `handleFrame`; the dial may fail. -/
  | handleFrame (key : StreamKey) (dialed : Bool)
  /-- A read fails, or the loop sees that its context is cancelled. -/
  | readEnds (conn : Nat)
  /-- The locked part of `dropStream`. -/
  | drop (conn : Nat)
  | dropCloses (conn : Nat)
  /-- The locked part of `Close`. -/
  | takeAll
  | closeConn (conn : Nat)
  /-- The pumps of the connections that were taken have ended. -/
  | closeReturns
  deriving DecidableEq

def PumpPhase.isEnded : PumpPhase → Bool
  | .ended => true
  | _ => false

namespace BackendBridge

variable (bridge : BackendBridge)

def setPump (conn : Nat) (phase : PumpPhase) : BackendBridge :=
  { bridge with pumps := Function.update bridge.pumps conn phase }

/-- `stream.cancel()` and `stream.conn.Close()`: the pump that sees the connection closed sees its
    context cancelled too. -/
def cut (conn : Nat) : BackendBridge :=
  { bridge with
    isOpen := Function.update bridge.isOpen conn false
    cancelled := Function.update bridge.cancelled conn true }

/-- A new stream under the key. -/
def dial (key : StreamKey) : BackendBridge :=
  { bridge with
    streams := bridge.streams ++ [(key, bridge.opened)]
    opened := bridge.opened + 1
    isOpen := Function.update bridge.isOpen bridge.opened true
    pumps := Function.update bridge.pumps bridge.opened (.reading key) }

def handleFrame (connectAddr : String) (key : StreamKey) (dialed : Bool) : BackendBridge :=
  if connectAddr = "" then bridge
  else
    match bridge.streams.lookup key with
    | some _ => bridge
    | none => if dialed then bridge.dial key else bridge

/-- The locked part of `dropStream(key)`, called by the pump of a connection. -/
def dropStream (conn : Nat) (key : StreamKey) : BackendBridge :=
  match bridge.streams.lookup key with
  | some listed =>
    { bridge.setPump conn (.dropping key listed) with
      streams := bridge.streams.filter (·.1 ≠ key) }
  | none => bridge.setPump conn .ended

def step (connectAddr : String) : BridgeLabel → Option BackendBridge
  | .receive key => some { bridge with inFlight := key :: bridge.inFlight }
  | .handleFrame key dialed =>
    if key ∈ bridge.inFlight then
      let taken := { bridge with inFlight := bridge.inFlight.erase key }
      some (taken.handleFrame connectAddr key dialed)
    else none
  | .readEnds conn =>
    match bridge.pumps conn with
    | .reading key =>
      some (bridge.setPump conn (if bridge.cancelled conn then .ended else .failed key))
    | _ => none
  | .drop conn =>
    match bridge.pumps conn with
    | .failed key => some (bridge.dropStream conn key)
    | _ => none
  | .dropCloses conn =>
    match bridge.pumps conn with
    | .dropping _ listed => some ((bridge.cut listed).setPump conn .ended)
    | _ => none
  | .takeAll =>
    match bridge.close with
    | .notCalled =>
      let conns := bridge.streams.map Prod.snd
      some { bridge with streams := [], close := .closing conns conns }
    | _ => none
  | .closeConn conn =>
    match bridge.close with
    | .closing left taken =>
      if conn ∈ left then
        some { bridge.cut conn with close := .closing (left.filter (· ≠ conn)) taken }
      else none
    | _ => none
  | .closeReturns =>
    match bridge.close with
    | .closing [] taken =>
      if taken.all fun conn => (bridge.pumps conn).isEnded then
        some { bridge with close := .returned }
      else none
    | _ => none

end BackendBridge

/-! ## The pool -/

/-- The bridges of the joins of a pool. -/
structure BridgePool where
  pool : SessionPool := {}
  bridges : Nat → BackendBridge := fun _ => {}

inductive BridgePoolLabel where
  | pool (label : PoolLabel)
  | bridge (call : Nat) (label : BridgeLabel)
  deriving DecidableEq

namespace JoinPhase

/-- The room may call the handler of the peer, which is not closed. -/
def receives : JoinPhase → Bool
  | .connecting _ | .registering _ | .discarding _ | .watched _ => true
  | _ => false

def isWatched : JoinPhase → Bool
  | .watched _ => true
  | _ => false

end JoinPhase

namespace BridgePool

variable (state : BridgePool)

/-- `watchRoom` calls `Close` of the bridge when the context of its room is cancelled. -/
def allowsBridge (call : Nat) : BridgeLabel → Bool
  | .receive _ => (state.pool.joins call).any (·.phase.receives)
  | .takeAll => state.pool.cancelled && (state.pool.joins call).any (·.phase.isWatched)
  | _ => true

/-- It closes the peer after the bridge. -/
def allowsPool : PoolLabel → Bool
  | .watchEnds call => (state.bridges call).close = .returned
  | _ => true

def step (connectAddr : String) : BridgePoolLabel → Option BridgePool
  | .pool label =>
    if state.allowsPool label then
      (state.pool.step label).map fun next => { state with pool := next }
    else none
  | .bridge call label =>
    if state.allowsBridge call label then
      ((state.bridges call).step connectAddr label).map fun next =>
        { state with bridges := Function.update state.bridges call next }
    else none

end BridgePool

def bridgePool (connectAddr : String) : Machine BridgePool BridgePoolLabel :=
  ⟨(·.step connectAddr)⟩

/-- `newWbStreamSessionPool`. -/
def NewBridgePool (state : BridgePool) : Prop := state = {}

end VkTurn.WbStream
