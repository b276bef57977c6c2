import VkTurn.Transition.Machine
import VkTurn.WbStream.Frame
import Mathlib.Logic.Function.Basic

/-! # A wb-stream room

Clients and one server in a LiveKit room.  Every packet that a participant publishes is delivered
to every other participant, in any order.  The local UDP addresses of the clients are of an
arbitrary type.
-/

namespace VkTurn.WbStream

open VkTurn.SessionProto VkTurn.Transition

/-! ## Peers -/

/-- The optional encryption of a room; `sealWith` takes the nonce it draws. -/
structure E2E where
  sealWith : Bytes → Bytes → Bytes
  openWith : Bytes → Except String Bytes

/-- What was sealed opens to the same bytes. -/
def E2E.Lawful (e2e : E2E) : Prop :=
  ∀ nonce plaintext, e2e.openWith (e2e.sealWith nonce plaintext) = .ok plaintext

def sendQueueCapacity : Nat := 4096

def sealBody (e2e : Option E2E) (nonce body : Bytes) : Bytes :=
  match e2e with
  | none => body
  | some cipher => cipher.sealWith nonce body

def openBody (e2e : Option E2E) (packet : Bytes) : Except String Bytes :=
  match e2e with
  | none => .ok packet
  | some cipher => cipher.openWith packet

/-- `Peer.Send`: the packet is queued, or dropped when the queue is full. -/
def send (e2e : Option E2E) (sendQueue : List Bytes) (frame : MuxFrame) (nonce : Bytes) :
    List Bytes :=
  if sendQueue.length < sendQueueCapacity then sendQueue ++ [sealBody e2e nonce frame.encode]
  else sendQueue

/-- `Peer.handleData` up to the frame handler; `none` when the packet is dropped. -/
def handleData (e2e : Option E2E) (packet : Bytes) : Option MuxFrame :=
  match openBody e2e packet with
  | .error _ => none
  | .ok body =>
    match decodeMuxFrame body with
    | some (.ok frame) => some frame
    | _ => none

/-! ## The client's bridge -/

section ClientBridge

variable {Addr : Type} [DecidableEq Addr]

structure ClientBridge (Addr : Type) where
  streams : UInt8 → Option Addr
  revIdx : Addr → Option UInt8
  nextID : UInt8

def newClientBridge : ClientBridge Addr := ⟨fun _ => none, fun _ => none, 0⟩

def ClientBridge.streamForAddr (bridge : ClientBridge Addr) (addr : Addr) :
    UInt8 × ClientBridge Addr :=
  match bridge.revIdx addr with
  | some id => (id, bridge)
  | none =>
    let id := bridge.nextID
    (id, {
      streams := Function.update bridge.streams id (some addr)
      revIdx := Function.update bridge.revIdx addr (some id)
      nextID := id + 1 })

/-- The local address to which `handleFrame` writes the payload of a frame. -/
def ClientBridge.target (bridge : ClientBridge Addr) (frame : MuxFrame) : Option Addr :=
  bridge.streams frame.streamID

end ClientBridge

/-! ## The room -/

inductive Participant where
  | server
  | client (index : Nat)
  deriving DecidableEq

structure Delivery where
  sender : Participant
  packet : Bytes
  deriving DecidableEq

/-- `wbStreamStreamKey`. -/
structure StreamKey where
  session : SessionID
  stream : UInt8
  deriving DecidableEq

def MuxFrame.key (frame : MuxFrame) : StreamKey := ⟨frame.sessionID, frame.streamID⟩

/-- A payload that a client wrote to a local address, and the frame it came from. -/
structure LocalWrite (Addr : Type) where
  client : Nat
  addr : Addr
  payload : Bytes
  sender : Participant
  frame : MuxFrame

structure Room (Addr : Type) where
  bridges : Nat → ClientBridge Addr
  /-- The keys of the server's backend streams. -/
  backends : List StreamKey
  sendQueues : Participant → List Bytes
  inboxes : Participant → List Delivery
  /-- Every key under which the server received a frame. -/
  served : List StreamKey
  written : List (LocalWrite Addr)

def Room.empty {Addr : Type} : Room Addr :=
  ⟨fun _ => newClientBridge, [], fun _ => [], fun _ => [], [], []⟩

inductive RoomEvent (Addr : Type) where
  /-- `pumpFromLocal` reads a datagram. -/
  | localDatagram (client : Nat) (addr : Addr) (payload nonce : Bytes)
  /-- `processSendQueue` takes up a packet; the publication may fail. -/
  | publish (participant : Participant) (isPublished : Bool)
  | deliverToClient (client : Nat) (delivery : Delivery)
  | deliverToServer (delivery : Delivery) (dialed : Bool)
  /-- `pumpFromBackend` reads a datagram. -/
  | backendDatagram (key : StreamKey) (payload nonce : Bytes)
  | dropStream (key : StreamKey)

/-- The size of the read buffers of both pumps. -/
def readBufferSize : Nat := 1500

section Machine

variable {Addr : Type} [DecidableEq Addr] (e2e : Option E2E) (sessionID : Nat → SessionID)

def pumpFromLocal (room : Room Addr) (client : Nat) (addr : Addr) (payload nonce : Bytes) :
    Room Addr :=
  let (streamID, bridge) := (room.bridges client).streamForAddr addr
  let frame : MuxFrame := ⟨sessionID client, streamID, payload.take readBufferSize⟩
  { room with
    bridges := Function.update room.bridges client bridge
    sendQueues := Function.update room.sendQueues (.client client)
      (send e2e (room.sendQueues (.client client)) frame nonce) }

def pumpFromBackend (room : Room Addr) (key : StreamKey) (payload nonce : Bytes) : Room Addr :=
  let frame : MuxFrame := ⟨key.session, key.stream, payload.take readBufferSize⟩
  { room with
    sendQueues := Function.update room.sendQueues .server
      (send e2e (room.sendQueues .server) frame nonce) }

/-- The room hands a published packet to everybody but its publisher. -/
def processSendQueue (room : Room Addr) (participant : Participant) (isPublished : Bool)
    (packet : Bytes) (rest : List Bytes) : Room Addr :=
  { room with
    sendQueues := Function.update room.sendQueues participant rest
    inboxes :=
      if isPublished then
        fun other =>
          if other = participant then room.inboxes other
          else room.inboxes other ++ [⟨participant, packet⟩]
      else room.inboxes }

def Room.take (room : Room Addr) (participant : Participant) (delivery : Delivery) : Room Addr :=
  { room with
    inboxes :=
      Function.update room.inboxes participant ((room.inboxes participant).erase delivery) }

/-- `wbStreamClientBridge.handleFrame`. -/
def clientHandleFrame (room : Room Addr) (client : Nat) (sender : Participant)
    (frame : MuxFrame) : Room Addr :=
  match (room.bridges client).target frame with
  | none => room
  | some addr =>
    { room with written := room.written ++ [⟨client, addr, frame.payload, sender, frame⟩] }

/-- `wbStreamBackendBridge.handleFrame`. -/
def serverHandleFrame (connectAddr : String) (room : Room Addr) (frame : MuxFrame)
    (dialed : Bool) : Room Addr :=
  let room := { room with served := frame.key :: room.served }
  if connectAddr = "" then room
  else if frame.key ∈ room.backends then room
  else if dialed then { room with backends := frame.key :: room.backends }
  else room

def roomStep (connectAddr : String) (room : Room Addr) : RoomEvent Addr → Option (Room Addr)
  | .localDatagram client addr payload nonce =>
    some (pumpFromLocal e2e sessionID room client addr payload nonce)
  | .publish participant isPublished =>
    match room.sendQueues participant with
    | [] => none
    | packet :: rest => some (processSendQueue room participant isPublished packet rest)
  | .deliverToClient client delivery =>
    if delivery ∈ room.inboxes (.client client) then
      let room := room.take (.client client) delivery
      match handleData e2e delivery.packet with
      | none => some room
      | some frame => some (clientHandleFrame room client delivery.sender frame)
    else none
  | .deliverToServer delivery dialed =>
    if delivery ∈ room.inboxes .server then
      let room := room.take .server delivery
      match handleData e2e delivery.packet with
      | none => some room
      | some frame => some (serverHandleFrame connectAddr room frame dialed)
    else none
  | .backendDatagram key payload nonce =>
    if key ∈ room.backends then some (pumpFromBackend e2e room key payload nonce) else none
  | .dropStream key => some { room with backends := room.backends.erase key }

/-- The room as a machine. -/
def roomMachine (connectAddr : String) : Machine (Room Addr) (RoomEvent Addr) where
  step := roomStep e2e sessionID connectAddr

end Machine

end VkTurn.WbStream
