import VkTurn.WbStream.Room

/-! # Isolation of the clients of a room

All clients share the room and the small space of stream ids, and a client looks at nothing but
the stream id of a frame that it receives.
-/

namespace VkTurn.WbStream

open VkTurn.SessionProto VkTurn.Transition

variable {Addr : Type}

/-- The payload was sent by the server in reply to a frame with the client's own session id and
    the stream id that the client assigned to the address. -/
structure WellSourced (sessionID : Nat → SessionID) (bridges : Nat → ClientBridge Addr)
    (served : List StreamKey) (write : LocalWrite Addr) : Prop where
  fromServer : write.sender = .server
  ownSession : write.frame.sessionID = sessionID write.client
  assigned : (bridges write.client).revIdx write.addr = some write.frame.streamID
  inReply : write.frame.key ∈ served
  whole : write.payload = write.frame.payload

def Isolated (sessionID : Nat → SessionID) (room : Room Addr) : Prop :=
  ∀ write ∈ room.written, WellSourced sessionID room.bridges room.served write

/-- A frame that reaches a client under a stream id that the client has assigned is one that the
    server sent for the client's session. -/
def Addressed (e2e : Option E2E) (sessionID : Nat → SessionID) (room : Room Addr) :
    RoomEvent Addr → Prop
  | .deliverToClient client delivery => ∀ frame, handleData e2e delivery.packet = some frame →
    (room.bridges client).streams frame.streamID ≠ none →
    delivery.sender = .server ∧ frame.sessionID = sessionID client
  | _ => True

/-! ## Peers -/

variable {e2e : Option E2E} {sessionID : Nat → SessionID}

theorem handleData_sealBody (lawful : ∀ cipher ∈ e2e, cipher.Lawful) (frame : MuxFrame)
    (small : frame.encode.length < 2 ^ 32) (nonce : Bytes) :
    handleData e2e (sealBody e2e nonce frame.encode) = some frame := by
  have opened : openBody e2e (sealBody e2e nonce frame.encode) = .ok frame.encode := by
    cases e2e with
    | none => rfl
    | some cipher => exact lawful cipher rfl nonce frame.encode
  simp only [handleData, opened, decodeMuxFrame_encode frame small]

/-- What is queued after a send was queued before it or is the frame. -/
theorem mem_send (lawful : ∀ cipher ∈ e2e, cipher.Lawful) {sendQueue : List Bytes}
    {frame received : MuxFrame} {nonce packet : Bytes} (small : frame.encode.length < 2 ^ 32)
    (isQueued : packet ∈ send e2e sendQueue frame nonce)
    (isReceived : handleData e2e packet = some received) :
    packet ∈ sendQueue ∨ received = frame := by
  rw [send] at isQueued
  split at isQueued
  · rcases List.mem_append.mp isQueued with isOld | isNew
    · exact .inl isOld
    · rw [List.mem_singleton.mp isNew, handleData_sealBody lawful frame small] at isReceived
      exact .inr (Option.some.inj isReceived).symm
  · exact .inl isQueued

/-! ## The client's bridge -/

/-- A stream id leads to an address to which it was assigned. -/
def ClientBridge.Consistent (bridge : ClientBridge Addr) : Prop :=
  ∀ id addr, bridge.streams id = some addr → bridge.revIdx addr = some id

theorem streamForAddr_consistent [DecidableEq Addr] {bridge : ClientBridge Addr}
    (consistent : bridge.Consistent) (addr : Addr) : (bridge.streamForAddr addr).2.Consistent := by
  rw [ClientBridge.streamForAddr]
  split
  · exact consistent
  · rename_i isNew
    intro id other leads
    simp only [Function.update_apply] at leads ⊢
    by_cases sameId : id = bridge.nextID
    · rw [if_pos sameId] at leads
      rw [if_pos (Option.some.inj leads).symm, sameId]
    · rw [if_neg sameId] at leads
      have old := consistent id other leads
      have different : other ≠ addr := by
        intro same
        rw [same, isNew] at old
        cases old
      rw [if_neg different, old]

/-- An assignment is never changed. -/
theorem streamForAddr_keeps [DecidableEq Addr] {bridge : ClientBridge Addr} {addr other : Addr}
    {id : UInt8} (assigned : bridge.revIdx other = some id) :
    (bridge.streamForAddr addr).2.revIdx other = some id := by
  rw [ClientBridge.streamForAddr]
  split
  · exact assigned
  · rename_i isNew
    have different : other ≠ addr := by
      intro same
      rw [same, isNew] at assigned
      cases assigned
    simp only [Function.update_apply, if_neg different, assigned]

/-! ## The invariant of a room -/

/-- Every frame that the server has on its way answers a key under which it received one. -/
structure RoomInv (e2e : Option E2E) (sessionID : Nat → SessionID) (room : Room Addr) : Prop where
  consistent : ∀ client, (room.bridges client).Consistent
  backendsServed : ∀ key ∈ room.backends, key ∈ room.served
  queuedServed : ∀ packet ∈ room.sendQueues .server, ∀ frame,
    handleData e2e packet = some frame → frame.key ∈ room.served
  inFlightServed : ∀ participant, ∀ delivery ∈ room.inboxes participant,
    delivery.sender = .server → ∀ frame, handleData e2e delivery.packet = some frame →
    frame.key ∈ room.served
  isolated : Isolated sessionID room

variable {room : Room Addr}

theorem empty_inv : RoomInv e2e sessionID (Room.empty : Room Addr) where
  consistent _ := nofun
  backendsServed := nofun
  queuedServed := nofun
  inFlightServed _ := nofun
  isolated := nofun

theorem pumpFromLocal_inv [DecidableEq Addr] (inv : RoomInv e2e sessionID room) (client : Nat)
    (addr : Addr) (payload nonce : Bytes) :
    RoomInv e2e sessionID (pumpFromLocal e2e sessionID room client addr payload nonce) where
  consistent other := by
    simp only [pumpFromLocal, Function.update_apply]
    split
    · exact streamForAddr_consistent (inv.consistent client) addr
    · exact inv.consistent other
  backendsServed := inv.backendsServed
  queuedServed := by
    simp only [pumpFromLocal, Function.update_apply, reduceCtorEq, if_false]
    exact inv.queuedServed
  inFlightServed := inv.inFlightServed
  isolated write isWritten := by
    have sourced := inv.isolated write isWritten
    refine { sourced with assigned := ?_ }
    simp only [pumpFromLocal, Function.update_apply]
    split
    · rename_i own
      rw [← own]
      exact streamForAddr_keeps sourced.assigned
    · exact sourced.assigned

theorem pumpFromBackend_inv (lawful : ∀ cipher ∈ e2e, cipher.Lawful)
    (inv : RoomInv e2e sessionID room) {key : StreamKey} (isBackend : key ∈ room.backends)
    (payload nonce : Bytes) :
    RoomInv e2e sessionID (pumpFromBackend e2e room key payload nonce) where
  consistent := inv.consistent
  backendsServed := inv.backendsServed
  queuedServed packet isQueued frame received := by
    simp only [pumpFromBackend, Function.update_self] at isQueued
    have small : (MuxFrame.encode
        ⟨key.session, key.stream, payload.take readBufferSize⟩).length < 2 ^ 32 := by
      rw [MuxFrame.encode_length, List.length_take, muxHeaderSize, sessionIDLen, readBufferSize]
      omega
    rcases mem_send lawful small isQueued received with isOld | isNew
    · exact inv.queuedServed packet isOld frame received
    · rw [isNew]
      exact inv.backendsServed key isBackend
  inFlightServed := inv.inFlightServed
  isolated := inv.isolated

theorem processSendQueue_inv (inv : RoomInv e2e sessionID room) {participant : Participant}
    {packet : Bytes} {rest : List Bytes}
    (queue : room.sendQueues participant = packet :: rest) (isPublished : Bool) :
    RoomInv e2e sessionID (processSendQueue room participant isPublished packet rest) where
  consistent := inv.consistent
  backendsServed := inv.backendsServed
  queuedServed other isQueued := by
    simp only [processSendQueue, Function.update_apply] at isQueued
    split at isQueued
    · rename_i isServer
      apply inv.queuedServed other
      rw [isServer, queue]
      exact List.mem_cons_of_mem _ isQueued
    · exact inv.queuedServed other isQueued
  inFlightServed other delivery inFlight fromServer := by
    simp only [processSendQueue] at inFlight
    split at inFlight
    · simp only at inFlight
      split at inFlight
      · exact inv.inFlightServed other delivery inFlight fromServer
      · rcases List.mem_append.mp inFlight with isOld | isNew
        · exact inv.inFlightServed other delivery isOld fromServer
        · obtain rfl := List.mem_singleton.mp isNew
          have isServer : participant = .server := fromServer
          apply inv.queuedServed packet
          rw [← isServer, queue]
          exact List.mem_cons_self
    · exact inv.inFlightServed other delivery inFlight fromServer
  isolated := inv.isolated

theorem take_inv (inv : RoomInv e2e sessionID room) (participant : Participant)
    (delivery : Delivery) : RoomInv e2e sessionID (room.take participant delivery) where
  consistent := inv.consistent
  backendsServed := inv.backendsServed
  queuedServed := inv.queuedServed
  inFlightServed other left inFlight := by
    apply inv.inFlightServed other left
    simp only [Room.take, Function.update_apply] at inFlight
    split at inFlight
    · rename_i same
      rw [same]
      exact List.mem_of_mem_erase inFlight
    · exact inFlight
  isolated := inv.isolated

/-- A client writes a frame to a local address. -/
theorem clientHandleFrame_inv (inv : RoomInv e2e sessionID room) {client : Nat}
    {sender : Participant} {frame : MuxFrame}
    (served : sender = .server → frame.key ∈ room.served)
    (addressed : (room.bridges client).streams frame.streamID ≠ none →
      sender = .server ∧ frame.sessionID = sessionID client) :
    RoomInv e2e sessionID (clientHandleFrame room client sender frame) := by
  rw [clientHandleFrame]
  split
  · exact inv
  · rename_i addr isTarget
    have leads : (room.bridges client).streams frame.streamID = some addr := isTarget
    obtain ⟨fromServer, ownSession⟩ := addressed (by rw [leads]; simp)
    refine { inv with isolated := ?_ }
    intro write isWritten
    rcases List.mem_append.mp isWritten with isOld | isNew
    · exact inv.isolated write isOld
    · obtain rfl := List.mem_singleton.mp isNew
      exact {
        fromServer := fromServer
        ownSession := ownSession
        assigned := inv.consistent client _ _ leads
        inReply := served fromServer
        whole := rfl }

theorem serverHandleFrame_inv (inv : RoomInv e2e sessionID room) (connectAddr : String)
    (frame : MuxFrame) (dialed : Bool) :
    RoomInv e2e sessionID (serverHandleFrame connectAddr room frame dialed) := by
  have noted : RoomInv e2e sessionID { room with served := frame.key :: room.served } := {
    consistent := inv.consistent
    backendsServed := fun key isBackend => List.mem_cons_of_mem _ (inv.backendsServed key isBackend)
    queuedServed := fun packet isQueued other received =>
      List.mem_cons_of_mem _ (inv.queuedServed packet isQueued other received)
    inFlightServed := fun participant delivery inFlight fromServer other received =>
      List.mem_cons_of_mem _
        (inv.inFlightServed participant delivery inFlight fromServer other received)
    isolated := fun write isWritten => {
      inv.isolated write isWritten with
      inReply := List.mem_cons_of_mem _ (inv.isolated write isWritten).inReply } }
  rw [serverHandleFrame]
  simp only
  split
  · exact noted
  · split
    · exact noted
    · split
      · refine { noted with backendsServed := ?_ }
        intro key isBackend
        rcases List.mem_cons.mp isBackend with isNew | isOld
        · rw [isNew]
          exact List.mem_cons_self
        · exact noted.backendsServed key isOld
      · exact noted

theorem dropStream_inv (inv : RoomInv e2e sessionID room) (key : StreamKey) :
    RoomInv e2e sessionID { room with backends := room.backends.erase key } :=
  { inv with
    backendsServed := fun other isLeft => inv.backendsServed other (List.mem_of_mem_erase isLeft) }

/-! ## Runs -/

section Runs

variable [DecidableEq Addr] {connectAddr : String} (lawful : ∀ cipher ∈ e2e, cipher.Lawful)

include lawful

theorem roomStep_inv {event : RoomEvent Addr} {next : Room Addr}
    (inv : RoomInv e2e sessionID room) (addressed : Addressed e2e sessionID room event)
    (stepped : roomStep e2e sessionID connectAddr room event = some next) :
    RoomInv e2e sessionID next := by
  cases event with
  | localDatagram client addr payload nonce =>
    cases stepped
    exact pumpFromLocal_inv inv client addr payload nonce
  | publish participant isPublished =>
    simp only [roomStep] at stepped
    split at stepped
    · cases stepped
    · rename_i packet rest queue
      cases stepped
      exact processSendQueue_inv inv queue isPublished
  | deliverToClient client delivery =>
    simp only [roomStep] at stepped
    split at stepped
    · rename_i inFlight
      have taken := take_inv inv (.client client) delivery
      split at stepped
      · cases stepped
        exact taken
      · rename_i frame received
        cases stepped
        apply clientHandleFrame_inv taken
        · intro fromServer
          exact inv.inFlightServed _ delivery inFlight fromServer frame received
        · exact addressed frame received
    · cases stepped
  | deliverToServer delivery dialed =>
    simp only [roomStep] at stepped
    split at stepped
    · have taken := take_inv inv .server delivery
      split at stepped
      · cases stepped
        exact taken
      · cases stepped
        exact serverHandleFrame_inv taken ..
    · cases stepped
  | backendDatagram key payload nonce =>
    simp only [roomStep] at stepped
    split at stepped
    · rename_i isBackend
      cases stepped
      exact pumpFromBackend_inv lawful inv isBackend payload nonce
    · cases stepped
  | dropStream key =>
    cases stepped
    exact dropStream_inv inv key

/-- Clients are isolated in every run in which no client receives a foreign frame under one of its
    stream ids. -/
theorem clients_isolated
    (reached : (roomMachine e2e sessionID connectAddr).ReachableWhile
      (Addressed e2e sessionID) (· = Room.empty) room) : Isolated sessionID room := by
  have inv : RoomInv e2e sessionID room := by
    refine reached.invariant ?_ ?_
    · rintro room rfl
      exact empty_inv
    · intro room next event inv addressed stepped
      exact roomStep_inv lawful inv addressed stepped
  exact inv.isolated

end Runs

/-! ## One client and two clients -/

def smallSession (client : Nat) : SessionID := Vector.replicate 16 (UInt8.ofNat client)

def plainRoom : Machine (Room Nat) (RoomEvent Nat) :=
  roomMachine none smallSession "127.0.0.1:51820"

/-- The frame for a client's first local address, with payload `[7]`. -/
def firstFrame (client : Nat) : MuxFrame := ⟨smallSession client, 0, [7]⟩

theorem firstFrame_received (client : Nat) {frame : MuxFrame}
    (received : handleData none (firstFrame client).encode = some frame) :
    frame = firstFrame client := by
  have small : (firstFrame client).encode.length < 2 ^ 32 := by
    rw [MuxFrame.encode_length]
    show muxHeaderSize + 1 < 2 ^ 32
    decide
  have same := @handleData_sealBody none nofun (firstFrame client) small []
  exact (Option.some.inj (same.symm.trans received)).symm

theorem clients_isolated_echo :
    ∃ room, plainRoom.run .empty [.localDatagram 1 9000 [7] [], .publish (.client 1) true,
        .deliverToServer ⟨.client 1, (firstFrame 1).encode⟩ true,
        .backendDatagram (firstFrame 1).key [7] [], .publish .server true,
        .deliverToClient 1 ⟨.server, (firstFrame 1).encode⟩] = some room ∧
      (room.written.map fun write => (write.client, write.addr)) = [(1, 9000)] ∧
      Isolated smallSession room := by
  refine ⟨_, rfl, rfl, ?_⟩
  refine @clients_isolated Nat none smallSession _ _ "127.0.0.1:51820" nofun ?_
  have local1 := Machine.ReachableWhile.step
    (.start rfl : plainRoom.ReachableWhile (Addressed none smallSession) (· = .empty) _)
    (show Addressed none smallSession _ (.localDatagram 1 9000 [7] []) from trivial) rfl
  have published := local1.step
    (show Addressed none smallSession _ (.publish (.client 1) true) from trivial) rfl
  have served := published.step
    (show Addressed none smallSession _
      (.deliverToServer ⟨.client 1, (firstFrame 1).encode⟩ true) from trivial) rfl
  have answered := served.step
    (show Addressed none smallSession _
      (.backendDatagram (firstFrame 1).key [7] []) from trivial) rfl
  have returned := answered.step
    (show Addressed none smallSession _ (.publish .server true) from trivial) rfl
  refine returned.step
    (show Addressed none smallSession _
      (.deliverToClient 1 ⟨.server, (firstFrame 1).encode⟩) from ?_) rfl
  intro frame received _
  rw [firstFrame_received 1 received]
  exact ⟨rfl, rfl⟩

/-- The payload of one client ends at a local address of another. -/
theorem foreign_payload_written :
    ¬ ∀ (e2e : Option E2E) (sessionID : Nat → SessionID) (connectAddr : String) (room : Room Nat),
      (∀ cipher ∈ e2e, cipher.Lawful) →
      (roomMachine e2e sessionID connectAddr).Reachable (· = Room.empty) room →
      Isolated sessionID room := by
  intro claimed
  have run : ∃ room, plainRoom.run .empty [.localDatagram 1 9000 [7] [],
        .localDatagram 2 9000 [8] [], .publish (.client 1) true,
        .deliverToClient 2 ⟨.client 1, (firstFrame 1).encode⟩] = some room ∧
      room.written = [⟨2, 9000, [7], .client 1, firstFrame 1⟩] :=
    ⟨_, rfl, rfl⟩
  obtain ⟨room, ran, written⟩ := run
  have isolated := claimed none smallSession "127.0.0.1:51820" room nofun
    (Machine.Reachable.run (.start rfl) ran)
  have sourced := isolated ⟨2, 9000, [7], .client 1, firstFrame 1⟩ (by simp [written])
  cases sourced.fromServer

end VkTurn.WbStream
