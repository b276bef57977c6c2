import VkTurn.Server.Negotiation

/-! # Agreement of the hello builders with the acceptor

The client's builders, the shape check, the session wrapper and the classifier of the first
packet are edited separately.  They agree on probes and sessions; a room exchange is built and
has a branch in `handleConnection`, but the shape check knows only the other two types.
-/

namespace VkTurn.Server

open VkTurn.SessionProto VkTurn.SessionProto.MuV1

section Classify

variable {proto : Proto} {mode : Mode} {request : HelloRequest} {bytes : Bytes}

theorem validateClientHelloForVersion_hello :
    validateClientHelloForVersion request.hello = validateClientHello request.hello := by
  rw [validateClientHelloForVersion, if_pos request.hello_version]

theorem parseAndValidate_request (lawful : proto.clientHello.Lawful)
    (built : request.build proto = .ok bytes) :
    parseAndValidate proto bytes =
      (validateClientHello request.hello).map fun _ => request.hello := by
  have parsed := HelloRequest.hello_parses lawful built
  unfold parseAndValidate
  rw [parsed]
  simp only [bind, Except.bind, validateClientHelloForVersion_hello]
  cases validateClientHello request.hello <;> rfl

theorem parseAndValidate_eq_ok (lawful : proto.clientHello.Lawful)
    (built : request.build proto = .ok bytes) :
    parseAndValidate proto bytes = .ok request.hello ↔ request.type ≠ .roomExchange := by
  rw [parseAndValidate_request lawful built]
  cases request with
  | roomExchange exchange =>
    rw [HelloRequest.roomExchange_invalid]
    simp [Except.map, HelloRequest.type]
  | probe =>
    rw [HelloRequest.hello_valid built (by simp)]
    simp [Except.map, HelloRequest.type, ClientHelloType.probe, ClientHelloType.roomExchange]
  | session =>
    rw [HelloRequest.hello_valid built (by simp)]
    simp [Except.map, HelloRequest.type, ClientHelloType.session, ClientHelloType.roomExchange]

/-- A hello that arrives raw is read as itself exactly when it parses as itself. -/
theorem readInitial_raw (lawful : proto.clientHello.Lawful)
    (built : request.build proto = .ok bytes) :
    readInitialHelloOrLegacy proto mode (.packet bytes) = .ok ⟨some request.hello, [], false⟩ ↔
      parseAndValidate proto bytes = .ok request.hello := by
  have raw : parseControlSessionRequest bytes = none :=
    marshalled_not_control lawful (HelloRequest.build_marshals built) .sessionReq
  simp only [readInitialHelloOrLegacy, raw]
  cases parseAndValidate proto bytes with
  | error error =>
    by_cases muMode : mode = .mu <;> simp [muMode]
  | ok hello => simp

theorem readInitial_wrapped :
    readInitialHelloOrLegacy proto mode (.packet (buildControlSessionRequest bytes)) =
        .ok ⟨some request.hello, [], true⟩ ↔
      parseAndValidate proto bytes = .ok request.hello := by
  have unwrapped : parseControlSessionRequest (buildControlSessionRequest bytes) = some bytes :=
    parseControlPacket_build .sessionReq bytes
  simp only [readInitialHelloOrLegacy, unwrapped]
  cases parseAndValidate proto bytes <;> simp

end Classify

/-! ## The branch of a hello -/

section Branch

variable (proto : Proto) (mode : Mode) (backends : TransportBackends)
  (writeError : Option String)

theorem turn_branch (handled : Handled) (branch : Branch) (phase : NegotiationPhase) :
    (handled.turn branch phase).branch = branch := by
  unfold Handled.turn
  split <;> rfl

theorem onProbe_branch (hello : ClientHello) :
    (onProbe proto mode backends writeError hello).branch = .hello .probe := by
  simp only [onProbe]
  split
  · rfl
  · apply turn_branch

theorem onSession_branch (hello : ClientHello) (wrappedSession : Bool) :
    (onSession proto mode backends writeError hello wrappedSession).branch = .hello .session := by
  simp only [onSession]
  split
  · apply turn_branch
  · split
    · apply turn_branch
    · rfl

section Dispatch

variable {hello : ClientHello} (firstPacket : Bytes) (wrappedSession : Bool)

theorem dispatch_probe (isProbe : hello.type = .probe) :
    dispatch proto mode backends writeError ⟨some hello, firstPacket, wrappedSession⟩ =
      onProbe proto mode backends writeError hello := by
  simp only [dispatch]
  rw [if_pos isProbe]

theorem dispatch_roomExchange (isRoomExchange : hello.type = .roomExchange) :
    dispatch proto mode backends writeError ⟨some hello, firstPacket, wrappedSession⟩ =
      ⟨.hello .roomExchange, [], .finished (handleRoomExchange hello)⟩ := by
  have notProbe : ¬ hello.type = .probe := by rw [isRoomExchange]; decide
  simp only [dispatch]
  rw [if_neg notProbe, if_pos isRoomExchange]

theorem dispatch_session (isSession : hello.type = .session) :
    dispatch proto mode backends writeError ⟨some hello, firstPacket, wrappedSession⟩ =
      onSession proto mode backends writeError hello wrappedSession := by
  have notProbe : ¬ hello.type = .probe := by rw [isSession]; decide
  have notRoomExchange : ¬ hello.type = .roomExchange := by rw [isSession]; decide
  simp only [dispatch]
  rw [if_neg notProbe, if_neg notRoomExchange, if_pos isSession]

end Dispatch

/-- `handleConnection` has a branch for each of the three types. -/
theorem dispatch_branch (request : HelloRequest) (wrappedSession : Bool) :
    (dispatch proto mode backends writeError
      ⟨some request.hello, [], wrappedSession⟩).branch = .hello request.type := by
  have hasType := request.hello_type
  cases request with
  | probe =>
    rw [dispatch_probe _ _ _ _ _ _ hasType]
    apply onProbe_branch
  | session =>
    rw [dispatch_session _ _ _ _ _ _ hasType]
    apply onSession_branch
  | roomExchange =>
    rw [dispatch_roomExchange _ _ _ _ _ _ hasType]
    rfl

theorem onRead_branch {request : HelloRequest} {result : ReadResult} {wrappedSession : Bool}
    (read : readInitialHelloOrLegacy proto mode result =
      .ok ⟨some request.hello, [], wrappedSession⟩) :
    (onRead proto mode backends writeError .start result).branch = .hello request.type := by
  simp only [onRead, NegotiationPhase.start, read]
  rw [if_neg (by simp), if_neg (by simp)]
  apply dispatch_branch

end Branch

/-! ## Agreement -/

/-- The packet of a built hello, wrapped or not. -/
def helloPacket (bytes : Bytes) (wrapped : Bool) : Bytes :=
  if wrapped then buildControlSessionRequest bytes else bytes

/-- As the first packet of a connection, the hello is read as that hello and reaches the branch
    of its type. -/
def HandshakeAgrees (proto : Proto) (dtls : DtlsConn) (mode : Mode)
    (backends : TransportBackends) (request : HelloRequest) (bytes : Bytes) (wrapped : Bool) :
    Prop :=
  let result := dtls.read readBufferSize (helloPacket bytes wrapped)
  readInitialHelloOrLegacy proto mode result = .ok ⟨some request.hello, [], wrapped⟩ ∧
    ∀ writeError, (onRead proto mode backends writeError .start result).branch =
      .hello request.type

theorem handshake_agrees_iff (proto : Proto) (dtls : DtlsConn) (mode : Mode)
    (backends : TransportBackends) (request : HelloRequest) (bytes : Bytes) (wrapped : Bool)
    (lawful : proto.clientHello.Lawful) (dtlsLawful : dtls.Lawful)
    (built : request.build proto = .ok bytes)
    (wrapsSession : wrapped = true → request.type = .session) :
    HandshakeAgrees proto dtls mode backends request bytes wrapped ↔
      request.type ≠ .roomExchange ∧ (helloPacket bytes wrapped).length ≤ readBufferSize := by
  have classified : ∀ packet, packet = helloPacket bytes wrapped →
      (readInitialHelloOrLegacy proto mode (.packet packet) =
        .ok ⟨some request.hello, [], wrapped⟩ ↔ request.type ≠ .roomExchange) := by
    intro packet isPacket
    rw [← parseAndValidate_eq_ok lawful built, isPacket]
    cases wrapped with
    | false => exact readInitial_raw lawful built
    | true => exact readInitial_wrapped
  unfold HandshakeAgrees
  by_cases fits : (helloPacket bytes wrapped).length ≤ readBufferSize
  · rw [dtlsLawful.fits _ _ fits, ← classified _ rfl]
    constructor
    · intro agrees
      exact ⟨agrees.1, fits⟩
    · intro read
      exact ⟨read.1, fun writeError => onRead_branch proto mode backends writeError read.1⟩
  · obtain ⟨message, failed⟩ := dtlsLawful.tooSmall _ _ (Nat.lt_of_not_le fits)
    rw [failed]
    constructor
    · intro agrees
      cases agrees.1
    · intro condition
      exact absurd condition.2 fits

/-! ## One probe and one room exchange -/

def wholePackets : DtlsConn where
  read size packet :=
    if packet.length ≤ size then .packet packet
    else .failed (.text "buffer is too small")

theorem wholePackets_lawful : wholePackets.Lawful := by
  constructor
  · intro size packet fits
    simp [wholePackets, fits]
  · intro size packet tooBig
    exact ⟨"buffer is too small", by simp [wholePackets, Nat.not_le.mpr tooBig]⟩

def singleHello (request : HelloRequest) (bytes : Bytes) : Proto where
  clientHello := .single request.hello bytes
  serverHello := .single {} []
  heartbeat := .single {} []

def udpOnly : TransportBackends := ⟨"127.0.0.1:51820", ""⟩

def datagramProbe : HelloRequest := .probe .datagram [.datagram] [] .unspecified

def datagramProbeBytes : Bytes := [0x08, 1, 0x10, 1, 0x28, 1, 0x32, 1, 1]

theorem handshake_agrees_iff_probe :
    HandshakeAgrees (singleHello datagramProbe datagramProbeBytes) wholePackets .auto udpOnly
        datagramProbe datagramProbeBytes false ↔
      datagramProbe.type ≠ .roomExchange ∧
        (helloPacket datagramProbeBytes false).length ≤ readBufferSize :=
  handshake_agrees_iff _ _ _ _ _ _ _ (Codec.single_lawful (by decide)) wholePackets_lawful
    (by rfl) (by simp)

def wbRoom : HelloRequest := .roomExchange { provider := ⟨1⟩, roomId := "r" }

def wbRoomBytes : Bytes := [0x08, 1, 0x10, 3, 0x4a, 5, 0x08, 1, 0x12, 1, 0x72]

/-- A room exchange is not accepted in any mode, although the builder makes it. -/
theorem room_exchange_rejected :
    ¬ ∀ (proto : Proto) (dtls : DtlsConn) (mode : Mode) (backends : TransportBackends)
      (request : HelloRequest) (bytes : Bytes) (wrapped : Bool),
      proto.clientHello.Lawful → dtls.Lawful → request.build proto = .ok bytes →
      (wrapped = true → request.type = .session) →
      HandshakeAgrees proto dtls mode backends request bytes wrapped := by
  intro claimed
  have agrees := claimed (singleHello wbRoom wbRoomBytes) wholePackets .auto udpOnly wbRoom
    wbRoomBytes false (Codec.single_lawful (by decide)) wholePackets_lawful (by rfl) (by simp)
  have read : readInitialHelloOrLegacy (singleHello wbRoom wbRoomBytes) .auto
      (wholePackets.read readBufferSize (helloPacket wbRoomBytes false)) =
      .ok ⟨none, wbRoomBytes, false⟩ := by rfl
  cases read.symm.trans agrees.1

end VkTurn.Server
