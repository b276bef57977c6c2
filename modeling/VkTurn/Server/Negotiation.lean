import VkTurn.SessionProto.MuV1
import VkTurn.Text.Trim

/-! # Negotiation of a connection

`handleConnection` from the end of the DTLS handshake to the data path it picks.  It reads one
packet at a time, so it is a step function on the packets: a `NegotiationPhase` says which
`conn.Read` it waits in, and `onRead` what it does with the result until the next one.
-/

namespace VkTurn.Server

open VkTurn.SessionProto VkTurn.Text

structure TransportBackends where
  udpConnect : String
  tcpConnect : String
  deriving DecidableEq

def TransportBackends.supportsDatagram (backends : TransportBackends) : Bool :=
  trimSpace backends.udpConnect ≠ ""

def TransportBackends.supportsTCP (backends : TransportBackends) : Bool :=
  trimSpace backends.tcpConnect ≠ ""

/-! ## Reads and writes -/

inductive ConnError where
  | eof
  | text (message : String)
  deriving DecidableEq

inductive ReadResult where
  | packet (payload : Bytes)
  | timeout
  | failed (error : ConnError)
  deriving DecidableEq

/-- What a read into a buffer of the given size returns for the next packet. -/
structure DtlsConn where
  read : Nat → Bytes → ReadResult

/-- A read takes a packet whole or fails; it never takes a part of one. -/
structure DtlsConn.Lawful (dtls : DtlsConn) : Prop where
  fits : ∀ size packet, packet.length ≤ size → dtls.read size packet = .packet packet
  tooSmall : ∀ size packet, size < packet.length →
    ∃ message, dtls.read size packet = .failed (.text message)

def readBufferSize : Nat := 1600

/-- What a handler wrote to the connection, and the error it returned. -/
structure Handled where
  written : List Bytes
  error : Option String
  deriving DecidableEq

def writeRawPacket (writeError : Option String) (payload : Bytes) : Handled :=
  match writeError with
  | some error => ⟨[], some error⟩
  | none => ⟨[payload], none⟩

/-! ## The first packet -/

structure InitialRead where
  hello : Option ClientHello
  firstPacket : Bytes
  wrappedSession : Bool
  deriving DecidableEq

def validateClientHelloForVersion (hello : ClientHello) : Except String Unit :=
  if hello.version = MuV1.protocolVersion then MuV1.validateClientHello hello
  else .error ("unsupported protocol version: " ++ toString hello.version)

variable (proto : Proto)

def parseAndValidate (payload : Bytes) : Except String ClientHello := do
  let hello ← parseClientHelloMessage proto payload
  validateClientHelloForVersion hello
  return hello

def readInitialHelloOrLegacy (mode : Mode) (result : ReadResult) :
    Except ConnError InitialRead :=
  match result with
  | .timeout =>
    if mode = .mu then .error (.text "timed out waiting for mu hello")
    else .ok ⟨none, [], false⟩
  | .failed error => .error error
  | .packet payload =>
    match parseControlSessionRequest payload with
    | some sessionPayload =>
      match parseAndValidate proto sessionPayload with
      | .error error => .error (.text ("invalid mu hello: " ++ error))
      | .ok hello => .ok ⟨some hello, [], true⟩
    | none =>
      match parseAndValidate proto payload with
      | .error error =>
        if mode = .mu then .error (.text ("invalid mu hello: " ++ error))
        else .ok ⟨none, payload, false⟩
      | .ok hello => .ok ⟨some hello, [], false⟩

/-! ## Selection -/

def allowsMu (mode : Mode) : Bool := mode ≠ .mainline

def supportedTransportsForHello (mode : Mode) (backends : TransportBackends)
    (hello : ClientHello) : List TransportMode :=
  let datagram := if backends.supportsDatagram then [TransportMode.datagram] else []
  let tcp :=
    if hello.type ≠ .session ∧ mode ≠ .mu ∧ backends.supportsTCP then [TransportMode.tcp] else []
  normalizeSupportedTransports (datagram ++ tcp)

def requestedTransportForHello (hello : ClientHello) : TransportMode :=
  if hello.version < MuV1.protocolVersion ∨ hello.requestedTransport = .unspecified then .datagram
  else hello.requestedTransport

def firstSupportedTransport (supported : List TransportMode) : TransportMode :=
  (normalizeSupportedTransports supported).headD .unspecified

def selectTransportForHello (mode : Mode) (backends : TransportBackends) (hello : ClientHello) :
    TransportMode × List TransportMode × String :=
  let supported := supportedTransportsForHello mode backends hello
  let requested := requestedTransportForHello hello
  let first := firstSupportedTransport supported
  if requested = .tcp then
    if hello.type = .session then
      (first, supported, "mu session mode does not support tcp transport")
    else if mode = .mu then
      (first, supported, "server session mode does not support tcp transport")
    else if ¬ backends.supportsTCP then (first, supported, "server tcp transport is unavailable")
    else (.tcp, supported, "")
  else if requested = .datagram then
    if ¬ backends.supportsDatagram then
      (first, supported, "server datagram transport is unavailable")
    else (.datagram, supported, "")
  else (first, supported, "unsupported transport: " ++ requested.string)

def supportedTcpFlavorsForServer : List TcpTransportFlavor := [.directSmux, .legacyKcpSmux]

def selectTcpFlavorForHello (hello : ClientHello) :
    TcpTransportFlavor × List TcpTransportFlavor :=
  let supported := supportedTcpFlavorsForServer
  let clientSupported := normalizeSupportedTcpFlavors hello.supportedTcpFlavors
  let preferred := hello.preferredTcpFlavor
  if clientSupported = [] then (.legacyKcpSmux, supported)
  else if preferred ≠ .unspecified ∧ hasSupportedTcpFlavor clientSupported preferred ∧
      hasSupportedTcpFlavor supported preferred then (preferred, supported)
  else if hasSupportedTcpFlavor clientSupported .directSmux then (.directSmux, supported)
  else (.legacyKcpSmux, supported)

/-! ## Server hellos -/

def buildServerHelloForVersionWithTcpFlavor (version : UInt32) (muSupported : Bool)
    (errorText : String) (controlHeartbeatSupported : Bool) (selectedTransport : TransportMode)
    (supportedTransports : List TransportMode) (supportedTcpFlavors : List TcpTransportFlavor)
    (selectedTcpFlavor : TcpTransportFlavor) : Except String Bytes :=
  if version = MuV1.protocolVersion then
    MuV1.buildServerHelloWithTcpFlavor proto muSupported errorText controlHeartbeatSupported
      selectedTransport supportedTransports supportedTcpFlavors selectedTcpFlavor
  else .error ("unsupported protocol version: " ++ toString version)

def buildServerHelloForVersion (version : UInt32) (muSupported : Bool) (errorText : String)
    (controlHeartbeatSupported : Bool) (selectedTransport : TransportMode)
    (supportedTransports : List TransportMode) : Except String Bytes :=
  buildServerHelloForVersionWithTcpFlavor proto version muSupported errorText
    controlHeartbeatSupported selectedTransport supportedTransports [] .unspecified

def writeMuxSessionHelloResponse (writeError : Option String) (version : UInt32)
    (muxSupported : Bool) (errorText : String) (controlHeartbeatSupported : Bool)
    (selectedTransport : TransportMode) (supportedTransports : List TransportMode)
    (wrappedSession : Bool) : Handled :=
  match buildServerHelloForVersion proto version muxSupported errorText
    controlHeartbeatSupported selectedTransport supportedTransports with
  | .error error => ⟨[], some error⟩
  | .ok payload =>
    if wrappedSession ∧ version ≥ MuV1.protocolVersion then
      writeRawPacket writeError (buildControlSessionResponse payload)
    else writeRawPacket writeError payload

/-- `none` when the packet is not a wrapped probe. -/
def handleMainlineControlPacket (mode : Mode) (backends : TransportBackends)
    (writeError : Option String) (payload : Bytes) : Option Handled :=
  match parseControlProbeRequest payload with
  | none => none
  | some probePayload =>
    match parseClientHelloMessage proto probePayload with
    | .error _ => some ⟨[], none⟩
    | .ok hello =>
      let supportedTransports := supportedTransportsForHello mode backends hello
      match validateClientHelloForVersion hello with
      | .error error =>
        match buildServerHelloForVersion proto hello.version false error true .datagram
          supportedTransports with
        | .error _ => some ⟨[], none⟩
        | .ok responsePayload =>
          some (writeRawPacket writeError (buildControlProbeResponse responsePayload))
      | .ok _ =>
        if hello.type ≠ .probe then some ⟨[], none⟩
        else
          let muSupported : Bool := mode ≠ .mainline
          let errorText := if muSupported then "" else "server session mode is mainline"
          match buildServerHelloForVersion proto hello.version muSupported errorText true
            .datagram supportedTransports with
          | .error error => some ⟨[], some error⟩
          | .ok responsePayload =>
            some (writeRawPacket writeError (buildControlProbeResponse responsePayload))

/-! ## handleConnection -/

inductive Outcome where
  | closed
  | failed (error : ConnError)
  | tcp (flavor : TcpTransportFlavor)
  | roomExchange (exchange : RoomDataExchange)
  | muStream (hello : ClientHello) (wrappedSession : Bool)
  | legacyStream (firstPacket : Bytes)
  deriving DecidableEq

inductive NegotiationPhase where
  | initial (handledWrappedControlProbe : Bool)
  /-- In the read that follows the answer to a direct probe. -/
  | followUp
  | finished (outcome : Outcome)
  deriving DecidableEq

/-- The part of `handleConnection` that a read leads to. -/
inductive Branch where
  | readFailed
  | controlProbe
  | probeClosed
  | hello (type : ClientHelloType)
  | noHello
  deriving DecidableEq

structure Turn where
  branch : Branch
  written : List Bytes
  phase : NegotiationPhase
  deriving DecidableEq

/-- Go on with `phase` if the handler returned no error. -/
def Handled.turn (handled : Handled) (branch : Branch) (phase : NegotiationPhase) : Turn :=
  match handled.error with
  | some error => ⟨branch, handled.written, .finished (.failed (.text error))⟩
  | none => ⟨branch, handled.written, phase⟩

variable (mode : Mode) (backends : TransportBackends) (writeError : Option String)

/-- The body of the loop over direct probes, up to its read. -/
def onProbe (hello : ClientHello) : Turn :=
  let (selectedTransport, supportedTransports, errorText) :=
    selectTransportForHello mode backends hello
  let (selectedTcpFlavor, supportedTcpFlavors) := selectTcpFlavorForHello hello
  let muSupported := allowsMu mode && errorText == ""
  match buildServerHelloForVersionWithTcpFlavor proto hello.version muSupported errorText true
    selectedTransport supportedTransports supportedTcpFlavors selectedTcpFlavor with
  | .error error => ⟨.hello .probe, [], .finished (.failed (.text error))⟩
  | .ok payload =>
    (writeRawPacket writeError payload).turn (.hello .probe)
      (if errorText ≠ "" then .finished (.failed (.text errorText))
      else if selectedTransport = .tcp then .finished (.tcp selectedTcpFlavor)
      else .followUp)

def handleRoomExchange (hello : ClientHello) : Outcome :=
  match hello.roomExchange with
  | none => .failed (.text "missing room exchange payload")
  | some exchange => .roomExchange exchange

def onSession (hello : ClientHello) (wrappedSession : Bool) : Turn :=
  let (selectedTransport, supportedTransports, errorText) :=
    selectTransportForHello mode backends hello
  if mode = .mainline then
    (writeMuxSessionHelloResponse proto writeError hello.version false
      "server session mode is mainline" true selectedTransport supportedTransports
      wrappedSession).turn (.hello .session) (.finished .closed)
  else if errorText ≠ "" then
    (writeMuxSessionHelloResponse proto writeError hello.version false errorText true
      selectedTransport supportedTransports wrappedSession).turn (.hello .session)
      (.finished .closed)
  else ⟨.hello .session, [], .finished (.muStream hello wrappedSession)⟩

/-- What is left when no hello took the connection over. -/
def onNoHello (firstPacket : Bytes) : Turn :=
  if mode = .mu then ⟨.noHello, [], .finished (.failed (.text "expected mu hello"))⟩
  else if ¬ backends.supportsDatagram then
    ⟨.noHello, [], .finished (.failed (.text "server datagram transport is unavailable"))⟩
  else ⟨.noHello, [], .finished (.legacyStream firstPacket)⟩

/-- From the loop over direct probes on. -/
def dispatch (read : InitialRead) : Turn :=
  match read.hello with
  | none => onNoHello mode backends read.firstPacket
  | some hello =>
    if hello.type = .probe then onProbe proto mode backends writeError hello
    else if hello.type = .roomExchange then
      ⟨.hello .roomExchange, [], .finished (handleRoomExchange hello)⟩
    else if hello.type = .session then
      onSession proto mode backends writeError hello read.wrappedSession
    else if mode = .mu then
      ⟨.noHello, [], .finished
        (.failed (.text ("unsupported client hello type: " ++ hello.type.string)))⟩
    else onNoHello mode backends read.firstPacket

/-- What `handleConnection` does with the result of one read. -/
def onRead (phase : NegotiationPhase) (result : ReadResult) : Turn :=
  match phase with
  | .finished outcome => ⟨.readFailed, [], .finished outcome⟩
  | .followUp =>
    match readInitialHelloOrLegacy proto mode result with
    | .error error => ⟨.readFailed, [], .finished (.failed error)⟩
    | .ok read => dispatch proto mode backends writeError read
  | .initial handledWrappedControlProbe =>
    match readInitialHelloOrLegacy proto mode result with
    | .error error =>
      -- the client may hang up once its wrapped probe is answered
      if handledWrappedControlProbe ∧ error = .eof then ⟨.readFailed, [], .finished .closed⟩
      else ⟨.readFailed, [], .finished (.failed error)⟩
    | .ok read =>
      if read.hello = none ∧ read.firstPacket ≠ [] then
        match handleMainlineControlPacket proto mode backends writeError read.firstPacket with
        | some handled => handled.turn .controlProbe (.initial true)
        | none => dispatch proto mode backends writeError read
      else if handledWrappedControlProbe ∧ read.hello = none then
        ⟨.probeClosed, [], .finished .closed⟩
      else dispatch proto mode backends writeError read

/-- A connection right after the handshake. -/
def NegotiationPhase.start : NegotiationPhase := .initial false

/-! ## Negotiation over the datagrams of a client -/

/-- A datagram of the client; `late` says that a read of the negotiation does not wait for it,
    the errors are those of writes made while it is handled. -/
structure Arrival where
  payload : Bytes
  late : Bool := false
  writeError : Option String := none
  backendError : Option String := none
  deriving DecidableEq

/-- Runs the negotiation and returns the datagrams it leaves unread. -/
def negotiate (dtls : DtlsConn) (phase : NegotiationPhase) :
    List Arrival → NegotiationPhase × List Arrival
  | [] => ((onRead proto mode backends none phase .timeout).phase, [])
  | arrival :: rest =>
    match phase with
    | .finished outcome => (.finished outcome, arrival :: rest)
    | phase =>
      if arrival.late then
        ((onRead proto mode backends none phase .timeout).phase, arrival :: rest)
      else
        negotiate dtls
          (onRead proto mode backends arrival.writeError phase
            (dtls.read readBufferSize arrival.payload)).phase rest

end VkTurn.Server
