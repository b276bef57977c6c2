import VkTurn.SessionProto.Control

/-! # The hellos of protocol version 1

`sessionproto/mu/v1`: what the two sides put into a hello before it is marshalled.
-/

namespace VkTurn.SessionProto.MuV1

def protocolVersion : UInt32 := 1

variable (proto : Proto)

/-! ## Client side -/

def probeHello (requestedTransport : TransportMode) (supportedTransports : List TransportMode)
    (supportedTcpFlavors : List TcpTransportFlavor) (preferredTcpFlavor : TcpTransportFlavor) :
    ClientHello where
  version := protocolVersion
  type := .probe
  requestedTransport := requestedTransport
  supportedTransports := normalizeSupportedTransports supportedTransports
  supportedTcpFlavors := normalizeSupportedTcpFlavors supportedTcpFlavors
  preferredTcpFlavor := preferredTcpFlavor

def buildProbeHelloWithTcpFlavors (requestedTransport : TransportMode)
    (supportedTransports : List TransportMode) (supportedTcpFlavors : List TcpTransportFlavor)
    (preferredTcpFlavor : TcpTransportFlavor) : Except String Bytes :=
  proto.clientHello.marshal
    (probeHello requestedTransport supportedTransports supportedTcpFlavors preferredTcpFlavor)

def sessionHello (sessionID : Bytes) (streamID : UInt8) (requestedTransport : TransportMode)
    (supportedTransports : List TransportMode) : ClientHello where
  version := protocolVersion
  type := .session
  sessionId := sessionID
  streamId := streamID.toUInt32
  requestedTransport := requestedTransport
  supportedTransports := normalizeSupportedTransports supportedTransports

def buildSessionHelloWithTransport (sessionID : Bytes) (streamID : UInt8)
    (requestedTransport : TransportMode) (supportedTransports : List TransportMode) :
    Except String Bytes :=
  if sessionID.length ≠ sessionIDLen then
    .error ("session ID must be " ++ toString sessionIDLen ++ " bytes")
  else
    proto.clientHello.marshal
      (sessionHello sessionID streamID requestedTransport supportedTransports)

def buildSessionHello (sessionID : Bytes) (streamID : UInt8) : Except String Bytes :=
  buildSessionHelloWithTransport proto sessionID streamID .datagram [.datagram]

def roomExchangeHello (exchange : RoomDataExchange) : ClientHello where
  version := protocolVersion
  type := .roomExchange
  roomExchange := some exchange

def buildRoomExchangeHello (exchange : Option RoomDataExchange) : Except String Bytes :=
  match exchange with
  | none => .error "room exchange payload is required"
  | some exchange => proto.clientHello.marshal (roomExchangeHello exchange)

def validateClientHello (hello : ClientHello) : Except String Unit :=
  validateHelloShape hello protocolVersion

/-! ## Server side -/

def serverHello (muSupported : Bool) (errorText : String) (controlHeartbeatSupported : Bool)
    (selectedTransport : TransportMode) (supportedTransports : List TransportMode)
    (supportedTcpFlavors : List TcpTransportFlavor) (selectedTcpFlavor : TcpTransportFlavor) :
    ServerHello where
  version := protocolVersion
  muSupported := muSupported
  error := errorText
  controlHeartbeatSupported := controlHeartbeatSupported
  selectedTransport := selectedTransport
  supportedTransports := normalizeSupportedTransports supportedTransports
  supportedTcpFlavors := normalizeSupportedTcpFlavors supportedTcpFlavors
  selectedTcpFlavor := selectedTcpFlavor

def buildServerHelloWithTcpFlavor (muSupported : Bool) (errorText : String)
    (controlHeartbeatSupported : Bool) (selectedTransport : TransportMode)
    (supportedTransports : List TransportMode) (supportedTcpFlavors : List TcpTransportFlavor)
    (selectedTcpFlavor : TcpTransportFlavor) : Except String Bytes :=
  proto.serverHello.marshal
    (serverHello muSupported errorText controlHeartbeatSupported selectedTransport
      supportedTransports supportedTcpFlavors selectedTcpFlavor)

/-! ## What a client can ask for -/

/-- The arguments of one of the three client builders. -/
inductive HelloRequest where
  | probe (requestedTransport : TransportMode) (supportedTransports : List TransportMode)
      (supportedTcpFlavors : List TcpTransportFlavor) (preferredTcpFlavor : TcpTransportFlavor)
  | session (sessionID : Bytes) (streamID : UInt8) (requestedTransport : TransportMode)
      (supportedTransports : List TransportMode)
  | roomExchange (exchange : RoomDataExchange)
  deriving DecidableEq

namespace HelloRequest

def build : HelloRequest → Except String Bytes
  | probe requested transports flavors preferred =>
    buildProbeHelloWithTcpFlavors proto requested transports flavors preferred
  | session sessionID streamID requested transports =>
    buildSessionHelloWithTransport proto sessionID streamID requested transports
  | roomExchange exchange => buildRoomExchangeHello proto (some exchange)

/-- The hello that `build` marshals. -/
def hello : HelloRequest → ClientHello
  | probe requested transports flavors preferred =>
    probeHello requested transports flavors preferred
  | session sessionID streamID requested transports =>
    sessionHello sessionID streamID requested transports
  | roomExchange exchange => roomExchangeHello exchange

/-- The type that `handleConnection` switches on. -/
def type : HelloRequest → ClientHelloType
  | probe .. => .probe
  | session .. => .session
  | roomExchange _ => .roomExchange

variable {proto} {request : HelloRequest} {bytes : Bytes}

theorem hello_version : request.hello.version = protocolVersion := by
  cases request <;> rfl

theorem hello_type : request.hello.type = request.type := by
  cases request <;> rfl

theorem build_marshals (built : request.build proto = .ok bytes) :
    proto.clientHello.marshal request.hello = .ok bytes := by
  cases request with
  | probe => exact built
  | session sessionID streamID requested transports =>
    simp only [build, buildSessionHelloWithTransport] at built
    split at built
    · cases built
    · exact built
  | roomExchange => exact built

theorem build_sessionID {sessionID : Bytes} {streamID : UInt8} {requested : TransportMode}
    {transports : List TransportMode}
    (built : (session sessionID streamID requested transports).build proto = .ok bytes) :
    sessionID.length = sessionIDLen := by
  simp only [build, buildSessionHelloWithTransport] at built
  split at built
  · cases built
  · rename_i wellSized
    exact not_not.mp wellSized

theorem hello_parses (lawful : proto.clientHello.Lawful)
    (built : request.build proto = .ok bytes) :
    parseClientHelloMessage proto bytes = .ok request.hello := by
  apply parseClientHelloMessage_marshal proto lawful (build_marshals built)
  · rw [hello_version]
    decide
  · rw [hello_type]
    cases request <;> exact not_eq_of_beq_eq_false rfl

theorem streamID_fits (streamID : UInt8) : ¬ streamID.toUInt32 > 255 := by
  have small := streamID.toNat_lt
  rw [gt_iff_lt, UInt32.lt_iff_toNat_lt]
  simp only [UInt8.toNat_toUInt32, UInt32.reduceToNat]
  omega

/-- The acceptor takes what the probe and session builders make. -/
theorem hello_valid (built : request.build proto = .ok bytes)
    (notRoom : ∀ exchange, request ≠ .roomExchange exchange) :
    validateClientHello request.hello = .ok () := by
  cases request with
  | probe => rfl
  | session sessionID streamID requested transports =>
    have wellSized := build_sessionID built
    simp [validateClientHello, validateHelloShape, hello, sessionHello, wellSized,
      streamID_fits, ClientHelloType.session, ClientHelloType.probe]
  | roomExchange exchange => exact absurd rfl (notRoom exchange)

theorem roomExchange_invalid (exchange : RoomDataExchange) :
    validateClientHello (roomExchange exchange).hello =
      .error "unsupported client hello type: CLIENT_HELLO_TYPE_ROOM_EXCHANGE" := by
  rfl

end HelloRequest

end VkTurn.SessionProto.MuV1
