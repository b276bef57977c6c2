import VkTurn.Server.Negotiation

/-! # The mainline data path

`runLegacyStream` forwards the client's datagrams to the UDP backend.  The first packet, which
the negotiation has already read, goes through `handleMainlineControlPacket` only; every later
packet goes through `handleControlHeartbeatPacket` as well.
-/

namespace VkTurn.Server

open VkTurn.SessionProto VkTurn.Text

/-! ## Heartbeats -/

structure HeartbeatMeta where
  sessionMode : String
  controlPath : String
  provider : String
  transport : TransportMode
  activeFlows : UInt32
  deriving DecidableEq

variable (proto : Proto)

/-- `controlpath.BuildHeartbeat`; the clock is an argument. -/
def buildHeartbeat (wallClockMs : Int64) (info : HeartbeatMeta) : Except String Bytes :=
  proto.heartbeat.marshal {
    version := 1
    wallClockMs := wallClockMs
    activeStreams := info.activeFlows
    online := true
    sessionMode := trimSpace info.sessionMode
    controlPath := trimSpace info.controlPath
    provider := trimSpace info.provider
    transport := info.transport }

/-- `none` when the packet is not a heartbeat request. -/
def handleControlHeartbeatPacket (wallClockMs : Int64) (writeError : Option String)
    (info : HeartbeatMeta) (payload : Bytes) : Option Handled :=
  match parseControlHeartbeatRequest payload with
  | none => none
  | some heartbeatPayload =>
    match parseHeartbeatMessage proto heartbeatPayload with
    | .error _ => some ⟨[], none⟩
    | .ok _ =>
      match buildHeartbeat proto wallClockMs info with
      | .error error => some ⟨[], some error⟩
      | .ok responsePayload =>
        some (writeRawPacket writeError (buildControlHeartbeatResponse responsePayload))

def mainlineHeartbeatMeta : HeartbeatMeta where
  sessionMode := "mainline"
  controlPath := "turn-dtls"
  provider := "turn"
  transport := .datagram
  activeFlows := 1

/-! ## The stream -/

/-- What was written to the two ends, and whether the stream goes on. -/
structure Relayed where
  toClient : List Bytes
  toBackend : List Bytes
  goesOn : Bool
  deriving DecidableEq

def Handled.relayed (handled : Handled) : Relayed :=
  ⟨handled.written, [], handled.error.isNone⟩

def writeBackend (backendError : Option String) (payload : Bytes) : Relayed :=
  match backendError with
  | some _ => ⟨[], [], false⟩
  | none => ⟨[], [payload], true⟩

variable (dtls : DtlsConn) (mode : Mode) (backends : TransportBackends) (wallClockMs : Int64)

/-- One turn of the loop that reads from the client. -/
def relayDatagram (arrival : Arrival) : Relayed :=
  match dtls.read readBufferSize arrival.payload with
  | .packet payload =>
    match handleMainlineControlPacket proto mode backends arrival.writeError payload with
    | some handled => handled.relayed
    | none =>
      match handleControlHeartbeatPacket proto wallClockMs arrival.writeError
        mainlineHeartbeatMeta payload with
      | some handled => handled.relayed
      | none => writeBackend arrival.backendError payload
  | _ => ⟨[], [], false⟩

/-- `relayed`, and what follows it if the stream goes on. -/
def Relayed.andThen (relayed rest : Relayed) : Relayed :=
  if relayed.goesOn then
    ⟨relayed.toClient ++ rest.toClient, relayed.toBackend ++ rest.toBackend, rest.goesOn⟩
  else relayed

def relayDatagrams : List Arrival → Relayed
  | [] => ⟨[], [], true⟩
  | arrival :: rest =>
    (relayDatagram proto dtls mode backends wallClockMs arrival).andThen (relayDatagrams rest)

/-- The first packet, if the negotiation read one. -/
def relayFirstPacket (writeError backendError : Option String) (firstPacket : Bytes) : Relayed :=
  if firstPacket = [] then ⟨[], [], true⟩
  else
    match handleMainlineControlPacket proto mode backends writeError firstPacket with
    | some handled => handled.relayed
    | none => writeBackend backendError firstPacket

def runLegacyStream (dialError writeError backendError : Option String) (firstPacket : Bytes)
    (arrivals : List Arrival) : Relayed :=
  match dialError with
  | some _ => ⟨[], [], false⟩
  | none =>
    (relayFirstPacket proto mode backends writeError backendError firstPacket).andThen
      (relayDatagrams proto dtls mode backends wallClockMs arrivals)

end VkTurn.Server
