import VkTurn.SessionProto.MuV1
import VkTurn.Text.Trim

/-! # The client's TCP negotiation

`createTCPSmuxSession` from the end of the DTLS handshake on.  It waits once, for the server's
hello, so it is two functions: `startNegotiation` up to that read, and one for each way in which
the read ends.
-/

namespace VkTurn.Client

open VkTurn.SessionProto VkTurn.SessionProto.MuV1 VkTurn.Text

/-- `override` is the value of `currentTcpFlavorOverride`. -/
def preferredFlavorFromOverride (override : String) (supported : List TcpTransportFlavor) :
    TcpTransportFlavor :=
  if override = "direct" then .directSmux
  else if override = "legacy" then .legacyKcpSmux
  else supported.headD .unspecified

def supportedFlavors : List TcpTransportFlavor := [.directSmux, .legacyKcpSmux]

/-- The hello of `negotiateMainlineTCPTransport`. -/
def tcpProbe (override : String) : HelloRequest :=
  .probe .tcp [.tcp] supportedFlavors (preferredFlavorFromOverride override supportedFlavors)

def looksLikePlainTCPServerError (error : String) : Bool :=
  ["timeout", "deadline exceeded", "cannot parse", "invalid wire-format", "unexpected eof",
    "connection reset"].any (containsLower error)

/-- What `negotiateMainlineTCPTransport` makes of the server's hello. -/
def checkServerHello (override : String) (serverHello : ServerHello) :
    Except String TcpTransportFlavor :=
  if serverHello.version ≠ protocolVersion then
    .error ("mainline TCP transport requires mu/v1, got v" ++ toString serverHello.version)
  else if serverHello.error ≠ "" then
    .error ("server rejected TCP transport: " ++ serverHello.error)
  else if serverHello.selectedTransport ≠ .tcp then
    .error ("server selected transport " ++ serverHello.selectedTransport.string ++
      " instead of TCP")
  else
    let flavor := serverHello.selectedTcpFlavor
    let flavor := if flavor = .unspecified then .legacyKcpSmux else flavor
    .ok (if override = "legacy" then .legacyKcpSmux else flavor)

/-! ## The phases of a connection -/

/-- The deadlines that are set on the connection. -/
structure Deadlines where
  read : Bool := false
  write : Bool := false
  deriving DecidableEq

inductive TcpPhase where
  | idle
  | waiting (deadlines : Deadlines)
  | failed (error : String)
  /-- The session uses the flavor of the server's hello. -/
  | negotiated (flavor : TcpTransportFlavor) (deadlines : Deadlines)
  /-- The session uses KCP because the negotiation was skipped or given up. -/
  | fellBack (deadlines : Deadlines)
  deriving DecidableEq

/-- The flavor of the smux session that the client returned, and the deadlines left on its
    connection. -/
def TcpPhase.session? : TcpPhase → Option (TcpTransportFlavor × Deadlines)
  | .negotiated flavor deadlines => some (flavor, deadlines)
  | .fellBack deadlines => some (.legacyKcpSmux, deadlines)
  | _ => none

/-- The errors of setting up the session on the connection. -/
structure Opening where
  kcpError : Option String := none
  smuxError : Option String := none
  deriving DecidableEq

def Opening.error (opening : Opening) (flavor : TcpTransportFlavor) : Option String :=
  if flavor = .directSmux then opening.smuxError.map ("direct smux client: " ++ ·)
  else
    match opening.kcpError with
    | some error => some ("KCP session: " ++ error)
    | none => opening.smuxError.map ("smux client: " ++ ·)

/-- `next` is the phase in which the client has its session. -/
def openSession (opening : Opening) (flavor : TcpTransportFlavor) (next : TcpPhase) : TcpPhase :=
  match opening.error flavor with
  | some error => .failed error
  | none => next

/-- A failed negotiation: the phase of the client, and whether later ones are skipped. -/
def negotiationFailed (deadlines : Deadlines) (opening : Opening) (error : String) :
    TcpPhase × Bool :=
  if looksLikePlainTCPServerError error then
    (openSession opening .legacyKcpSmux (.fellBack deadlines), true)
  else (.failed error, false)

/-- The errors of the calls before the read of `exchangeServerHello`. -/
structure SendErrors where
  setWriteDeadline : Option String := none
  write : Option String := none
  clearWriteDeadline : Option String := none
  setReadDeadline : Option String := none
  deriving DecidableEq

/-- The packets written, the deadlines set, and the error of the first call that failed. -/
def sendHello (errors : SendErrors) (hello : Bytes) : List Bytes × Deadlines × Option String :=
  match errors.setWriteDeadline, errors.write, errors.clearWriteDeadline,
    errors.setReadDeadline with
  | some error, _, _, _ => ([], {}, some error)
  | none, some error, _, _ => ([], ⟨false, true⟩, some error)
  | none, none, some error, _ => ([hello], ⟨false, true⟩, some error)
  | none, none, none, some error => ([hello], {}, some error)
  | none, none, none, none => ([hello], ⟨true, false⟩, none)

def exchangeFailed (error : String) : String := "mainline TCP negotiation failed: " ++ error

structure Started where
  phase : TcpPhase
  written : List Bytes
  skipsLater : Bool
  deriving DecidableEq

variable (proto : Proto) (override : String)

/-- `skip` is `skipMainlineTCPNegotiation`. -/
def startNegotiation (skip : Bool) (errors : SendErrors) (opening : Opening) : Started :=
  if skip then ⟨openSession opening .legacyKcpSmux (.fellBack {}), [], false⟩
  else
    match (tcpProbe override).build proto with
    | .error error =>
      let (phase, skipsLater) :=
        negotiationFailed {} opening ("build TCP probe hello: " ++ error)
      ⟨phase, [], skipsLater⟩
    | .ok hello =>
      let (written, deadlines, error) := sendHello errors hello
      match error with
      | some error =>
        let (phase, skipsLater) := negotiationFailed deadlines opening (exchangeFailed error)
        ⟨phase, written, skipsLater⟩
      | none => ⟨.waiting deadlines, written, false⟩

/-- The read of the server's hello fails. -/
def readFailed (deadlines : Deadlines) (opening : Opening) (error : String) : TcpPhase × Bool :=
  negotiationFailed deadlines opening (exchangeFailed error)

/-- The read returns a packet, and its deadline is reset. -/
def readHello (deadlines : Deadlines) (opening : Opening) (packet : Bytes) : TcpPhase × Bool :=
  let deadlines := { deadlines with read := false }
  match parseServerHelloMessage proto packet with
  | .error error => readFailed deadlines opening error
  | .ok serverHello =>
    match checkServerHello override serverHello with
    | .error error => negotiationFailed deadlines opening error
    | .ok flavor => (openSession opening flavor (.negotiated flavor deadlines), false)

end VkTurn.Client
