import VkTurn.Client.TcpMode
import VkTurn.Server.HandshakeAgreement
import VkTurn.Transition.Machine
import Mathlib.Logic.Function.Basic

/-! # Agreement on the TCP flavor

The client's `createTCPSmuxSession` and the server's `handleConnection` at the two ends of DTLS
connections that lose, delay and reorder packets.  All connections of the client share the flag
that skips the negotiation.
-/

namespace VkTurn.Server

open VkTurn.SessionProto VkTurn.SessionProto.MuV1 VkTurn.Client VkTurn.Transition

/-! ## The machine -/

structure TcpConnection where
  client : TcpPhase := .idle
  server : NegotiationPhase := .start
  toServer : List Bytes := []
  toClient : List Bytes := []

structure TcpHandshakes where
  skipMainlineTCPNegotiation : Bool
  connections : Nat → TcpConnection

def TcpHandshakes.start : TcpHandshakes := ⟨false, fun _ => {}⟩

inductive TcpEvent where
  | clientStarts (errors : SendErrors) (opening : Opening)
  | clientReads (packet : Bytes) (clearReadDeadline : Option String) (opening : Opening)
  /-- The deadline of the read passes, or the read fails for another reason. -/
  | clientReadFails (error : String) (opening : Opening)
  /-- A packet of the client's session. -/
  | clientSends (packet : Bytes)
  | serverReads (packet : Bytes) (writeError : Option String)
  | serverTimesOut
  | serverReadFails (error : ConnError)
  | loseToServer (packet : Bytes)
  | loseToClient (packet : Bytes)

def helloBufferSize : Nat := 512

variable (proto : Proto) (dtls : DtlsConn) (mode : Mode) (backends : TransportBackends)
  (override : String)

/-- The client's read of the server's hello, up to the reset of its deadline. -/
def readPacket (result : ReadResult) (clearReadDeadline : Option String) : Except String Bytes :=
  match result, clearReadDeadline with
  | .packet packet, none => .ok packet
  | .packet _, some error => .error error
  | .timeout, _ => .error "timeout"
  | .failed .eof, _ => .error "EOF"
  | .failed (.text error), _ => .error error

def clientRead (deadlines : Deadlines) (opening : Opening) (packet : Except String Bytes) :
    TcpPhase × Bool :=
  match packet with
  | .error error => readFailed deadlines opening error
  | .ok packet => readHello proto override deadlines opening packet

/-- What the server does with the result of one read. -/
def serverTurn (connection : TcpConnection) (writeError : Option String) (result : ReadResult) :
    TcpConnection :=
  let turn := onRead proto mode backends writeError connection.server result
  { connection with server := turn.phase, toClient := connection.toClient ++ turn.written }

/-- What an event does to its connection, and whether it sets the skip flag. -/
def connectionStep (skip : Bool) (connection : TcpConnection) :
    TcpEvent → Option (TcpConnection × Bool)
  | .clientStarts errors opening =>
    if connection.client = .idle then
      let started := startNegotiation proto override skip errors opening
      some ({ connection with client := started.phase, toServer := started.written },
        started.skipsLater)
    else none
  | .clientReads packet clearReadDeadline opening =>
    match connection.client with
    | .waiting deadlines =>
      if packet ∈ connection.toClient then
        let (client, skips) := clientRead proto override deadlines opening
          (readPacket (dtls.read helloBufferSize packet) clearReadDeadline)
        some ({ connection with client := client, toClient := connection.toClient.erase packet },
          skips)
      else none
    | _ => none
  | .clientReadFails error opening =>
    match connection.client with
    | .waiting deadlines =>
      let (client, skips) := readFailed deadlines opening error
      some ({ connection with client := client }, skips)
    | _ => none
  | .clientSends packet =>
    match connection.client.session? with
    | some _ => some ({ connection with toServer := packet :: connection.toServer }, false)
    | none => none
  | .serverReads packet writeError =>
    if packet ∈ connection.toServer then
      some ({ serverTurn proto mode backends connection writeError
          (dtls.read readBufferSize packet) with
        toServer := connection.toServer.erase packet }, false)
    else none
  | .serverTimesOut => some (serverTurn proto mode backends connection none .timeout, false)
  | .serverReadFails error =>
    some (serverTurn proto mode backends connection none (.failed error), false)
  | .loseToServer packet =>
    some ({ connection with toServer := connection.toServer.erase packet }, false)
  | .loseToClient packet =>
    some ({ connection with toClient := connection.toClient.erase packet }, false)

def tcpHandshakes : Machine TcpHandshakes (Nat × TcpEvent) where
  step state label :=
    (connectionStep proto dtls mode backends override state.skipMainlineTCPNegotiation
      (state.connections label.1) label.2).map fun (connection, skips) =>
        { skipMainlineTCPNegotiation := state.skipMainlineTCPNegotiation || skips
          connections := Function.update state.connections label.1 connection }

/-! ## Agreement -/

/-- A session of the client and the server's TCP data path on one connection use the same flavor,
    and the handshake left no deadline behind. -/
def AgreesOnFlavor (connection : TcpConnection) : Prop :=
  ∀ flavor deadlines serverFlavor, connection.client.session? = some (flavor, deadlines) →
    connection.server = .finished (.tcp serverFlavor) →
    flavor = serverFlavor ∧ deadlines = {}

/-- The packet is a probe for which the server would switch to the TCP data path. -/
def SwitchesToTcp (packet : Bytes) : Prop :=
  ∃ hello firstPacket wrappedSession,
    readInitialHelloOrLegacy proto mode (dtls.read readBufferSize packet) =
      .ok ⟨some hello, firstPacket, wrappedSession⟩ ∧
    hello.type = .probe ∧ (selectTransportForHello mode backends hello).1 = .tcp

/-- The event ends the client's wait for the server's hello with an error. -/
def TcpEvent.EndsWait (error : String) : TcpEvent → Prop
  | .clientReadFails other _ => other = error
  | .clientReads packet clearReadDeadline _ =>
    readPacket (dtls.read helloBufferSize packet) clearReadDeadline = .error error
  | _ => False

/-- The client does not take a server that has switched for one that knows no negotiation, and a
    server does not switch for a client that goes on without the negotiation. -/
structure Synchronous (state : TcpHandshakes) (label : Nat × TcpEvent) : Prop where
  patient : ∀ flavor error, (state.connections label.1).server = .finished (.tcp flavor) →
    label.2.EndsWait dtls error →
    looksLikePlainTCPServerError (exchangeFailed error) = false
  prompt : ∀ packet writeError deadlines, label.2 = .serverReads packet writeError →
    (state.connections label.1).client = .fellBack deadlines →
    ¬ SwitchesToTcp proto dtls mode backends packet

variable {proto dtls mode backends override} {writeError : Option String}
  {flavor : TcpTransportFlavor}

/-! ## How the server switches -/

theorem turn_tcp {handled : Handled} {branch : Branch} {next : NegotiationPhase}
    (switched : (handled.turn branch next).phase = .finished (.tcp flavor)) :
    next = .finished (.tcp flavor) := by
  rw [Handled.turn] at switched
  split at switched
  · cases switched
  · exact switched

theorem onProbe_tcp {hello : ClientHello}
    (switched : (onProbe proto mode backends writeError hello).phase =
      .finished (.tcp flavor)) :
    (selectTransportForHello mode backends hello).1 = .tcp := by
  simp only [onProbe] at switched
  split at switched
  · cases switched
  · have next := turn_tcp switched
    split at next
    · cases next
    · split at next
      · assumption
      · cases next

theorem onSession_not_tcp {hello : ClientHello} {wrappedSession : Bool} :
    (onSession proto mode backends writeError hello wrappedSession).phase ≠
      .finished (.tcp flavor) := by
  intro switched
  simp only [onSession] at switched
  split at switched
  · cases turn_tcp switched
  · split at switched
    · cases turn_tcp switched
    · cases switched

theorem onNoHello_not_tcp {firstPacket : Bytes} :
    (onNoHello mode backends firstPacket).phase ≠ .finished (.tcp flavor) := by
  rw [onNoHello]
  split
  · simp
  · split <;> simp

/-- Only a probe leads to the TCP data path. -/
theorem dispatch_tcp {read : InitialRead}
    (switched : (dispatch proto mode backends writeError read).phase = .finished (.tcp flavor)) :
    ∃ hello, read.hello = some hello ∧ hello.type = .probe ∧
      (selectTransportForHello mode backends hello).1 = .tcp := by
  rw [dispatch] at switched
  cases isHello : read.hello with
  | none =>
    rw [isHello] at switched
    exact absurd switched onNoHello_not_tcp
  | some hello =>
    simp only [isHello] at switched
    split at switched
    · rename_i isProbe
      exact ⟨hello, rfl, isProbe, onProbe_tcp switched⟩
    · split at switched
      · simp only [handleRoomExchange] at switched
        split at switched <;> cases switched
      · split at switched
        · exact absurd switched onSession_not_tcp
        · split at switched
          · cases switched
          · exact absurd switched onNoHello_not_tcp

theorem onRead_tcp {phase : NegotiationPhase} {result : ReadResult}
    (switched : (onRead proto mode backends writeError phase result).phase =
      .finished (.tcp flavor)) :
    phase = .finished (.tcp flavor) ∨ ∃ hello firstPacket wrappedSession,
      readInitialHelloOrLegacy proto mode result =
        .ok ⟨some hello, firstPacket, wrappedSession⟩ ∧
      hello.type = .probe ∧ (selectTransportForHello mode backends hello).1 = .tcp := by
  have fromDispatch : ∀ read, readInitialHelloOrLegacy proto mode result = .ok read →
      (dispatch proto mode backends writeError read).phase = .finished (.tcp flavor) →
      ∃ hello firstPacket wrappedSession, readInitialHelloOrLegacy proto mode result =
          .ok ⟨some hello, firstPacket, wrappedSession⟩ ∧
        hello.type = .probe ∧ (selectTransportForHello mode backends hello).1 = .tcp := by
    intro read isRead dispatched
    obtain ⟨hello, isHello, isProbe, isTcp⟩ := dispatch_tcp dispatched
    refine ⟨hello, read.firstPacket, read.wrappedSession, ?_, isProbe, isTcp⟩
    rw [isRead, ← isHello]
  cases phase with
  | finished outcome => exact .inl switched
  | followUp =>
    simp only [onRead] at switched
    split at switched
    · cases switched
    · rename_i read isRead
      exact .inr (fromDispatch read isRead switched)
  | initial handledWrappedControlProbe =>
    simp only [onRead] at switched
    split at switched
    · split at switched <;> cases switched
    · rename_i read isRead
      split at switched
      · split at switched
        · cases turn_tcp switched
        · exact .inr (fromDispatch read isRead switched)
      · split at switched
        · cases switched
        · exact .inr (fromDispatch read isRead switched)

/-- A read that times out or fails does not switch. -/
theorem onRead_no_packet {phase : NegotiationPhase} {result : ReadResult}
    (noPacket : ∀ packet, result ≠ .packet packet)
    (switched : (onRead proto mode backends writeError phase result).phase =
      .finished (.tcp flavor)) : phase = .finished (.tcp flavor) := by
  rcases onRead_tcp switched with already | ⟨hello, firstPacket, wrappedSession, isRead, _⟩
  · exact already
  · cases result with
    | packet packet => exact absurd rfl (noPacket packet)
    | failed error => cases isRead
    | timeout =>
      rw [readInitialHelloOrLegacy] at isRead
      split at isRead <;> cases isRead

theorem onNoHello_written {firstPacket : Bytes} :
    (onNoHello mode backends firstPacket).written = [] := by
  rw [onNoHello]
  split
  · rfl
  · split <;> rfl

theorem onRead_no_packet_written {phase : NegotiationPhase} {result : ReadResult}
    (noPacket : ∀ packet, result ≠ .packet packet) :
    (onRead proto mode backends writeError phase result).written = [] := by
  have onlySilence : ∀ read, readInitialHelloOrLegacy proto mode result = .ok read →
      read = ⟨none, [], false⟩ := by
    intro read isRead
    cases result with
    | packet packet => exact absurd rfl (noPacket packet)
    | failed error => cases isRead
    | timeout =>
      rw [readInitialHelloOrLegacy] at isRead
      split at isRead <;> cases isRead
      rfl
  cases phase with
  | finished outcome => rfl
  | followUp =>
    simp only [onRead]
    split
    · rfl
    · rename_i read isRead
      rw [onlySilence read isRead]
      exact onNoHello_written
  | initial handledWrappedControlProbe =>
    simp only [onRead]
    split
    · split <;> rfl
    · rename_i read isRead
      rw [onlySilence read isRead, if_neg (by simp)]
      split
      · rfl
      · exact onNoHello_written

/-! ## The server's answer to the client's probe -/

/-- The packet is an answer of a server that has finished, and the client takes up the flavor to
    which the server has switched, or none. -/
def Honest (proto : Proto) (override : String) (server : NegotiationPhase) (packet : Bytes) :
    Prop :=
  ∃ serverHello outcome, parseServerHelloMessage proto packet = .ok serverHello ∧
    server = .finished outcome ∧
    ∀ flavor, checkServerHello override serverHello = .ok flavor ↔ outcome = .tcp flavor

/-- The client's own preference decides, so both ends name the same flavor. -/
theorem selectTcpFlavor_tcpProbe (override : String) :
    (selectTcpFlavorForHello (tcpProbe override).hello).1 =
      preferredFlavorFromOverride override supportedFlavors := by
  by_cases isDirect : override = "direct"
  · rw [tcpProbe, preferredFlavorFromOverride, if_pos isDirect]
    decide
  · by_cases isLegacy : override = "legacy"
    · rw [tcpProbe, preferredFlavorFromOverride, if_neg isDirect, if_pos isLegacy]
      decide
    · rw [tcpProbe, preferredFlavorFromOverride, if_neg isDirect, if_neg isLegacy]
      decide

/-- The client takes up the flavor that the server selected for its probe, or none. -/
theorem checkServerHello_answer {muSupported : Bool} {errorText : String}
    {selectedTransport : TransportMode} {supportedTransports : List TransportMode} :
    let selected := selectTcpFlavorForHello (tcpProbe override).hello
    checkServerHello override (serverHello muSupported errorText true selectedTransport
        supportedTransports selected.2 selected.1) = .ok flavor ↔
      errorText = "" ∧ selectedTransport = .tcp ∧ selected.1 = flavor := by
  intro selected
  have takenUp : (if override = "legacy" then TcpTransportFlavor.legacyKcpSmux else
      if selected.1 = .unspecified then .legacyKcpSmux else selected.1) = selected.1 := by
    rw [show selected.1 = _ from selectTcpFlavor_tcpProbe override, preferredFlavorFromOverride]
    by_cases isDirect : override = "direct"
    · rw [isDirect]
      decide
    · by_cases isLegacy : override = "legacy"
      · rw [isLegacy]
        decide
      · rw [if_neg isDirect, if_neg isLegacy, if_neg isLegacy]
        decide
  simp only [checkServerHello, serverHello]
  by_cases noError : errorText = ""
  · by_cases isTcp : selectedTransport = .tcp
    · simp only [noError, isTcp, ne_eq, not_true, if_false, Except.ok.injEq, true_and]
      exact Iff.of_eq (congrArg (· = flavor) takenUp)
    · simp [noError, isTcp]
  · simp [noError]

/-- A server that does not refuse the client's probe selects TCP. -/
theorem selectTransport_tcpProbe
    (noError : (selectTransportForHello mode backends (tcpProbe override).hello).2.2 = "") :
    (selectTransportForHello mode backends (tcpProbe override).hello).1 = .tcp := by
  have requested : requestedTransportForHello (tcpProbe override).hello = .tcp := rfl
  have notSession : ¬ (tcpProbe override).hello.type = .session := by
    show ¬ ClientHelloType.probe = .session
    decide
  simp only [selectTransportForHello] at noError ⊢
  rw [if_pos requested, if_neg notSession] at noError ⊢
  split at noError
  · exact absurd noError (show ¬ "server session mode does not support tcp transport" = "" by decide)
  · split at noError
    · exact absurd noError (show ¬ "server tcp transport is unavailable" = "" by decide)
    · rename_i notMu supported
      rw [if_neg notMu, if_neg supported]

/-- A written server hello is read back as the hello that was built. -/
theorem buildServerHello_parses (lawful : proto.serverHello.Lawful) {version : UInt32}
    {muSupported controlHeartbeatSupported : Bool} {errorText : String}
    {selectedTransport : TransportMode} {supportedTransports : List TransportMode}
    {supportedTcpFlavors : List TcpTransportFlavor} {bytes : Bytes}
    (built : buildServerHelloForVersionWithTcpFlavor proto version muSupported errorText
      controlHeartbeatSupported selectedTransport supportedTransports supportedTcpFlavors flavor =
        .ok bytes) :
    parseServerHelloMessage proto bytes =
      .ok (serverHello muSupported errorText controlHeartbeatSupported selectedTransport
        supportedTransports supportedTcpFlavors flavor) := by
  rw [buildServerHelloForVersionWithTcpFlavor] at built
  split at built
  · exact parseServerHelloMessage_marshal proto lawful built (show protocolVersion ≠ 0 by decide)
  · cases built

theorem onProbe_honest (lawful : proto.serverHello.Lawful) {packet : Bytes}
    (isWritten : packet ∈
      (onProbe proto mode backends writeError (tcpProbe override).hello).written) :
    Honest proto override
      (onProbe proto mode backends writeError (tcpProbe override).hello).phase packet := by
  have selectsTcp := @selectTransport_tcpProbe mode backends override
  simp only [onProbe] at isWritten ⊢
  generalize selectTransportForHello mode backends (tcpProbe override).hello = selection
    at isWritten selectsTcp ⊢
  split at isWritten
  · cases isWritten
  · rename_i payload built
    cases writeError with
    | some error => cases isWritten
    | none =>
      obtain rfl : packet = payload := List.mem_singleton.mp isWritten
      have read := buildServerHello_parses lawful built
      by_cases noError : selection.2.2 = ""
      · refine ⟨_, .tcp (selectTcpFlavorForHello (tcpProbe override).hello).1, read, ?_,
          fun flavor => checkServerHello_answer.trans ?_⟩
        · simp only [Handled.turn, writeRawPacket, noError, selectsTcp noError]
          rfl
        · simp [noError, selectsTcp noError]
      · refine ⟨_, .failed (.text selection.2.2), read, ?_,
          fun flavor => checkServerHello_answer.trans ?_⟩
        · simp only [Handled.turn, writeRawPacket]
          rw [if_pos noError]
        · simp [noError]

theorem onRead_tcpProbe_honest (lawful : proto.clientHello.Lawful)
    (serverLawful : proto.serverHello.Lawful) (dtlsLawful : dtls.Lawful) {bytes packet : Bytes}
    (built : (tcpProbe override).build proto = .ok bytes) (phase : NegotiationPhase)
    (isWritten : packet ∈ (onRead proto mode backends writeError phase
      (dtls.read readBufferSize bytes)).written) :
    Honest proto override (onRead proto mode backends writeError phase
      (dtls.read readBufferSize bytes)).phase packet := by
  have notRoomExchange : (tcpProbe override).type ≠ .roomExchange := by
    show ClientHelloType.probe ≠ .roomExchange
    decide
  have parsed := (parseAndValidate_eq_ok lawful built).mpr notRoomExchange
  by_cases fits : bytes.length ≤ readBufferSize
  · have isRead : readInitialHelloOrLegacy proto mode (dtls.read readBufferSize bytes) =
        .ok ⟨some (tcpProbe override).hello, [], false⟩ := by
      rw [dtlsLawful.fits _ _ fits]
      exact (readInitial_raw lawful built).mpr parsed
    have dispatched : dispatch proto mode backends writeError
        ⟨some (tcpProbe override).hello, [], false⟩ =
          onProbe proto mode backends writeError (tcpProbe override).hello :=
      dispatch_probe _ _ _ _ _ _ rfl
    cases phase with
    | finished outcome => cases isWritten
    | followUp =>
      simp only [onRead, isRead, dispatched] at isWritten ⊢
      exact onProbe_honest serverLawful isWritten
    | initial handledWrappedControlProbe =>
      simp only [onRead, isRead] at isWritten ⊢
      rw [if_neg (by simp), if_neg (by simp), dispatched] at isWritten ⊢
      exact onProbe_honest serverLawful isWritten
  · -- A probe that does not fit the server's buffer is an error there, and nothing is written.
    obtain ⟨message, failed⟩ := dtlsLawful.tooSmall _ _ (Nat.lt_of_not_le fits)
    have isError : readInitialHelloOrLegacy proto mode (dtls.read readBufferSize bytes) =
        .error (.text message) := by rw [failed, readInitialHelloOrLegacy]
    cases phase with
    | finished outcome => cases isWritten
    | followUp =>
      simp only [onRead, isError] at isWritten
      cases isWritten
    | initial handledWrappedControlProbe =>
      simp only [onRead, isError] at isWritten
      split at isWritten <;> cases isWritten

/-! ## The invariant of a connection -/

def NotTcp (server : NegotiationPhase) : Prop := ∀ flavor, server ≠ .finished (.tcp flavor)

/-- Until the client has its session only its probe is under way to the server, and everything
    under way to the client is an honest answer. -/
structure Negotiating (proto : Proto) (override : String) (connection : TcpConnection) : Prop where
  probeOnly : ∀ packet ∈ connection.toServer, (tcpProbe override).build proto = .ok packet
  honest : ∀ packet ∈ connection.toClient, Honest proto override connection.server packet

def ConnectionInv (proto : Proto) (override : String) (connection : TcpConnection) : Prop :=
  match connection.client with
  | .idle => connection.toServer = [] ∧ NotTcp connection.server ∧
    ∀ packet ∈ connection.toClient, Honest proto override connection.server packet
  | .waiting deadlines => deadlines = ⟨true, false⟩ ∧ Negotiating proto override connection
  | .failed _ => True
  | .negotiated flavor deadlines =>
    deadlines = {} ∧ connection.server = .finished (.tcp flavor)
  | .fellBack _ => NotTcp connection.server

def HandshakesInv (proto : Proto) (override : String) (state : TcpHandshakes) : Prop :=
  ∀ index, ConnectionInv proto override (state.connections index)

theorem ConnectionInv.agrees {connection : TcpConnection}
    (inv : ConnectionInv proto override connection) : AgreesOnFlavor connection := by
  intro flavor deadlines serverFlavor isSession switched
  rw [ConnectionInv] at inv
  cases phase : connection.client with
  | idle => simp [phase, TcpPhase.session?] at isSession
  | waiting => simp [phase, TcpPhase.session?] at isSession
  | failed => simp [phase, TcpPhase.session?] at isSession
  | negotiated negotiated left =>
    simp only [phase] at inv isSession
    cases isSession
    refine ⟨?_, inv.1⟩
    rw [inv.2] at switched
    cases switched
    rfl
  | fellBack left =>
    simp only [phase] at inv
    exact absurd switched (inv serverFlavor)

/-- A server that has finished stays where it is, so its answers stay honest. -/
theorem Honest.onRead {phase : NegotiationPhase} {packet : Bytes} {result : ReadResult}
    (honest : Honest proto override phase packet) :
    Honest proto override (onRead proto mode backends writeError phase result).phase packet := by
  obtain ⟨serverHello, outcome, parsed, finished, agrees⟩ := honest
  refine ⟨serverHello, outcome, parsed, ?_, agrees⟩
  rw [finished]
  rfl

theorem mem_serverTurn {connection : TcpConnection} {result : ReadResult} {packet : Bytes}
    (honest : ∀ packet ∈ connection.toClient, Honest proto override connection.server packet)
    (answers : ∀ packet ∈ (onRead proto mode backends writeError connection.server result).written,
      Honest proto override
        (onRead proto mode backends writeError connection.server result).phase packet)
    (isUnderWay : packet ∈
      (serverTurn proto mode backends connection writeError result).toClient) :
    Honest proto override (serverTurn proto mode backends connection writeError result).server
      packet := by
  rcases List.mem_append.mp isUnderWay with isOld | isNew
  · exact (honest packet isOld).onRead
  · exact answers packet isNew

theorem inv_serverSilence {connection : TcpConnection} {result : ReadResult}
    (inv : ConnectionInv proto override connection)
    (noPacket : ∀ packet, result ≠ .packet packet) :
    ConnectionInv proto override
      (serverTurn proto mode backends connection writeError result) := by
  have noAnswers : ∀ packet ∈
      (onRead proto mode backends writeError connection.server result).written,
      Honest proto override
        (onRead proto mode backends writeError connection.server result).phase packet := by
    rw [onRead_no_packet_written noPacket]
    intro packet isWritten
    cases isWritten
  have staysNotTcp : NotTcp connection.server →
      NotTcp (serverTurn proto mode backends connection writeError result).server :=
    fun notTcp flavor switched => notTcp flavor (onRead_no_packet noPacket switched)
  have sameClient : (serverTurn proto mode backends connection writeError result).client =
      connection.client := rfl
  rw [ConnectionInv] at inv ⊢
  rw [sameClient]
  cases phase : connection.client with
  | idle =>
    simp only [phase] at inv
    exact ⟨inv.1, staysNotTcp inv.2.1, fun packet => mem_serverTurn inv.2.2 noAnswers⟩
  | waiting deadlines =>
    simp only [phase] at inv
    exact ⟨inv.1, inv.2.probeOnly, fun packet => mem_serverTurn inv.2.honest noAnswers⟩
  | failed error => trivial
  | negotiated flavor deadlines =>
    simp only [phase] at inv
    refine ⟨inv.1, ?_⟩
    rw [serverTurn, inv.2]
    rfl
  | fellBack deadlines =>
    simp only [phase] at inv
    exact staysNotTcp inv

theorem inv_serverReads {connection : TcpConnection} {packet : Bytes}
    (lawful : proto.clientHello.Lawful) (serverLawful : proto.serverHello.Lawful)
    (dtlsLawful : dtls.Lawful) (inv : ConnectionInv proto override connection)
    (isUnderWay : packet ∈ connection.toServer)
    (prompt : ∀ deadlines, connection.client = .fellBack deadlines →
      ¬ SwitchesToTcp proto dtls mode backends packet) :
    ConnectionInv proto override { serverTurn proto mode backends connection writeError
        (dtls.read readBufferSize packet) with
      toServer := connection.toServer.erase packet } := by
  rw [ConnectionInv] at inv ⊢
  show (match connection.client with
    | .idle => _ | .waiting _ => _ | .failed _ => _ | .negotiated _ _ => _ | .fellBack _ => _)
  cases phase : connection.client with
  | idle =>
    simp only [phase] at inv
    rw [inv.1] at isUnderWay
    cases isUnderWay
  | waiting deadlines =>
    simp only [phase] at inv
    refine ⟨inv.1, fun other isOther => inv.2.probeOnly other (List.mem_of_mem_erase isOther),
      fun other => mem_serverTurn inv.2.honest ?_⟩
    intro answer isAnswer
    exact onRead_tcpProbe_honest lawful serverLawful dtlsLawful
      (inv.2.probeOnly packet isUnderWay) connection.server isAnswer
  | failed error => trivial
  | negotiated flavor deadlines =>
    simp only [phase] at inv
    refine ⟨inv.1, ?_⟩
    rw [serverTurn, inv.2]
    rfl
  | fellBack deadlines =>
    simp only [phase] at inv
    intro flavor switched
    rcases onRead_tcp switched with already | switches
    · exact inv flavor already
    · exact prompt deadlines phase switches

/-! ## The invariant over the client's steps -/

theorem inv_openSession {connection : TcpConnection} {opening : Opening} {next : TcpPhase}
    (inv : ConnectionInv proto override { connection with client := next }) :
    ConnectionInv proto override
      { connection with client := openSession opening flavor next } := by
  rw [openSession]
  split
  · trivial
  · exact inv

/-- A client that gives up on a server that has not switched. -/
theorem inv_negotiationFailed {connection : TcpConnection} {deadlines : Deadlines}
    {opening : Opening} {error : String}
    (notSwitched : looksLikePlainTCPServerError error = true → NotTcp connection.server) :
    ConnectionInv proto override
      { connection with client := (negotiationFailed deadlines opening error).1 } := by
  rw [negotiationFailed]
  split
  · rename_i plain
    exact inv_openSession (notSwitched plain)
  · trivial

theorem inv_start {connection : TcpConnection} {skip : Bool} {errors : SendErrors}
    {opening : Opening} (inv : ConnectionInv proto override connection)
    (isIdle : connection.client = .idle) :
    ConnectionInv proto override { connection with
      client := (startNegotiation proto override skip errors opening).phase
      toServer := (startNegotiation proto override skip errors opening).written } := by
  simp only [ConnectionInv, isIdle] at inv
  obtain ⟨_, notTcp, honest⟩ := inv
  rw [startNegotiation]
  cases skip with
  | true => exact @inv_openSession proto override _ { connection with toServer := [] } _ _ notTcp
  | false =>
    simp only [Bool.false_eq_true, if_false]
    cases built : (tcpProbe override).build proto with
    | error error =>
      exact @inv_negotiationFailed proto override { connection with toServer := [] } _ _ _
        fun _ => notTcp
    | ok hello =>
      simp only
      cases failed : (sendHello errors hello).2.2 with
      | some error =>
        exact @inv_negotiationFailed proto override
          { connection with toServer := (sendHello errors hello).1 } _ _ _ fun _ => notTcp
      | none =>
        have sent : sendHello errors hello = ([hello], ⟨true, false⟩, none) := by
          rw [sendHello] at failed ⊢
          split at failed <;> first | rfl | cases failed
        rw [sent]
        refine ⟨rfl, ?_, honest⟩
        intro packet isSent
        rw [List.mem_singleton.mp isSent, built]

theorem inv_clientRead {connection : TcpConnection} {deadlines : Deadlines} {opening : Opening}
    {packet : Except String Bytes} {toClient : List Bytes}
    (inv : ConnectionInv proto override connection)
    (isWaiting : connection.client = .waiting deadlines)
    (isAnswer : ∀ payload, packet = .ok payload → payload ∈ connection.toClient)
    (patient : ∀ flavor error, connection.server = .finished (.tcp flavor) →
      packet = .error error → looksLikePlainTCPServerError (exchangeFailed error) = false) :
    ConnectionInv proto override { connection with
      client := (clientRead proto override deadlines opening packet).1
      toClient := toClient } := by
  simp only [ConnectionInv, isWaiting] at inv
  obtain ⟨rfl, negotiating⟩ := inv
  cases packet with
  | error error =>
    rw [clientRead]
    refine @inv_negotiationFailed proto override { connection with toClient := toClient } _ _ _ ?_
    intro plain flavor switched
    rw [patient flavor error switched rfl] at plain
    cases plain
  | ok payload =>
    obtain ⟨serverHello, outcome, parsed, finished, agrees⟩ :=
      negotiating.honest payload (isAnswer payload rfl)
    simp only [clientRead, readHello, parsed]
    cases checked : checkServerHello override serverHello with
    | error error =>
      refine @inv_negotiationFailed proto override { connection with toClient := toClient } _ _ _
        fun _ flavor switched => ?_
      rw [finished] at switched
      cases switched
      rw [(agrees flavor).mpr rfl] at checked
      cases checked
    | ok flavor =>
      refine @inv_openSession proto override _ { connection with toClient := toClient } _ _ ?_
      refine ⟨rfl, ?_⟩
      show connection.server = _
      rw [finished, (agrees flavor).mp checked]

theorem inv_clientReads {connection : TcpConnection} {deadlines : Deadlines} {opening : Opening}
    {packet : Bytes} {clearReadDeadline : Option String} {toClient : List Bytes}
    (dtlsLawful : dtls.Lawful) (inv : ConnectionInv proto override connection)
    (isWaiting : connection.client = .waiting deadlines) (isUnderWay : packet ∈ connection.toClient)
    (patient : ∀ flavor error, connection.server = .finished (.tcp flavor) →
      readPacket (dtls.read helloBufferSize packet) clearReadDeadline = .error error →
      looksLikePlainTCPServerError (exchangeFailed error) = false) :
    ConnectionInv proto override { connection with
      client := (clientRead proto override deadlines opening
        (readPacket (dtls.read helloBufferSize packet) clearReadDeadline)).1
      toClient := toClient } := by
  refine inv_clientRead inv isWaiting ?_ patient
  intro payload isRead
  by_cases fits : packet.length ≤ helloBufferSize
  · rw [dtlsLawful.fits _ _ fits] at isRead
    cases clearReadDeadline with
    | none =>
      cases isRead
      exact isUnderWay
    | some error => cases isRead
  · obtain ⟨message, failed⟩ := dtlsLawful.tooSmall _ _ (Nat.lt_of_not_le fits)
    rw [failed] at isRead
    cases isRead

/-- Packets that are lost leave the invariant alone. -/
theorem inv_lose {connection : TcpConnection} {toServer toClient : List Bytes}
    (inv : ConnectionInv proto override connection)
    (fewerToServer : toServer ⊆ connection.toServer)
    (fewerToClient : toClient ⊆ connection.toClient) :
    ConnectionInv proto override
      { connection with toServer := toServer, toClient := toClient } := by
  rw [ConnectionInv] at inv ⊢
  cases phase : connection.client with
  | idle =>
    simp only [phase] at inv ⊢
    refine ⟨?_, inv.2.1, fun packet isAnswer => inv.2.2 packet (fewerToClient isAnswer)⟩
    rw [inv.1] at fewerToServer
    exact List.subset_nil.mp fewerToServer
  | waiting deadlines =>
    simp only [phase] at inv ⊢
    exact ⟨inv.1, fun packet isProbe => inv.2.probeOnly packet (fewerToServer isProbe),
      fun packet isAnswer => inv.2.honest packet (fewerToClient isAnswer)⟩
  | failed error => trivial
  | negotiated flavor deadlines => simpa only [phase] using inv
  | fellBack deadlines => simpa only [phase] using inv

/-- What the client sends over its session does not matter to the invariant. -/
theorem inv_send {connection : TcpConnection} {toServer : List Bytes}
    (inv : ConnectionInv proto override connection)
    (hasSession : connection.client.session?.isSome = true) :
    ConnectionInv proto override { connection with toServer := toServer } := by
  rw [ConnectionInv] at inv ⊢
  cases phase : connection.client with
  | idle => simp [phase, TcpPhase.session?] at hasSession
  | waiting deadlines => simp [phase, TcpPhase.session?] at hasSession
  | failed error => trivial
  | negotiated flavor deadlines => simpa only [phase] using inv
  | fellBack deadlines => simpa only [phase] using inv

/-! ## Runs -/

section Runs

variable (lawful : proto.clientHello.Lawful) (serverLawful : proto.serverHello.Lawful)
  (dtlsLawful : dtls.Lawful)

include lawful serverLawful dtlsLawful

theorem inv_connectionStep {state : TcpHandshakes} {label : Nat × TcpEvent}
    {next : TcpConnection} {skips : Bool}
    (inv : ConnectionInv proto override (state.connections label.1))
    (synchronous : Synchronous proto dtls mode backends state label)
    (stepped : connectionStep proto dtls mode backends override state.skipMainlineTCPNegotiation
      (state.connections label.1) label.2 = some (next, skips)) :
    ConnectionInv proto override next := by
  obtain ⟨index, event⟩ := label
  obtain ⟨patient, prompt⟩ := synchronous
  simp only at inv stepped patient prompt
  generalize state.connections index = connection at inv stepped patient prompt
  cases event with
  | clientStarts errors opening =>
    simp only [connectionStep] at stepped
    split at stepped
    · rename_i isIdle
      cases stepped
      exact inv_start inv isIdle
    · cases stepped
  | clientReads packet clearReadDeadline opening =>
    simp only [connectionStep] at stepped
    split at stepped
    · rename_i deadlines isWaiting
      split at stepped
      · rename_i isUnderWay
        cases stepped
        exact inv_clientReads dtlsLawful inv isWaiting isUnderWay patient
      · cases stepped
    · cases stepped
  | clientReadFails error opening =>
    simp only [connectionStep] at stepped
    split at stepped
    · rename_i deadlines isWaiting
      cases stepped
      refine @inv_clientRead proto override connection deadlines opening (.error error)
        connection.toClient inv isWaiting (by simp) ?_
      intro flavor other switched isError
      cases isError
      exact patient flavor error switched rfl
    · cases stepped
  | clientSends packet =>
    simp only [connectionStep] at stepped
    split at stepped
    · rename_i session isSession
      cases stepped
      exact inv_send inv (by rw [isSession]; rfl)
    · cases stepped
  | serverReads packet writeError =>
    simp only [connectionStep] at stepped
    split at stepped
    · rename_i isUnderWay
      cases stepped
      exact inv_serverReads lawful serverLawful dtlsLawful inv isUnderWay
        fun deadlines => prompt packet writeError deadlines rfl
    · cases stepped
  | serverTimesOut =>
    cases stepped
    exact inv_serverSilence inv (by simp)
  | serverReadFails error =>
    cases stepped
    exact inv_serverSilence inv (by simp)
  | loseToServer packet =>
    cases stepped
    exact inv_lose inv (List.erase_subset ..) (List.Subset.refl _)
  | loseToClient packet =>
    cases stepped
    exact inv_lose inv (List.Subset.refl _) (List.erase_subset ..)

theorem tcp_flavor_agrees {state : TcpHandshakes}
    (reached : (tcpHandshakes proto dtls mode backends override).ReachableWhile
      (Synchronous proto dtls mode backends) (· = .start) state) (index : Nat) :
    AgreesOnFlavor (state.connections index) := by
  have inv : HandshakesInv proto override state := by
    refine reached.invariant ?_ ?_
    · rintro state rfl index
      exact ⟨rfl, (by simp [NotTcp, TcpHandshakes.start, NegotiationPhase.start]),
        by simp [TcpHandshakes.start]⟩
    · intro state next label invariant synchronous stepped index
      obtain ⟨⟨connection, skips⟩, moved, isNext⟩ := Option.map_eq_some_iff.mp stepped
      rw [← isNext]
      by_cases own : index = label.1
      · rw [own]
        simp only [Function.update_self]
        exact inv_connectionStep lawful serverLawful dtlsLawful (invariant label.1) synchronous
          moved
      · simp only [Function.update_of_ne own]
        exact invariant index
  exact (inv index).agrees

end Runs

/-! ## An answer in time and a late answer -/

def tcpOnly : TransportBackends := ⟨"", "127.0.0.1:443"⟩

def tcpProbeBytes : Bytes := [0x08, 1, 0x10, 1, 0x28, 2, 0x32, 1, 2, 0x3a, 2, 2, 1, 0x40, 2]

def directHello : ServerHello :=
  serverHello true "" true .tcp [.tcp] supportedTcpFlavorsForServer .directSmux

def directHelloBytes : Bytes :=
  [0x08, 1, 0x10, 1, 0x20, 1, 0x28, 2, 0x32, 1, 2, 0x3a, 2, 2, 1, 0x40, 2]

def tcpProto : Proto where
  clientHello := .single (tcpProbe "auto").hello tcpProbeBytes
  serverHello := .single directHello directHelloBytes
  heartbeat := .single {} []

def autoHandshakes : Machine TcpHandshakes (Nat × TcpEvent) :=
  tcpHandshakes tcpProto wholePackets .auto tcpOnly "auto"

def AutoSynchronous : TcpHandshakes → Nat × TcpEvent → Prop :=
  Synchronous tcpProto wholePackets .auto tcpOnly

theorem tcp_flavor_agrees_direct :
    ∃ state, autoHandshakes.run .start [(0, .clientStarts {} {}),
        (0, .serverReads tcpProbeBytes none), (0, .clientReads directHelloBytes none {})] =
          some state ∧
      (state.connections 0).client = .negotiated .directSmux {} ∧
      AgreesOnFlavor (state.connections 0) := by
  refine ⟨_, rfl, rfl, ?_⟩
  refine @tcp_flavor_agrees tcpProto wholePackets .auto tcpOnly "auto"
    (Codec.single_lawful (by decide)) (Codec.single_lawful (by decide)) wholePackets_lawful _ ?_ 0
  have started := Machine.ReachableWhile.step
    (.start rfl : autoHandshakes.ReachableWhile AutoSynchronous (· = .start) _)
    (show AutoSynchronous _ (0, .clientStarts {} {}) from ⟨nofun, nofun⟩) rfl
  have answered := started.step
    (show AutoSynchronous _ (0, .serverReads tcpProbeBytes none) from
      ⟨nofun, fun _ _ _ _ fellBack => nomatch fellBack⟩) rfl
  exact answered.step (show AutoSynchronous _ (0, .clientReads directHelloBytes none {}) from
    ⟨fun _ _ _ ends => (nomatch ends), nofun⟩) rfl

/-- The server switches, its hello comes after the client's deadline, and the client goes on with
    KCP on a connection whose read deadline has passed. -/
theorem late_answer_splits_flavors :
    ¬ ∀ (proto : Proto) (dtls : DtlsConn) (mode : Mode) (backends : TransportBackends)
      (override : String) (state : TcpHandshakes), proto.clientHello.Lawful →
      proto.serverHello.Lawful → dtls.Lawful →
      (tcpHandshakes proto dtls mode backends override).Reachable (· = .start) state →
      ∀ index, AgreesOnFlavor (state.connections index) := by
  intro claimed
  have run : ∃ state, autoHandshakes.run .start [(0, .clientStarts {} {}),
        (0, .serverReads tcpProbeBytes none), (0, .clientReadFails "i/o timeout" {})] =
          some state ∧
      (state.connections 0).client = .fellBack ⟨true, false⟩ ∧
      (state.connections 0).server = .finished (.tcp .directSmux) :=
    ⟨_, rfl, rfl, rfl⟩
  obtain ⟨state, ran, client, server⟩ := run
  have agrees := claimed tcpProto wholePackets .auto tcpOnly "auto" state
    (Codec.single_lawful (by decide)) (Codec.single_lawful (by decide)) wholePackets_lawful
    (Machine.Reachable.run (.start rfl) ran) 0
  have isSession : (state.connections 0).client.session? =
      some (.legacyKcpSmux, ⟨true, false⟩) := by rw [client]; rfl
  exact absurd (agrees _ _ _ isSession server).1 (by decide)

end VkTurn.Server
