import VkTurn.Server.HandshakeAgreement
import VkTurn.Server.Mainline

/-! # What a probe is told

A probe may ask for the capability directly, or in a control packet.  Two handlers answer it, each
by its own computation, and a third one accepts the session that the client opens afterwards: the
direct answer looks at the transport that the probe asks for, the wrapped one at the mode alone,
and the acceptor at the datagram backend.
-/

namespace VkTurn.Server

open VkTurn.SessionProto

section Answers

variable (proto : Proto) (mode : Mode) (backends : TransportBackends)

/-- The answers to a valid probe, as the server sends them when nothing fails to be written. -/
inductive ProbeReply (hello : ClientHello) : ServerHello → Prop
  | direct {phase : NegotiationPhase} {result : ReadResult} {wrappedSession : Bool}
      {bytes : Bytes} {reply : ServerHello} :
      (phase = .followUp ∨ ∃ handled, phase = .initial handled) →
      readInitialHelloOrLegacy proto mode result = .ok ⟨some hello, [], wrappedSession⟩ →
      bytes ∈ (onRead proto mode backends none phase result).written →
      parseServerHelloMessage proto bytes = .ok reply → ProbeReply hello reply
  | wrapped {handled : Bool} {payload bytes response : Bytes} {reply : ServerHello} :
      parseClientHelloMessage proto payload = .ok hello →
      bytes ∈ (onRead proto mode backends none (.initial handled)
        (.packet (buildControlProbeRequest payload))).written →
      parseControlProbeResponse bytes = some response →
      parseServerHelloMessage proto response = .ok reply → ProbeReply hello reply
  /-- A wrapped probe that arrives on the mainline data path. -/
  | inBand {dtls : DtlsConn} {wallClockMs : Int64} {payload bytes response : Bytes}
      {reply : ServerHello} :
      mode ≠ .mu → parseClientHelloMessage proto payload = .ok hello →
      dtls.read readBufferSize (buildControlProbeRequest payload) =
        .packet (buildControlProbeRequest payload) →
      bytes ∈ (relayDatagram proto dtls mode backends wallClockMs
        { payload := buildControlProbeRequest payload }).toClient →
      parseControlProbeResponse bytes = some response →
      parseServerHelloMessage proto response = .ok reply → ProbeReply hello reply

/-- Every valid session hello for the datagram transport opens a mu stream. -/
def AcceptsDatagramSessions : Prop :=
  ∀ hello writeError firstPacket wrappedSession, validateClientHelloForVersion hello = .ok () →
    hello.type = .session → requestedTransportForHello hello = .datagram →
    (dispatch proto mode backends writeError ⟨some hello, firstPacket, wrappedSession⟩).phase =
      .finished (.muStream hello wrappedSession)

/-- What a probe is told about mu sessions is true, and does not depend on the way it asks. -/
structure HonoursProbe (hello : ClientHello) : Prop where
  accepted : ∀ reply, ProbeReply proto mode backends hello reply → reply.muSupported = true →
    AcceptsDatagramSessions proto mode backends
  agree : ∀ reply other, ProbeReply proto mode backends hello reply →
    ProbeReply proto mode backends hello other → reply.muSupported = other.muSupported

/-- The server hello that `onProbe` sends. -/
def directAnswer (hello : ClientHello) : ServerHello :=
  let (selectedTransport, supportedTransports, errorText) :=
    selectTransportForHello mode backends hello
  let (selectedTcpFlavor, supportedTcpFlavors) := selectTcpFlavorForHello hello
  MuV1.serverHello (allowsMu mode && errorText == "") errorText true selectedTransport
    supportedTransports supportedTcpFlavors selectedTcpFlavor

/-- The server hello that `handleMainlineControlPacket` sends to a valid probe. -/
def wrappedAnswer (hello : ClientHello) : ServerHello :=
  let muSupported : Bool := mode ≠ .mainline
  MuV1.serverHello muSupported (if muSupported then "" else "server session mode is mainline") true
    .datagram (supportedTransportsForHello mode backends hello) [] .unspecified

end Answers

section Agreement

variable {proto : Proto} {mode : Mode} {backends : TransportBackends} {hello : ClientHello}

theorem version_of_valid (valid : validateClientHelloForVersion hello = .ok ()) :
    hello.version = MuV1.protocolVersion := by
  unfold validateClientHelloForVersion at valid
  split at valid
  · assumption
  · cases valid

/-- The direct handler writes the marshalled answer. -/
theorem onProbe_written (version : hello.version = MuV1.protocolVersion) {bytes : Bytes} :
    bytes ∈ (onProbe proto mode backends none hello).written ↔
      proto.serverHello.marshal (directAnswer mode backends hello) = .ok bytes := by
  simp only [onProbe, buildServerHelloForVersionWithTcpFlavor, if_pos version,
    MuV1.buildServerHelloWithTcpFlavor, directAnswer]
  split
  · rename_i error failed
    simp [failed]
  · rename_i payload marshalled
    rw [marshalled]
    simp only [writeRawPacket, Handled.turn, List.mem_singleton, Except.ok.injEq]
    exact eq_comm

/-- The handler of wrapped probes writes the marshalled answer, wrapped. -/
theorem handleMainlineControlPacket_written (mode : Mode) (backends : TransportBackends)
    (valid : validateClientHelloForVersion hello = .ok ()) (isProbe : hello.type = .probe)
    {payload : Bytes} (parsed : parseClientHelloMessage proto payload = .ok hello) :
    ∃ handled, handleMainlineControlPacket proto mode backends none
        (buildControlProbeRequest payload) = some handled ∧
      ∀ bytes, bytes ∈ handled.written ↔ ∃ response, bytes = buildControlProbeResponse response ∧
        proto.serverHello.marshal (wrappedAnswer mode backends hello) = .ok response := by
  have unwrapped : parseControlProbeRequest (buildControlProbeRequest payload) = some payload :=
    parseControlPacket_build .probeRequest payload
  simp only [handleMainlineControlPacket, unwrapped, parsed, valid, isProbe, ne_eq,
    not_true_eq_false, if_false, buildServerHelloForVersion,
    buildServerHelloForVersionWithTcpFlavor, if_pos (version_of_valid valid),
    MuV1.buildServerHelloWithTcpFlavor]
  split
  · rename_i error failed
    refine ⟨_, rfl, fun bytes => ?_⟩
    simp only [List.not_mem_nil, false_iff, not_exists, not_and]
    intro response _ marshalled
    cases failed.symm.trans marshalled
  · rename_i responsePayload marshalled
    refine ⟨_, rfl, fun bytes => ?_⟩
    simp only [writeRawPacket, List.mem_singleton]
    constructor
    · exact fun isWritten => ⟨responsePayload, isWritten, marshalled⟩
    · rintro ⟨response, isWritten, same⟩
      obtain rfl := Except.ok.inj (marshalled.symm.trans same)
      exact isWritten

/-- No message starts like a control packet. -/
theorem control_not_hello (rejects : proto.clientHello.RejectsReserved)
    (kind : ControlPacketKind) (payload : Bytes) :
    ∃ error, parseAndValidate proto (buildControlPacket kind payload) = .error error := by
  obtain ⟨error, failed⟩ := rejects 0x57 ([0x56, 0x4d, 0x58, 0x01] ++ [kind.byte] ++ payload)
    (by decide)
  refine ⟨error, ?_⟩
  have unmarshalled : proto.clientHello.unmarshal (buildControlPacket kind payload) =
      .error error := failed
  simp only [parseAndValidate, parseClientHelloMessage, unmarshalled, bind, Except.bind]

theorem dispatch_none_or {phase : NegotiationPhase} {result : ReadResult} {wrappedSession : Bool}
    (reads : phase = .followUp ∨ ∃ handled, phase = .initial handled)
    (read : readInitialHelloOrLegacy proto mode result = .ok ⟨some hello, [], wrappedSession⟩)
    (writeError : Option String) :
    onRead proto mode backends writeError phase result =
      dispatch proto mode backends writeError ⟨some hello, [], wrappedSession⟩ := by
  obtain rfl | ⟨handled, rfl⟩ := reads
  · simp only [onRead, read]
  · simp [onRead, read]

/-- A wrapped probe is answered unless the mode is mu, in which it ends the connection. -/
theorem onRead_wrapped (mode : Mode) (backends : TransportBackends)
    (rejects : proto.clientHello.RejectsReserved) (handled : Bool) (payload : Bytes) :
    (mode = .mu ∧ (onRead proto mode backends none (.initial handled)
      (.packet (buildControlProbeRequest payload))).written = []) ∨
    (mode ≠ .mu ∧ ∀ answered, handleMainlineControlPacket proto mode backends none
      (buildControlProbeRequest payload) = some answered →
        (onRead proto mode backends none (.initial handled)
          (.packet (buildControlProbeRequest payload))).written = answered.written) := by
  obtain ⟨error, failed⟩ := control_not_hello rejects .probeRequest payload
  have notSession : parseControlSessionRequest (buildControlProbeRequest payload) = none := by
    by_contra present
    obtain ⟨session, isSession⟩ := Option.ne_none_iff_exists'.mp present
    cases parseControlPacket_unique isSession (parseControlPacket_build .probeRequest payload)
  have failed : parseAndValidate proto (buildControlProbeRequest payload) = .error error := failed
  by_cases isMu : mode = .mu
  · subst isMu
    refine .inl ⟨rfl, ?_⟩
    simp [onRead, readInitialHelloOrLegacy, notSession, failed]
  · refine .inr ⟨isMu, fun answered isAnswered => ?_⟩
    have nonempty : buildControlProbeRequest payload ≠ [] := by
      simp [buildControlProbeRequest, buildControlPacket, controlPacketMagic]
    simp only [onRead, readInitialHelloOrLegacy, notSession, failed, if_neg isMu, nonempty, ne_eq,
      not_false_eq_true, and_self, if_true, isAnswered]
    unfold Handled.turn
    split
    · rfl
    · rfl

/-- What a probe is answered. -/
theorem ProbeReply.eq_answer {reply : ServerHello}
    (replied : ProbeReply proto mode backends hello reply) (lawful : proto.serverHello.Lawful)
    (rejects : proto.clientHello.RejectsReserved)
    (valid : validateClientHelloForVersion hello = .ok ()) (isProbe : hello.type = .probe) :
    reply = directAnswer mode backends hello ∨
      (mode ≠ .mu ∧ reply = wrappedAnswer mode backends hello) := by
  have unmarshalled {answer : ServerHello} {bytes : Bytes}
      (marshalled : proto.serverHello.marshal answer = .ok bytes) (version : answer.version = 1)
      (parsed : parseServerHelloMessage proto bytes = .ok reply) : reply = answer := by
    have same := parseServerHelloMessage_marshal proto lawful marshalled (by rw [version]; decide)
    exact Except.ok.inj (parsed.symm.trans same)
  have wrappedReply {handled : Handled} {payload bytes response : Bytes}
      (parsed : parseClientHelloMessage proto payload = .ok hello)
      (isHandled : handleMainlineControlPacket proto mode backends none
        (buildControlProbeRequest payload) = some handled) (written : bytes ∈ handled.written)
      (unwrapped : parseControlProbeResponse bytes = some response)
      (isReply : parseServerHelloMessage proto response = .ok reply) :
      reply = wrappedAnswer mode backends hello := by
    obtain ⟨answered, isAnswered, isWritten⟩ :=
      handleMainlineControlPacket_written mode backends valid isProbe parsed
    obtain rfl := Option.some.inj (isHandled.symm.trans isAnswered)
    obtain ⟨built, rfl, marshalled⟩ := (isWritten bytes).mp written
    obtain rfl : built = response :=
      Option.some.inj ((parseControlPacket_build .probeResponse built).symm.trans unwrapped)
    exact unmarshalled marshalled rfl isReply
  cases replied with
  | direct reads read written parsed =>
    rw [dispatch_none_or reads read, dispatch_probe _ _ _ _ _ _ isProbe,
      onProbe_written (version_of_valid valid)] at written
    exact .inl (unmarshalled written rfl parsed)
  | @wrapped handled payload bytes response _ parsed written unwrapped isReply =>
    obtain ⟨_, isEmpty⟩ | ⟨notMu, answers⟩ :=
      onRead_wrapped mode backends rejects handled payload
    · rw [isEmpty] at written
      cases written
    · obtain ⟨answered, isAnswered, _⟩ :=
        handleMainlineControlPacket_written mode backends valid isProbe parsed
      rw [answers answered isAnswered] at written
      exact .inr ⟨notMu, wrappedReply parsed isAnswered written unwrapped isReply⟩
  | @inBand dtls wallClockMs payload bytes response _ notMu parsed read written unwrapped isReply =>
    obtain ⟨answered, isAnswered, _⟩ :=
      handleMainlineControlPacket_written mode backends valid isProbe parsed
    simp only [relayDatagram, read, isAnswered, Handled.relayed] at written
    exact .inr ⟨notMu, wrappedReply parsed isAnswered written unwrapped isReply⟩

/-! ## The acceptor -/

/-- A session hello for the datagram transport, as the client builds it. -/
def datagramSession : ClientHello :=
  MuV1.sessionHello (List.replicate 16 0) 0 .datagram [.datagram]

theorem refused_no_muStream (handled : Handled) (branch : Branch) (wrappedSession : Bool) :
    (handled.turn branch (.finished .closed)).phase ≠
      .finished (.muStream hello wrappedSession) := by
  unfold Handled.turn
  split
  · simp
  · simp

/-- A session is opened when the mode allows it and its transport is selected without an error. -/
theorem onSession_opens {writeError : Option String} {wrappedSession : Bool} :
    (onSession proto mode backends writeError hello wrappedSession).phase =
        .finished (.muStream hello wrappedSession) ↔
      mode ≠ .mainline ∧ (selectTransportForHello mode backends hello).2.2 = "" := by
  simp only [onSession]
  by_cases isMainline : mode = .mainline
  · rw [if_pos isMainline]
    simp [refused_no_muStream, isMainline]
  · rw [if_neg isMainline]
    by_cases refused : (selectTransportForHello mode backends hello).2.2 = ""
    · simp [refused, isMainline]
    · simp [refused, refused_no_muStream]

theorem selectTransportForHello_datagram (requested : requestedTransportForHello hello = .datagram) :
    (selectTransportForHello mode backends hello).2.2 = "" ↔ backends.supportsDatagram = true := by
  have notTcp : TransportMode.datagram ≠ .tcp := by decide
  by_cases hasDatagram : backends.supportsDatagram = true
  · simp [selectTransportForHello, requested, notTcp, hasDatagram]
  · simp [selectTransportForHello, requested, notTcp, hasDatagram]

theorem acceptsDatagramSessions_iff :
    AcceptsDatagramSessions proto mode backends ↔
      mode ≠ .mainline ∧ backends.supportsDatagram = true := by
  constructor
  · intro accepts
    have accepted := accepts datagramSession none [] false rfl rfl rfl
    rw [dispatch_session _ _ _ _ _ _ rfl, onSession_opens] at accepted
    exact ⟨accepted.1, (selectTransportForHello_datagram rfl).mp accepted.2⟩
  · intro allows session writeError firstPacket wrappedSession _ isSession requested
    rw [dispatch_session _ _ _ _ _ _ isSession, onSession_opens]
    exact ⟨allows.1, (selectTransportForHello_datagram requested).mpr allows.2⟩

/-- The transport that the probe asks for is one that the server has. -/
def offersTransport (backends : TransportBackends) (hello : ClientHello) : Prop :=
  requestedTransportForHello hello = .datagram ∨
    (requestedTransportForHello hello = .tcp ∧ backends.supportsTCP = true)

theorem directAnswer_muSupported_auto (isProbe : hello.type = .probe)
    (hasDatagram : backends.supportsDatagram = true) :
    (directAnswer .auto backends hello).muSupported = true ↔ offersTransport backends hello := by
  have notSession : ¬ hello.type = .session := by rw [isProbe]; decide
  have notTcp : TransportMode.datagram ≠ .tcp := by decide
  have allows : allowsMu .auto = true := rfl
  simp only [directAnswer, MuV1.serverHello, allows, Bool.true_and, beq_iff_eq,
    selectTransportForHello, offersTransport]
  by_cases isTcp : requestedTransportForHello hello = .tcp
  · by_cases hasTcp : backends.supportsTCP = true
    · simp [isTcp, notSession, hasTcp]
    · simp [isTcp, notSession, hasTcp, notTcp.symm]
  · by_cases isDatagram : requestedTransportForHello hello = .datagram
    · simp [isDatagram, notTcp, hasDatagram]
    · simp [isTcp, isDatagram]

/-- In mu mode only the datagram transport is selected. -/
theorem directAnswer_muSupported_mu
    (supported : (directAnswer .mu backends hello).muSupported = true) :
    backends.supportsDatagram = true := by
  have selected : (selectTransportForHello .mu backends hello).2.2 = "" := by
    simpa [directAnswer, MuV1.serverHello, allowsMu] using supported
  by_cases isDatagram : requestedTransportForHello hello = .datagram
  · exact (selectTransportForHello_datagram isDatagram).mp selected
  · exfalso
    by_cases isTcp : requestedTransportForHello hello = .tcp
    · by_cases isSession : hello.type = .session
      · simp [selectTransportForHello, isTcp, isSession] at selected
      · simp [selectTransportForHello, isTcp, isSession] at selected
    · simp [selectTransportForHello, isTcp, isDatagram] at selected

/-! ## The agreement -/

/-- The two answers to a probe of the client can be marshalled. -/
def AnswersMarshal (proto : Proto) (mode : Mode) (backends : TransportBackends)
    (hello : ClientHello) : Prop :=
  (∃ bytes, proto.serverHello.marshal (directAnswer mode backends hello) = .ok bytes) ∧
    ∃ bytes, proto.serverHello.marshal (wrappedAnswer mode backends hello) = .ok bytes

theorem directReply_exists {payload : Bytes} (clientLawful : proto.clientHello.Lawful)
    (serverLawful : proto.serverHello.Lawful)
    (valid : validateClientHelloForVersion hello = .ok ()) (isProbe : hello.type = .probe)
    (marshalled : proto.clientHello.marshal hello = .ok payload)
    (answers : AnswersMarshal proto mode backends hello) :
    ProbeReply proto mode backends hello (directAnswer mode backends hello) := by
  obtain ⟨bytes, built⟩ := answers.1
  have raw : parseControlSessionRequest payload = none :=
    marshalled_not_control clientLawful marshalled .sessionReq
  have parsed : parseAndValidate proto payload = .ok hello := by
    have version := version_of_valid valid
    have parsed := parseClientHelloMessage_marshal proto clientLawful marshalled
      (by rw [version]; decide) (by rw [isProbe]; decide)
    simp [parseAndValidate, parsed, valid, bind, Except.bind, pure, Except.pure]
  have read : readInitialHelloOrLegacy proto mode (.packet payload) =
      .ok ⟨some hello, [], false⟩ := by
    simp [readInitialHelloOrLegacy, raw, parsed]
  have reads : NegotiationPhase.initial false = .followUp ∨
      ∃ handled, NegotiationPhase.initial false = .initial handled := .inr ⟨false, rfl⟩
  refine .direct reads read ?_
    (parseServerHelloMessage_marshal proto serverLawful built (show (1 : UInt32) ≠ 0 by decide))
  rw [dispatch_none_or reads read, dispatch_probe _ _ _ _ _ _ isProbe]
  exact (onProbe_written (version_of_valid valid)).mpr built

theorem wrappedReply_exists {payload : Bytes} (clientLawful : proto.clientHello.Lawful)
    (serverLawful : proto.serverHello.Lawful) (rejects : proto.clientHello.RejectsReserved)
    (valid : validateClientHelloForVersion hello = .ok ()) (isProbe : hello.type = .probe)
    (marshalled : proto.clientHello.marshal hello = .ok payload)
    (answers : AnswersMarshal proto mode backends hello) (notMu : mode ≠ .mu) :
    ProbeReply proto mode backends hello (wrappedAnswer mode backends hello) := by
  obtain ⟨response, built⟩ := answers.2
  have version := version_of_valid valid
  have parsed := parseClientHelloMessage_marshal proto clientLawful marshalled
    (by rw [version]; decide) (by rw [isProbe]; decide)
  obtain ⟨answered, isAnswered, isWritten⟩ :=
    handleMainlineControlPacket_written mode backends valid isProbe parsed
  have written := (isWritten _).mpr ⟨response, rfl, built⟩
  obtain ⟨isMu, _⟩ | ⟨_, answersRead⟩ := onRead_wrapped mode backends rejects false payload
  · exact absurd isMu notMu
  · rw [← answersRead answered isAnswered] at written
    exact .wrapped parsed written (parseControlPacket_build .probeResponse response)
      (parseServerHelloMessage_marshal proto serverLawful built (show (1 : UInt32) ≠ 0 by decide))

/-- Outside of mu mode the wrapped answer says what the mode allows. -/
theorem wrappedAnswer_muSupported :
    (wrappedAnswer mode backends hello).muSupported = decide (mode ≠ .mainline) := rfl

/-- A probe is told the truth on every path exactly when the server is not in auto mode, or has a
    datagram backend and the transport that the probe asks for. -/
theorem probe_honoured_iff {payload : Bytes} (clientLawful : proto.clientHello.Lawful)
    (serverLawful : proto.serverHello.Lawful) (rejects : proto.clientHello.RejectsReserved)
    (valid : validateClientHelloForVersion hello = .ok ()) (isProbe : hello.type = .probe)
    (marshalled : proto.clientHello.marshal hello = .ok payload)
    (answers : AnswersMarshal proto mode backends hello) :
    HonoursProbe proto mode backends hello ↔ mode = .mainline ∨ mode = .mu ∨
      (backends.supportsDatagram = true ∧ offersTransport backends hello) := by
  have answer {reply : ServerHello} (replied : ProbeReply proto mode backends hello reply) :=
    replied.eq_answer serverLawful rejects valid isProbe
  cases mode with
  | mainline =>
    refine iff_of_true ?_ (.inl rfl)
    have unsupported (reply : ServerHello)
        (replied : ProbeReply proto .mainline backends hello reply) :
        reply.muSupported = false := by
      obtain rfl | ⟨_, rfl⟩ := answer replied
      · rfl
      · rfl
    refine ⟨fun reply replied supported => ?_, fun reply other replied repliedOther => ?_⟩
    · cases (unsupported reply replied).symm.trans supported
    · rw [unsupported reply replied, unsupported other repliedOther]
  | mu =>
    refine iff_of_true ?_ (.inr (.inl rfl))
    have direct (reply : ServerHello) (replied : ProbeReply proto .mu backends hello reply) :
        reply = directAnswer .mu backends hello :=
      (answer replied).resolve_right fun wrapped => wrapped.1 rfl
    refine ⟨fun reply replied supported => ?_, fun reply other replied repliedOther => ?_⟩
    · rw [direct reply replied] at supported
      exact acceptsDatagramSessions_iff.mpr ⟨by decide, directAnswer_muSupported_mu supported⟩
    · rw [direct reply replied, direct other repliedOther]
  | auto =>
    constructor
    · intro honours
      have direct := directReply_exists clientLawful serverLawful valid isProbe marshalled answers
      have wrapped := wrappedReply_exists clientLawful serverLawful rejects valid isProbe marshalled
        answers (by decide)
      have accepts := acceptsDatagramSessions_iff.mp (honours.accepted _ wrapped rfl)
      have same := honours.agree _ _ direct wrapped
      exact .inr (.inr ⟨accepts.2, (directAnswer_muSupported_auto isProbe accepts.2).mp same⟩)
    · intro condition
      obtain ⟨hasDatagram, offers⟩ :
          backends.supportsDatagram = true ∧ offersTransport backends hello := by
        simpa using condition
      have supported (reply : ServerHello)
          (replied : ProbeReply proto .auto backends hello reply) : reply.muSupported = true := by
        obtain rfl | ⟨_, rfl⟩ := answer replied
        · exact (directAnswer_muSupported_auto isProbe hasDatagram).mpr offers
        · rfl
      refine ⟨fun _ _ _ => ?_, fun reply other replied repliedOther => ?_⟩
      · exact acceptsDatagramSessions_iff.mpr ⟨by decide, hasDatagram⟩
      · rw [supported reply replied, supported other repliedOther]

/-! ## A server without a datagram backend -/

def noDatagram : TransportBackends := ⟨"", "127.0.0.1:8443"⟩

def serverHelloBytes : Bytes := [0x08, 1, 0x10, 1]

def otherServerHelloBytes : Bytes := [0x08, 1, 0x1a, 1, 0x78]

/-- The codecs of one probe and of its two answers. -/
def probeProto (mode : Mode) (backends : TransportBackends) : Proto where
  clientHello := .single datagramProbe.hello datagramProbeBytes
  serverHello := .pair (wrappedAnswer mode backends datagramProbe.hello)
    (directAnswer mode backends datagramProbe.hello) serverHelloBytes otherServerHelloBytes
  heartbeat := .single {} []

theorem probe_honoured_iff_udp :
    HonoursProbe (probeProto .auto udpOnly) .auto udpOnly datagramProbe.hello ↔
      Mode.auto = .mainline ∨ Mode.auto = .mu ∨
        (udpOnly.supportsDatagram = true ∧ offersTransport udpOnly datagramProbe.hello) :=
  probe_honoured_iff (Codec.single_lawful (by decide))
    (Codec.pair_lawful (by decide) (by decide) (by decide))
    (Codec.single_rejectsReserved (by decide)) rfl rfl rfl ⟨⟨_, rfl⟩, ⟨_, rfl⟩⟩

/-- A server in auto mode that only has a TCP backend tells a wrapped probe that it supports mu,
    and refuses the session. -/
theorem tcp_only_server_promises_mu :
    ¬ ∀ (proto : Proto) (mode : Mode) (backends : TransportBackends) (hello : ClientHello)
      (payload : Bytes), proto.clientHello.Lawful → proto.serverHello.Lawful →
      proto.clientHello.RejectsReserved → validateClientHelloForVersion hello = .ok () →
      hello.type = .probe → proto.clientHello.marshal hello = .ok payload →
      HonoursProbe proto mode backends hello := by
  intro claimed
  have honours := claimed (probeProto .auto noDatagram) .auto noDatagram datagramProbe.hello
    datagramProbeBytes (Codec.single_lawful (by decide))
    (Codec.pair_lawful (by decide) (by decide) (by decide))
    (Codec.single_rejectsReserved (by decide)) rfl rfl rfl
  have promised : ProbeReply (probeProto .auto noDatagram) .auto noDatagram datagramProbe.hello
      (wrappedAnswer .auto noDatagram datagramProbe.hello) :=
    wrappedReply_exists (Codec.single_lawful (by decide))
      (Codec.pair_lawful (by decide) (by decide) (by decide))
      (Codec.single_rejectsReserved (by decide)) rfl rfl rfl ⟨⟨_, rfl⟩, ⟨_, rfl⟩⟩ (by decide)
  have accepts := acceptsDatagramSessions_iff.mp (honours.accepted _ promised rfl)
  exact absurd accepts.2 (by decide)

end Agreement

end VkTurn.Server
