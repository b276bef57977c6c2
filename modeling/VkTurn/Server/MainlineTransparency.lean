import VkTurn.Server.HandshakeAgreement
import VkTurn.Server.Mainline

/-! # Transparency of the mainline data path

What reaches the backend on a connection that ends up in `runLegacyStream`, compared with the
datagrams of the client that carry no control header.
-/

namespace VkTurn.Server

open VkTurn.SessionProto

/-! ## What the negotiation consumes -/

section Negotiation

variable {proto : Proto} {mode : Mode} {backends : TransportBackends}
  {writeError : Option String} {phase : NegotiationPhase} {first : Bytes}

theorem turn_not_legacy {handled : Handled} {branch : Branch} {next : NegotiationPhase}
    (notLegacy : next ≠ .finished (.legacyStream first)) :
    (handled.turn branch next).phase ≠ .finished (.legacyStream first) := by
  unfold Handled.turn
  split
  · simp
  · exact notLegacy

theorem onProbe_not_legacy {hello : ClientHello} :
    (onProbe proto mode backends writeError hello).phase ≠ .finished (.legacyStream first) := by
  simp only [onProbe]
  split
  · simp
  · apply turn_not_legacy
    split
    · simp
    · split <;> simp

theorem onSession_not_legacy {hello : ClientHello} {wrapped : Bool} :
    (onSession proto mode backends writeError hello wrapped).phase ≠
      .finished (.legacyStream first) := by
  simp only [onSession]
  split
  · exact turn_not_legacy (by simp)
  · split
    · exact turn_not_legacy (by simp)
    · simp

theorem validateClientHelloForVersion_type {hello : ClientHello}
    (valid : validateClientHelloForVersion hello = .ok ()) :
    hello.type = .probe ∨ hello.type = .session := by
  unfold validateClientHelloForVersion at valid
  split at valid
  · exact (validateHelloShape_type valid).2
  · cases valid

theorem parseAndValidate_type {payload : Bytes} {hello : ClientHello}
    (parsed : parseAndValidate proto payload = .ok hello) :
    parseClientHelloMessage proto payload = .ok hello ∧
      (hello.type = .probe ∨ hello.type = .session) := by
  unfold parseAndValidate at parsed
  cases raw : parseClientHelloMessage proto payload with
  | error error => simp [raw, bind, Except.bind] at parsed
  | ok other =>
    cases valid : validateClientHelloForVersion other with
    | error error => simp [raw, valid, bind, Except.bind] at parsed
    | ok _ =>
      simp only [raw, valid, bind, Except.bind, pure, Except.pure, Except.ok.injEq] at parsed
      exact parsed ▸ ⟨rfl, validateClientHelloForVersion_type valid⟩

theorem dispatch_hello_not_legacy {hello : ClientHello} {firstPacket : Bytes} {wrapped : Bool}
    (type : hello.type = .probe ∨ hello.type = .session) :
    (dispatch proto mode backends writeError ⟨some hello, firstPacket, wrapped⟩).phase ≠
      .finished (.legacyStream first) := by
  simp only [dispatch]
  rcases type with probe | session
  · rw [if_pos probe]
    exact onProbe_not_legacy
  · rw [if_neg (by rw [session]; decide), if_neg (by rw [session]; decide), if_pos session]
    exact onSession_not_legacy

theorem onNoHello_legacy {firstPacket : Bytes}
    (legacy : (onNoHello mode backends firstPacket).phase = .finished (.legacyStream first)) :
    first = firstPacket := by
  unfold onNoHello at legacy
  split at legacy
  · simp at legacy
  · split at legacy
    · simp at legacy
    · simpa using legacy.symm

theorem onNoHello_finished (mode : Mode) (backends : TransportBackends) (firstPacket : Bytes) :
    ∃ outcome, (onNoHello mode backends firstPacket).phase = .finished outcome := by
  unfold onNoHello
  split
  · exact ⟨_, rfl⟩
  · split <;> exact ⟨_, rfl⟩

theorem onRead_timeout_legacy (unfinished : ∀ outcome, phase ≠ .finished outcome)
    (legacy : (onRead proto mode backends writeError phase .timeout).phase =
      .finished (.legacyStream first)) : first = [] := by
  cases phase with
  | finished outcome => exact absurd rfl (unfinished outcome)
  | followUp =>
    by_cases muMode : mode = .mu
    · simp [onRead, readInitialHelloOrLegacy, muMode] at legacy
    · simp only [onRead, readInitialHelloOrLegacy, muMode, if_false] at legacy
      exact onNoHello_legacy legacy
  | initial handled =>
    by_cases muMode : mode = .mu
    · simp [onRead, readInitialHelloOrLegacy, muMode] at legacy
    · cases handled with
      | true => simp [onRead, readInitialHelloOrLegacy, muMode] at legacy
      | false =>
        simp [onRead, readInitialHelloOrLegacy, muMode] at legacy
        exact onNoHello_legacy legacy

/-- A read that is no raw hello hands itself to the legacy stream, or it is a control packet
    that the negotiation keeps. -/
theorem onRead_packet (mode : Mode) (backends : TransportBackends)
    (writeError : Option String) {payload : Bytes} (unfinished : ∀ outcome, phase ≠ .finished outcome)
    (notHello : ∀ hello, parseClientHelloMessage proto payload ≠ .ok hello) :
    let next := (onRead proto mode backends writeError phase (.packet payload)).phase
    (∀ first, next = .finished (.legacyStream first) → first = payload) ∧
      ((∀ outcome, next ≠ .finished outcome) → HasControlHeader payload) := by
  have control : ∀ kind inner, parseControlPacket payload kind = some inner →
      HasControlHeader payload :=
    fun kind inner parsed => ⟨kind, inner, parseControlPacket_eq_some.mp parsed⟩
  cases session : parseControlSessionRequest payload with
  | some inner =>
    have header := control _ _ session
    refine ⟨?_, fun _ => header⟩
    intro first legacy
    cases parsed : parseAndValidate proto inner with
    | error error =>
      cases phase with
      | finished outcome => exact absurd rfl (unfinished outcome)
      | followUp => simp [onRead, readInitialHelloOrLegacy, session, parsed] at legacy
      | initial handled => simp [onRead, readInitialHelloOrLegacy, session, parsed] at legacy
    | ok hello =>
      have type := (parseAndValidate_type parsed).2
      cases phase with
      | finished outcome => exact absurd rfl (unfinished outcome)
      | followUp =>
        simp only [onRead, readInitialHelloOrLegacy, session, parsed] at legacy
        exact absurd legacy (dispatch_hello_not_legacy type)
      | initial handled =>
        simp [onRead, readInitialHelloOrLegacy, session, parsed] at legacy
        exact absurd legacy (dispatch_hello_not_legacy type)
  | none =>
    have refused : ∃ error, parseAndValidate proto payload = .error error := by
      cases parsed : parseAndValidate proto payload with
      | error error => exact ⟨error, rfl⟩
      | ok hello => exact absurd (parseAndValidate_type parsed).1 (notHello hello)
    obtain ⟨error, refused⟩ := refused
    by_cases muMode : mode = .mu
    · cases phase <;> simp [onRead, readInitialHelloOrLegacy, session, refused, muMode]
      exact absurd rfl (unfinished _)
    · have toBackend : ∀ firstPacket,
          (∀ first, (onNoHello mode backends firstPacket).phase = .finished (.legacyStream first) →
            first = firstPacket) ∧
          ((∀ outcome, (onNoHello mode backends firstPacket).phase ≠ .finished outcome) →
            HasControlHeader payload) := by
        intro firstPacket
        refine ⟨fun first => onNoHello_legacy, fun unending => ?_⟩
        obtain ⟨outcome, finished⟩ := onNoHello_finished mode backends firstPacket
        exact absurd finished (unending outcome)
      cases phase with
      | finished outcome => exact absurd rfl (unfinished outcome)
      | followUp =>
        simp only [onRead, readInitialHelloOrLegacy, session, refused, muMode, if_false]
        exact toBackend payload
      | initial handled =>
        simp only [onRead, readInitialHelloOrLegacy, session, refused, muMode, if_false]
        by_cases empty : payload = []
        · subst empty
          cases handled with
          | true => simp
          | false =>
            simp
            exact toBackend []
        · simp only [empty, ne_eq, not_false_eq_true, and_self, if_true]
          cases answered : handleMainlineControlPacket proto mode backends writeError payload with
          | none => exact toBackend payload
          | some answer =>
            have header : HasControlHeader payload := by
              unfold handleMainlineControlPacket at answered
              cases probe : parseControlProbeRequest payload with
              | none => simp [probe] at answered
              | some inner => exact control _ _ probe
            refine ⟨?_, fun _ => header⟩
            intro first legacy
            exact absurd legacy (turn_not_legacy (by simp))

variable {dtls : DtlsConn} {arrivals rest : List Arrival}

theorem negotiate_finished {outcome : Outcome} :
    negotiate proto mode backends dtls (.finished outcome) arrivals =
      (.finished outcome, arrivals) := by
  cases arrivals <;> rfl

/-- The datagrams that a negotiation reads before it hands the connection to the legacy stream:
    control packets, and then the first packet of the stream if there is one. -/
inductive Consumed (first : Bytes) : List Arrival → Prop
  | none : first = [] → Consumed first []
  | last {arrival : Arrival} : arrival.payload = first → Consumed first [arrival]
  | control {arrival : Arrival} {consumed : List Arrival} :
      HasControlHeader arrival.payload → Consumed first consumed →
      Consumed first (arrival :: consumed)

theorem negotiate_legacy (lawful : dtls.Lawful)
    (unfinished : ∀ outcome, phase ≠ .finished outcome)
    (notHello : ∀ arrival ∈ arrivals, ∀ hello,
      parseClientHelloMessage proto arrival.payload ≠ .ok hello)
    (negotiated : negotiate proto mode backends dtls phase arrivals =
      (.finished (.legacyStream first), rest)) :
    ∃ consumed, arrivals = consumed ++ rest ∧ Consumed first consumed := by
  induction arrivals generalizing phase with
  | nil =>
    simp only [negotiate, Prod.mk.injEq] at negotiated
    obtain ⟨legacy, isNil⟩ := negotiated
    exact ⟨[], by simp [← isNil], .none (onRead_timeout_legacy unfinished legacy)⟩
  | cons arrival arrivals inductionHypothesis =>
    have step : negotiate proto mode backends dtls phase (arrival :: arrivals) =
        if arrival.late then
          ((onRead proto mode backends none phase .timeout).phase, arrival :: arrivals)
        else negotiate proto mode backends dtls
          (onRead proto mode backends arrival.writeError phase
            (dtls.read readBufferSize arrival.payload)).phase arrivals := by
      cases phase with
      | finished outcome => exact absurd rfl (unfinished outcome)
      | initial handled => rfl
      | followUp => rfl
    rw [step] at negotiated
    split at negotiated
    · obtain ⟨legacy, isRest⟩ := Prod.mk.inj negotiated
      exact ⟨[], by simp [← isRest], .none (onRead_timeout_legacy unfinished legacy)⟩
    · by_cases fits : arrival.payload.length ≤ readBufferSize
      · rw [lawful.fits _ _ fits] at negotiated
        have kept := onRead_packet mode backends arrival.writeError unfinished
          (notHello arrival List.mem_cons_self)
        cases next : (onRead proto mode backends arrival.writeError phase
            (.packet arrival.payload)).phase with
        | finished outcome =>
          rw [next, negotiate_finished] at negotiated
          obtain ⟨sameOutcome, sameRest⟩ := Prod.mk.inj negotiated
          have isFirst := kept.1 first (next.trans sameOutcome)
          exact ⟨[arrival], by simp [sameRest], .last isFirst.symm⟩
        | initial handled =>
          rw [next] at negotiated
          have header := kept.2 (by simp [next])
          obtain ⟨consumed, split, isConsumed⟩ := inductionHypothesis (by simp)
            (fun other member => notHello other (List.mem_cons_of_mem _ member)) negotiated
          exact ⟨arrival :: consumed, by simp [split], .control header isConsumed⟩
        | followUp =>
          rw [next] at negotiated
          have header := kept.2 (by simp [next])
          obtain ⟨consumed, split, isConsumed⟩ := inductionHypothesis (by simp)
            (fun other member => notHello other (List.mem_cons_of_mem _ member)) negotiated
          exact ⟨arrival :: consumed, by simp [split], .control header isConsumed⟩
      · obtain ⟨message, tooSmall⟩ := lawful.tooSmall _ _ (Nat.lt_of_not_le fits)
        rw [tooSmall] at negotiated
        have failed : ∃ outcome, (onRead proto mode backends arrival.writeError phase
            (.failed (.text message))).phase = .finished outcome ∧
              outcome ≠ .legacyStream first := by
          cases phase with
          | finished outcome => exact absurd rfl (unfinished outcome)
          | initial handled => simp [onRead, readInitialHelloOrLegacy]
          | followUp => simp [onRead, readInitialHelloOrLegacy]
        obtain ⟨outcome, ends, notLegacy⟩ := failed
        rw [ends, negotiate_finished] at negotiated
        exact absurd (NegotiationPhase.finished.inj (Prod.mk.inj negotiated).1) notLegacy

end Negotiation

/-! ## What the stream relays -/

section Stream

variable (proto : Proto)

/-- The two replies of the stream can always be marshalled. -/
structure RepliesMarshal : Prop where
  serverHello : ∀ hello, ∃ bytes, proto.serverHello.marshal hello = .ok bytes
  heartbeat : ∀ heartbeat, ∃ bytes, proto.heartbeat.marshal heartbeat = .ok bytes

/-- No write fails while the datagram is handled. -/
structure Arrival.Healthy (arrival : Arrival) : Prop where
  write : arrival.writeError = none
  backend : arrival.backendError = none

def Arrival.fits (arrival : Arrival) : Bool := arrival.payload.length ≤ readBufferSize

/-- The two control kinds that the stream answers. -/
def isStreamRequest (payload : Bytes) : Bool :=
  (parseControlProbeRequest payload).isSome || (parseControlHeartbeatRequest payload).isSome

variable {proto} {dtls : DtlsConn} (mode : Mode) (backends : TransportBackends)
  (wallClockMs : Int64)

theorem isStreamRequest_control {payload : Bytes} (request : isStreamRequest payload = true) :
    HasControlHeader payload := by
  rw [hasControlHeader_iff]
  simp only [isStreamRequest, Bool.or_eq_true] at request
  rcases request with probe | heartbeat
  · exact ⟨.probeRequest, probe⟩
  · exact ⟨.heartbeatReq, heartbeat⟩

theorem handleMainlineControlPacket_other (proto : Proto) (mode : Mode)
    (backends : TransportBackends) (writeError : Option String) {payload : Bytes}
    (notProbe : parseControlProbeRequest payload = none) :
    handleMainlineControlPacket proto mode backends writeError payload = none := by
  simp only [handleMainlineControlPacket, notProbe]

theorem handleMainlineControlPacket_probe (marshals : RepliesMarshal proto)
    {payload inner : Bytes} (probe : parseControlProbeRequest payload = some inner) :
    ∃ written, handleMainlineControlPacket proto mode backends none payload =
      some ⟨written, none⟩ := by
  simp only [handleMainlineControlPacket, probe]
  cases parsed : parseClientHelloMessage proto inner with
  | error error => exact ⟨[], by simp⟩
  | ok hello =>
    cases valid : validateClientHelloForVersion hello with
    | error error =>
      simp only [valid]
      split
      · exact ⟨[], rfl⟩
      · exact ⟨_, rfl⟩
    | ok _ =>
      have version : hello.version = MuV1.protocolVersion := by
        unfold validateClientHelloForVersion at valid
        split at valid
        · assumption
        · cases valid
      simp only [valid, buildServerHelloForVersion, buildServerHelloForVersionWithTcpFlavor,
        version, if_true, MuV1.buildServerHelloWithTcpFlavor]
      split
      · exact ⟨[], rfl⟩
      · split
        · rename_i error failed
          obtain ⟨bytes, built⟩ := marshals.serverHello (MuV1.serverHello _ _ _ _ _ _ _)
          rw [built] at failed
          cases failed
        · exact ⟨_, rfl⟩

theorem handleControlHeartbeatPacket_other (proto : Proto) (wallClockMs : Int64)
    (writeError : Option String) (info : HeartbeatMeta) {payload : Bytes}
    (notHeartbeat : parseControlHeartbeatRequest payload = none) :
    handleControlHeartbeatPacket proto wallClockMs writeError info payload = none := by
  simp only [handleControlHeartbeatPacket, notHeartbeat]

theorem handleControlHeartbeatPacket_heartbeat (info : HeartbeatMeta)
    (marshals : RepliesMarshal proto) {payload inner : Bytes}
    (request : parseControlHeartbeatRequest payload = some inner) :
    ∃ written, handleControlHeartbeatPacket proto wallClockMs none info payload =
      some ⟨written, none⟩ := by
  simp only [handleControlHeartbeatPacket, request]
  cases parsed : parseHeartbeatMessage proto inner with
  | error error => exact ⟨[], by simp⟩
  | ok heartbeat =>
    cases built : buildHeartbeat proto wallClockMs info with
    | error error =>
      obtain ⟨bytes, marshalled⟩ := marshals.heartbeat _
      cases built.symm.trans marshalled
    | ok bytes =>
      simp only
      exact ⟨_, rfl⟩

theorem relayDatagram_fits (lawful : dtls.Lawful) (marshals : RepliesMarshal proto)
    {arrival : Arrival} (healthy : arrival.Healthy) (fits : arrival.fits = true) :
    (relayDatagram proto dtls mode backends wallClockMs arrival).goesOn = true ∧
      (relayDatagram proto dtls mode backends wallClockMs arrival).toBackend =
        if isStreamRequest arrival.payload then [] else [arrival.payload] := by
  have read := lawful.fits _ _ (of_decide_eq_true fits)
  cases isProbe : parseControlProbeRequest arrival.payload with
  | some inner =>
    obtain ⟨written, answered⟩ := handleMainlineControlPacket_probe mode backends marshals isProbe
    simp [relayDatagram, read, healthy.write, isStreamRequest, isProbe, answered, Handled.relayed]
  | none =>
    have other := handleMainlineControlPacket_other proto mode backends none isProbe
    cases isHeartbeat : parseControlHeartbeatRequest arrival.payload with
    | some inner =>
      obtain ⟨written, answered⟩ :=
        handleControlHeartbeatPacket_heartbeat wallClockMs mainlineHeartbeatMeta marshals isHeartbeat
      simp [relayDatagram, read, healthy.write, isStreamRequest, isHeartbeat, other, answered,
        Handled.relayed]
    | none =>
      have data := handleControlHeartbeatPacket_other proto wallClockMs none
        mainlineHeartbeatMeta isHeartbeat
      simp [relayDatagram, read, healthy.write, healthy.backend, isStreamRequest, isProbe,
        isHeartbeat, other, data, writeBackend]

theorem relayDatagram_oversize (lawful : dtls.Lawful) {arrival : Arrival}
    (oversize : arrival.fits = false) :
    relayDatagram proto dtls mode backends wallClockMs arrival = ⟨[], [], false⟩ := by
  obtain ⟨message, failed⟩ := lawful.tooSmall readBufferSize arrival.payload
    (Nat.lt_of_not_le (of_decide_eq_false oversize))
  simp [relayDatagram, failed]

/-- The stream forwards the datagrams before the first oversize one, without its requests. -/
theorem relayDatagrams_toBackend (lawful : dtls.Lawful) (marshals : RepliesMarshal proto)
    {arrivals : List Arrival} (healthy : ∀ arrival ∈ arrivals, arrival.Healthy) :
    (relayDatagrams proto dtls mode backends wallClockMs arrivals).toBackend =
      ((arrivals.takeWhile Arrival.fits).map Arrival.payload).filter (! isStreamRequest ·) := by
  induction arrivals with
  | nil => rfl
  | cons arrival arrivals inductionHypothesis =>
    have tailHealthy := fun other member => healthy other (List.mem_cons_of_mem arrival member)
    rw [relayDatagrams, Relayed.andThen]
    cases fits : arrival.fits with
    | false =>
      rw [relayDatagram_oversize mode backends wallClockMs lawful fits,
        List.takeWhile_cons_of_neg (by simp [fits])]
      rfl
    | true =>
      obtain ⟨goesOn, toBackend⟩ := relayDatagram_fits mode backends wallClockMs lawful marshals
        (healthy arrival List.mem_cons_self) fits
      rw [if_pos goesOn, List.takeWhile_cons_of_pos fits, List.map_cons, toBackend,
        inductionHypothesis tailHealthy]
      cases request : isStreamRequest arrival.payload <;> simp [request]

theorem relayFirstPacket_toBackend (marshals : RepliesMarshal proto) (first : Bytes) :
    (relayFirstPacket proto mode backends none none first).goesOn = true ∧
      (relayFirstPacket proto mode backends none none first).toBackend =
        if first = [] ∨ (parseControlProbeRequest first).isSome then [] else [first] := by
  by_cases empty : first = []
  · simp [relayFirstPacket, empty]
  · cases isProbe : parseControlProbeRequest first with
    | some inner =>
      obtain ⟨written, answered⟩ :=
        handleMainlineControlPacket_probe mode backends marshals isProbe
      simp [relayFirstPacket, empty, answered, Handled.relayed]
    | none =>
      have other := handleMainlineControlPacket_other proto mode backends none isProbe
      simp [relayFirstPacket, empty, other, writeBackend]

end Stream

/-! ## Transparency -/

def isData (payload : Bytes) : Bool := ¬ HasControlHeader payload

/-- The client's datagrams that carry no control header. -/
def dataDatagrams (arrivals : List Arrival) : List Bytes :=
  (arrivals.map Arrival.payload).filter isData

theorem isData_iff {payload : Bytes} : isData payload = true ↔ ¬ HasControlHeader payload := by
  simp [isData]

theorem control_nonempty {payload : Bytes} (header : HasControlHeader payload) :
    payload ≠ [] := by
  obtain ⟨kind, inner, rfl⟩ := header
  simp [buildControlPacket, controlPacketMagic]

theorem isData_nil : isData [] = true :=
  isData_iff.mpr fun header => control_nonempty header rfl

/-- The negotiation has read either no first packet or exactly that one besides control
    packets. -/
theorem consumed_data {first : Bytes} {consumed : List Arrival}
    (isConsumed : Consumed first consumed) :
    (first = [] ∧ dataDatagrams consumed = [] ∧ ∀ arrival ∈ consumed, arrival.payload ≠ []) ∨
    (dataDatagrams consumed = [first].filter isData ∧
      ((∀ arrival ∈ consumed, arrival.payload ≠ []) ↔ first ≠ [])) := by
  induction isConsumed with
  | none empty => exact .inl ⟨empty, rfl, by simp⟩
  | last isFirst =>
    refine .inr ⟨?_, by simp [isFirst]⟩
    simp [dataDatagrams, isFirst]
  | @control arrival consumed header _ inductionHypothesis =>
    have dropped : dataDatagrams (arrival :: consumed) = dataDatagrams consumed := by
      simp [dataDatagrams, isData, header]
    rw [dropped]
    simp only [List.mem_cons, forall_eq_or_imp, control_nonempty header, ne_eq, not_false_eq_true,
      true_and]
    exact inductionHypothesis

section Served

variable {rest : List Arrival}

/-- The datagrams up to the first that does not fit the read buffer, and the others. -/
theorem dataDatagrams_split (rest : List Arrival) :
    dataDatagrams rest = dataDatagrams (rest.takeWhile Arrival.fits) ++
      dataDatagrams (rest.dropWhile Arrival.fits) := by
  rw [dataDatagrams, dataDatagrams, dataDatagrams, ← List.filter_append, ← List.map_append,
    List.takeWhile_append_dropWhile]

theorem dataDatagrams_filter (arrivals : List Arrival) :
    (dataDatagrams arrivals).filter isData = dataDatagrams arrivals := by
  rw [dataDatagrams, List.filter_filter]
  simp

/-- Taking the stream's requests out leaves all data datagrams. -/
theorem data_of_forwarded (arrivals : List Arrival) :
    ((arrivals.map Arrival.payload).filter (! isStreamRequest ·)).filter isData =
      dataDatagrams arrivals := by
  rw [dataDatagrams, List.filter_filter]
  apply List.filter_congr
  intro payload _
  cases request : isStreamRequest payload with
  | false => simp
  | true =>
    have header := isStreamRequest_control request
    simp [isData, header]

theorem forwarded_eq_data_iff :
    ((rest.takeWhile Arrival.fits).map Arrival.payload).filter (! isStreamRequest ·) =
        dataDatagrams rest ↔
      (∀ arrival ∈ rest.takeWhile Arrival.fits, HasControlHeader arrival.payload →
        isStreamRequest arrival.payload = true) ∧
      ∀ arrival ∈ rest.dropWhile Arrival.fits, HasControlHeader arrival.payload := by
  constructor
  · intro same
    constructor
    · intro arrival member header
      by_contra stray
      have forwarded : arrival.payload ∈ dataDatagrams rest := by
        rw [← same, List.mem_filter]
        exact ⟨List.mem_map_of_mem member, by simpa using stray⟩
      exact isData_iff.mp (List.mem_filter.mp forwarded).2 header
    · intro arrival member
      by_contra notControl
      -- the data datagrams of both sides, so that those after the oversize one are none
      have lost : dataDatagrams (rest.dropWhile Arrival.fits) = [] := by
        have filtered := congrArg (List.filter isData) same
        rw [data_of_forwarded, dataDatagrams_filter] at filtered
        have parts := dataDatagrams_split rest
        rw [← filtered] at parts
        exact List.self_eq_append_right.mp parts
      have isLost : arrival.payload ∈ dataDatagrams (rest.dropWhile Arrival.fits) :=
        List.mem_filter.mpr ⟨List.mem_map_of_mem member, isData_iff.mpr notControl⟩
      rw [lost] at isLost
      cases isLost
  · intro clean
    obtain ⟨served, lost⟩ := clean
    have noneLost : dataDatagrams (rest.dropWhile Arrival.fits) = [] := by
      rw [dataDatagrams, List.filter_eq_nil_iff]
      intro payload member
      obtain ⟨arrival, isArrival, rfl⟩ := List.mem_map.mp member
      simp [isData, lost arrival isArrival]
    rw [dataDatagrams_split, noneLost, List.append_nil, dataDatagrams]
    apply List.filter_congr
    intro payload member
    obtain ⟨arrival, isArrival, rfl⟩ := List.mem_map.mp member
    cases request : isStreamRequest arrival.payload with
    | true =>
      have header := isStreamRequest_control request
      simp [isData, header]
    | false =>
      have notControl : ¬ HasControlHeader arrival.payload := by
        intro header
        rw [served arrival isArrival header] at request
        cases request
      simp [isData, notControl]

/-- A datagram that the negotiation swallowed is missing at the backend for good. -/
theorem forwarded_ne_swallowed :
    ((rest.takeWhile Arrival.fits).map Arrival.payload).filter (! isStreamRequest ·) ≠
      [] :: dataDatagrams rest := by
  intro same
  have filtered := congrArg (fun payloads => (payloads.filter isData).length) same
  simp only [data_of_forwarded, List.filter_cons, isData_nil, if_true, dataDatagrams_filter,
    List.length_cons] at filtered
  have parts := congrArg List.length (dataDatagrams_split rest)
  rw [List.length_append] at parts
  omega

end Served

/-- The conditions on the datagrams under which every data datagram, and nothing else, reaches
    the backend. -/
structure StreamClean (first : Bytes) (consumed rest : List Arrival) : Prop where
  /-- The negotiation does not read an empty datagram, which it takes for none. -/
  nonempty : ∀ arrival ∈ consumed, arrival.payload ≠ []
  /-- Only a wrapped probe is recognised in the first packet. -/
  firstPacket : HasControlHeader first → (parseControlProbeRequest first).isSome
  /-- Only wrapped probes and heartbeat requests are recognised later. -/
  served : ∀ arrival ∈ rest.takeWhile Arrival.fits, HasControlHeader arrival.payload →
    isStreamRequest arrival.payload = true
  /-- No data datagram comes with or after one that does not fit the buffer. -/
  lost : ∀ arrival ∈ rest.dropWhile Arrival.fits, HasControlHeader arrival.payload

theorem mainline_transparent_iff (proto : Proto) (dtls : DtlsConn) (mode : Mode)
    (backends : TransportBackends) (wallClockMs : Int64) (arrivals rest : List Arrival)
    (first : Bytes) (dtlsLawful : dtls.Lawful) (marshals : RepliesMarshal proto)
    (healthy : ∀ arrival ∈ arrivals, arrival.Healthy)
    (notHello : ∀ arrival ∈ arrivals, ∀ hello,
      parseClientHelloMessage proto arrival.payload ≠ .ok hello)
    (negotiated : negotiate proto mode backends dtls .start arrivals =
      (.finished (.legacyStream first), rest)) :
    (runLegacyStream proto dtls mode backends wallClockMs none none none first rest).toBackend =
        dataDatagrams arrivals ↔
      StreamClean first (arrivals.take (arrivals.length - rest.length)) rest := by
  obtain ⟨consumed, split, isConsumed⟩ := negotiate_legacy dtlsLawful
    (by simp [NegotiationPhase.start]) notHello negotiated
  have taken : arrivals.take (arrivals.length - rest.length) = consumed := by
    rw [split, List.length_append, Nat.add_sub_cancel, List.take_left]
  have restHealthy : ∀ arrival ∈ rest, arrival.Healthy := by
    intro arrival member
    exact healthy arrival (by rw [split]; exact List.mem_append_right _ member)
  obtain ⟨goesOn, firstForwarded⟩ := relayFirstPacket_toBackend mode backends marshals first
  have sent : dataDatagrams arrivals = dataDatagrams consumed ++ dataDatagrams rest := by
    rw [split, dataDatagrams, List.map_append, List.filter_append]
    rfl
  have clean : StreamClean first consumed rest ↔
      (∀ arrival ∈ consumed, arrival.payload ≠ []) ∧
      (HasControlHeader first → (parseControlProbeRequest first).isSome) ∧
      ((rest.takeWhile Arrival.fits).map Arrival.payload).filter (! isStreamRequest ·) =
        dataDatagrams rest := by
    rw [forwarded_eq_data_iff]
    exact ⟨fun clean => ⟨clean.1, clean.2, clean.3, clean.4⟩,
      fun clean => ⟨clean.1, clean.2.1, clean.2.2.1, clean.2.2.2⟩⟩
  rw [taken, clean, sent]
  simp only [runLegacyStream, Relayed.andThen, goesOn, if_true, firstForwarded,
    relayDatagrams_toBackend mode backends wallClockMs dtlsLawful marshals restHealthy]
  rcases consumed_data isConsumed with ⟨empty, noData, nonempty⟩ | ⟨data, nonempty⟩
  · have noHeader : ¬ HasControlHeader first := fun header => control_nonempty header empty
    rw [if_pos (.inl empty), noData, List.nil_append, List.nil_append]
    exact ⟨fun same => ⟨nonempty, fun header => absurd header noHeader, same⟩,
      fun clean => clean.2.2⟩
  · rw [data, nonempty]
    by_cases empty : first = []
    · simp [empty, isData_nil, forwarded_ne_swallowed]
    · by_cases header : HasControlHeader first
      · cases probe : parseControlProbeRequest first with
        | some inner => simp [empty, isData, header]
        | none =>
          -- a control packet at the head of the backend's datagrams is no datagram of `rest`
          have stray : ∀ payloads, first :: payloads ≠ dataDatagrams rest := by
            intro payloads same
            have member : first ∈ dataDatagrams rest := same ▸ List.mem_cons_self
            exact isData_iff.mp (List.mem_filter.mp member).2 header
          simp [empty, isData, header, stray]
      · have notProbe : parseControlProbeRequest first = none := by
          cases probe : parseControlProbeRequest first with
          | none => rfl
          | some inner =>
            exact absurd ⟨.probeRequest, inner, parseControlPacket_eq_some.mp probe⟩ header
        simp [empty, isData, header, notProbe]

/-! ## A heartbeat in a later and in the first position -/

/-- The request `{version: 1}` and its reply at clock 0. -/
def heartbeatCodec : Codec Heartbeat where
  marshal _ := .ok ([0x08, 1, 0x18, 1, 0x20, 1, 0x32, 8] ++ [109, 97, 105, 110, 108, 105, 110, 101] ++
    [0x3a, 9, 116, 117, 114, 110, 45, 100, 116, 108, 115] ++ [0x42, 4, 116, 117, 114, 110] ++
    [0x48, 1])
  unmarshal bytes := if bytes = [0x08, 1] then .ok { version := 1 } else .error "cannot parse"

def relayProto : Proto where
  clientHello := .single {} []
  serverHello := { Codec.single {} [] with marshal := fun _ => .ok [] }
  heartbeat := heartbeatCodec

theorem relayProto_marshals : RepliesMarshal relayProto :=
  ⟨fun _ => ⟨_, rfl⟩, fun _ => ⟨_, rfl⟩⟩

def heartbeatArrival : Arrival := { payload := buildControlHeartbeatRequest [0x08, 1] }

def dataArrival : Arrival := { payload := [0x01, 2, 3] }

theorem mainline_transparent_iff_heartbeat_second :
    (runLegacyStream relayProto wholePackets .auto udpOnly 0 none none none [0x01, 2, 3]
        [heartbeatArrival]).toBackend = dataDatagrams [dataArrival, heartbeatArrival] ↔
      StreamClean [0x01, 2, 3] [dataArrival] [heartbeatArrival] :=
  mainline_transparent_iff relayProto wholePackets .auto udpOnly 0
    [dataArrival, heartbeatArrival] [heartbeatArrival] [0x01, 2, 3] wholePackets_lawful
    relayProto_marshals (by simp [dataArrival, heartbeatArrival, Arrival.Healthy.mk])
    (by
      intro arrival member hello
      simp only [List.mem_cons, List.not_mem_nil, or_false] at member
      rcases member with rfl | rfl
      · exact fun parsed => nomatch parsed
      · exact fun parsed => nomatch parsed)
    rfl

/-- A heartbeat request that comes first is forwarded as data. -/
theorem first_heartbeat_forwarded :
    ¬ ∀ (proto : Proto) (dtls : DtlsConn) (mode : Mode) (backends : TransportBackends)
      (wallClockMs : Int64) (arrivals rest : List Arrival) (first : Bytes),
      dtls.Lawful → RepliesMarshal proto → (∀ arrival ∈ arrivals, arrival.Healthy) →
      (∀ arrival ∈ arrivals, ∀ hello,
        parseClientHelloMessage proto arrival.payload ≠ .ok hello) →
      negotiate proto mode backends dtls .start arrivals =
        (.finished (.legacyStream first), rest) →
      (runLegacyStream proto dtls mode backends wallClockMs none none none first rest).toBackend =
        dataDatagrams arrivals := by
  intro claimed
  have same := claimed relayProto wholePackets .auto udpOnly 0 [heartbeatArrival] []
    heartbeatArrival.payload wholePackets_lawful relayProto_marshals
    (by simp [heartbeatArrival, Arrival.Healthy.mk])
    (by
      intro arrival member hello
      rw [List.mem_singleton.mp member]
      exact fun parsed => nomatch parsed)
    rfl
  have forwarded : (runLegacyStream relayProto wholePackets .auto udpOnly 0 none none none
      heartbeatArrival.payload []).toBackend = [heartbeatArrival.payload] := rfl
  have expected : dataDatagrams [heartbeatArrival] = [] := by decide
  rw [forwarded, expected] at same
  cases same

end VkTurn.Server
