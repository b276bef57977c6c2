import VkTurn.Client.Workers
import VkTurn.Server.HandshakeAgreement
import VkTurn.Server.UserSession
import Mathlib.Logic.Function.Basic

/-! # Stream identity from the client to the server

The stream id that a worker of the client counts out is the key under which the server keeps the
worker's connection.  The hellos of all workers arrive in any order.
-/

namespace VkTurn.Server

open VkTurn.SessionProto VkTurn.SessionProto.MuV1 VkTurn.Client

/-- The connections of the sessions, and those that `AddConn` closed.  A connection is named by
    the worker that opened it. -/
structure Streams where
  sessions : Bytes → List (StreamEntry Nat)
  closed : List Nat

/-- The connections of one session are replaced, and `AddConn` may have closed one. -/
def Streams.put (streams : Streams) (sessionID : Bytes) (conns : List (StreamEntry Nat))
    (closed : Option Nat) : Streams where
  sessions := Function.update streams.sessions sessionID conns
  closed := streams.closed ++ closed.toList

variable (proto : Proto) (dtls : DtlsConn) (mode : Mode) (backends : TransportBackends)
  (clientIP : Nat → String)

/-- `runMuStream` up to `AddConn`, for a server without a UI and with a reachable backend. -/
def joinSession (streams : Streams) (worker : Nat) (hello : ClientHello) : Streams :=
  let entry : StreamEntry Nat :=
    { id := hello.streamId.toUInt8, key := "", clientIP := clientIP worker, conn := worker }
  let (conns, closed) := addConn entry (streams.sessions hello.sessionId)
  streams.put hello.sessionId conns closed

/-- The first packet of a worker's connection. -/
def acceptWorker (streams : Streams) (worker : Nat) (packet : Bytes) : Streams :=
  let result := dtls.read readBufferSize packet
  match (onRead proto mode backends none .start result).phase with
  | .finished (.muStream hello _) => joinSession clientIP streams worker hello
  | _ => streams

/-- A worker says hello with its stream id. -/
def sayHello (sessionID : Bytes) (streams : Streams) (arrival : UInt8 × Nat) : Streams :=
  match workerHello proto sessionID arrival.1 with
  | .error _ => streams
  | .ok packet => acceptWorker proto dtls mode backends clientIP streams arrival.2 packet

/-- What the workers' hellos make of the server's sessions, in the order of their arrival. -/
def sayHellos (sessionID : Bytes) (streams : Streams) (arrivals : List (UInt8 × Nat)) : Streams :=
  arrivals.foldl (sayHello proto dtls mode backends clientIP sessionID) streams

/-- The workers have their own stream ids, none loses its connection to another, and the session
    holds all of them. -/
structure KeepsWorkers (sessionID : Bytes) (ids : List UInt8) (streams : Streams) : Prop where
  distinct : ids.Nodup
  noneClosed : streams.closed = []
  allHeld : (streams.sessions sessionID).length = ids.length

variable {proto dtls mode backends clientIP}

/-! ## One hello -/

/-- A server with a datagram backend takes a hello that asks for datagrams. -/
theorem selectTransport_datagram (hello : ClientHello) (mode : Mode)
    (datagram : backends.supportsDatagram = true)
    (requested : requestedTransportForHello hello = .datagram) :
    (selectTransportForHello mode backends hello).2.2 = "" := by
  have notTcp : ¬ requestedTransportForHello hello = .tcp := by rw [requested]; decide
  simp only [selectTransportForHello]
  rw [if_neg notTcp, if_pos requested, if_neg (not_not.mpr datagram)]

/-- A worker's hello arrives as the session hello that the worker built. -/
theorem workerHello_negotiated {sessionID bytes : Bytes} {streamID : UInt8}
    (lawful : proto.clientHello.Lawful) (dtlsLawful : dtls.Lawful) (allowed : mode ≠ .mainline)
    (datagram : backends.supportsDatagram = true)
    (built : buildSessionHello proto sessionID streamID = .ok bytes)
    (fits : (buildControlSessionRequest bytes).length ≤ readBufferSize) :
    (onRead proto mode backends none .start
        (dtls.read readBufferSize (buildControlSessionRequest bytes))).phase =
      .finished
        (.muStream (sessionHello sessionID streamID .datagram [.datagram]) true) := by
  have request : (HelloRequest.session sessionID streamID .datagram [.datagram]).build proto =
      .ok bytes := built
  have isSession : ClientHelloType.session ≠ .roomExchange := by decide
  have parsed := (parseAndValidate_eq_ok lawful request).mpr isSession
  have read := (@readInitial_wrapped proto mode _ bytes).mpr parsed
  have selected := selectTransport_datagram
    (sessionHello sessionID streamID .datagram [.datagram]) mode datagram rfl
  rw [dtlsLawful.fits _ _ fits]
  simp only [onRead, NegotiationPhase.start, read]
  rw [if_neg (by simp), if_neg (by simp), dispatch_session _ _ _ _ _ _ rfl, onSession]
  simp only [HelloRequest.hello, selected]
  rw [if_neg allowed, if_neg (by simp)]

/-- The entry of a worker in its session. -/
def workerEntry (clientIP : Nat → String) (arrival : UInt8 × Nat) : StreamEntry Nat :=
  { id := arrival.1, key := "", clientIP := clientIP arrival.2, conn := arrival.2 }

/-- A worker whose stream id is new to the session joins it. -/
theorem sayHello_fresh {sessionID bytes : Bytes} {arrival : UInt8 × Nat} {streams : Streams}
    (lawful : proto.clientHello.Lawful) (dtlsLawful : dtls.Lawful) (allowed : mode ≠ .mainline)
    (datagram : backends.supportsDatagram = true)
    (built : buildSessionHello proto sessionID arrival.1 = .ok bytes)
    (fits : (buildControlSessionRequest bytes).length ≤ readBufferSize)
    (fresh : ∀ existing ∈ streams.sessions sessionID, existing.id ≠ arrival.1) :
    sayHello proto dtls mode backends clientIP sessionID streams arrival =
      streams.put sessionID (streams.sessions sessionID ++ [workerEntry clientIP arrival])
        none := by
  have sameByte : arrival.1.toUInt32.toUInt8 = arrival.1 := UInt8.toUInt8_toUInt32 ..
  rw [sayHello, workerHello, built]
  simp only [Except.map, acceptWorker, joinSession, sessionHello, sameByte,
    workerHello_negotiated lawful dtlsLawful allowed datagram built fits]
  rw [addConn_fresh fresh]
  rfl

/-! ## All hellos -/

theorem sayHellos_fresh {sessionID : Bytes} {arrivals : List (UInt8 × Nat)} {streams : Streams}
    (lawful : proto.clientHello.Lawful) (dtlsLawful : dtls.Lawful) (allowed : mode ≠ .mainline)
    (datagram : backends.supportsDatagram = true)
    (sent : ∀ arrival ∈ arrivals, ∃ bytes, buildSessionHello proto sessionID arrival.1 = .ok bytes ∧
      (buildControlSessionRequest bytes).length ≤ readBufferSize)
    (distinct : (arrivals.map Prod.fst).Nodup)
    (fresh : ∀ arrival ∈ arrivals, ∀ existing ∈ streams.sessions sessionID,
      existing.id ≠ arrival.1) :
    let reached := sayHellos proto dtls mode backends clientIP sessionID streams arrivals
    reached.closed = streams.closed ∧ reached.sessions sessionID =
      streams.sessions sessionID ++ arrivals.map (workerEntry clientIP) := by
  induction arrivals generalizing streams with
  | nil => simp [sayHellos]
  | cons arrival arrivals inductionHypothesis =>
    obtain ⟨bytes, built, fits⟩ := sent arrival List.mem_cons_self
    rw [List.map_cons, List.nodup_cons] at distinct
    have joined := @sayHello_fresh proto dtls mode backends clientIP _ _ _ streams lawful
      dtlsLawful allowed datagram built fits (fresh arrival List.mem_cons_self)
    have restFresh : ∀ other ∈ arrivals, ∀ existing ∈ streams.sessions sessionID ++
        [workerEntry clientIP arrival], existing.id ≠ other.1 := by
      intro other isLater existing isHeld same
      rcases List.mem_append.mp isHeld with isOld | isNew
      · exact fresh other (List.mem_cons_of_mem _ isLater) existing isOld same
      · rw [List.mem_singleton.mp isNew] at same
        apply distinct.1
        rw [show arrival.1 = other.1 from same]
        exact List.mem_map_of_mem isLater
    rw [sayHellos, List.foldl_cons, joined]
    have rest := @inductionHypothesis
      (streams.put sessionID (streams.sessions sessionID ++ [workerEntry clientIP arrival]) none)
      (fun other isLater => sent other (List.mem_cons_of_mem _ isLater)) distinct.2
      (by simpa only [Streams.put, Function.update_self] using restFresh)
    simpa [sayHellos, Streams.put] using rest

/-- All workers of the client are held side by side exactly when there are at most 256. -/
theorem workers_held_iff (proto : Proto) (dtls : DtlsConn) (mode : Mode)
    (backends : TransportBackends) (clientIP : Nat → String) (opts : ClientOptions)
    (requestedTransport : TransportMode) (sessionID : Bytes)
    (sessions : Bytes → List (StreamEntry Nat)) (arrivals : List (UInt8 × Nat))
    (lawful : proto.clientHello.Lawful) (dtlsLawful : dtls.Lawful) (allowed : mode ≠ .mainline)
    (datagram : backends.supportsDatagram = true) (newSession : sessions sessionID = [])
    (sent : ∀ id ∈ workerStreamIDs (effectiveStreamCount requestedTransport opts),
      ∃ bytes, buildSessionHello proto sessionID id = .ok bytes ∧
        (buildControlSessionRequest bytes).length ≤ readBufferSize)
    (allArrive : arrivals.Perm
      (workerStreamIDs (effectiveStreamCount requestedTransport opts)).zipIdx) :
    KeepsWorkers sessionID (workerStreamIDs (effectiveStreamCount requestedTransport opts))
        (sayHellos proto dtls mode backends clientIP sessionID ⟨sessions, []⟩ arrivals) ↔
      opts.n ≤ 256 := by
  have positive := effectiveStreamCount_positive requestedTransport opts
  rw [← effectiveStreamCount_le requestedTransport opts, ← workerStreamIDs_nodup_iff positive]
  refine ⟨KeepsWorkers.distinct, fun distinct => ?_⟩
  have ids : (arrivals.map Prod.fst).Perm
      (workerStreamIDs (effectiveStreamCount requestedTransport opts)) := by
    have mapped := allArrive.map Prod.fst
    rwa [List.zipIdx_map_fst] at mapped
  obtain ⟨noneClosed, held⟩ := @sayHellos_fresh proto dtls mode backends clientIP sessionID
    arrivals ⟨sessions, []⟩ lawful dtlsLawful allowed datagram
    (fun arrival isArrival => sent arrival.1 (ids.subset (List.mem_map_of_mem isArrival)))
    (ids.nodup_iff.mpr distinct) (by simp [newSession])
  refine ⟨distinct, noneClosed, ?_⟩
  rw [held]
  simp only [newSession, List.nil_append, List.length_map]
  rw [allArrive.length_eq, List.length_zipIdx]

/-! ## One worker and 257 workers -/

def sixteenBytes : Bytes := List.replicate 16 7

def firstWorkerHello : HelloRequest := .session sixteenBytes 0 .datagram [.datagram]

def firstWorkerBytes : Bytes :=
  [0x08, 1, 0x10, 2, 0x1a, 16] ++ sixteenBytes ++ [0x28, 1, 0x32, 1, 1]

theorem workers_held_iff_one :
    KeepsWorkers sixteenBytes [0]
        (sayHellos (singleHello firstWorkerHello firstWorkerBytes) wholePackets .mu udpOnly
          (fun _ => "192.0.2.1") sixteenBytes ⟨fun _ => [], []⟩ [(0, 0)]) ↔
      ({ n := 1 } : ClientOptions).n ≤ 256 :=
  workers_held_iff (singleHello firstWorkerHello firstWorkerBytes) wholePackets .mu udpOnly
    (fun _ => "192.0.2.1") { n := 1 } .datagram sixteenBytes (fun _ => []) [(0, 0)]
    (Codec.single_lawful (by decide)) wholePackets_lawful (by decide) (by decide) rfl
    (fun id isId => by
      have isFirst : id = 0 := List.mem_singleton.mp isId
      rw [isFirst]
      exact ⟨firstWorkerBytes, by rfl, by decide⟩)
    (.refl _)

/-- The client accepts 257 workers, and the last of them takes over the stream of the first. -/
theorem worker_257_closes_first :
    let args := ["-peer", "203.0.113.7:56000", "-vk-link", "abc", "-session-mode", "mu", "-n", "257"]
    ∃ opts, parseClientOptions args = .ok opts ∧
      (∀ sessionID streams, ¬ KeepsWorkers sessionID
        (workerStreamIDs (effectiveStreamCount .datagram opts)) streams) ∧
      (workerStreamIDs (effectiveStreamCount .datagram opts))[256]? = some 0 ∧
      ∀ (clientIP : Nat → String) (streams : Streams),
        streams.sessions sixteenBytes = [workerEntry clientIP (0, 0)] →
        (joinSession clientIP streams 256 firstWorkerHello.hello).closed =
          streams.closed ++ [0] := by
  intro args
  refine ⟨{ peerAddr := "203.0.113.7:56000", vklink := "abc", sessionMode := "mu", n := 257 },
    by rfl, ?_, ?_, ?_⟩
  · intro sessionID streams kept
    have few := (workerStreamIDs_nodup_iff (by decide)).mp kept.distinct
    exact absurd few (by decide)
  · rw [workerStreamIDs_eq (by decide)]
    rfl
  · intro clientIP streams held
    have isSession : firstWorkerHello.hello.sessionId = sixteenBytes := rfl
    rw [joinSession, isSession, held]
    rfl

end VkTurn.Server
