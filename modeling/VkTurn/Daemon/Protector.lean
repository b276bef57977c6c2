import VkTurn.Daemon.ControlMessage

/-! # Socket protection

The client sends a descriptor to a protect server and takes the byte 1 for an answer that the
socket is protected.  Both servers, the daemon's `Protector` and Android's `ProtectSocketServer`,
answer 1 whatever became of the descriptors, and do not answer when they cannot find any.

A request is what one read of a server returns.
-/

namespace VkTurn.Daemon

/-- What a server does with one request. -/
structure Reply (Descriptor : Type) where
  acks : List UInt8 := []
  protectedFds : List Descriptor := []
  closed : List Descriptor := []
  deriving DecidableEq

/-- One truthful answer, and no descriptor left open. -/
structure Acknowledged {Descriptor : Type} (received : List Descriptor)
    (reply : Reply Descriptor) : Prop where
  one : ∃ ack, reply.acks = [ack]
  truthful : reply.acks = [1] ↔ received ≠ [] ∧ ∀ fd ∈ received, fd ∈ reply.protectedFds
  closed : ∀ fd ∈ received, fd ∈ reply.closed

/-! ## The daemon -/

namespace Protector

/-- The loop of `handle` over the messages; `marks` says for which descriptors `SetsockoptInt` has
    succeeded. -/
def handleMessages (marks : UInt32 → Bool) :
    List SocketControlMessage → Reply UInt32 → Reply UInt32
  | [], reply => { reply with acks := reply.acks ++ [1] }
  | message :: rest, reply =>
    match parseUnixRights message with
    | .invalid => handleMessages marks rest reply
    | .panics => reply
    | .descriptors fds =>
      handleMessages marks rest { reply with
        protectedFds := reply.protectedFds ++ fds.filter marks
        closed := reply.closed ++ fds }

/-- The body of the loop of `Protector.handle`. -/
def handle (marks : UInt32 → Bool) (control : List UInt8) : Reply UInt32 :=
  match parseSocketControlMessage control with
  | none => {}
  | some messages => handleMessages marks messages {}

/-- The descriptors in some messages, unless the loop panics. -/
def descriptorsIn : List SocketControlMessage → Option (List UInt32)
  | [] => some []
  | message :: rest =>
    match parseUnixRights message with
    | .invalid => descriptorsIn rest
    | .panics => none
    | .descriptors fds => (descriptorsIn rest).map (fds ++ ·)

/-- The descriptors that the control data names, unless it is malformed. -/
def descriptorsOf (control : List UInt8) : Option (List UInt32) :=
  (parseSocketControlMessage control).bind descriptorsIn

end Protector

/-- Control data, and the descriptors that the kernel has installed with it. -/
structure ProtectRequest where
  control : List UInt8
  received : List UInt32
  delivered : ∀ fds, Protector.descriptorsOf control = some fds → received = fds

/-- A request with descriptors in one message. -/
def requestOf (fds : List UInt32) (few : fds.length < 2 ^ 32) : ProtectRequest where
  control := unixRights fds
  received := fds
  delivered named isNamed := by
    rw [Protector.descriptorsOf, parseSocketControlMessage_unixRights few] at isNamed
    simp only [Option.bind_some, Protector.descriptorsIn, parseUnixRights, ne_eq, not_true, or_self,
      if_false, descriptorsOfData_dataOfDescriptors, Option.map_some, List.append_nil,
      Option.some.injEq] at isNamed
    exact isNamed

/-! ## Android -/

/-- What `ProtectSocketServer` takes from the system, for each descriptor. -/
structure AndroidSystem where
  /-- `getInt$`, called by reflection. -/
  getInt : Nat → Option Int
  /-- The service that `vpnProvider` returns at its turn, as far as `protect` goes. -/
  vpnProvider : Nat → Option (Int → Bool)
  /-- `close`, called by reflection. -/
  closes : Nat → Bool

namespace ProtectSocketServer

def extractNativeFd (system : AndroidSystem) (fd : Nat) : Int := (system.getInt fd).getD (-1)

/-- The result of `protect` for a descriptor, which the server does not look at. -/
def isProtected (system : AndroidSystem) (fd : Nat) : Bool :=
  let native := extractNativeFd system fd
  0 ≤ native && (system.vpnProvider fd).any (· native)

/-- The loop of `handle` over the descriptors. -/
def handleDescriptors (system : AndroidSystem) : List (Option Nat) → Reply Nat → Reply Nat
  | [], reply => { reply with acks := reply.acks ++ [1] }
  | none :: rest, reply => handleDescriptors system rest reply
  | some fd :: rest, reply =>
    handleDescriptors system rest { reply with
      protectedFds :=
        if isProtected system fd then reply.protectedFds ++ [fd] else reply.protectedFds
      closed := if system.closes fd then reply.closed ++ [fd] else reply.closed }

/-- The body of the loop of `handle`, by what `ancillaryFileDescriptors` returns. -/
def handle (system : AndroidSystem) (ancillary : Option (List (Option Nat))) : Reply Nat :=
  match ancillary with
  | none => {}
  | some fds => handleDescriptors system fds {}

def received (ancillary : Option (List (Option Nat))) : List Nat :=
  (ancillary.getD []).filterMap id

end ProtectSocketServer

/-! ## The client -/

structure ProtectBridge where
  writeFails : Bool
  deriving DecidableEq

/-- `protectFD`, with the answers of the server; it waits for the first one, until the server
    closes the connection. -/
def protectFD (bridge : Option ProtectBridge) (answers : List UInt8) : Except String Unit :=
  match bridge with
  | none => .ok ()
  | some bridge =>
    if bridge.writeFails then .error "write protect request"
    else match answers with
      | [] => .error "read protect response: EOF"
      | ack :: _ => if ack ≠ 1 then .error "protect rejected" else .ok ()

/-- The client takes a socket for protected only if the server has protected it. -/
def Trusts {Descriptor : Type} (bridge : Option ProtectBridge) (fd : Descriptor)
    (reply : Reply Descriptor) : Prop :=
  protectFD bridge reply.acks = .ok () → bridge.isSome = true ∧ fd ∈ reply.protectedFds

/-! ## What the servers do -/

namespace Protector

variable {marks : UInt32 → Bool} {reply : Reply UInt32}

theorem handleMessages_acks {messages : List SocketControlMessage}
    (malformed : descriptorsIn messages = none) :
    (handleMessages marks messages reply).acks = reply.acks := by
  induction messages generalizing reply with
  | nil => cases malformed
  | cons message rest inductionHypothesis =>
    simp only [descriptorsIn] at malformed
    simp only [handleMessages]
    split at malformed
    · exact inductionHypothesis malformed
    · rfl
    · exact inductionHypothesis (Option.map_eq_none_iff.mp malformed)

theorem handleMessages_eq {messages : List SocketControlMessage} {fds : List UInt32}
    (named : descriptorsIn messages = some fds) :
    handleMessages marks messages reply =
      { acks := reply.acks ++ [1]
        protectedFds := reply.protectedFds ++ fds.filter marks
        closed := reply.closed ++ fds } := by
  induction messages generalizing reply fds with
  | nil =>
    cases named
    simp [handleMessages]
  | cons message rest inductionHypothesis =>
    simp only [descriptorsIn] at named
    simp only [handleMessages]
    split at named
    · exact inductionHypothesis named
    · cases named
    · obtain ⟨others, isRest, rfl⟩ := Option.map_eq_some_iff.mp named
      rw [inductionHypothesis isRest]
      simp

/-- Well-formed control data is answered with 1, and malformed data is not answered. -/
theorem handle_eq {control : List UInt8} {fds : List UInt32}
    (named : descriptorsOf control = some fds) :
    handle marks control = { acks := [1], protectedFds := fds.filter marks, closed := fds } := by
  obtain ⟨messages, parsed, named⟩ := Option.bind_eq_some_iff.mp named
  rw [handle, parsed]
  exact handleMessages_eq named

theorem handle_acks {control : List UInt8} (malformed : descriptorsOf control = none) :
    (handle marks control).acks = [] := by
  unfold handle
  cases parsed : parseSocketControlMessage control with
  | none => rfl
  | some messages =>
    rw [descriptorsOf, parsed] at malformed
    exact handleMessages_acks malformed

theorem acknowledged_iff (request : ProtectRequest) :
    Acknowledged request.received (handle marks request.control) ↔
      descriptorsOf request.control ≠ none ∧ request.received ≠ [] ∧
        ∀ fd ∈ request.received, marks fd = true := by
  cases named : descriptorsOf request.control with
  | none =>
    refine ⟨fun acknowledged => ?_, fun holds => absurd rfl holds.1⟩
    obtain ⟨ack, isAck⟩ := acknowledged.one
    rw [handle_acks named] at isAck
    cases isAck
  | some fds =>
    have isReceived := request.delivered fds named
    subst isReceived
    have inFilter : (∀ fd ∈ request.received, fd ∈ request.received.filter marks) ↔
        ∀ fd ∈ request.received, marks fd = true := by
      simp only [List.mem_filter]
      exact ⟨fun all fd member => (all fd member).2, fun all fd member => ⟨member, all fd member⟩⟩
    rw [handle_eq named]
    constructor
    · intro acknowledged
      obtain ⟨some, all⟩ := acknowledged.truthful.mp rfl
      exact ⟨nofun, some, inFilter.mp all⟩
    · rintro ⟨_, some, all⟩
      exact ⟨⟨1, rfl⟩, ⟨fun _ => ⟨some, inFilter.mpr all⟩, fun _ => rfl⟩, fun _ member => member⟩

end Protector

namespace ProtectSocketServer

variable {system : AndroidSystem}

theorem handleDescriptors_eq (fds : List (Option Nat)) (reply : Reply Nat) :
    handleDescriptors system fds reply =
      { acks := reply.acks ++ [1]
        protectedFds := reply.protectedFds ++ (fds.filterMap id).filter (isProtected system)
        closed := reply.closed ++ (fds.filterMap id).filter system.closes } := by
  induction fds generalizing reply with
  | nil => simp [handleDescriptors]
  | cons fd rest inductionHypothesis =>
    cases fd with
    | none => exact inductionHypothesis reply
    | some fd =>
      simp only [handleDescriptors, inductionHypothesis, List.filterMap_cons_some (f := id) rfl]
      cases isProtected : isProtected system fd <;> cases closes : system.closes fd <;>
        simp [isProtected, closes]

theorem acknowledged_iff (ancillary : Option (List (Option Nat))) :
    Acknowledged (received ancillary) (handle system ancillary) ↔
      received ancillary ≠ [] ∧
        ∀ fd ∈ received ancillary, isProtected system fd = true ∧ system.closes fd = true := by
  cases ancillary with
  | none =>
    refine ⟨fun acknowledged => ?_, fun holds => absurd rfl holds.1⟩
    obtain ⟨ack, isAck⟩ := acknowledged.one
    cases isAck
  | some fds =>
    have isReply : handle system (some fds) =
        { acks := [1]
          protectedFds := (received (some fds)).filter (isProtected system)
          closed := (received (some fds)).filter system.closes } :=
      handleDescriptors_eq fds {}
    rw [isReply]
    constructor
    · intro acknowledged
      obtain ⟨some, all⟩ := acknowledged.truthful.mp rfl
      refine ⟨some, fun fd member => ⟨?_, ?_⟩⟩
      · exact (List.mem_filter.mp (all fd member)).2
      · exact (List.mem_filter.mp (acknowledged.closed fd member)).2
    · rintro ⟨some, all⟩
      refine ⟨⟨1, rfl⟩, ⟨fun _ => ⟨some, fun fd member => ?_⟩, fun _ => rfl⟩, fun fd member => ?_⟩
      · exact List.mem_filter.mpr ⟨member, (all fd member).1⟩
      · exact List.mem_filter.mpr ⟨member, (all fd member).2⟩

end ProtectSocketServer

/-! ## What the client may believe -/

/-- Of a server that always answers 1. -/
theorem trusts_iff {Descriptor : Type} {bridge : Option ProtectBridge} {fd : Descriptor}
    {reply : Reply Descriptor} (answers : reply.acks = [1]) :
    Trusts bridge fd reply ↔
      ∃ connection, bridge = some connection ∧
        (connection.writeFails = true ∨ fd ∈ reply.protectedFds) := by
  unfold Trusts
  rw [answers]
  cases bridge with
  | none => simp [protectFD]
  | some connection => cases fails : connection.writeFails <;> simp [protectFD, fails]

/-- The request that the client makes for a socket. -/
def clientRequest (fd : UInt32) : ProtectRequest := requestOf [fd] (by simp)

/-- Each server acknowledges properly exactly when it can find descriptors and each of them is
    protected; and the client trusts rightly exactly when it has a server that it can reach, and
    that server protects the socket, or else could not be written to. -/
theorem protect_acknowledged_iff (marks : UInt32 → Bool) (request : ProtectRequest)
    (system : AndroidSystem) (ancillary : Option (List (Option Nat)))
    (bridge : Option ProtectBridge) (fd : UInt32) (descriptor : Nat) :
    (Acknowledged request.received (Protector.handle marks request.control) ↔
      Protector.descriptorsOf request.control ≠ none ∧ request.received ≠ [] ∧
        ∀ fd ∈ request.received, marks fd = true) ∧
    (Acknowledged (ProtectSocketServer.received ancillary)
        (ProtectSocketServer.handle system ancillary) ↔
      ProtectSocketServer.received ancillary ≠ [] ∧
        ∀ fd ∈ ProtectSocketServer.received ancillary,
          ProtectSocketServer.isProtected system fd = true ∧ system.closes fd = true) ∧
    (Trusts bridge fd (Protector.handle marks (clientRequest fd).control) ↔
      ∃ connection, bridge = some connection ∧
        (connection.writeFails = true ∨ marks fd = true)) ∧
    (Trusts bridge descriptor (ProtectSocketServer.handle system (some [some descriptor])) ↔
      ∃ connection, bridge = some connection ∧
        (connection.writeFails = true ∨
          ProtectSocketServer.isProtected system descriptor = true)) := by
  refine ⟨Protector.acknowledged_iff request, ProtectSocketServer.acknowledged_iff ancillary, ?_, ?_⟩
  · have named : Protector.descriptorsOf (clientRequest fd).control = some [fd] := by
      simp [Protector.descriptorsOf, clientRequest, requestOf, Protector.descriptorsIn,
        parseUnixRights, parseSocketControlMessage_unixRights, descriptorsOfData_dataOfDescriptors]
    rw [Protector.handle_eq named, trusts_iff rfl]
    simp
  · have isReply : ProtectSocketServer.handle system (some [some descriptor]) = _ :=
      ProtectSocketServer.handleDescriptors_eq [some descriptor] {}
    rw [isReply, trusts_iff rfl]
    simp

/-- The daemon may not set marks; it answers 1, and the client uses the socket unprotected. -/
theorem unmarked_socket_acknowledged :
    ∃ (request : ProtectRequest) (marks : UInt32 → Bool),
      ¬ Acknowledged request.received (Protector.handle marks request.control) ∧
      protectFD (some ⟨false⟩) (Protector.handle marks request.control).acks = .ok () ∧
      (Protector.handle marks request.control).protectedFds = [] := by
  have answered : (Protector.handle (fun _ => false) (clientRequest 7).control).acks = [1] := by
    decide
  refine ⟨clientRequest 7, fun _ => false, fun acknowledged => ?_, ?_, by decide⟩
  · obtain ⟨_, all⟩ := acknowledged.truthful.mp answered
    exact absurd (all 7 (List.mem_singleton.mpr rfl)) (by decide)
  · rw [answered]
    rfl

end VkTurn.Daemon
