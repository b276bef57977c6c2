import VkTurn.SessionProto.Hello

/-! # Control packets

A control packet is the magic, one byte for its kind and a payload.  A connection carries
control packets and the client's own datagrams side by side, and only the header tells them
apart.
-/

namespace VkTurn.SessionProto

def controlPacketMagic : Bytes := [0x57, 0x56, 0x4d, 0x58, 0x01]

inductive ControlPacketKind where
  | probeRequest
  | probeResponse
  | heartbeatReq
  | heartbeatResp
  | sessionReq
  | sessionResp
  deriving DecidableEq

def ControlPacketKind.byte : ControlPacketKind → UInt8
  | .probeRequest => 1
  | .probeResponse => 2
  | .heartbeatReq => 3
  | .heartbeatResp => 4
  | .sessionReq => 5
  | .sessionResp => 6

theorem ControlPacketKind.byte_injective {kind other : ControlPacketKind}
    (same : kind.byte = other.byte) : kind = other := by
  cases kind <;> cases other <;> first | rfl | exact absurd same (by decide)

def buildControlPacket (kind : ControlPacketKind) (payload : Bytes) : Bytes :=
  controlPacketMagic ++ [kind.byte] ++ payload

def parseControlPacket (payload : Bytes) (expectedKind : ControlPacketKind) : Option Bytes :=
  if payload.length < controlPacketMagic.length + 1 then none
  else if payload.take controlPacketMagic.length ≠ controlPacketMagic then none
  else if payload[controlPacketMagic.length]? ≠ some expectedKind.byte then none
  else some (payload.drop (controlPacketMagic.length + 1))

def buildControlProbeRequest := buildControlPacket .probeRequest
def buildControlProbeResponse := buildControlPacket .probeResponse
def buildControlHeartbeatRequest := buildControlPacket .heartbeatReq
def buildControlHeartbeatResponse := buildControlPacket .heartbeatResp
def buildControlSessionRequest := buildControlPacket .sessionReq
def buildControlSessionResponse := buildControlPacket .sessionResp

def parseControlProbeRequest (payload : Bytes) := parseControlPacket payload .probeRequest
def parseControlProbeResponse (payload : Bytes) := parseControlPacket payload .probeResponse
def parseControlHeartbeatRequest (payload : Bytes) := parseControlPacket payload .heartbeatReq
def parseControlHeartbeatResponse (payload : Bytes) := parseControlPacket payload .heartbeatResp
def parseControlSessionRequest (payload : Bytes) := parseControlPacket payload .sessionReq
def parseControlSessionResponse (payload : Bytes) := parseControlPacket payload .sessionResp

/-- Parsing accepts exactly what building makes. -/
theorem parseControlPacket_eq_some {packet payload : Bytes} {kind : ControlPacketKind} :
    parseControlPacket packet kind = some payload ↔ packet = buildControlPacket kind payload := by
  unfold parseControlPacket buildControlPacket controlPacketMagic
  constructor
  · intro parsed
    match packet with
    | [] | [_] | [_, _] | [_, _, _] | [_, _, _, _] | [_, _, _, _, _] => simp at parsed
    | b0 :: b1 :: b2 :: b3 :: b4 :: b5 :: rest =>
      simp at parsed
      simp [parsed]
  · intro built
    subst built
    simp

theorem parseControlPacket_build (kind : ControlPacketKind) (payload : Bytes) :
    parseControlPacket (buildControlPacket kind payload) kind = some payload :=
  parseControlPacket_eq_some.mpr rfl

/-- A packet carries at most one kind. -/
theorem parseControlPacket_unique {packet payload other : Bytes} {kind otherKind : ControlPacketKind}
    (parsed : parseControlPacket packet kind = some payload)
    (parsedOther : parseControlPacket packet otherKind = some other) : kind = otherKind := by
  rw [parseControlPacket_eq_some] at parsed parsedOther
  rw [parsed] at parsedOther
  simp [buildControlPacket] at parsedOther
  exact ControlPacketKind.byte_injective parsedOther.1

/-- The magic followed by a known control kind. -/
def HasControlHeader (packet : Bytes) : Prop :=
  ∃ kind payload, packet = buildControlPacket kind payload

theorem hasControlHeader_iff {packet : Bytes} :
    HasControlHeader packet ↔ ∃ kind, (parseControlPacket packet kind).isSome := by
  simp only [HasControlHeader, Option.isSome_iff_exists, parseControlPacket_eq_some]

instance (packet : Bytes) : Decidable (HasControlHeader packet) :=
  decidable_of_iff
    ([ControlPacketKind.probeRequest, .probeResponse, .heartbeatReq, .heartbeatResp, .sessionReq,
      .sessionResp].any fun kind => (parseControlPacket packet kind).isSome)
    (by
      rw [hasControlHeader_iff, List.any_eq_true]
      constructor
      · intro found
        obtain ⟨kind, _, parsed⟩ := found
        exact ⟨kind, parsed⟩
      · intro found
        obtain ⟨kind, parsed⟩ := found
        exact ⟨kind, by cases kind <;> simp, parsed⟩)

/-- The low bits of the first magic byte are no wire type, so no message looks like a control
    packet. -/
theorem marshalled_not_control {Message : Type} {codec : Codec Message} {message : Message}
    {bytes : Bytes} (lawful : codec.Lawful) (marshalled : codec.marshal message = .ok bytes)
    (kind : ControlPacketKind) : parseControlPacket bytes kind = none := by
  cases parsed : parseControlPacket bytes kind with
  | none => rfl
  | some payload =>
    rw [parseControlPacket_eq_some.mp parsed] at marshalled
    exact absurd (lawful.tagged _ _ _ marshalled) (by decide)

end VkTurn.SessionProto
