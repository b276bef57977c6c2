import Mathlib.Data.List.Basic

/-! # The messages of the session protocol

The protobuf messages `ClientHello`, `ServerHello` and `Heartbeat`.  Their enumerations are
open: a value is any 32-bit number, and only some numbers have a name.

Marshalling is a library's; a `Codec` is its interface and `Codec.Lawful` what the code relies
on: what was marshalled unmarshals to the same message, and the first byte of a message is a
field tag, whose low three bits are one of the six wire types.
-/

namespace VkTurn.SessionProto

abbrev Bytes := List UInt8

/-! ## Enumerations -/

structure ClientHelloType where
  number : Int32
  deriving DecidableEq

namespace ClientHelloType

def unspecified : ClientHelloType := ⟨0⟩
def probe : ClientHelloType := ⟨1⟩
def session : ClientHelloType := ⟨2⟩
def roomExchange : ClientHelloType := ⟨3⟩

/-- `ClientHelloType.String`: the name, or the number of a value that has none. -/
def string (type : ClientHelloType) : String :=
  if type = unspecified then "CLIENT_HELLO_TYPE_UNSPECIFIED"
  else if type = probe then "CLIENT_HELLO_TYPE_PROBE"
  else if type = session then "CLIENT_HELLO_TYPE_SESSION"
  else if type = roomExchange then "CLIENT_HELLO_TYPE_ROOM_EXCHANGE"
  else toString type.number

end ClientHelloType

structure TransportMode where
  number : Int32
  deriving DecidableEq

namespace TransportMode

def unspecified : TransportMode := ⟨0⟩
def datagram : TransportMode := ⟨1⟩
def tcp : TransportMode := ⟨2⟩

def string (transport : TransportMode) : String :=
  if transport = unspecified then "TRANSPORT_MODE_UNSPECIFIED"
  else if transport = datagram then "TRANSPORT_MODE_DATAGRAM"
  else if transport = tcp then "TRANSPORT_MODE_TCP"
  else toString transport.number

end TransportMode

structure TcpTransportFlavor where
  number : Int32
  deriving DecidableEq

namespace TcpTransportFlavor

def unspecified : TcpTransportFlavor := ⟨0⟩
def legacyKcpSmux : TcpTransportFlavor := ⟨1⟩
def directSmux : TcpTransportFlavor := ⟨2⟩

end TcpTransportFlavor

structure RoomProvider where
  number : Int32
  deriving DecidableEq

/-! ## Messages -/

structure RoomDataExchange where
  provider : RoomProvider := ⟨0⟩
  roomId : String := ""
  displayName : String := ""
  e2eEnabled : Bool := false
  e2eSecret : Bytes := []
  deriving DecidableEq

structure ClientHello where
  version : UInt32 := 0
  type : ClientHelloType := .unspecified
  sessionId : Bytes := []
  streamId : UInt32 := 0
  requestedTransport : TransportMode := .unspecified
  supportedTransports : List TransportMode := []
  supportedTcpFlavors : List TcpTransportFlavor := []
  preferredTcpFlavor : TcpTransportFlavor := .unspecified
  roomExchange : Option RoomDataExchange := none
  deriving DecidableEq

structure ServerHello where
  version : UInt32 := 0
  muSupported : Bool := false
  error : String := ""
  controlHeartbeatSupported : Bool := false
  selectedTransport : TransportMode := .unspecified
  supportedTransports : List TransportMode := []
  supportedTcpFlavors : List TcpTransportFlavor := []
  selectedTcpFlavor : TcpTransportFlavor := .unspecified
  deriving DecidableEq

structure Heartbeat where
  version : UInt32 := 0
  wallClockMs : Int64 := 0
  activeStreams : UInt32 := 0
  online : Bool := false
  protoFingerprint : String := ""
  sessionMode : String := ""
  controlPath : String := ""
  provider : String := ""
  transport : TransportMode := .unspecified
  deriving DecidableEq

/-! ## Marshalling -/

structure Codec (Message : Type) where
  marshal : Message → Except String Bytes
  unmarshal : Bytes → Except String Message

structure Codec.Lawful {Message : Type} (codec : Codec Message) : Prop where
  unmarshal_marshal : ∀ message bytes, codec.marshal message = .ok bytes →
    codec.unmarshal bytes = .ok message
  tagged : ∀ message first rest, codec.marshal message = .ok (first :: rest) → first % 8 ≤ 5

/-- The wire types 6 and 7 are reserved: bytes that start with one are no message. -/
def Codec.RejectsReserved {Message : Type} (codec : Codec Message) : Prop :=
  ∀ first rest, 5 < first % 8 → ∃ error, codec.unmarshal (first :: rest) = .error error

/-- A codec that knows one message, to run the code on a concrete packet. -/
def Codec.single {Message : Type} [DecidableEq Message] (message : Message) (bytes : Bytes) :
    Codec Message where
  marshal other := if other = message then .ok bytes else .error "unknown message"
  unmarshal other := if other = bytes then .ok message else .error "cannot parse"

theorem Codec.single_lawful {Message : Type} [DecidableEq Message] {message : Message}
    {bytes : Bytes} (tagged : bytes.headD 0 % 8 ≤ 5) : (Codec.single message bytes).Lawful := by
  constructor
  · intro other marshalled known
    simp only [single] at known
    split at known
    · rename_i same
      cases known
      simp [single, same]
    · cases known
  · intro other first rest known
    simp only [single] at known
    split at known
    · cases known
      exact tagged
    · cases known

theorem Codec.single_rejectsReserved {Message : Type} [DecidableEq Message] {message : Message}
    {bytes : Bytes} (tagged : bytes.headD 0 % 8 ≤ 5) :
    (Codec.single message bytes).RejectsReserved := by
  intro first rest reserved
  have away : first :: rest ≠ bytes := by
    rintro rfl
    exact absurd reserved (UInt8.not_lt.mpr tagged)
  exact ⟨"cannot parse", by simp [single, away]⟩

/-- A codec that knows two messages. -/
def Codec.pair {Message : Type} [DecidableEq Message] (first second : Message)
    (firstBytes secondBytes : Bytes) : Codec Message where
  marshal other :=
    if other = first then .ok firstBytes
    else if other = second then .ok secondBytes
    else .error "unknown message"
  unmarshal other :=
    if other = firstBytes then .ok first
    else if other = secondBytes then .ok second
    else .error "cannot parse"

theorem Codec.pair_lawful {Message : Type} [DecidableEq Message] {first second : Message}
    {firstBytes secondBytes : Bytes} (distinct : firstBytes ≠ secondBytes)
    (firstTagged : firstBytes.headD 0 % 8 ≤ 5) (secondTagged : secondBytes.headD 0 % 8 ≤ 5) :
    (Codec.pair first second firstBytes secondBytes).Lawful := by
  constructor
  · intro other marshalled known
    simp only [pair] at known
    split at known
    · rename_i same
      cases known
      simp [pair, same]
    · split at known
      · rename_i same
        cases known
        simp [pair, same, distinct.symm]
      · cases known
  · intro other head rest known
    simp only [pair] at known
    split at known
    · cases known
      exact firstTagged
    · split at known
      · cases known
        exact secondTagged
      · cases known

structure Proto where
  clientHello : Codec ClientHello
  serverHello : Codec ServerHello
  heartbeat : Codec Heartbeat

variable (proto : Proto)

def parseClientHelloMessage (payload : Bytes) : Except String ClientHello := do
  let hello ← proto.clientHello.unmarshal payload
  if hello.version = 0 ∨ hello.type = .unspecified then
    .error "missing required client hello fields"
  else .ok hello

def parseServerHelloMessage (payload : Bytes) : Except String ServerHello := do
  let hello ← proto.serverHello.unmarshal payload
  if hello.version = 0 then .error "missing server hello version" else .ok hello

def parseHeartbeatMessage (payload : Bytes) : Except String Heartbeat := do
  let heartbeat ← proto.heartbeat.unmarshal payload
  if heartbeat.version = 0 then .error "missing heartbeat version" else .ok heartbeat

theorem parseClientHelloMessage_marshal {hello : ClientHello} {bytes : Bytes}
    (lawful : proto.clientHello.Lawful) (marshalled : proto.clientHello.marshal hello = .ok bytes)
    (version : hello.version ≠ 0) (type : hello.type ≠ .unspecified) :
    parseClientHelloMessage proto bytes = .ok hello := by
  have unmarshalled := lawful.unmarshal_marshal hello bytes marshalled
  unfold parseClientHelloMessage
  rw [unmarshalled]
  simp [bind, Except.bind, version, type]

theorem parseServerHelloMessage_marshal {hello : ServerHello} {bytes : Bytes}
    (lawful : proto.serverHello.Lawful) (marshalled : proto.serverHello.marshal hello = .ok bytes)
    (version : hello.version ≠ 0) : parseServerHelloMessage proto bytes = .ok hello := by
  have unmarshalled := lawful.unmarshal_marshal hello bytes marshalled
  unfold parseServerHelloMessage
  rw [unmarshalled]
  simp [bind, Except.bind, version]

/-! ## Supported values

`NormalizeSupportedTransports` and `NormalizeSupportedTcpFlavors` are the same loop at two
enumerations. -/

section Normalize

variable {Value : Type} [DecidableEq Value]

/-- The loop body; the keys of the `seen` map are the members of `normalized`. -/
def noteSupported (unspecified : Value) (normalized : List Value) (value : Value) : List Value :=
  if value = unspecified then normalized
  else if value ∈ normalized then normalized
  else normalized ++ [value]

def normalizeSupported (unspecified : Value) (values : List Value) : List Value :=
  values.foldl (noteSupported unspecified) []

theorem mem_foldl_noteSupported {unspecified target : Value} {values normalized : List Value} :
    target ∈ values.foldl (noteSupported unspecified) normalized ↔
      target ∈ normalized ∨ (target ∈ values ∧ target ≠ unspecified) := by
  induction values generalizing normalized with
  | nil => simp
  | cons value values inductionHypothesis =>
    rw [List.foldl_cons, inductionHypothesis, noteSupported]
    by_cases dropped : value = unspecified
    · grind
    · by_cases seen : value ∈ normalized <;> grind

theorem mem_normalizeSupported {unspecified target : Value} {values : List Value} :
    target ∈ normalizeSupported unspecified values ↔ target ∈ values ∧ target ≠ unspecified := by
  rw [normalizeSupported, mem_foldl_noteSupported]
  simp

end Normalize

def normalizeSupportedTransports (transports : List TransportMode) : List TransportMode :=
  normalizeSupported .unspecified transports

def hasSupportedTransport (transports : List TransportMode) (target : TransportMode) : Bool :=
  (normalizeSupportedTransports transports).any (· = target)

def normalizeSupportedTcpFlavors (flavors : List TcpTransportFlavor) : List TcpTransportFlavor :=
  normalizeSupported .unspecified flavors

def hasSupportedTcpFlavor (flavors : List TcpTransportFlavor) (target : TcpTransportFlavor) :
    Bool :=
  (normalizeSupportedTcpFlavors flavors).any (· = target)

theorem hasSupportedTcpFlavor_iff {flavors : List TcpTransportFlavor}
    {target : TcpTransportFlavor} :
    hasSupportedTcpFlavor flavors target = true ↔ target ∈ flavors ∧ target ≠ .unspecified := by
  rw [← mem_normalizeSupported]
  simp [hasSupportedTcpFlavor, normalizeSupportedTcpFlavors]

/-! ## The shape of a hello -/

def sessionIDLen : Nat := 16

def validateHelloShape (hello : ClientHello) (expectedVersion : UInt32) : Except String Unit :=
  if hello.version ≠ expectedVersion then
    .error ("unsupported protocol version: " ++ toString hello.version)
  else if hello.type = .probe then
    if hello.sessionId.length ≠ 0 ∨ hello.streamId ≠ 0 then
      .error "probe hello must not contain session data"
    else .ok ()
  else if hello.type = .session then
    if hello.sessionId.length ≠ sessionIDLen then
      .error ("session ID must be " ++ toString sessionIDLen ++ " bytes")
    else if hello.streamId > 255 then
      .error ("stream ID out of range: " ++ toString hello.streamId)
    else .ok ()
  else .error ("unsupported client hello type: " ++ hello.type.string)

theorem validateHelloShape_type {hello : ClientHello} {expectedVersion : UInt32}
    (valid : validateHelloShape hello expectedVersion = .ok ()) :
    hello.version = expectedVersion ∧ (hello.type = .probe ∨ hello.type = .session) := by
  unfold validateHelloShape at valid
  grind

/-! ## Session modes -/

inductive Mode where
  | mainline
  | mu
  | auto
  deriving DecidableEq

end VkTurn.SessionProto
