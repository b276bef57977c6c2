import VkTurn.Panel.Database
import VkTurn.Text.Float64
import VkTurn.Text.Trim

/-! # Reading and checking settings

How the services decode a settings column and what they accept: the VK TURN settings with
their clients, and the peers of a WireGuard inbound.

Both decodings go through untyped JSON, so their numbers pass through a float64.
-/

namespace VkTurn.Panel

open VkTurn.Store
open VkTurn.Text (trimSpace throughFloat64 throughFloat64_idem)

/-- An IP address: its text in canonical form, and whether `To4` gives an address. -/
structure IP where
  isV4 : Bool
  text : String
  deriving DecidableEq

/-- What the services take from libraries. -/
structure Library where
  toLower : String → String
  equalFold : String → String → Bool
  decodeBase64 : String → Option (List UInt8)
  decodeRawBase64 : String → Option (List UInt8)
  encodeBase64 : List UInt8 → String
  /-- `curve25519.X25519` with the base point. -/
  x25519 : List UInt8 → Except String (List UInt8)
  parseIP : String → Option IP
  /-- `net.ParseCIDR`: the network's text. -/
  parseCIDR : String → Except String String

/-- What a call asks of the machine: the time in milliseconds, and a fresh UUID. -/
structure Clock where
  now : Int
  uuid : String

/-! ## Numbers that pass through untyped JSON -/

def rereadNumber (number : Int) : Except String Int :=
  match throughFloat64 number with
  | some reread => .ok reread
  | none => .error ("json: cannot unmarshal number " ++ toString number)

theorem rereadNumber_idem {number reread : Int} (passed : rereadNumber number = .ok reread) :
    rereadNumber reread = .ok reread := by
  unfold rereadNumber at passed ⊢
  split at passed
  · rename_i kept
    cases passed
    rw [throughFloat64_idem kept]
  · cases passed

def rereadClientPeer (peer : VKTurnProxyClientPeer) : Except String VKTurnProxyClientPeer := do
  let keepAlive ← rereadNumber peer.keepAlive
  return { peer with keepAlive }

def rereadClient (client : VKTurnProxyClient) : Except String VKTurnProxyClient := do
  let limitIP ← rereadNumber client.limitIP
  let totalGB ← rereadNumber client.totalGB
  let expiryTime ← rereadNumber client.expiryTime
  let tgID ← rereadNumber client.tgID
  let reset ← rereadNumber client.reset
  let createdAt ← rereadNumber client.createdAt
  let updatedAt ← rereadNumber client.updatedAt
  let peer ← client.peer.mapM rereadClientPeer
  return { client with limitIP, totalGB, expiryTime, tgID, reset, createdAt, updatedAt, peer }

/-- The numbers of the inbound itself. -/
def rereadOwnNumbers (settings : VKTurnProxySettings) : Except String VKTurnProxySettings := do
  let wireguardInboundID ← rereadNumber settings.forward.wireguardInboundID
  let port ← rereadNumber settings.forward.port
  let wgMTU ← rereadNumber settings.wgMTU
  let threads ← rereadNumber settings.threads
  let credsGroupSize ← rereadNumber settings.credsGroupSize
  return { settings with
    forward := { settings.forward with wireguardInboundID, port }, wgMTU, threads, credsGroupSize }

/-- `sanitizeVKTurnProxySettingsJSON`; text without clients is not rewritten. -/
def sanitizeVKTurnProxySettingsJSON (settings : VKTurnProxySettings) :
    Except String VKTurnProxySettings :=
  if settings.clients = [] then .ok settings
  else do
    let settings ← rereadOwnNumbers settings
    let clients ← settings.clients.mapM rereadClient
    return { settings with clients }

/-! ## Decoding -/

def normalizeVKTurnProxyClient (clock : Clock) (client : VKTurnProxyClient) :
    VKTurnProxyClient :=
  { client with
    id := if client.id = "" then clock.uuid else client.id
    createdAt := if client.createdAt = 0 then clock.now else client.createdAt
    updatedAt := clock.now }

def normalizeVKTurnProxySettings (clock : Clock) (settings : VKTurnProxySettings) :
    VKTurnProxySettings :=
  { settings with
    sessionMode := if settings.sessionMode = "" then "auto" else settings.sessionMode
    localEndpoint :=
      if settings.localEndpoint = "" then "127.0.0.1:9000" else settings.localEndpoint
    wgDNS := if settings.wgDNS = "" then "1.1.1.1, 1.0.0.1" else settings.wgDNS
    wgMTU := if settings.wgMTU = 0 then 1280 else settings.wgMTU
    wgAllowedIPs := if settings.wgAllowedIPs = "" then "0.0.0.0/0, ::/0" else settings.wgAllowedIPs
    clients := settings.clients.map (normalizeVKTurnProxyClient clock) }

/-- The settings a column decodes to, before `normalizeVKTurnProxySettings`.  The JSON of the
    other protocols has none of the keys. -/
def decodeVKTurnProxySettings : Settings → Except String VKTurnProxySettings
  | .vkTurnProxy settings => sanitizeVKTurnProxySettingsJSON settings
  | .wireguard _ => .ok {}
  | .clients _ => .ok {}
  | .text text => if trimSpace text = "" then .ok {} else .error "invalid character"

def getVKTurnProxySettings (clock : Clock) (raw : Settings) :
    Except String VKTurnProxySettings := do
  let settings ← decodeVKTurnProxySettings raw
  return normalizeVKTurnProxySettings clock settings

/-! ## Checks -/

section Checks

variable (library : Library)

def parseWireGuardKey (raw : String) : Except String (List UInt8) :=
  let encoded := trimSpace raw
  if encoded = "" then .error (newError ["wireguard key is empty"])
  else match (library.decodeBase64 encoded).or (library.decodeRawBase64 encoded) with
    | none => .error "illegal base64 data"
    | some decoded =>
      if decoded.length ≠ 32 then
        .error ("wireguard key must be 32 bytes, got " ++ toString decoded.length)
      else .ok decoded

def deriveWireGuardPublicKey (privateKey : String) : Except String String := do
  let key ← parseWireGuardKey library privateKey
  let publicKey ← library.x25519 key
  return library.encodeBase64 publicKey

def validateVKTurnProxySettings (db : Database) (targetFails : Bool)
    (settings : VKTurnProxySettings) (allowClients : Bool) : Except String Unit := do
  match settings.forward.type with
  | .wireguardInbound =>
    if settings.forward.wireguardInboundID ≤ 0 then
      throw (newError ["wireguard inbound is required"])
    let target ← db.getInbound targetFails settings.forward.wireguardInboundID
    if target.protocol ≠ .wireguard then
      throw (newError ["selected forward target is not a wireguard inbound"])
  | .external =>
    if trimSpace settings.forward.host = "" then
      throw (newError ["external forward host is required"])
    if settings.forward.port ≤ 0 ∨ 65535 < settings.forward.port then
      throw (newError ["external forward port is invalid"])
  | .other _ => throw (newError ["forward type is required"])
  if settings.sessionMode ∉ ["", "auto", "mainline", "mux"] then
    throw (newError ["vk-turn-proxy sessionMode is invalid"])
  if ¬ allowClients ∧ settings.clients ≠ [] then
    throw (newError ["clients can be configured only for wireguard inbound forwarding"])
  if settings.wbStreamEnabled then
    if settings.forward.type ≠ .wireguardInbound then
      throw (newError ["WB Stream requires forwarding to a wireguard inbound"])
    if ¬ settings.wbStreamExchangeViaVKTurn ∧ trimSpace settings.wbStreamRoomID = "" then
      throw (newError
        ["WB Stream room id is required when room exchange via VK TURN is disabled"])
    if settings.wbStreamE2EEnabled then
      let secret := trimSpace settings.wbStreamE2ESecret
      if secret = "" then
        throw (newError ["WB Stream E2E secret is required when E2E is enabled"])
      if (library.decodeBase64 secret).isNone ∧ (library.decodeRawBase64 secret).isNone then
        throw (newError ["WB Stream E2E secret must be base64-encoded"])

end Checks

end VkTurn.Panel
