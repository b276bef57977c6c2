import VkTurn.Panel.XrayClients
import VkTurn.Text.Split

/-! # The links of VK TURN clients

A client is exported as a configuration of its own: the endpoint of its inbound, its links, and the
peer that it is bound to, which is looked up in the WireGuard inbound.
-/

namespace VkTurn.Panel

open VkTurn.Store
open VkTurn.Text (trimSpace goSpace entries trimChars)

/-! ## The configuration -/

namespace Wingsv

structure Endpoint where
  host : String
  port : UInt32
  deriving DecidableEq

structure Cidr where
  addr : List UInt8
  bits : UInt32
  deriving DecidableEq

inductive TurnSessionMode where
  | auto
  | mainline
  | mux
  deriving DecidableEq

inductive ConfigType where
  | vk
  | wbStream
  deriving DecidableEq

inductive BackendType where
  | vkTurnWireguard
  | wbStream
  deriving DecidableEq

structure Turn where
  endpoint : Endpoint
  link : String
  links : List String
  linkSecondary : String
  threads : Option UInt32
  useUdp : Option Bool
  noObfuscation : Option Bool
  credsGroupSize : Option UInt32
  sessionMode : TurnSessionMode
  localEndpoint : Option Endpoint
  deriving DecidableEq

structure WbStream where
  roomId : String
  exchangeViaVkTurn : Bool
  e2eEnabled : Bool
  e2eSecret : List UInt8
  displayName : String
  deriving DecidableEq

structure WireguardConfig where
  privateKey : List UInt8
  addrs : List String
  dns : List String
  mtu : Option UInt32
  publicKey : List UInt8
  presharedKey : List UInt8
  allowedIps : List Cidr
  deriving DecidableEq

structure Config where
  ver : UInt32
  type : ConfigType
  backend : BackendType
  turn : Turn
  wbStream : Option WbStream
  wg : WireguardConfig
  deriving DecidableEq

end Wingsv

/-- What an export takes from libraries and from the machine it runs on. -/
structure Exporter where
  /-- The string that a JSON text stands for. -/
  readString : String → Option String
  splitHostPort : String → Option (String × String)
  parseCIDR : String → Except String Wingsv.Cidr
  /-- `getPrimaryServerIPv4`, with or without private addresses. -/
  primaryServerIPv4 : Bool → String
  /-- `getPublicIP` of the service that `getPublicServerIPv4` asks. -/
  publicIP : String
  marshal : Wingsv.Config → Except String (List UInt8)
  deflate : List UInt8 → Except String (List UInt8)
  encodeURL : List UInt8 → String

variable (library : Library) (exporter : Exporter) (clock : Clock)

/-! ## The host -/

def trimBrackets (text : String) : String :=
  String.ofList (trimChars (fun char => char = '[' || char = ']') text.toList)

def sanitizeIPv4Host (raw : String) : String :=
  let host := trimSpace (trimBrackets raw)
  if host = "" then ""
  else
    match library.parseIP host with
    | none => ""
    | some ip => if ¬ ip.isV4 ∨ ip.text = "0.0.0.0" then "" else ip.text

def extractRawHost (host : String) : String :=
  let host := trimSpace host
  if host = "" then ""
  else
    match exporter.splitHostPort host with
    | some (parsedHost, _) => trimBrackets parsedHost
    | none => trimBrackets host

/-- The first of the hosts that is one. -/
def resolveVKTurnProxyExportIPv4 (inbound : Inbound) (requestHost : String) : String :=
  let own := sanitizeIPv4Host library (trimSpace inbound.listen)
  let requested := sanitizeIPv4Host library (extractRawHost exporter requestHost)
  let published := sanitizeIPv4Host library (trimSpace exporter.publicIP)
  if own ≠ "" then own
  else if requested ≠ "" then requested
  else if exporter.primaryServerIPv4 false ≠ "" then exporter.primaryServerIPv4 false
  else if published ≠ "" then published
  else exporter.primaryServerIPv4 true

/-! ## Building the configuration -/

def splitCSV (raw : String) : List String := entries goSpace ',' raw

def mustParseUint32 (raw : String) : UInt32 :=
  match atoi raw with
  | .error _ => 0
  | .ok port => if port ≤ 0 then 0 else UInt32.ofInt port

def positiveUint32 (number : Int) : Option UInt32 :=
  if 0 < number then some (UInt32.ofInt number) else none

def secretKey (settings : WireguardSettings) : String :=
  ((settings.others.lookup "secretKey").bind exporter.readString).getD ""

def decodeSecret (secret : String) : Except String (List UInt8) :=
  match (library.decodeBase64 secret).or (library.decodeRawBase64 secret) with
  | some decoded => .ok decoded
  | none => .error (newError ["WB Stream E2E secret must be base64-encoded"])

/-- The part of the configuration about WB Stream. -/
def exportWbStream (settings : VKTurnProxySettings) (client : VKTurnProxyClient) :
    Except String (Option Wingsv.WbStream) :=
  if ¬ settings.wbStreamEnabled then .ok none
  else do
    let displayName := trimSpace settings.wbStreamDisplayName
    let e2eSecret ← if settings.wbStreamE2EEnabled then
        decodeSecret library (trimSpace settings.wbStreamE2ESecret)
      else .ok []
    return some
      { roomId := trimSpace settings.wbStreamRoomID
        exchangeViaVkTurn := settings.wbStreamExchangeViaVKTurn
        e2eEnabled := settings.wbStreamE2EEnabled
        e2eSecret
        displayName := if displayName = "" then trimSpace client.email else displayName }

/-- The local endpoint, unless it is the default one or cannot be split. -/
def exportLocalEndpoint (settings : VKTurnProxySettings) : Option Wingsv.Endpoint :=
  if settings.localEndpoint = "" ∨ settings.localEndpoint = "127.0.0.1:9000" then none
  else (exporter.splitHostPort settings.localEndpoint).map fun (host, port) =>
    ⟨host, mustParseUint32 port⟩

def exportTurn (inbound : Inbound) (settings : VKTurnProxySettings) (client : VKTurnProxyClient)
    (host : String) : Wingsv.Turn :=
  let links := dedupedClientLinks client
  { endpoint := ⟨host, UInt32.ofInt inbound.port⟩
    link := if client.link = "" then links.headD "" else client.link
    links := if 1 < links.length then links else []
    linkSecondary := trimSpace client.linkSecondary
    threads := positiveUint32 settings.threads
    useUdp := settings.useUDP
    noObfuscation := settings.noObfuscation
    credsGroupSize := positiveUint32 settings.credsGroupSize
    sessionMode :=
      if settings.sessionMode = "mainline" then .mainline
      else if settings.sessionMode = "mux" then .mux
      else .auto
    localEndpoint := exportLocalEndpoint exporter settings }

def buildVKTurnProxyExportConfig (db : Database) (inbound : Inbound)
    (settings : VKTurnProxySettings) (client : VKTurnProxyClient) (peer : WireguardPeer)
    (requestHost : String) : Except String Wingsv.Config := do
  let host := resolveVKTurnProxyExportIPv4 library exporter inbound requestHost
  if host = "" then throw (newError ["unable to determine export host for vk-turn-proxy"])
  let wgInbound ← db.getInbound false settings.forward.wireguardInboundID
  let (wgSettings, _) ← getWireguardSettings wgInbound.settings
  let serverPublicKey ← deriveWireGuardPublicKey library (secretKey exporter wgSettings)
  let privateKey ← parseWireGuardKey library peer.privateKey
  let publicKey ← parseWireGuardKey library serverPublicKey
  let wbStream ← exportWbStream library settings client
  let allowedIps ← (splitCSV settings.wgAllowedIPs).mapM (exporter.parseCIDR <| trimSpace ·)
  let presharedKey ← if trimSpace peer.preSharedKey ≠ "" then
      parseWireGuardKey library peer.preSharedKey
    else .ok []
  return {
    ver := 1
    type := if settings.wbStreamEnabled then .wbStream else .vk
    backend := if settings.wbStreamEnabled then .wbStream else .vkTurnWireguard
    turn := exportTurn exporter inbound settings client host
    wbStream
    wg := {
      privateKey
      addrs := peer.allowedIPs
      dns := splitCSV settings.wgDNS
      mtu := positiveUint32 settings.wgMTU
      publicKey
      presharedKey
      allowedIps } }

def formatProtoDeflate : UInt8 := 0x12

/-- The number of threads is not exported. -/
def encodeVKTurnProxyConfig (config : Wingsv.Config) : Except String String := do
  let payload ← exporter.marshal { config with turn := { config.turn with threads := none } }
  let compressed ← exporter.deflate payload
  return "wingsv://" ++ exporter.encodeURL (formatProtoDeflate :: compressed)

/-! ## The calls -/

structure VKTurnProxyExportedClient where
  clientID : String
  email : String
  link : String
  deriving DecidableEq

def exportVKTurnProxyClient (db : Database) (inboundID : Int) (clientID requestHost : String) :
    Except String String := do
  let inbound ← db.getInbound false inboundID
  if inbound.protocol ≠ .vkTurnProxy then throw (newError ["inbound is not vk-turn-proxy"])
  let settings ← getVKTurnProxySettings clock inbound.settings
  if settings.forward.type ≠ .wireguardInbound then
    throw (newError ["vk-turn-proxy export requires a wireguard inbound target"])
  let (_, client) ← clientAt settings clientID
  let peer ← getWireguardPeerByPublicKey db false settings.forward.wireguardInboundID
    client.peerPublicKey
  let config ← buildVKTurnProxyExportConfig library exporter db inbound settings client peer
    requestHost
  encodeVKTurnProxyConfig exporter config

/-- Every export reads the inbound again, at the time `later`. -/
def exportAllVKTurnProxyClients (later : Clock) (db : Database) (inboundID : Int)
    (requestHost : String) : Except String (List VKTurnProxyExportedClient) := do
  let inbound ← db.getInbound false inboundID
  if inbound.protocol ≠ .vkTurnProxy then throw (newError ["inbound is not vk-turn-proxy"])
  let settings ← getVKTurnProxySettings clock inbound.settings
  settings.clients.mapM fun client => do
    let link ← exportVKTurnProxyClient library exporter later db inboundID client.id requestHost
    return ⟨client.id, client.email, link⟩

end VkTurn.Panel
