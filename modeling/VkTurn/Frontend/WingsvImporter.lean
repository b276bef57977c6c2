import VkTurn.Launcher.ProxyArgs
import VkTurn.Text.Base64
import VkTurn.Text.Kotlin

/-! # Import of wingsv links

A link is a token, or the address of a subscription that holds one; the token is unpacked into a
`WingsvConfig`, from which a server, an identity and a route are made.
-/

namespace VkTurn.Frontend

open VkTurn.Launcher VkTurn.Text

abbrev Bytes := List UInt8

/-! ## The message -/

structure WingsvEndpoint where
  host : String := ""
  port : Int32 := 0
  deriving DecidableEq

structure WingsvCidr where
  addr : Bytes := []
  networkPrefix : Int32 := 0
  deriving DecidableEq

structure WingsvTurn where
  endpoint : Option WingsvEndpoint := none
  link : String := ""
  threads : Option Int32 := none
  useUdp : Option Bool := none
  noObfuscation : Option Bool := none
  localEndpoint : Option WingsvEndpoint := none
  host : String := ""
  port : Option Int32 := none
  sessionMode : Int32 := 0
  links : List String := []
  linkSecondary : String := ""
  credsGroupSize : Option Int32 := none
  deriving DecidableEq

structure WingsvInterface where
  privateKey : Bytes := []
  addrs : List String := []
  dns : List String := []
  mtu : Option Int32 := none
  deriving DecidableEq

structure WingsvPeer where
  publicKey : Bytes := []
  presharedKey : Bytes := []
  allowedIps : List WingsvCidr := []
  deriving DecidableEq

structure WingsvWireGuard where
  iface : Option WingsvInterface := none
  peer : Option WingsvPeer := none
  endpoint : Option WingsvEndpoint := none
  deriving DecidableEq

structure WingsvAmneziaWg where
  awgQuickConfig : String := ""
  deriving DecidableEq

structure WingsvWbStream where
  roomId : String := ""
  exchangeViaVkTurn : Bool := false
  e2eEnabled : Bool := false
  e2eSecret : Bytes := []
  displayName : String := ""
  deriving DecidableEq

structure WingsvConfig where
  ver : Int32 := 0
  type : Int32 := 0
  turn : Option WingsvTurn := none
  wg : Option WingsvWireGuard := none
  backend : Int32 := 0
  awg : Option WingsvAmneziaWg := none
  wbStream : Option WingsvWbStream := none
  deriving DecidableEq

namespace Wingsv

def turnSessionAuto : Int32 := 1
def turnSessionMainline : Int32 := 2
def turnSessionMux : Int32 := 3

end Wingsv

/-! ## The identity -/

inductive WgFlavor where
  | wireguard
  | amnezia
  deriving DecidableEq

structure IdentityWg where
  flavor : WgFlavor := .wireguard
  privateKey : String := ""
  address : String := "10.8.0.2/24"
  dns : String := "1.1.1.1, 8.8.8.8"
  mtu : Int32 := 1280
  peerPublicKey : String := ""
  peerPresharedKey : String := ""
  allowedIps : String := "0.0.0.0/0, ::/0"
  persistentKeepalive : Int32 := 25
  awgJc : Int32 := 4
  awgJmin : Int32 := 40
  awgJmax : Int32 := 70
  awgS1 : Int32 := 0
  awgS2 : Int32 := 0
  awgH1 : Int64 := 1
  awgH2 : Int64 := 2
  awgH3 : Int64 := 3
  awgH4 : Int64 := 4
  deriving DecidableEq

/-- What an import adds to the configuration: a server with one identity that has one route. -/
structure Imported where
  server : Server
  wg : IdentityWg
  route : VkTurnProxy
  notes : List String
  deriving DecidableEq

def ifBlank (text default : String) : String := if isNotBlank text then text else default

def hexText (value : Nat) : String := String.ofList (Nat.toDigits 16 value)

/-- `toHexColonsIPv6`, of 16 bytes. -/
def toHexColonsIPv6 : Bytes → List String
  | hi :: lo :: rest => hexText (hi.toNat * 256 + lo.toNat) :: toHexColonsIPv6 rest
  | _ => []

def cidrToString (cidr : WingsvCidr) : String :=
  let withPrefix (ip : String) : String := ip ++ "/" ++ toString cidr.networkPrefix.toInt
  if cidr.addr.length = 4 then
    withPrefix (joinToString "." (cidr.addr.map fun byte => toString byte.toNat))
  else if cidr.addr.length = 16 then withPrefix (joinToString ":" (toHexColonsIPv6 cidr.addr))
  else ""

/-- The `key = value` lines of a wg-quick text, in order. -/
def awgProps (body : String) : List (String × String) :=
  (lineSequence body).filterMap fun lineRaw =>
    let line := kotlinTrim (substringBefore '#' lineRaw)
    if line = "" ∨ line.toList.head? = some '[' then none
    else
      let key := line.toList.takeWhile (· ≠ '=')
      if key.length = line.toList.length ∨ key = [] then none
      else
        some (kotlinTrim (String.ofList key),
          kotlinTrim (String.ofList (line.toList.drop (key.length + 1))))

/-- The first value of a key, or nothing. -/
def singleProp (props : List (String × String)) (key : String) : String :=
  ((props.find? (·.1 = key)).map (·.2)).getD ""

def parseAwgQuick (body : String) : IdentityWg :=
  let single := singleProp (awgProps body)
  let intOr (key : String) (default : Int32) : Int32 := (toIntOrNull (single key)).getD default
  let longOr (key : String) (default : Int64) : Int64 := (toLongOrNull (single key)).getD default
  { flavor := .amnezia
    privateKey := single "PrivateKey"
    address := ifBlank (single "Address") "10.8.0.2/24"
    dns := single "DNS"
    mtu := intOr "MTU" 1280
    peerPublicKey := single "PublicKey"
    peerPresharedKey := single "PresharedKey"
    allowedIps := ifBlank (single "AllowedIPs") "0.0.0.0/0, ::/0"
    persistentKeepalive := intOr "PersistentKeepalive" 25
    awgJc := intOr "Jc" 4
    awgJmin := intOr "Jmin" 40
    awgJmax := intOr "Jmax" 70
    awgS1 := intOr "S1" 0
    awgS2 := intOr "S2" 0
    awgH1 := longOr "H1" 1
    awgH2 := longOr "H2" 2
    awgH3 := longOr "H3" 3
    awgH4 := longOr "H4" 4 }

def noKeysNote : String :=
  "Подписка не содержит ни WG, ни AmneziaWG-ключей — identity создан с пустыми полями."

def renderWireGuard (iface : WingsvInterface) (peer : WingsvPeer) : IdentityWg :=
  let addrs := if iface.addrs = [] then ["10.8.0.2/24"] else iface.addrs
  { flavor := .wireguard
    privateKey := base64Encode iface.privateKey
    address := joinToString ", " addrs
    dns := joinToString ", " iface.dns
    mtu := iface.mtu.getD 1280
    peerPublicKey := base64Encode peer.publicKey
    peerPresharedKey := if peer.presharedKey = [] then "" else base64Encode peer.presharedKey
    allowedIps :=
      ifBlank (joinToString ", " (peer.allowedIps.map cidrToString)) "0.0.0.0/0, ::/0"
    persistentKeepalive := 25 }

def renderIdentityWg (wg : Option WingsvWireGuard) (awg : Option WingsvAmneziaWg) :
    IdentityWg × List String :=
  match wg.bind fun wg => wg.iface.bind fun iface => wg.peer.map fun peer => (iface, peer) with
  | some (iface, peer) => (renderWireGuard iface peer, [])
  | none =>
    match awg with
    | some awg =>
      if isNotBlank awg.awgQuickConfig then (parseAwgQuick awg.awgQuickConfig, [])
      else ({}, [noKeysNote])
    | none => ({}, [noKeysNote])

/-! ## The import -/

/-- A character as comparisons that ignore the case see it, next to ASCII letters without k: the
    long s is the only other character they take for one. -/
def ignoringCase (char : Char) : Char := if char.toNat = 0x17f then 's' else char.toLower

def containsIgnoringCase (text needle : String) : Bool :=
  (text.toList.map ignoringCase).tails.any needle.toList.isPrefixOf

def startsIgnoringCase (text start : String) : Bool :=
  start.toList.isPrefixOf (text.toList.map ignoringCase)

def primaryLinks (turn : WingsvTurn) : List String :=
  (if isNotBlank turn.link then [turn.link] else []) ++
    turn.links.filter fun link => isNotBlank link ∧ link ≠ turn.link

def importedRoute (turn : WingsvTurn) : VkTurnProxy :=
  let links := primaryLinks turn
  { linkKind :=
      if links.any (containsIgnoringCase · "telemost.yandex.ru") then .yandex else .vk
    primaryLinks := links
    secondaryLink := turn.linkSecondary
    listenHost := ((turn.localEndpoint.map (·.host)).filter isNotBlank).getD "127.0.0.1"
    listenPort := ((turn.localEndpoint.map (·.port)).filter (0 < ·)).getD 9000
    streams := turn.threads.getD 0
    transport := .datagram
    turnTransport := if turn.useUdp = some true then .udp else .tcp
    overrideTurnHost := turn.host
    overrideTurnPort := (turn.port.map fun port => toString port.toInt).getD ""
    captchaMode := .autoThenManual
    captchaSolver := .v2
    sessionMode :=
      if turn.sessionMode = Wingsv.turnSessionMainline then .mainline
      else if turn.sessionMode = Wingsv.turnSessionMux then .mu
      else .auto
    credsGroupSize := turn.credsGroupSize.getD 12
    directNoDtls := turn.noObfuscation = some true }

def merge (source : WingsvConfig) : Except String Imported :=
  match source.turn with
  | none => .error "turn section missing"
  | some turn =>
    match turn.endpoint.filter fun endpoint => isNotBlank endpoint.host with
    | none => .error "turn.endpoint.host missing"
    | some endpoint =>
      let (wg, notes) := renderIdentityWg source.wg source.awg
      let proxyPort := if 0 < endpoint.port then endpoint.port else 56000
      .ok {
        server := { host := endpoint.host, proxyPort := proxyPort }
        wg := wg
        route := importedRoute turn
        notes := notes }

/-- The parts of the import that come with the platform and the libraries. -/
structure WingsvCodec where
  fetchSubscription : String → Option String
  base64UrlDecode : String → Option Bytes
  inflateZlib : Bytes → Option Bytes
  decodeProto : Bytes → Option WingsvConfig

section Import

variable (codec : WingsvCodec)

/-- The quotes that `normalize` trims; 39 is the apostrophe. -/
def isQuote (char : Char) : Bool := char.toNat = 39 ∨ char = '"'

/-- `depth` bounds the subscriptions that lead to further ones. -/
def normalize : Nat → String → Option String
  | 0, _ => none
  | depth + 1, raw =>
    let trimmed := trim isQuote (kotlinTrim raw)
    if trimmed = "" then none
    else if startsIgnoringCase trimmed "http://" ∨ startsIgnoringCase trimmed "https://" then
      (codec.fetchSubscription trimmed).bind fun fetched => normalize depth (kotlinTrim fetched)
    else
      let body := removePrefix "wingsv://" trimmed
      if isNotBlank body then some body else none

def frameProtoDeflate : UInt8 := 0x12

def decodeToken (body : String) : Option Bytes :=
  let cleaned := String.ofList
    (body.toList.filter fun char => char ≠ '\n' ∧ char ≠ '\r' ∧ char ≠ ' ')
  let unpadded := String.ofList (cleaned.toList.rdropWhile (· = '='))
  match codec.base64UrlDecode cleaned <|> codec.base64UrlDecode unpadded with
  | some (first :: deflated) =>
    if first = frameProtoDeflate then codec.inflateZlib deflated else none
  | _ => none

/-- `WingsvImporter.import`. -/
def importLink (depth : Nat) (raw : String) : Except String Imported :=
  match normalize codec depth raw with
  | none => .error "Не получилось найти wingsv:// токен"
  | some token =>
    match decodeToken codec token with
    | none => .error "Не удалось декодировать токен"
    | some bytes =>
      match codec.decodeProto bytes with
      | none => .error "Неправильный формат: proto не разобрался"
      | some config =>
        match merge config with
        | .error message => .error ("Ошибка импорта: " ++ message)
        | .ok imported => .ok imported

end Import

end VkTurn.Frontend
