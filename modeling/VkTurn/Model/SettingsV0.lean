import VkTurn.Model.RouteJson

/-! # The settings of schema v0

The flat record that earlier versions wrote, with the fields that equal their defaults left out.
-/

namespace VkTurn.Model

open VkTurn.Text
open VkTurn.Launcher (LinkKind CaptchaMode TurnTransport)
open VkTurn.Frontend (WgFlavor)

structure WgSettingsV0 where
  flavor : WgFlavor := .wireguard
  clientPrivateKey : String := ""
  clientAddress : String := "10.8.0.2/24"
  clientDns : String := "1.1.1.1, 8.8.8.8"
  mtu : Int32 := 1280
  serverPublicKey : String := ""
  serverPresharedKey : String := ""
  endpoint : String := "127.0.0.1:9000"
  allowedIps : String := "0.0.0.0/0, ::/0"
  persistentKeepalive : Int32 := 25
  awgJc : Int32 := 4
  awgJmin : Int32 := 40
  awgJmax : Int32 := 70
  awgS1 : Int32 := 0
  awgS2 : Int32 := 0
  awgH1 : Int64 := 1
  awgH2 : Int64 := 2
  awgH3 : Int64 := 3
  awgH4 : Int64 := 4
  deriving DecidableEq

structure AppSettingsV0 where
  linkKind : LinkKind := .vk
  vkLink : String := ""
  yandexLink : String := ""
  peerHost : String := ""
  peerPort : Int32 := 56000
  listenHost : String := "127.0.0.1"
  listenPort : Int32 := 9000
  streams : Int32 := 0
  transport : TurnTransport := .tcp
  overrideTurnHost : String := ""
  overrideTurnPort : String := ""
  captchaMode : CaptchaMode := .autoThenManual
  vlessMode : Bool := false
  directNoDtls : Bool := false
  debug : Bool := false
  binaryPath : String := ""
  wg : WgSettingsV0 := {}
  deriving DecidableEq

variable (json : KotlinJson)

def wgSettingsV0Entries (wg : WgSettingsV0) : List (String × Option JsonValue) :=
  let default : WgSettingsV0 := {}
  [("flavor", wgFlavor.entry () default.flavor wg.flavor),
    ("clientPrivateKey", json.string.entry () default.clientPrivateKey wg.clientPrivateKey),
    ("clientAddress", json.string.entry () default.clientAddress wg.clientAddress),
    ("clientDns", json.string.entry () default.clientDns wg.clientDns),
    ("mtu", json.int.entry () default.mtu wg.mtu),
    ("serverPublicKey", json.string.entry () default.serverPublicKey wg.serverPublicKey),
    ("serverPresharedKey", json.string.entry () default.serverPresharedKey wg.serverPresharedKey),
    ("endpoint", json.string.entry () default.endpoint wg.endpoint),
    ("allowedIps", json.string.entry () default.allowedIps wg.allowedIps),
    ("persistentKeepalive", json.int.entry () default.persistentKeepalive wg.persistentKeepalive),
    ("awgJc", json.int.entry () default.awgJc wg.awgJc),
    ("awgJmin", json.int.entry () default.awgJmin wg.awgJmin),
    ("awgJmax", json.int.entry () default.awgJmax wg.awgJmax),
    ("awgS1", json.int.entry () default.awgS1 wg.awgS1),
    ("awgS2", json.int.entry () default.awgS2 wg.awgS2),
    ("awgH1", json.long.entry () default.awgH1 wg.awgH1),
    ("awgH2", json.long.entry () default.awgH2 wg.awgH2),
    ("awgH3", json.long.entry () default.awgH3 wg.awgH3),
    ("awgH4", json.long.entry () default.awgH4 wg.awgH4)]

def readWgSettingsV0 (fields : JsonFields) : Option WgSettingsV0 := do
  let default : WgSettingsV0 := {}
  let flavor ← wgFlavor.field () "flavor" default.flavor fields
  let clientPrivateKey ← json.string.field () "clientPrivateKey" default.clientPrivateKey fields
  let clientAddress ← json.string.field () "clientAddress" default.clientAddress fields
  let clientDns ← json.string.field () "clientDns" default.clientDns fields
  let mtu ← json.int.field () "mtu" default.mtu fields
  let serverPublicKey ← json.string.field () "serverPublicKey" default.serverPublicKey fields
  let serverPresharedKey ←
    json.string.field () "serverPresharedKey" default.serverPresharedKey fields
  let endpoint ← json.string.field () "endpoint" default.endpoint fields
  let allowedIps ← json.string.field () "allowedIps" default.allowedIps fields
  let persistentKeepalive ←
    json.int.field () "persistentKeepalive" default.persistentKeepalive fields
  let awgJc ← json.int.field () "awgJc" default.awgJc fields
  let awgJmin ← json.int.field () "awgJmin" default.awgJmin fields
  let awgJmax ← json.int.field () "awgJmax" default.awgJmax fields
  let awgS1 ← json.int.field () "awgS1" default.awgS1 fields
  let awgS2 ← json.int.field () "awgS2" default.awgS2 fields
  let awgH1 ← json.long.field () "awgH1" default.awgH1 fields
  let awgH2 ← json.long.field () "awgH2" default.awgH2 fields
  let awgH3 ← json.long.field () "awgH3" default.awgH3 fields
  let awgH4 ← json.long.field () "awgH4" default.awgH4 fields
  return ⟨flavor, clientPrivateKey, clientAddress, clientDns, mtu, serverPublicKey,
    serverPresharedKey, endpoint, allowedIps, persistentKeepalive, awgJc, awgJmin, awgJmax, awgS1,
    awgS2, awgH1, awgH2, awgH3, awgH4⟩

theorem readWgSettingsV0_entries (wg : WgSettingsV0) :
    readWgSettingsV0 json (objectOf (wgSettingsV0Entries json wg)) = some wg := by
  have distinct : ((wgSettingsV0Entries json wg).map Prod.fst).Nodup := by
    simp [wgSettingsV0Entries]
  unfold readWgSettingsV0
  simp only [Serializer.plain_at distinct 0 rfl rfl, Serializer.plain_at distinct 1 rfl rfl,
    Serializer.plain_at distinct 2 rfl rfl, Serializer.plain_at distinct 3 rfl rfl,
    Serializer.plain_at distinct 4 rfl rfl, Serializer.plain_at distinct 5 rfl rfl,
    Serializer.plain_at distinct 6 rfl rfl, Serializer.plain_at distinct 7 rfl rfl,
    Serializer.plain_at distinct 8 rfl rfl, Serializer.plain_at distinct 9 rfl rfl,
    Serializer.plain_at distinct 10 rfl rfl, Serializer.plain_at distinct 11 rfl rfl,
    Serializer.plain_at distinct 12 rfl rfl, Serializer.plain_at distinct 13 rfl rfl,
    Serializer.plain_at distinct 14 rfl rfl, Serializer.plain_at distinct 15 rfl rfl,
    Serializer.plain_at distinct 16 rfl rfl, Serializer.plain_at distinct 17 rfl rfl,
    Serializer.plain_at distinct 18 rfl rfl,
    Option.bind_eq_bind, Option.bind_some, Option.pure_def]

def wgSettingsV0Serializer : Serializer Unit WgSettingsV0 :=
  .record (fun _ => wgSettingsV0Entries json) (fun _ => readWgSettingsV0 json) (fun _ _ wg => wg)
    (fun _ _ => readWgSettingsV0_entries json)

def appSettingsV0Entries (settings : AppSettingsV0) : List (String × Option JsonValue) :=
  let default : AppSettingsV0 := {}
  [("linkKind", linkKind.entry () default.linkKind settings.linkKind),
    ("vkLink", json.string.entry () default.vkLink settings.vkLink),
    ("yandexLink", json.string.entry () default.yandexLink settings.yandexLink),
    ("peerHost", json.string.entry () default.peerHost settings.peerHost),
    ("peerPort", json.int.entry () default.peerPort settings.peerPort),
    ("listenHost", json.string.entry () default.listenHost settings.listenHost),
    ("listenPort", json.int.entry () default.listenPort settings.listenPort),
    ("streams", json.int.entry () default.streams settings.streams),
    ("transport", turnTransport.entry () default.transport settings.transport),
    ("overrideTurnHost", json.string.entry () default.overrideTurnHost settings.overrideTurnHost),
    ("overrideTurnPort", json.string.entry () default.overrideTurnPort settings.overrideTurnPort),
    ("captchaMode", captchaMode.entry () default.captchaMode settings.captchaMode),
    ("vlessMode", json.boolean.entry () default.vlessMode settings.vlessMode),
    ("directNoDtls", json.boolean.entry () default.directNoDtls settings.directNoDtls),
    ("debug", json.boolean.entry () default.debug settings.debug),
    ("binaryPath", json.string.entry () default.binaryPath settings.binaryPath),
    ("wg", (wgSettingsV0Serializer json).entry () default.wg settings.wg)]

def readAppSettingsV0 (fields : JsonFields) : Option AppSettingsV0 := do
  let default : AppSettingsV0 := {}
  let linkKind ← linkKind.field () "linkKind" default.linkKind fields
  let vkLink ← json.string.field () "vkLink" default.vkLink fields
  let yandexLink ← json.string.field () "yandexLink" default.yandexLink fields
  let peerHost ← json.string.field () "peerHost" default.peerHost fields
  let peerPort ← json.int.field () "peerPort" default.peerPort fields
  let listenHost ← json.string.field () "listenHost" default.listenHost fields
  let listenPort ← json.int.field () "listenPort" default.listenPort fields
  let streams ← json.int.field () "streams" default.streams fields
  let transport ← turnTransport.field () "transport" default.transport fields
  let overrideTurnHost ← json.string.field () "overrideTurnHost" default.overrideTurnHost fields
  let overrideTurnPort ← json.string.field () "overrideTurnPort" default.overrideTurnPort fields
  let captchaMode ← captchaMode.field () "captchaMode" default.captchaMode fields
  let vlessMode ← json.boolean.field () "vlessMode" default.vlessMode fields
  let directNoDtls ← json.boolean.field () "directNoDtls" default.directNoDtls fields
  let debug ← json.boolean.field () "debug" default.debug fields
  let binaryPath ← json.string.field () "binaryPath" default.binaryPath fields
  let wg ← (wgSettingsV0Serializer json).field () "wg" default.wg fields
  return ⟨linkKind, vkLink, yandexLink, peerHost, peerPort, listenHost, listenPort, streams,
    transport, overrideTurnHost, overrideTurnPort, captchaMode, vlessMode, directNoDtls, debug,
    binaryPath, wg⟩

theorem readAppSettingsV0_entries (settings : AppSettingsV0) :
    readAppSettingsV0 json (objectOf (appSettingsV0Entries json settings)) = some settings := by
  have distinct : ((appSettingsV0Entries json settings).map Prod.fst).Nodup := by
    simp [appSettingsV0Entries]
  unfold readAppSettingsV0
  simp only [Serializer.plain_at distinct 0 rfl rfl, Serializer.plain_at distinct 1 rfl rfl,
    Serializer.plain_at distinct 2 rfl rfl, Serializer.plain_at distinct 3 rfl rfl,
    Serializer.plain_at distinct 4 rfl rfl, Serializer.plain_at distinct 5 rfl rfl,
    Serializer.plain_at distinct 6 rfl rfl, Serializer.plain_at distinct 7 rfl rfl,
    Serializer.plain_at distinct 8 rfl rfl, Serializer.plain_at distinct 9 rfl rfl,
    Serializer.plain_at distinct 10 rfl rfl, Serializer.plain_at distinct 11 rfl rfl,
    Serializer.plain_at distinct 12 rfl rfl, Serializer.plain_at distinct 13 rfl rfl,
    Serializer.plain_at distinct 14 rfl rfl, Serializer.plain_at distinct 15 rfl rfl,
    Serializer.plain_at distinct 16 rfl rfl,
    Option.bind_eq_bind, Option.bind_some, Option.pure_def]

end VkTurn.Model
