import VkTurn.Model.Tree
import VkTurn.Text.KotlinJson

/-! # Routes and keys as JSON

A field is written unless it equals its default.  The default of an id is drawn anew each time, also
for the comparison when the id is written.
-/

namespace VkTurn.Model

open VkTurn.Text
open VkTurn.Launcher (LinkKind CaptchaMode CaptchaSolver TurnTransport TransportMode TcpFlavor
  SessionMode)
open VkTurn.Frontend (WgFlavor IdentityWg)

/-! ## Draws -/

/-- What is drawn for a node while a configuration is written or read. -/
structure Drawn where
  id : String
  /-- The id of the route in the default `routes` of an identity. -/
  defaultRouteId : String

/-- The draws for a node and for those below it, by their positions. -/
abbrev Draws := List Nat → Drawn

def Draws.id (draws : Draws) : String := (draws []).id

def Draws.nth (position : Nat) (draws : Draws) : Draws := fun path => draws (position :: path)

/-- An id that equals the one drawn for the comparison is not written, and drawn again when it is
    read. -/
def redrawId (saving loading : Draws) (id : String) : String :=
  if id = saving.id then loading.id else id

/-! ## Enumerations -/

section Enumerations

variable {δ : Type}

def linkKind : Serializer δ LinkKind :=
  .enumeration [.vk, .yandex]
    (fun
      | .vk => "VK"
      | .yandex => "YANDEX")
    (by rintro (_ | _) <;> rfl)

def captchaMode : Serializer δ CaptchaMode :=
  .enumeration [.autoThenManual, .autoOnly, .manualOnly]
    (fun
      | .autoThenManual => "AUTO_THEN_MANUAL"
      | .autoOnly => "AUTO_ONLY"
      | .manualOnly => "MANUAL_ONLY")
    (by rintro (_ | _ | _) <;> rfl)

def captchaSolver : Serializer δ CaptchaSolver :=
  .enumeration [.v2, .v1]
    (fun
      | .v2 => "V2"
      | .v1 => "V1")
    (by rintro (_ | _) <;> rfl)

def turnTransport : Serializer δ TurnTransport :=
  .enumeration [.tcp, .udp]
    (fun
      | .tcp => "TCP"
      | .udp => "UDP")
    (by rintro (_ | _) <;> rfl)

def transportMode : Serializer δ TransportMode :=
  .enumeration [.datagram, .tcp]
    (fun
      | .datagram => "DATAGRAM"
      | .tcp => "TCP")
    (by rintro (_ | _) <;> rfl)

def tcpFlavor : Serializer δ TcpFlavor :=
  .enumeration [.auto, .direct, .legacy]
    (fun
      | .auto => "AUTO"
      | .direct => "DIRECT"
      | .legacy => "LEGACY")
    (by rintro (_ | _ | _) <;> rfl)

def sessionMode : Serializer δ SessionMode :=
  .enumeration [.auto, .mainline, .mu]
    (fun
      | .auto => "AUTO"
      | .mainline => "MAINLINE"
      | .mu => "MU")
    (by rintro (_ | _ | _) <;> rfl)

def wgFlavor : Serializer δ WgFlavor :=
  .enumeration [.wireguard, .amnezia]
    (fun
      | .wireguard => "WIREGUARD"
      | .amnezia => "AMNEZIA")
    (by rintro (_ | _) <;> rfl)

end Enumerations

/-! ## IdentityWg -/

variable (json : KotlinJson)

def identityWgEntries (draws : Draws) (wg : IdentityWg) : List (String × Option JsonValue) :=
  let default : IdentityWg := {}
  [("flavor", wgFlavor.entry draws default.flavor wg.flavor),
    ("privateKey", json.string.entry draws default.privateKey wg.privateKey),
    ("address", json.string.entry draws default.address wg.address),
    ("dns", json.string.entry draws default.dns wg.dns),
    ("mtu", json.int.entry draws default.mtu wg.mtu),
    ("peerPublicKey", json.string.entry draws default.peerPublicKey wg.peerPublicKey),
    ("peerPresharedKey", json.string.entry draws default.peerPresharedKey wg.peerPresharedKey),
    ("allowedIps", json.string.entry draws default.allowedIps wg.allowedIps),
    ("persistentKeepalive",
      json.int.entry draws default.persistentKeepalive wg.persistentKeepalive),
    ("awgJc", json.int.entry draws default.awgJc wg.awgJc),
    ("awgJmin", json.int.entry draws default.awgJmin wg.awgJmin),
    ("awgJmax", json.int.entry draws default.awgJmax wg.awgJmax),
    ("awgS1", json.int.entry draws default.awgS1 wg.awgS1),
    ("awgS2", json.int.entry draws default.awgS2 wg.awgS2),
    ("awgH1", json.long.entry draws default.awgH1 wg.awgH1),
    ("awgH2", json.long.entry draws default.awgH2 wg.awgH2),
    ("awgH3", json.long.entry draws default.awgH3 wg.awgH3),
    ("awgH4", json.long.entry draws default.awgH4 wg.awgH4)]

def readIdentityWg (draws : Draws) (fields : JsonFields) : Option IdentityWg := do
  let default : IdentityWg := {}
  let flavor ← wgFlavor.field draws "flavor" default.flavor fields
  let privateKey ← json.string.field draws "privateKey" default.privateKey fields
  let address ← json.string.field draws "address" default.address fields
  let dns ← json.string.field draws "dns" default.dns fields
  let mtu ← json.int.field draws "mtu" default.mtu fields
  let peerPublicKey ← json.string.field draws "peerPublicKey" default.peerPublicKey fields
  let peerPresharedKey ←
    json.string.field draws "peerPresharedKey" default.peerPresharedKey fields
  let allowedIps ← json.string.field draws "allowedIps" default.allowedIps fields
  let persistentKeepalive ←
    json.int.field draws "persistentKeepalive" default.persistentKeepalive fields
  let awgJc ← json.int.field draws "awgJc" default.awgJc fields
  let awgJmin ← json.int.field draws "awgJmin" default.awgJmin fields
  let awgJmax ← json.int.field draws "awgJmax" default.awgJmax fields
  let awgS1 ← json.int.field draws "awgS1" default.awgS1 fields
  let awgS2 ← json.int.field draws "awgS2" default.awgS2 fields
  let awgH1 ← json.long.field draws "awgH1" default.awgH1 fields
  let awgH2 ← json.long.field draws "awgH2" default.awgH2 fields
  let awgH3 ← json.long.field draws "awgH3" default.awgH3 fields
  let awgH4 ← json.long.field draws "awgH4" default.awgH4 fields
  return ⟨flavor, privateKey, address, dns, mtu, peerPublicKey, peerPresharedKey, allowedIps,
    persistentKeepalive, awgJc, awgJmin, awgJmax, awgS1, awgS2, awgH1, awgH2, awgH3, awgH4⟩

theorem readIdentityWg_entries (saving loading : Draws) (wg : IdentityWg) :
    readIdentityWg json loading (objectOf (identityWgEntries json saving wg)) = some wg := by
  have distinct : ((identityWgEntries json saving wg).map Prod.fst).Nodup := by
    simp [identityWgEntries]
  unfold readIdentityWg
  simp only [Serializer.plain_at distinct 0 rfl rfl, Serializer.plain_at distinct 1 rfl rfl,
    Serializer.plain_at distinct 2 rfl rfl, Serializer.plain_at distinct 3 rfl rfl,
    Serializer.plain_at distinct 4 rfl rfl, Serializer.plain_at distinct 5 rfl rfl,
    Serializer.plain_at distinct 6 rfl rfl, Serializer.plain_at distinct 7 rfl rfl,
    Serializer.plain_at distinct 8 rfl rfl, Serializer.plain_at distinct 9 rfl rfl,
    Serializer.plain_at distinct 10 rfl rfl, Serializer.plain_at distinct 11 rfl rfl,
    Serializer.plain_at distinct 12 rfl rfl, Serializer.plain_at distinct 13 rfl rfl,
    Serializer.plain_at distinct 14 rfl rfl, Serializer.plain_at distinct 15 rfl rfl,
    Serializer.plain_at distinct 16 rfl rfl, Serializer.plain_at distinct 17 rfl rfl,
    Option.bind_eq_bind, Option.bind_some, Option.pure_def]

/-! ## WbStream -/

/-- `WbStream`, with the fields that the launcher does not read. -/
structure WbStream extends Launcher.WbStream where
  e2eEnabled : Bool := false
  exchangeViaVkTurn : Bool := true
  deriving DecidableEq

def wbStreamEntries (draws : Draws) (wbStream : WbStream) : List (String × Option JsonValue) :=
  let default : WbStream := {}
  [("enabled", json.boolean.entry draws default.enabled wbStream.enabled),
    ("roomId", json.string.entry draws default.roomId wbStream.roomId),
    ("displayName", json.string.entry draws default.displayName wbStream.displayName),
    ("e2eEnabled", json.boolean.entry draws default.e2eEnabled wbStream.e2eEnabled),
    ("e2eSecretB64", json.string.entry draws default.e2eSecretB64 wbStream.e2eSecretB64),
    ("exchangeViaVkTurn",
      json.boolean.entry draws default.exchangeViaVkTurn wbStream.exchangeViaVkTurn)]

def readWbStream (draws : Draws) (fields : JsonFields) : Option WbStream := do
  let default : WbStream := {}
  let enabled ← json.boolean.field draws "enabled" default.enabled fields
  let roomId ← json.string.field draws "roomId" default.roomId fields
  let displayName ← json.string.field draws "displayName" default.displayName fields
  let e2eEnabled ← json.boolean.field draws "e2eEnabled" default.e2eEnabled fields
  let e2eSecretB64 ← json.string.field draws "e2eSecretB64" default.e2eSecretB64 fields
  let exchangeViaVkTurn ←
    json.boolean.field draws "exchangeViaVkTurn" default.exchangeViaVkTurn fields
  return { enabled := enabled, roomId := roomId, displayName := displayName,
           e2eEnabled := e2eEnabled, e2eSecretB64 := e2eSecretB64,
           exchangeViaVkTurn := exchangeViaVkTurn }

theorem readWbStream_entries (saving loading : Draws) (wbStream : WbStream) :
    readWbStream json loading (objectOf (wbStreamEntries json saving wbStream)) =
      some wbStream := by
  have distinct : ((wbStreamEntries json saving wbStream).map Prod.fst).Nodup := by
    simp [wbStreamEntries]
  unfold readWbStream
  simp only [Serializer.plain_at distinct 0 rfl rfl, Serializer.plain_at distinct 1 rfl rfl,
    Serializer.plain_at distinct 2 rfl rfl, Serializer.plain_at distinct 3 rfl rfl,
    Serializer.plain_at distinct 4 rfl rfl, Serializer.plain_at distinct 5 rfl rfl,
    Option.bind_eq_bind, Option.bind_some, Option.pure_def]

def wbStreamSerializer : Serializer Draws WbStream :=
  .record (wbStreamEntries json) (readWbStream json) (fun _ _ wbStream => wbStream)
    (readWbStream_entries json)

/-! ## Routes -/

/-- The field `wbStream` as it is in the source. -/
def VkTurnProxy.wbStreamField (route : VkTurnProxy) : WbStream where
  toWbStream := route.wbStream
  e2eEnabled := route.e2eEnabled
  exchangeViaVkTurn := route.exchangeViaVkTurn

def stringList : Serializer Draws (List String) := .list Draws.nth json.string

def vkTurnProxyEntries (draws : Draws) (route : VkTurnProxy) : List (String × Option JsonValue) :=
  let default : VkTurnProxy := { id := draws.id }
  [("type", some (.string "app.vkturn.model.Route.VkTurnProxy")),
    ("id", json.string.entry draws default.id route.id),
    ("label", json.string.entry draws default.label route.label),
    ("enabled", json.boolean.entry draws default.enabled route.enabled),
    ("linkKind", linkKind.entry draws default.linkKind route.linkKind),
    ("primaryLinks", (stringList json).entry draws default.primaryLinks route.primaryLinks),
    ("secondaryLink", json.string.entry draws default.secondaryLink route.secondaryLink),
    ("listenHost", json.string.entry draws default.listenHost route.listenHost),
    ("listenPort", json.int.entry draws default.listenPort route.listenPort),
    ("streams", json.int.entry draws default.streams route.streams),
    ("transport", transportMode.entry draws default.transport route.transport),
    ("turnTransport", turnTransport.entry draws default.turnTransport route.turnTransport),
    ("tcpFlavor", tcpFlavor.entry draws default.tcpFlavor route.tcpFlavor),
    ("overrideTurnHost", json.string.entry draws default.overrideTurnHost route.overrideTurnHost),
    ("overrideTurnPort", json.string.entry draws default.overrideTurnPort route.overrideTurnPort),
    ("captchaMode", captchaMode.entry draws default.captchaMode route.captchaMode),
    ("captchaSolver", captchaSolver.entry draws default.captchaSolver route.captchaSolver),
    ("sessionMode", sessionMode.entry draws default.sessionMode route.sessionMode),
    ("sessionId", json.string.entry draws default.sessionId route.sessionId),
    ("credsGroupSize", json.int.entry draws default.credsGroupSize route.credsGroupSize),
    ("adaptivePoolMin", json.int.entry draws default.adaptivePoolMin route.adaptivePoolMin),
    ("adaptivePoolMax", json.int.entry draws default.adaptivePoolMax route.adaptivePoolMax),
    ("adaptivePoolStreamsPerIdentity",
      json.int.entry draws default.adaptivePoolStreamsPerIdentity
        route.adaptivePoolStreamsPerIdentity),
    ("directNoDtls", json.boolean.entry draws default.directNoDtls route.directNoDtls),
    ("debug", json.boolean.entry draws default.debug route.debug),
    ("wbStream", (wbStreamSerializer json).entry draws {} route.wbStreamField)]

def readVkTurnProxy (draws : Draws) (fields : JsonFields) : Option VkTurnProxy := do
  let default : VkTurnProxy := { id := draws.id }
  let id ← json.string.field draws "id" default.id fields
  let label ← json.string.field draws "label" default.label fields
  let enabled ← json.boolean.field draws "enabled" default.enabled fields
  let linkKind ← linkKind.field draws "linkKind" default.linkKind fields
  let primaryLinks ← (stringList json).field draws "primaryLinks" default.primaryLinks fields
  let secondaryLink ← json.string.field draws "secondaryLink" default.secondaryLink fields
  let listenHost ← json.string.field draws "listenHost" default.listenHost fields
  let listenPort ← json.int.field draws "listenPort" default.listenPort fields
  let streams ← json.int.field draws "streams" default.streams fields
  let transport ← transportMode.field draws "transport" default.transport fields
  let turnTransport ← turnTransport.field draws "turnTransport" default.turnTransport fields
  let tcpFlavor ← tcpFlavor.field draws "tcpFlavor" default.tcpFlavor fields
  let overrideTurnHost ← json.string.field draws "overrideTurnHost" default.overrideTurnHost fields
  let overrideTurnPort ← json.string.field draws "overrideTurnPort" default.overrideTurnPort fields
  let captchaMode ← captchaMode.field draws "captchaMode" default.captchaMode fields
  let captchaSolver ← captchaSolver.field draws "captchaSolver" default.captchaSolver fields
  let sessionMode ← sessionMode.field draws "sessionMode" default.sessionMode fields
  let sessionId ← json.string.field draws "sessionId" default.sessionId fields
  let credsGroupSize ← json.int.field draws "credsGroupSize" default.credsGroupSize fields
  let adaptivePoolMin ← json.int.field draws "adaptivePoolMin" default.adaptivePoolMin fields
  let adaptivePoolMax ← json.int.field draws "adaptivePoolMax" default.adaptivePoolMax fields
  let adaptivePoolStreamsPerIdentity ←
    json.int.field draws "adaptivePoolStreamsPerIdentity" default.adaptivePoolStreamsPerIdentity
      fields
  let directNoDtls ← json.boolean.field draws "directNoDtls" default.directNoDtls fields
  let debug ← json.boolean.field draws "debug" default.debug fields
  let wbStream ← (wbStreamSerializer json).field draws "wbStream" {} fields
  return { id := id, label := label, enabled := enabled, linkKind := linkKind,
           primaryLinks := primaryLinks, secondaryLink := secondaryLink, listenHost := listenHost,
           listenPort := listenPort, streams := streams, transport := transport,
           turnTransport := turnTransport, tcpFlavor := tcpFlavor,
           overrideTurnHost := overrideTurnHost, overrideTurnPort := overrideTurnPort,
           captchaMode := captchaMode, captchaSolver := captchaSolver, sessionMode := sessionMode,
           sessionId := sessionId, credsGroupSize := credsGroupSize,
           adaptivePoolMin := adaptivePoolMin, adaptivePoolMax := adaptivePoolMax,
           adaptivePoolStreamsPerIdentity := adaptivePoolStreamsPerIdentity,
           directNoDtls := directNoDtls, debug := debug, wbStream := wbStream.toWbStream,
           e2eEnabled := wbStream.e2eEnabled,
           exchangeViaVkTurn := wbStream.exchangeViaVkTurn }

def VkTurnProxy.redraw (saving loading : Draws) (route : VkTurnProxy) : VkTurnProxy :=
  { route with id := redrawId saving loading route.id }

theorem rereadField_id (saving loading : Draws) (id : String) :
    json.string.rereadField saving loading saving.id loading.id id = redrawId saving loading id :=
  rfl

theorem readVkTurnProxy_entries (saving loading : Draws) (route : VkTurnProxy) :
    readVkTurnProxy json loading (objectOf (vkTurnProxyEntries json saving route)) =
      some (route.redraw saving loading) := by
  have distinct : ((vkTurnProxyEntries json saving route).map Prod.fst).Nodup := by
    simp [vkTurnProxyEntries]
  -- texts are read back as they are, so a list of them is too
  have links : (stringList json).reread saving loading route.primaryLinks = route.primaryLinks :=
    Serializer.mapIdx_eq_self.mpr fun _ _ _ => rfl
  unfold readVkTurnProxy
  simp only [Serializer.field_at distinct 1 rfl, rereadField_id,
    Serializer.plain_at distinct 2 rfl rfl, Serializer.plain_at distinct 3 rfl rfl,
    Serializer.plain_at distinct 4 rfl rfl,
    Serializer.plain_at distinct 5 rfl links,
    Serializer.plain_at distinct 6 rfl rfl, Serializer.plain_at distinct 7 rfl rfl,
    Serializer.plain_at distinct 8 rfl rfl, Serializer.plain_at distinct 9 rfl rfl,
    Serializer.plain_at distinct 10 rfl rfl, Serializer.plain_at distinct 11 rfl rfl,
    Serializer.plain_at distinct 12 rfl rfl, Serializer.plain_at distinct 13 rfl rfl,
    Serializer.plain_at distinct 14 rfl rfl, Serializer.plain_at distinct 15 rfl rfl,
    Serializer.plain_at distinct 16 rfl rfl, Serializer.plain_at distinct 17 rfl rfl,
    Serializer.plain_at distinct 18 rfl rfl, Serializer.plain_at distinct 19 rfl rfl,
    Serializer.plain_at distinct 20 rfl rfl, Serializer.plain_at distinct 21 rfl rfl,
    Serializer.plain_at distinct 22 rfl rfl, Serializer.plain_at distinct 23 rfl rfl,
    Serializer.plain_at distinct 24 rfl rfl, Serializer.plain_at distinct 25 rfl rfl,
    Option.bind_eq_bind, Option.bind_some, Option.pure_def]
  rfl

def singBoxEntries (draws : Draws) (route : SingBox) : List (String × Option JsonValue) :=
  let default : SingBox := { id := draws.id }
  [("type", some (.string "app.vkturn.model.Route.SingBox")),
    ("id", json.string.entry draws default.id route.id),
    ("label", json.string.entry draws default.label route.label),
    ("enabled", json.boolean.entry draws default.enabled route.enabled),
    ("vlessLink", json.string.entry draws default.vlessLink route.vlessLink),
    ("socksListenHost", json.string.entry draws default.socksListenHost route.socksListenHost),
    ("socksListenPort", json.int.entry draws default.socksListenPort route.socksListenPort),
    ("httpListenPort", json.int.entry draws default.httpListenPort route.httpListenPort),
    ("chainedThroughProxyRouteId",
      json.nullableString.entry draws default.chainedThroughProxyRouteId
        route.chainedThroughProxyRouteId),
    ("tunEnabled", json.boolean.entry draws default.tunEnabled route.tunEnabled),
    ("tunMtu", json.int.entry draws default.tunMtu route.tunMtu),
    ("logLevel", json.string.entry draws default.logLevel route.logLevel)]

def readSingBox (draws : Draws) (fields : JsonFields) : Option SingBox := do
  let default : SingBox := { id := draws.id }
  let id ← json.string.field draws "id" default.id fields
  let label ← json.string.field draws "label" default.label fields
  let enabled ← json.boolean.field draws "enabled" default.enabled fields
  let vlessLink ← json.string.field draws "vlessLink" default.vlessLink fields
  let socksListenHost ← json.string.field draws "socksListenHost" default.socksListenHost fields
  let socksListenPort ← json.int.field draws "socksListenPort" default.socksListenPort fields
  let httpListenPort ← json.int.field draws "httpListenPort" default.httpListenPort fields
  let chainedThroughProxyRouteId ←
    json.nullableString.field draws "chainedThroughProxyRouteId"
      default.chainedThroughProxyRouteId fields
  let tunEnabled ← json.boolean.field draws "tunEnabled" default.tunEnabled fields
  let tunMtu ← json.int.field draws "tunMtu" default.tunMtu fields
  let logLevel ← json.string.field draws "logLevel" default.logLevel fields
  return ⟨id, label, enabled, vlessLink, socksListenHost, socksListenPort, httpListenPort,
    chainedThroughProxyRouteId, tunEnabled, tunMtu, logLevel⟩

def SingBox.redraw (saving loading : Draws) (route : SingBox) : SingBox :=
  { route with id := redrawId saving loading route.id }

theorem readSingBox_entries (saving loading : Draws) (route : SingBox) :
    readSingBox json loading (objectOf (singBoxEntries json saving route)) =
      some (route.redraw saving loading) := by
  have distinct : ((singBoxEntries json saving route).map Prod.fst).Nodup := by
    simp [singBoxEntries]
  unfold readSingBox
  simp only [Serializer.field_at distinct 1 rfl, rereadField_id,
    Serializer.plain_at distinct 2 rfl rfl, Serializer.plain_at distinct 3 rfl rfl,
    Serializer.plain_at distinct 4 rfl rfl, Serializer.plain_at distinct 5 rfl rfl,
    Serializer.plain_at distinct 6 rfl rfl, Serializer.plain_at distinct 7 rfl rfl,
    Serializer.plain_at distinct 8 rfl rfl, Serializer.plain_at distinct 9 rfl rfl,
    Serializer.plain_at distinct 10 rfl rfl, Serializer.plain_at distinct 11 rfl rfl,
    Option.bind_eq_bind, Option.bind_some, Option.pure_def]
  rfl

def directEntries (draws : Draws) (route : Direct) : List (String × Option JsonValue) :=
  let default : Direct := { id := draws.id }
  [("type", some (.string "app.vkturn.model.Route.Direct")),
    ("id", json.string.entry draws default.id route.id),
    ("label", json.string.entry draws default.label route.label),
    ("enabled", json.boolean.entry draws default.enabled route.enabled),
    ("endpoint", json.string.entry draws default.endpoint route.endpoint)]

def readDirect (draws : Draws) (fields : JsonFields) : Option Direct := do
  let default : Direct := { id := draws.id }
  let id ← json.string.field draws "id" default.id fields
  let label ← json.string.field draws "label" default.label fields
  let enabled ← json.boolean.field draws "enabled" default.enabled fields
  let endpoint ← json.string.field draws "endpoint" default.endpoint fields
  return ⟨id, label, enabled, endpoint⟩

def Direct.redraw (saving loading : Draws) (route : Direct) : Direct :=
  { route with id := redrawId saving loading route.id }

theorem readDirect_entries (saving loading : Draws) (route : Direct) :
    readDirect json loading (objectOf (directEntries json saving route)) =
      some (route.redraw saving loading) := by
  have distinct : ((directEntries json saving route).map Prod.fst).Nodup := by
    simp [directEntries]
  unfold readDirect
  simp only [Serializer.field_at distinct 1 rfl, rereadField_id,
    Serializer.plain_at distinct 2 rfl rfl, Serializer.plain_at distinct 3 rfl rfl,
    Serializer.plain_at distinct 4 rfl rfl,
    Option.bind_eq_bind, Option.bind_some, Option.pure_def]
  rfl

/-! ### The sealed class

The type of a route is written first, and chooses what the fields are read as.
-/

def routeEntries (draws : Draws) : Route → List (String × Option JsonValue)
  | .vkTurnProxy route => vkTurnProxyEntries json draws route
  | .singBox route => singBoxEntries json draws route
  | .direct route => directEntries json draws route

def readRoute (draws : Draws) (fields : JsonFields) : Option Route :=
  match (fields "type").bind JsonValue.contentOrNull with
  | some "app.vkturn.model.Route.VkTurnProxy" =>
    (readVkTurnProxy json draws fields).map .vkTurnProxy
  | some "app.vkturn.model.Route.SingBox" => (readSingBox json draws fields).map .singBox
  | some "app.vkturn.model.Route.Direct" => (readDirect json draws fields).map .direct
  | _ => none

def Route.redraw (saving loading : Draws) : Route → Route
  | .vkTurnProxy route => .vkTurnProxy (route.redraw saving loading)
  | .singBox route => .singBox (route.redraw saving loading)
  | .direct route => .direct (route.redraw saving loading)

theorem readRoute_entries (saving loading : Draws) (route : Route) :
    readRoute json loading (objectOf (routeEntries json saving route)) =
      some (route.redraw saving loading) := by
  cases route with
  | vkTurnProxy route =>
    have isType : objectOf (vkTurnProxyEntries json saving route) "type" =
      some (.string "app.vkturn.model.Route.VkTurnProxy") := objectOf_head
    simp only [readRoute, routeEntries, isType, Option.bind_some, JsonValue.contentOrNull,
      readVkTurnProxy_entries, Option.map_some, Route.redraw]
  | singBox route =>
    have isType : objectOf (singBoxEntries json saving route) "type" =
      some (.string "app.vkturn.model.Route.SingBox") := objectOf_head
    simp only [readRoute, routeEntries, isType, Option.bind_some, JsonValue.contentOrNull,
      readSingBox_entries, Option.map_some, Route.redraw]
  | direct route =>
    have isType : objectOf (directEntries json saving route) "type" =
      some (.string "app.vkturn.model.Route.Direct") := objectOf_head
    simp only [readRoute, routeEntries, isType, Option.bind_some, JsonValue.contentOrNull,
      readDirect_entries, Option.map_some, Route.redraw]

def routeSerializer : Serializer Draws Route :=
  .record (routeEntries json) (readRoute json) Route.redraw (readRoute_entries json)

end VkTurn.Model
