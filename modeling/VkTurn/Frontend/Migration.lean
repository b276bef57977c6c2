import VkTurn.Model.SettingsV0
import VkTurn.Model.TreeJson

/-! # Loading and saving the configuration

A document without a current `schemaVersion` is taken as schema v0 when it holds one of three keys,
and is upgraded to a tree of one server, one identity and one route.
-/

namespace VkTurn.Frontend

open VkTurn.Text
open VkTurn.Model
open VkTurn.Launcher (isNotBlank TransportMode)

variable (json : KotlinJson)

/-! ## Upgrading -/

def looksLikeV0 (root : JsonFields) : Bool :=
  (root "linkKind").isSome || (root "peerHost").isSome || (root "wg").isSome

def upgradedWg (wg : WgSettingsV0) : IdentityWg where
  flavor := wg.flavor
  privateKey := wg.clientPrivateKey
  address := wg.clientAddress
  dns := wg.clientDns
  mtu := wg.mtu
  peerPublicKey := wg.serverPublicKey
  peerPresharedKey := wg.serverPresharedKey
  allowedIps := wg.allowedIps
  persistentKeepalive := wg.persistentKeepalive
  awgJc := wg.awgJc
  awgJmin := wg.awgJmin
  awgJmax := wg.awgJmax
  awgS1 := wg.awgS1
  awgS2 := wg.awgS2
  awgH1 := wg.awgH1
  awgH2 := wg.awgH2
  awgH3 := wg.awgH3
  awgH4 := wg.awgH4

/-- The link of the kind that is used. -/
def usedLink (v0 : AppSettingsV0) : String :=
  match v0.linkKind with
  | .vk => v0.vkLink
  | .yandex => v0.yandexLink

def upgradedRoute (id : String) (v0 : AppSettingsV0) : VkTurnProxy where
  id := id
  label := "imported"
  linkKind := v0.linkKind
  primaryLinks := [usedLink v0].filter isNotBlank
  listenHost := v0.listenHost
  listenPort := v0.listenPort
  streams := v0.streams
  transport := if v0.vlessMode then .tcp else .datagram
  turnTransport := v0.transport
  overrideTurnHost := v0.overrideTurnHost
  overrideTurnPort := v0.overrideTurnPort
  captchaMode := v0.captchaMode
  captchaSolver := .v2
  directNoDtls := v0.directNoDtls
  debug := v0.debug

/-- The configuration that `upgradeV0` returns for settings that it could read; its three nodes get
    ids of their own. -/
def upgradedConfig (draws : Draws) (v0 : AppSettingsV0) : AppConfig :=
  let serverDraws := draws.nth 0
  let identityDraws := serverDraws.nth 0
  let route := upgradedRoute (identityDraws.nth 0).id v0
  let identity : Identity :=
    { id := identityDraws.id
      name := "default"
      wg := upgradedWg v0.wg
      routes := [.vkTurnProxy route]
      activeRouteId := some route.id }
  let server : Server :=
    { id := serverDraws.id
      name := "default"
      host := v0.peerHost
      proxyPort := v0.peerPort
      identities := [identity] }
  { schemaVersion := currentSchemaVersion
    servers := [server]
    activeServerId := some server.id
    activeIdentityId := some identity.id
    proxyBinaryOverride := v0.binaryPath }

def upgradeV0 (draws : Draws) (root : JsonFields) : AppConfig :=
  match readAppSettingsV0 json root with
  | none => {}
  | some v0 => upgradedConfig draws v0

/-! ## Migration.load and Migration.save -/

def decodeCurrent (draws : Draws) (root : JsonFields) : AppConfig :=
  (readAppConfig json draws root).getD {}

/-- `root["schemaVersion"]?.jsonPrimitive?.content?.toIntOrNull()`; `jsonPrimitive` throws for an
    array and for an object. -/
def schemaVersion (root : JsonFields) : Option (Option Int32) :=
  match root "schemaVersion" with
  | none | some .null => some none
  | some (.array _) | some (.object _) => none
  | some written => some (written.contentOrNull.bind toIntOrNull)

def loadRoot (draws : Draws) (root : JsonFields) : Option AppConfig :=
  (schemaVersion root).map fun version =>
    if version = some currentSchemaVersion then decodeCurrent json draws root
    else if looksLikeV0 root then upgradeV0 json draws root
    else decodeCurrent json draws root

/-- `load`; none when it throws. -/
def load (draws : Draws) (raw : String) : Option AppConfig :=
  if isNotBlank raw then
    match (json.parseToJsonElement raw).bind JsonValue.object? with
    | none => some {}
    | some root => loadRoot json draws root
  else some {}

def save (draws : Draws) (config : AppConfig) : String :=
  json.encodeToString (objectOf (appConfigEntries json draws config))

/-! ## Documents -/

/-- A text that stands for an object. -/
structure IsDocument (raw : String) (fields : JsonFields) : Prop where
  notBlank : isNotBlank raw
  parsed : json.parseToJsonElement raw = some (.object fields)

variable {json}

theorem load_document {draws : Draws} {raw : String} {fields : JsonFields}
    (document : IsDocument json raw fields) :
    load json draws raw = loadRoot json draws fields := by
  unfold load
  rw [if_pos document.notBlank, document.parsed]
  rfl

/-- A document without a version. -/
theorem loadRoot_unversioned {draws : Draws} {root : JsonFields}
    (unversioned : root "schemaVersion" = none) :
    loadRoot json draws root =
      some (if looksLikeV0 root then upgradeV0 json draws root
        else decodeCurrent json draws root) := by
  have noVersion : (none : Option Int32) ≠ some currentSchemaVersion := nofun
  rw [loadRoot, schemaVersion, unversioned, Option.map_some, if_neg noVersion]

end VkTurn.Frontend
