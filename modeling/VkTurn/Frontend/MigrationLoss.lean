import VkTurn.Frontend.Migration

/-! # What migration loses

The writer leaves out the fields that equal their defaults, and schema v0 is recognised by the
presence of three of them.  Settings that keep these three at their defaults are therefore read as a
configuration of the current schema, in which none of their keys means anything.
-/

namespace VkTurn.Frontend

open VkTurn.Text
open VkTurn.Model
open VkTurn.Launcher (isNotBlank hostPort)

variable {json : KotlinJson}

/-! ## The classifier -/

/-- One of the three keys is written. -/
def Recognised (settings : AppSettingsV0) : Prop :=
  settings.linkKind ≠ .vk ∨ settings.peerHost ≠ "" ∨ settings.wg ≠ {}

instance (settings : AppSettingsV0) : Decidable (Recognised settings) :=
  inferInstanceAs (Decidable (_ ∨ _ ∨ _))

/-- The document of the settings. -/
def settingsFields (json : KotlinJson) (settings : AppSettingsV0) : JsonFields :=
  objectOf (appSettingsV0Entries json settings)

/-- The document of the configuration. -/
def configFields (json : KotlinJson) (saving : Draws) (config : AppConfig) : JsonFields :=
  objectOf (appConfigEntries json saving config)

theorem looksLikeV0_settings {settings : AppSettingsV0} :
    looksLikeV0 (settingsFields json settings) = true ↔ Recognised settings := by
  have distinct : ((appSettingsV0Entries json settings).map Prod.fst).Nodup := by
    simp [appSettingsV0Entries]
  have kind : settingsFields json settings "linkKind" = _ := objectOf_getElem distinct 0 rfl
  have host : settingsFields json settings "peerHost" = _ := objectOf_getElem distinct 3 rfl
  have wg : settingsFields json settings "wg" = _ := objectOf_getElem distinct 16 rfl
  unfold looksLikeV0 Recognised
  rw [kind, host, wg]
  simp only [Bool.or_eq_true, Serializer.entry_isSome, or_assoc, ne_eq]

/-- No key of the current schema is one of the three. -/
theorem looksLikeV0_config {saving : Draws} {config : AppConfig} :
    looksLikeV0 (configFields json saving config) = false := by
  have missing : ∀ key ∈ ["linkKind", "peerHost", "wg"],
      configFields json saving config key = none := by
    intro key member
    apply objectOf_eq_none
    simp only [List.mem_cons, List.not_mem_nil, or_false] at member
    obtain rfl | rfl | rfl := member <;> simp [appConfigEntries]
  unfold looksLikeV0
  rw [missing "linkKind" (by simp), missing "peerHost" (by simp), missing "wg" (by simp)]
  rfl

/-! ## Loading settings -/

/-- A document without a key of the current schema is read as the default configuration. -/
theorem readAppConfig_foreign {draws : Draws} {fields : JsonFields}
    (foreign : ∀ key ∈ ["schemaVersion", "servers", "activeServerId", "activeIdentityId",
      "singBoxBinaryOverride", "proxyBinaryOverride"], fields key = none) :
    readAppConfig json draws fields = some {} := by
  unfold readAppConfig
  simp only [Serializer.field_missing (foreign "schemaVersion" (by simp)),
    Serializer.field_missing (foreign "servers" (by simp)),
    Serializer.field_missing (foreign "activeServerId" (by simp)),
    Serializer.field_missing (foreign "activeIdentityId" (by simp)),
    Serializer.field_missing (foreign "singBoxBinaryOverride" (by simp)),
    Serializer.field_missing (foreign "proxyBinaryOverride" (by simp)),
    Option.bind_eq_bind, Option.bind_some, Option.pure_def]

theorem settingsFields_foreign {settings : AppSettingsV0} :
    ∀ key ∈ ["schemaVersion", "servers", "activeServerId", "activeIdentityId",
      "singBoxBinaryOverride", "proxyBinaryOverride"], settingsFields json settings key = none := by
  intro key member
  apply objectOf_eq_none
  simp only [List.mem_cons, List.not_mem_nil, or_false] at member
  obtain rfl | rfl | rfl | rfl | rfl | rfl := member <;> simp [appSettingsV0Entries]

theorem load_settings {draws : Draws} {raw : String} {settings : AppSettingsV0}
    (written : IsDocument json raw (settingsFields json settings))
    (recognised : Recognised settings) :
    load json draws raw = some (upgradedConfig draws settings) := by
  have unversioned := @settingsFields_foreign json settings "schemaVersion" (by simp)
  have upgraded : upgradeV0 json draws (settingsFields json settings) =
      upgradedConfig draws settings := by
    unfold upgradeV0 settingsFields
    rw [readAppSettingsV0_entries]
  rw [load_document written, loadRoot_unversioned unversioned,
    if_pos (looksLikeV0_settings.mpr recognised), upgraded]

/-- Settings that are not recognised are silently replaced. -/
theorem load_unrecognised {draws : Draws} {raw : String} {settings : AppSettingsV0}
    (written : IsDocument json raw (settingsFields json settings))
    (unrecognised : ¬ Recognised settings) : load json draws raw = some {} := by
  have unversioned := @settingsFields_foreign json settings "schemaVersion" (by simp)
  have other : ¬ looksLikeV0 (settingsFields json settings) = true :=
    fun looks => unrecognised (looksLikeV0_settings.mp looks)
  rw [load_document written, loadRoot_unversioned unversioned, if_neg other, decodeCurrent,
    readAppConfig_foreign settingsFields_foreign, Option.getD_some]

/-! ## Loading what was saved -/

/-- The version is written only when it isn't the current one. -/
theorem schemaVersion_config {saving : Draws} {config : AppConfig} :
    ∃ version, schemaVersion (configFields json saving config) = some version ∧
      version ≠ some currentSchemaVersion := by
  have isField : configFields json saving config "schemaVersion" = _ :=
    objectOf_getElem (appConfigEntries_distinct json saving config) 0 rfl
  by_cases isCurrent : config.schemaVersion = currentSchemaVersion
  · -- the current version is the default, so what was saved has no version at all
    refine ⟨none, ?_, nofun⟩
    have missing : configFields json saving config "schemaVersion" = none :=
      isField.trans (if_pos isCurrent)
    rw [schemaVersion, missing]
  · refine ⟨some config.schemaVersion, ?_, fun same => isCurrent (Option.some.inj same)⟩
    have present : configFields json saving config "schemaVersion" =
        some (.number (toString config.schemaVersion.toInt)) :=
      isField.trans (if_neg isCurrent)
    rw [schemaVersion, present]
    simp only [JsonValue.contentOrNull, Option.bind_some, toIntOrNull_toString]

theorem load_save {saving loading : Draws} {config : AppConfig}
    (written : IsDocument json (save json saving config) (configFields json saving config)) :
    load json loading (save json saving config) = some (config.redraw saving loading) := by
  obtain ⟨version, isVersion, notCurrent⟩ := @schemaVersion_config json saving config
  rw [load_document written, loadRoot, isVersion, Option.map_some, if_neg notCurrent,
    looksLikeV0_config, if_neg Bool.false_ne_true, decodeCurrent, configFields,
    readAppConfig_entries, Option.getD_some]

/-! ## Carried values -/

/-- The keys of the settings, each under the name it has in an identity. -/
structure WgCarried (v0 : WgSettingsV0) (wg : IdentityWg) : Prop where
  flavor : wg.flavor = v0.flavor
  privateKey : wg.privateKey = v0.clientPrivateKey
  address : wg.address = v0.clientAddress
  dns : wg.dns = v0.clientDns
  mtu : wg.mtu = v0.mtu
  peerPublicKey : wg.peerPublicKey = v0.serverPublicKey
  peerPresharedKey : wg.peerPresharedKey = v0.serverPresharedKey
  allowedIps : wg.allowedIps = v0.allowedIps
  persistentKeepalive : wg.persistentKeepalive = v0.persistentKeepalive
  junk : (wg.awgJc, wg.awgJmin, wg.awgJmax) = (v0.awgJc, v0.awgJmin, v0.awgJmax)
  sizes : (wg.awgS1, wg.awgS2) = (v0.awgS1, v0.awgS2)
  headers : (wg.awgH1, wg.awgH2, wg.awgH3, wg.awgH4) = (v0.awgH1, v0.awgH2, v0.awgH3, v0.awgH4)

structure RouteCarried (v0 : AppSettingsV0) (route : VkTurnProxy) : Prop where
  linkKind : route.linkKind = v0.linkKind
  link : isNotBlank (usedLink v0) = true → route.primaryLinks = [usedLink v0]
  listenHost : route.listenHost = v0.listenHost
  listenPort : route.listenPort = v0.listenPort
  streams : route.streams = v0.streams
  transport : route.transport = .tcp ↔ v0.vlessMode = true
  turnTransport : route.turnTransport = v0.transport
  overrideTurnHost : route.overrideTurnHost = v0.overrideTurnHost
  overrideTurnPort : route.overrideTurnPort = v0.overrideTurnPort
  captchaMode : route.captchaMode = v0.captchaMode
  directNoDtls : route.directNoDtls = v0.directNoDtls
  debug : route.debug = v0.debug

/-- The configuration has one server, identity and route, which carry the values of the settings. -/
structure CarriedBy (v0 : AppSettingsV0) (config : AppConfig) (server : Model.Server)
    (identity : Identity) (route : VkTurnProxy) : Prop where
  servers : config.servers = [server]
  identities : server.identities = [identity]
  routes : identity.routes = [.vkTurnProxy route]
  host : server.host = v0.peerHost
  proxyPort : server.proxyPort = v0.peerPort
  proxyBinaryOverride : config.proxyBinaryOverride = v0.binaryPath
  wg : WgCarried v0.wg identity.wg
  route : RouteCarried v0 route

/-- The settings are upgraded, and what the tree has a place for is in it. -/
def Upgraded (v0 : AppSettingsV0) (config : AppConfig) : Prop :=
  ∃ server identity route, CarriedBy v0 config server identity route

/-- Nor is a link or the endpoint lost, which the tree has only together with the route: its links
    are of one kind, and the endpoint of the keys is where it listens. -/
def LosesNothing (v0 : AppSettingsV0) (config : AppConfig) : Prop :=
  ∃ server identity route, CarriedBy v0 config server identity route ∧
    (v0.vkLink ≠ "" → v0.vkLink ∈ route.primaryLinks) ∧
    (v0.yandexLink ≠ "" → v0.yandexLink ∈ route.primaryLinks) ∧
    v0.wg.endpoint = hostPort route.listenHost route.listenPort

/-- A link that is there is the one that is used, and is more than blanks. -/
def LinkUsed (v0 : AppSettingsV0) (link : String) : Prop :=
  link ≠ "" → link = usedLink v0 ∧ isNotBlank link = true

theorem mem_primaryLinks_iff {id : String} {v0 : AppSettingsV0} {link : String} :
    link ∈ (upgradedRoute id v0).primaryLinks ↔ link = usedLink v0 ∧ isNotBlank link = true := by
  simp only [upgradedRoute, List.mem_filter, List.mem_singleton]

theorem upgradedConfig_carries (draws : Draws) (v0 : AppSettingsV0) :
    ∃ server identity id,
      CarriedBy v0 (upgradedConfig draws v0) server identity (upgradedRoute id v0) := by
  refine ⟨_, _, _, rfl, rfl, rfl, rfl, rfl, rfl, ?wg, ?route⟩
  case wg => constructor <;> rfl
  case route =>
    constructor <;> try rfl
    case link =>
      intro notBlank
      simp only [upgradedRoute, List.filter_cons_of_pos notBlank, List.filter_nil]
    case transport =>
      cases isTcp : v0.vlessMode with
      | true => simp [upgradedRoute, isTcp]
      | false => simp [upgradedRoute, isTcp]

/-- The default configuration has no server. -/
theorem not_upgraded_default {v0 : AppSettingsV0} : ¬ Upgraded v0 {} :=
  fun ⟨_, _, _, carried⟩ => absurd carried.servers nofun

/-- The links and the listening address that an upgraded configuration must have had. -/
theorem losesNothing_upgraded {draws : Draws} {v0 : AppSettingsV0} :
    LosesNothing v0 (upgradedConfig draws v0) ↔
      LinkUsed v0 v0.vkLink ∧ LinkUsed v0 v0.yandexLink ∧
        v0.wg.endpoint = hostPort v0.listenHost v0.listenPort := by
  constructor
  · rintro ⟨server, identity, route, carried, vkLink, yandexLink, endpoint⟩
    -- the tree has one route, so it is the one that the upgrade made
    obtain ⟨server', identity', id, made⟩ := upgradedConfig_carries draws v0
    obtain rfl : server = server' := by
      simpa using carried.servers.symm.trans made.servers
    obtain rfl : identity = identity' := by
      simpa using carried.identities.symm.trans made.identities
    obtain rfl : route = upgradedRoute id v0 := by
      simpa using carried.routes.symm.trans made.routes
    exact ⟨fun present => mem_primaryLinks_iff.mp (vkLink present),
      fun present => mem_primaryLinks_iff.mp (yandexLink present), endpoint⟩
  · rintro ⟨vkLink, yandexLink, endpoint⟩
    obtain ⟨server, identity, id, made⟩ := upgradedConfig_carries draws v0
    exact ⟨server, identity, _, made, fun present => mem_primaryLinks_iff.mpr (vkLink present),
      fun present => mem_primaryLinks_iff.mpr (yandexLink present), endpoint⟩

theorem upgraded_upgradedConfig (draws : Draws) (v0 : AppSettingsV0) :
    Upgraded v0 (upgradedConfig draws v0) := by
  obtain ⟨server, identity, id, made⟩ := upgradedConfig_carries draws v0
  exact ⟨server, identity, _, made⟩

/-- Settings are upgraded exactly when one of the three keys is written for them, and otherwise
    replaced by the default configuration; with their links and endpoint exactly when the used link
    is the only one and the endpoint is the listening address.  A saved configuration is never
    taken for settings, and comes back as it was exactly when no draw met an id of it. -/
theorem migration_keeps_iff {saving loading : Draws} {raw : String} {settings : AppSettingsV0}
    {config : AppConfig} (settingsWritten : IsDocument json raw (settingsFields json settings))
    (configWritten :
      IsDocument json (save json saving config) (configFields json saving config)) :
    ((∃ loaded, load json loading raw = some loaded ∧ Upgraded settings loaded) ↔
        Recognised settings) ∧
      ((∃ loaded, load json loading raw = some loaded ∧ LosesNothing settings loaded) ↔
        Recognised settings ∧ LinkUsed settings settings.vkLink ∧
          LinkUsed settings settings.yandexLink ∧
          settings.wg.endpoint = hostPort settings.listenHost settings.listenPort) ∧
      (¬ Recognised settings → load json loading raw = some {}) ∧
      (load json loading (save json saving config) = some config ↔
        config.Keeps saving loading) ∧
      looksLikeV0 (configFields json saving config) = false := by
  refine ⟨?upgraded, ?losesNothing, load_unrecognised settingsWritten, ?saved, looksLikeV0_config⟩
  case upgraded =>
    constructor
    · rintro ⟨loaded, isLoaded, upgraded⟩
      -- otherwise the default configuration was loaded, which has no server
      by_contra unrecognised
      rw [load_unrecognised settingsWritten unrecognised] at isLoaded
      cases isLoaded
      exact not_upgraded_default upgraded
    · intro recognised
      exact ⟨_, load_settings settingsWritten recognised, upgraded_upgradedConfig loading settings⟩
  case losesNothing =>
    constructor
    · rintro ⟨loaded, isLoaded, lossless⟩
      by_cases recognised : Recognised settings
      · rw [load_settings settingsWritten recognised] at isLoaded
        cases isLoaded
        exact ⟨recognised, losesNothing_upgraded.mp lossless⟩
      · rw [load_unrecognised settingsWritten recognised] at isLoaded
        cases isLoaded
        obtain ⟨server, identity, route, carried, _⟩ := lossless
        exact absurd ⟨server, identity, route, carried⟩ not_upgraded_default
    · rintro ⟨recognised, lossless⟩
      exact ⟨_, load_settings settingsWritten recognised, losesNothing_upgraded.mpr lossless⟩
  case saved =>
    rw [load_save configWritten, Option.some_inj]
    exact AppConfig.redraw_eq_self

/-! ### Documents to try -/

/-- A library that knows some documents, and writes one of them. -/
def knownDocuments (documents : List (String × JsonFields)) (written : String) : KotlinJson where
  parseToJsonElement text := (documents.lookup text).map .object
  encodeToString _ := written
  decodeString value := value.contentOrNull
  decodeBoolean
    | .bool value => some value
    | _ => none
  decodeInt value := value.contentOrNull.bind toIntOrNull
  decodeLong value := value.contentOrNull.bind toLongOrNull
  decodeString_string _ := rfl
  decodeBoolean_bool _ := rfl
  decodeInt_number := toIntOrNull_toString
  decodeLong_number := toLongOrNull_toString

/-- Settings of somebody who had only pasted a link. -/
def pastedSettings : AppSettingsV0 := { vkLink := "https://vk.com/call/join/a" }

def pastedText : String := "\x7b\"vkLink\":\"https://vk.com/call/join/a\"\x7d"

def hostSettings : AppSettingsV0 :=
  { vkLink := "https://vk.com/call/join/a", peerHost := "198.51.100.7" }

def hostText : String :=
  "\x7b\"vkLink\":\"https://vk.com/call/join/a\",\"peerHost\":\"198.51.100.7\"\x7d"

def savedConfig : AppConfig :=
  { servers := [{ id := "srv-aaaaaaaaaa", host := "198.51.100.7" }] }

def savedText : String :=
  "\x7b\"servers\":[\x7b\"id\":\"srv-aaaaaaaaaa\",\"host\":\"198.51.100.7\"\x7d]\x7d"

def sampleDraws : Draws := fun _ => ⟨"srv-0123456789", "vkp-0123456789"⟩

/-- What is written does not depend on the documents that are known. -/
def sampleJson : KotlinJson :=
  let writer := knownDocuments [] savedText
  knownDocuments [(pastedText, settingsFields writer pastedSettings),
    (hostText, settingsFields writer hostSettings),
    (savedText, configFields writer sampleDraws savedConfig)] savedText

theorem document_pasted :
    IsDocument sampleJson pastedText (settingsFields sampleJson pastedSettings) :=
  ⟨by decide +kernel, rfl⟩

theorem document_host :
    IsDocument sampleJson hostText (settingsFields sampleJson hostSettings) :=
  ⟨by decide +kernel, rfl⟩

theorem document_saved :
    IsDocument sampleJson (save sampleJson sampleDraws savedConfig)
      (configFields sampleJson sampleDraws savedConfig) :=
  ⟨by decide +kernel, rfl⟩

theorem keeps_savedConfig : savedConfig.Keeps sampleDraws sampleDraws :=
  AppConfig.redraw_eq_self.mp (by decide)

theorem migration_keeps_host :
    (∃ loaded, load sampleJson sampleDraws hostText = some loaded ∧
        Upgraded hostSettings loaded) ∧
      load sampleJson sampleDraws (save sampleJson sampleDraws savedConfig) = some savedConfig :=
  have kept := @migration_keeps_iff _ _ sampleDraws _ _ _ document_host document_saved
  ⟨kept.1.mpr (.inr (.inl (by decide))), kept.2.2.2.1.mpr keeps_savedConfig⟩

/-- A link alone is written without any of the three keys, and is lost. -/
theorem migration_loses_link :
    IsDocument sampleJson pastedText (settingsFields sampleJson pastedSettings) ∧
      load sampleJson sampleDraws pastedText = some {} ∧
      ¬ ∃ loaded, load sampleJson sampleDraws pastedText = some loaded ∧
        Upgraded pastedSettings loaded := by
  have unrecognised : ¬ Recognised pastedSettings := by decide
  have isDefault : load sampleJson sampleDraws pastedText = some {} :=
    load_unrecognised document_pasted unrecognised
  refine ⟨document_pasted, isDefault, ?_⟩
  rintro ⟨loaded, isLoaded, upgraded⟩
  rw [isDefault] at isLoaded
  cases isLoaded
  exact not_upgraded_default upgraded

end VkTurn.Frontend
