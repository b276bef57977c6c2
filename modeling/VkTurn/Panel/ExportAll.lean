import VkTurn.Panel.ExportConfig
import VkTurn.Panel.UniqueBindings

/-! # The export of all links

One client that cannot be exported makes the export of all fail, and a client that is disabled has
lost its peer.
-/

namespace VkTurn.Panel

open VkTurn.Store

/-! ## All or nothing -/

section Collect

variable {Value Result : Type} {read : Value → Except String Result}

/-- A loop that stops at the first error gives the good results of the kept values exactly when
    all values are kept and good. -/
theorem mapM_eq_kept_iff (kept : Value → Bool) (values : List Value) :
    values.mapM read = .ok ((values.filter kept).filterMap fun value => (read value).toOption) ↔
      ∀ value ∈ values, kept value ∧ ∃ result, read value = .ok result := by
  constructor
  · intro mapped value member
    obtain ⟨result, -, isResult⟩ := exists_of_mapM_eq_ok mapped member
    refine ⟨?_, result, isResult⟩
    -- no value was left out, or the list would be shorter
    have allResults := length_of_mapM_eq_ok mapped
    have fewer := List.length_filterMap_le (fun value => (read value).toOption)
      (values.filter kept)
    have filtered := List.length_filter_le kept values
    have allKept : (values.filter kept).length = values.length := by omega
    exact List.length_filter_eq_length_iff.mp allKept value member
  · intro good
    induction values with
    | nil => rfl
    | cons value values inductionHypothesis =>
      obtain ⟨isKept, result, isResult⟩ := good value List.mem_cons_self
      have rest := inductionHypothesis fun other member =>
        good other (List.mem_cons_of_mem _ member)
      rw [List.mapM_cons, isResult, rest, List.filter_cons_of_pos isKept,
        List.filterMap_cons_some (by rw [isResult]; rfl)]
      rfl

end Collect

/-! ## The export of one client -/

section Export

variable {library : Library} {exporter : Exporter} {clock later : Clock} {db : Database}
  {inboundID : Int} {inbound : Inbound} {settings : VKTurnProxySettings}
  {client : VKTurnProxyClient} {requestHost clientID : String}

/-- The client with the id has its peer in the WireGuard inbound, and a configuration. -/
def Exportable (library : Library) (exporter : Exporter) (later : Clock) (db : Database)
    (inbound : Inbound) (requestHost clientID : String) : Prop :=
  ∃ settings index client peer config link,
    getVKTurnProxySettings later inbound.settings = .ok settings ∧
    settings.forward.type = .wireguardInbound ∧
    clientAt settings clientID = .ok (index, client) ∧
    getWireguardPeerByPublicKey db false settings.forward.wireguardInboundID
      client.peerPublicKey = .ok peer ∧
    buildVKTurnProxyExportConfig library exporter db inbound settings client peer requestHost =
      .ok config ∧
    encodeVKTurnProxyConfig exporter config = .ok link

theorem exportVKTurnProxyClient_ok (found : db.inbound? inboundID = some inbound)
    (isVKTurn : inbound.protocol = .vkTurnProxy) :
    (∃ link, exportVKTurnProxyClient library exporter later db inboundID clientID requestHost =
        .ok link) ↔
      Exportable library exporter later db inbound requestHost clientID := by
  have isInbound : db.getInbound false inboundID = .ok inbound := getInbound_eq_ok.mpr ⟨rfl, found⟩
  unfold exportVKTurnProxyClient
  rw [isInbound]
  constructor
  · rintro ⟨link, exported⟩
    obtain ⟨_, isThis, exported⟩ := bind_eq_ok.mp exported
    cases isThis
    obtain ⟨-, exported⟩ := refuse_eq_ok.mp exported
    obtain ⟨settings, read, exported⟩ := bind_eq_ok.mp exported
    obtain ⟨forwards, exported⟩ := refuse_eq_ok.mp exported
    obtain ⟨⟨index, client⟩, isClient, exported⟩ := bind_eq_ok.mp exported
    obtain ⟨peer, isPeer, exported⟩ := bind_eq_ok.mp exported
    obtain ⟨config, built, encoded⟩ := bind_eq_ok.mp exported
    exact ⟨settings, index, client, peer, config, link, read, not_not.mp forwards, isClient, isPeer,
      built, encoded⟩
  · rintro ⟨settings, index, client, peer, config, link, read, forwards, isClient, isPeer, built,
      encoded⟩
    refine ⟨link, bind_eq_ok.mpr ⟨inbound, rfl, refuse_eq_ok.mpr ⟨not_not.mpr isVKTurn, ?_⟩⟩⟩
    refine bind_eq_ok.mpr ⟨settings, read, refuse_eq_ok.mpr ⟨not_not.mpr forwards, ?_⟩⟩
    refine bind_eq_ok.mpr ⟨(index, client), isClient, bind_eq_ok.mpr ⟨peer, isPeer, ?_⟩⟩
    exact bind_eq_ok.mpr ⟨config, built, encoded⟩

/-- One link for each enabled client that can be exported, in the order of the clients. -/
def enabledExports (library : Library) (exporter : Exporter) (later : Clock) (db : Database)
    (inboundID : Int) (requestHost : String) (clients : List VKTurnProxyClient) :
    List VKTurnProxyExportedClient :=
  (clients.filter (·.enable)).filterMap fun client =>
    ((exportVKTurnProxyClient library exporter later db inboundID client.id requestHost).map
      fun link => ⟨client.id, client.email, link⟩).toOption

/-- The export of all gives the links of the enabled clients exactly when every client is enabled
    and can be exported. -/
theorem exportAllVKTurnProxyClients_iff (found : db.inbound? inboundID = some inbound)
    (isVKTurn : inbound.protocol = .vkTurnProxy)
    (read : getVKTurnProxySettings clock inbound.settings = .ok settings) :
    exportAllVKTurnProxyClients library exporter clock later db inboundID requestHost =
        .ok (enabledExports library exporter later db inboundID requestHost settings.clients) ↔
      ∀ client ∈ settings.clients,
        client.enable ∧ Exportable library exporter later db inbound requestHost client.id := by
  have isInbound : db.getInbound false inboundID = .ok inbound := getInbound_eq_ok.mpr ⟨rfl, found⟩
  have loop : exportAllVKTurnProxyClients library exporter clock later db inboundID requestHost =
      settings.clients.mapM fun client =>
        (exportVKTurnProxyClient library exporter later db inboundID client.id requestHost).map
          fun link => ⟨client.id, client.email, link⟩ := by
    unfold exportAllVKTurnProxyClients
    rw [isInbound]
    show (if inbound.protocol ≠ .vkTurnProxy then _ else _) = _
    rw [if_neg (not_not.mpr isVKTurn), read]
    rfl
  unfold enabledExports
  rw [loop, mapM_eq_kept_iff]
  refine forall₂_congr fun client _ => and_congr_right fun _ => ?_
  rw [← exportVKTurnProxyClient_ok found isVKTurn]
  cases exportVKTurnProxyClient library exporter later db inboundID client.id requestHost with
  | error message => simp [Except.map]
  | ok link => simp [Except.map]

end Export

/-! ## A client that was disabled -/

/-- Libraries under which every text is a key. -/
def anyKey : Library where
  toLower text := text
  equalFold text other := text = other
  decodeBase64 _ := some (List.replicate 32 0)
  decodeRawBase64 _ := none
  encodeBase64 _ := "AAAA"
  x25519 key := .ok key
  parseIP _ := some ⟨true, "192.0.2.1"⟩
  parseCIDR text := .ok text

def plainExporter : Exporter where
  readString text := some text
  splitHostPort _ := none
  parseCIDR _ := .ok ⟨[], 0⟩
  primaryServerIPv4 _ := ""
  publicIP := ""
  marshal config := .ok config.wg.publicKey
  deflate payload := .ok payload
  encodeURL _ := "AAAA"

/-- The client that holds the peer. -/
def phone : VKTurnProxyClient where
  id := "phone"
  email := "a@example"
  enable := true
  link := "https://vk.com/call/join/a"
  peerPublicKey := "key"

/-- A client as disabling leaves it: with the snapshot of a peer that is no longer there. -/
def disabledTablet : VKTurnProxyClient where
  id := "tablet"
  email := "b@example"
  enable := false
  link := "https://vk.com/call/join/b"
  peerPublicKey := "gone"
  peer := some { privateKey := "secret", publicKey := "gone", allowedIPs := ["10.0.0.3/32"] }

def exportInbound (clients : List VKTurnProxyClient) : Inbound where
  id := 2
  port := 56000
  protocol := .vkTurnProxy
  tag := "inbound-56000"
  settings := .vkTurnProxy
    { forward := { type := .wireguardInbound, wireguardInboundID := 1 }, clients }

theorem exportInbound_tags (clients : List VKTurnProxyClient) (peers : Settings) : UniqueInbounds
    [{ id := 1, port := 51820, protocol := .wireguard, tag := "inbound-51820", settings := peers },
      exportInbound clients] := by
  constructor
  · simp [exportInbound]
  · simp [exportInbound]

/-- A WireGuard inbound with the peer of `phone`, and the inbound with the clients. -/
def exportDatabase (clients : List VKTurnProxyClient) : Database where
  inbounds := ⟨[
    { id := 1, port := 51820, protocol := .wireguard, tag := "inbound-51820"
      settings := .wireguard
        { others := [("secretKey", "server")]
          peers := some [⟨"secret", "key", "", ["10.0.0.2/32"], 0⟩] } },
    exportInbound clients], exportInbound_tags clients _⟩
  clientTraffics := ⟨[], uniqueTraffics_nil⟩
  clientIps := ⟨[], uniqueIps_nil⟩

theorem exportAllVKTurnProxyClients_phone :
    ∃ settings, getVKTurnProxySettings ⟨0, ""⟩ (exportInbound [phone]).settings = .ok settings ∧
      exportAllVKTurnProxyClients anyKey plainExporter ⟨0, ""⟩ ⟨0, ""⟩ (exportDatabase [phone]) 2
          "192.0.2.1" =
        .ok (enabledExports anyKey plainExporter ⟨0, ""⟩ (exportDatabase [phone]) 2 "192.0.2.1"
          settings.clients) := by
  obtain ⟨settings, read, sameClients⟩ : ∃ settings,
      getVKTurnProxySettings ⟨0, ""⟩ (exportInbound [phone]).settings = .ok settings ∧
        settings.clients = [normalizeVKTurnProxyClient ⟨0, ""⟩ phone] :=
    ⟨_, rfl, by decide +kernel⟩
  refine ⟨settings, read, (exportAllVKTurnProxyClients_iff rfl rfl read).mpr ?_⟩
  rw [sameClients]
  intro client member
  cases List.mem_singleton.mp member
  have exported : exportVKTurnProxyClient anyKey plainExporter ⟨0, ""⟩ (exportDatabase [phone]) 2
      "phone" "192.0.2.1" = .ok "wingsv://AAAA" := by decide +kernel
  exact ⟨rfl, (exportVKTurnProxyClient_ok rfl rfl).mp ⟨_, exported⟩⟩

/-- The client that was disabled keeps the other one from being exported. -/
theorem exportAllVKTurnProxyClients_blocked :
    ¬ ∀ (library : Library) (exporter : Exporter) (clock later : Clock) (db : Database)
      (inboundID : Int) (inbound : Inbound) (settings : VKTurnProxySettings) (requestHost : String),
      db.inbound? inboundID = some inbound → inbound.protocol = .vkTurnProxy →
        getVKTurnProxySettings clock inbound.settings = .ok settings →
          exportAllVKTurnProxyClients library exporter clock later db inboundID requestHost =
            .ok (enabledExports library exporter later db inboundID requestHost
              settings.clients) := by
  intro claim
  have exported := claim anyKey plainExporter ⟨0, ""⟩ ⟨0, ""⟩
    (exportDatabase [phone, disabledTablet]) 2 (exportInbound [phone, disabledTablet]) _
    "192.0.2.1" rfl rfl rfl
  have blocked : exportAllVKTurnProxyClients anyKey plainExporter ⟨0, ""⟩ ⟨0, ""⟩
      (exportDatabase [phone, disabledTablet]) 2 "192.0.2.1" =
        .error (newError ["wireguard peer not found:", "gone"]) := by decide +kernel
  rw [blocked] at exported
  cases exported

end VkTurn.Panel
