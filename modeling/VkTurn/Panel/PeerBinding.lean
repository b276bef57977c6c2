import Mathlib.Data.List.Perm.Basic
import VkTurn.Panel.ClientCalls
import VkTurn.Transition.Machine

/-! # Which client holds a peer

Before a client is bound to a peer, the services look for a client of the same WireGuard inbound
that holds the key of the peer.  They take a client with the same id for the client itself, in
whatever inbound it is, and never check that an id is new.
-/

namespace VkTurn.Panel

open VkTurn.Store VkTurn.Transition
open VkTurn.Text (trimSpace trimSpace_trimSpace)

/-! ## Clients and their keys -/

/-- The clients of an inbound, as far as its settings can be read. -/
def storedClients (inbound : Inbound) : List VKTurnProxyClient :=
  match decodeVKTurnProxySettings inbound.settings with
  | .error _ => []
  | .ok settings => settings.clients

/-- The key of a peer that a client holds, and the id of the client. -/
def heldBy (client : VKTurnProxyClient) : Option (String × String) :=
  if trimSpace client.peerPublicKey = "" then none
  else some (trimSpace client.peerPublicKey, client.id)

/-- The keys that the clients of an inbound hold of the peers of a WireGuard inbound. -/
def heldIn (wgInboundID : Int) (inbound : Inbound) : List (String × String) :=
  match decodeVKTurnProxySettings inbound.settings with
  | .error _ => []
  | .ok settings =>
    if settings.forward.type = .wireguardInbound ∧
        settings.forward.wireguardInboundID = wgInboundID then
      settings.clients.filterMap heldBy
    else []

def Database.vkTurnInbounds (db : Database) : List Inbound :=
  db.inbounds.rows.filter (·.protocol = .vkTurnProxy)

structure UniqueBindings (inbounds : List Inbound) : Prop where
  /-- No two clients that forward to one WireGuard inbound hold the same key. -/
  keys : ∀ wgInboundID, ((inbounds.flatMap (heldIn wgInboundID)).map Prod.fst).Nodup
  ids : ∀ inbound ∈ inbounds, ((storedClients inbound).map (·.id)).Nodup

/-- What the calls leave of a client: it has an id, and a snapshot of the peer that it holds. -/
structure KeptClient (client : VKTurnProxyClient) : Prop where
  named : client.id ≠ ""
  snapshot : resolveVKTurnProxyClientPublicKey client = trimSpace client.peerPublicKey

structure WellBound (inbounds : List Inbound) : Prop where
  unique : UniqueBindings inbounds
  kept : ∀ inbound ∈ inbounds, ∀ client ∈ storedClients inbound, KeptClient client

/-! ## Reading the settings -/

section Reading

variable {clock : Clock} {inbound : Inbound} {settings reread : VKTurnProxySettings}
  {client : VKTurnProxyClient}

theorem getVKTurnProxySettings_eq_ok {raw : Settings} :
    getVKTurnProxySettings clock raw = .ok settings ↔
      ∃ decoded, decodeVKTurnProxySettings raw = .ok decoded ∧
        normalizeVKTurnProxySettings clock decoded = settings := by
  rw [getVKTurnProxySettings, bind_eq_ok]
  simp only [pure_eq_ok]

/-- The part of a client that matters here: its id, its key, and the key of its snapshot. -/
def bindingPart (client : VKTurnProxyClient) : String × String × String :=
  (client.id, trimSpace client.peerPublicKey, resolveVKTurnProxyClientPublicKey client)

/-- A client that has an id keeps it. -/
theorem normalizeVKTurnProxyClient_keeps (named : client.id ≠ "") :
    bindingPart (normalizeVKTurnProxyClient clock client) = bindingPart client := by
  have sameID : (normalizeVKTurnProxyClient clock client).id = client.id := if_neg named
  unfold bindingPart
  rw [sameID]
  rfl

theorem rereadClient_keeps {after : VKTurnProxyClient}
    (passed : rereadClient client = .ok after) : bindingPart after = bindingPart client := by
  simp only [rereadClient, bind_eq_ok, pure_eq_ok] at passed
  obtain ⟨limitIP, _, totalGB, _, expiryTime, _, tgID, _, reset, _, createdAt, _, updatedAt, _,
    peer, isPeer, rfl⟩ := passed
  have samePeer : peer.map (·.publicKey) = client.peer.map (·.publicKey) := by
    cases isStored : client.peer with
    | none =>
      rw [isStored] at isPeer
      cases isPeer
      rfl
    | some stored =>
      rw [isStored] at isPeer
      obtain ⟨reread, isReread, isSome⟩ := bind_eq_ok.mp isPeer
      cases isSome
      obtain ⟨keepAlive, _, isKept⟩ := bind_eq_ok.mp isReread
      cases isKept
      rfl
  simp only [bindingPart, resolveVKTurnProxyClientPublicKey]
  cases isStored : client.peer <;> cases isRead : peer <;> simp_all

theorem keptClient_iff (client : VKTurnProxyClient) : KeptClient client ↔
    (bindingPart client).1 ≠ "" ∧ (bindingPart client).2.2 = (bindingPart client).2.1 :=
  ⟨fun kept => ⟨kept.named, kept.snapshot⟩, fun kept => ⟨kept.1, kept.2⟩⟩

theorem rereadOwnNumbers_keeps (passed : rereadOwnNumbers settings = .ok reread) :
    reread.clients = settings.clients ∧ reread.forward.type = settings.forward.type ∧
      rereadNumber settings.forward.wireguardInboundID = .ok reread.forward.wireguardInboundID := by
  simp only [rereadOwnNumbers, bind_eq_ok, pure_eq_ok] at passed
  obtain ⟨wireguardInboundID, isRead, port, _, wgMTU, _, threads, _, credsGroupSize, _, rfl⟩ := passed
  exact ⟨rfl, rfl, isRead⟩

/-- What reading settings with clients again makes of them. -/
theorem sanitize_keeps (hasClients : settings.clients ≠ [])
    (passed : sanitizeVKTurnProxySettingsJSON settings = .ok reread) :
    reread.clients.map bindingPart = settings.clients.map bindingPart ∧
      reread.forward.type = settings.forward.type ∧
      rereadNumber settings.forward.wireguardInboundID = .ok reread.forward.wireguardInboundID := by
  rw [sanitizeVKTurnProxySettingsJSON, if_neg hasClients] at passed
  obtain ⟨own, isOwn, passed⟩ := bind_eq_ok.mp passed
  obtain ⟨clients, isClients, isReread⟩ := bind_eq_ok.mp passed
  cases pure_eq_ok.mp isReread
  obtain ⟨sameClients, sameType, sameID⟩ := rereadOwnNumbers_keeps isOwn
  refine ⟨?_, sameType, sameID⟩
  rw [← sameClients]
  exact mapM_map_eq (fun _ _ => rereadClient_keeps) isClients

/-- The number of the WireGuard inbound in settings that have clients has been read before. -/
theorem decode_exact {raw : Settings} (decoded : decodeVKTurnProxySettings raw = .ok settings)
    (hasClients : settings.clients ≠ []) :
    rereadNumber settings.forward.wireguardInboundID =
      .ok settings.forward.wireguardInboundID := by
  cases raw with
  | vkTurnProxy stored =>
    have passed : sanitizeVKTurnProxySettingsJSON stored = .ok settings := decoded
    by_cases noClients : stored.clients = []
    · rw [sanitizeVKTurnProxySettingsJSON, if_pos noClients] at passed
      cases passed
      exact absurd noClients hasClients
    · exact rereadNumber_idem (sanitize_keeps noClients passed).2.2
  | wireguard stored =>
    cases decoded
    exact absurd rfl hasClients
  | clients stored =>
    cases decoded
    exact absurd rfl hasClients
  | text stored =>
    simp only [decodeVKTurnProxySettings] at decoded
    split at decoded
    · cases decoded
      exact absurd rfl hasClients
    · cases decoded

/-- The keys of the bindings, with the ids of the clients. -/
theorem inboundBindings_eq {wgInboundID : Int}
    (named : ∀ client ∈ storedClients inbound, client.id ≠ "") :
    (inboundBindings clock wgInboundID inbound).map (fun entry => (entry.1, entry.2.clientID)) =
      heldIn wgInboundID inbound := by
  unfold inboundBindings heldIn
  unfold storedClients at named
  cases decoded : decodeVKTurnProxySettings inbound.settings with
  | error message =>
    have failed : getVKTurnProxySettings clock inbound.settings = .error message := by
      rw [getVKTurnProxySettings, decoded]
      rfl
    rw [failed]
    rfl
  | ok settings =>
    rw [decoded] at named
    rw [getVKTurnProxySettings_eq_ok.mpr ⟨settings, decoded, rfl⟩]
    dsimp only at named ⊢
    have sameForward : (normalizeVKTurnProxySettings clock settings).forward =
        settings.forward := rfl
    rw [sameForward]
    split
    · simp only [normalizeVKTurnProxySettings, List.filterMap_map, List.map_filterMap]
      refine List.filterMap_congr fun client member => ?_
      have sameID : (normalizeVKTurnProxyClient clock client).id = client.id :=
        if_neg (named client member)
      have sameKey : (normalizeVKTurnProxyClient clock client).peerPublicKey =
          client.peerPublicKey := rfl
      simp only [Function.comp_apply, sameID, sameKey, heldBy]
      split <;> rfl
    · rfl

end Reading

/-! ## The check of a binding -/

section Available

variable {clock : Clock} {db : Database} {fails : Bool} {wgInboundID : Int}
  {publicKey clientID : String}

/-- Only the client itself may hold the key already. -/
def Available (inbounds : List Inbound) (wgInboundID : Int) (publicKey clientID : String) : Prop :=
  ∀ other, (publicKey, other) ∈ inbounds.flatMap (heldIn wgInboundID) → other = clientID

theorem WellBound.available (well : WellBound db.vkTurnInbounds)
    (passed : ensureVKTurnProxyBindingAvailable clock db fails wgInboundID publicKey clientID =
      .ok ()) : Available db.vkTurnInbounds wgInboundID (trimSpace publicKey) clientID := by
  intro other isHeld
  -- the map has the same keys, with the ids of the clients that hold them
  have pairs : (db.vkTurnInbounds.flatMap (inboundBindings clock wgInboundID)).map
      (fun entry => (entry.1, entry.2.clientID)) = db.vkTurnInbounds.flatMap (heldIn wgInboundID) := by
    rw [List.map_flatMap]
    refine List.flatMap_congr fun inbound member => ?_
    exact inboundBindings_eq fun client isStored => (well.kept inbound member client isStored).named
  obtain ⟨bindings, isBindings, passed⟩ := bind_eq_ok.mp passed
  obtain ⟨_, isBindings⟩ := attempt_eq_ok.mp isBindings
  cases isBindings
  rw [← pairs] at isHeld
  obtain ⟨entry, isEntry, isPair⟩ := List.mem_map.mp isHeld
  obtain ⟨sameKey, sameID⟩ := Prod.mk.inj isPair
  split at passed
  · rename_i missing
    refine absurd ?_ (not_mem_keys_of_lookup missing)
    rw [← sameKey, List.map_reverse, List.mem_reverse]
    exact List.mem_map_of_mem isEntry
  · rename_i binding found
    have isFound := List.mem_reverse.mp (mem_of_lookup found)
    -- the key has one holder
    have keys := well.unique.keys wgInboundID
    rw [← pairs, List.map_map] at keys
    have sameEntry := List.inj_on_of_nodup_map keys isFound isEntry sameKey.symm
    have isClient : binding.clientID = clientID := by
      by_contra differs
      rw [if_pos differs] at passed
      cases passed
    rw [← sameID, ← sameEntry]
    exact isClient

end Available

/-! ## What a call leaves alone -/

section Frame

variable {library : Library} {db next : Database} {inbound : Inbound} {wgInboundID : Int}
  {faults : PeerSite → Bool}

theorem vkTurnInbounds_distinct (db : Database) : (db.vkTurnInbounds.map (·.id)).Nodup :=
  db.inbounds.valid.1.sublist (List.filter_sublist.map _)

/-- Two inbounds of one id are the same. -/
theorem inbound_eq_of_id {first second : Inbound} (isFirst : first ∈ db.inbounds.rows)
    (isSecond : second ∈ db.inbounds.rows) (sameID : first.id = second.id) : first = second :=
  List.inj_on_of_nodup_map db.inbounds.valid.1 isFirst isSecond sameID

theorem vkTurnInbounds_saved (saved : db.saveInbound inbound = .ok next) {stored : Inbound}
    (isStored : stored ∈ db.inbounds.rows) (sameID : stored.id = inbound.id)
    (sameProtocol : stored.protocol = inbound.protocol) :
    next.vkTurnInbounds = replaceRow (·.id) inbound db.vkTurnInbounds := by
  unfold Database.vkTurnInbounds
  rw [(saveInbound_eq_ok.mp saved).1]
  refine filter_replaceRow fun other isOther same => ?_
  rw [inbound_eq_of_id isOther isStored (same.trans sameID.symm), sameProtocol]

theorem PeersWritten.vkTurnInbounds {mutate : List WireguardPeer → List WireguardPeer}
    (written : PeersWritten library mutate wgInboundID db next) :
    next.vkTurnInbounds = db.vkTurnInbounds := by
  obtain ⟨inbound, settings, peers, _, found, isWireguard, _, _, _, _, saved⟩ := written
  obtain ⟨isStored, _⟩ := inbound?_mem found
  have replaced := vkTurnInbounds_saved saved isStored rfl rfl
  refine replaced.trans (replaceRow_of_not_mem fun other isOther sameID => ?_)
  obtain ⟨isRow, isVKTurn⟩ := List.mem_filter.mp isOther
  rw [inbound_eq_of_id isRow isStored sameID, isWireguard] at isVKTurn
  cases isVKTurn

theorem mutateWireguardPeers_frame {mutate : List WireguardPeer → List WireguardPeer} :
    Ensures (mutateWireguardPeers library faults wgInboundID fun peers => .ok (mutate peers)) db
      (fun _ next => next.vkTurnInbounds = db.vkTurnInbounds)
      (fun next => next.vkTurnInbounds = db.vkTurnInbounds) := by
  refine mutateWireguardPeers_ensures.mono (fun _ next done => ?_) fun next same => by rw [same]
  cases commits : faults .commit with
  | true => rw [done.1 commits]
  | false => exact (done.2 commits).vkTurnInbounds

end Frame

/-! ## Binding a client -/

section Binding

variable {library : Library} {clock : Clock} {faults : Faults} {db : Database}
  {wgInboundID : Int} {client previous : VKTurnProxyClient}

/-- How a client comes out of its binding: under its id, with the key that it asked for or with
    none, and that key was available. -/
structure BoundAs (inbounds : List Inbound) (wgInboundID : Int)
    (client bound : VKTurnProxyClient) : Prop where
  id : bound.id = client.id
  snapshot : resolveVKTurnProxyClientPublicKey bound = trimSpace bound.peerPublicKey
  key : ∀ publicKey, heldBy bound = some publicKey →
    publicKey = (resolveVKTurnProxyClientPublicKey client, client.id) ∧
      Available inbounds wgInboundID publicKey.1 client.id

/-- The key of a client is trimmed. -/
theorem trimSpace_resolve (client : VKTurnProxyClient) :
    trimSpace (resolveVKTurnProxyClientPublicKey client) =
      resolveVKTurnProxyClientPublicKey client := by
  unfold resolveVKTurnProxyClientPublicKey
  split
  · split <;> exact trimSpace_trimSpace _
  · exact trimSpace_trimSpace _

/-- The key of the snapshot comes before the key of the client. -/
theorem resolve_withKey (client : VKTurnProxyClient) :
    (∃ snapshot, client.peer = some snapshot ∧ trimSpace snapshot.publicKey ≠ "" ∧
      ∀ publicKey, resolveVKTurnProxyClientPublicKey { client with peerPublicKey := publicKey } =
        trimSpace snapshot.publicKey) ∨
    ∀ publicKey, resolveVKTurnProxyClientPublicKey { client with peerPublicKey := publicKey } =
      trimSpace publicKey := by
  unfold resolveVKTurnProxyClientPublicKey
  cases isPeer : client.peer with
  | none => exact .inr fun _ => rfl
  | some snapshot =>
    by_cases isBlank : trimSpace snapshot.publicKey = ""
    · exact .inr fun _ => if_neg (not_not.mpr isBlank)
    · exact .inl ⟨snapshot, rfl, isBlank, fun _ => if_pos isBlank⟩

theorem resolve_of_snapshot {snapshot : VKTurnProxyClientPeer}
    (isPeer : client.peer = some snapshot) (notBlank : trimSpace snapshot.publicKey ≠ "") :
    resolveVKTurnProxyClientPublicKey client = trimSpace snapshot.publicKey := by
  unfold resolveVKTurnProxyClientPublicKey
  rw [isPeer]
  exact if_pos notBlank

/-- Asking for a key again gives the same key. -/
theorem resolve_resolve (client : VKTurnProxyClient) : resolveVKTurnProxyClientPublicKey
    { client with peerPublicKey := resolveVKTurnProxyClientPublicKey client } =
      resolveVKTurnProxyClientPublicKey client := by
  obtain ⟨_, _, _, isKey⟩ | isKey := resolve_withKey client
  · exact (isKey _).trans (isKey client.peerPublicKey).symm
  · exact (isKey _).trans (trimSpace_resolve client)

/-- A client under the key that it asked for. -/
theorem BoundAs.of_key {inbounds : List Inbound}
    (available : Available inbounds wgInboundID (resolveVKTurnProxyClientPublicKey client) client.id) :
    BoundAs inbounds wgInboundID client
      { client with peerPublicKey := resolveVKTurnProxyClientPublicKey client } := by
  have trimmed := trimSpace_resolve client
  refine ⟨rfl, (resolve_resolve client).trans trimmed.symm, fun held isHeld => ?_⟩
  simp only [heldBy, trimmed] at isHeld
  split at isHeld
  · cases isHeld
  · cases isHeld
    exact ⟨rfl, available⟩

/-- A client under the key of the peer that it writes. -/
theorem BoundAs.of_peer {inbounds : List Inbound} {peer : WireguardPeer}
    (isPeer : peerToWrite client = some peer)
    (available : Available inbounds wgInboundID (resolveVKTurnProxyClientPublicKey client) client.id) :
    BoundAs inbounds wgInboundID client { client with peerPublicKey := peer.publicKey } := by
  obtain ⟨snapshot, isSnapshot, isKey⟩ : ∃ snapshot, client.peer = some snapshot ∧
      peer.publicKey = trimSpace snapshot.publicKey := by
    unfold peerToWrite at isPeer
    split at isPeer
    · cases isPeer
    · rename_i snapshot isSnapshot
      split at isPeer
      · cases isPeer
        exact ⟨snapshot, isSnapshot, rfl⟩
      · cases isPeer
  have trimmed : trimSpace peer.publicKey = peer.publicKey := by rw [isKey, trimSpace_trimSpace]
  refine ⟨rfl, ?_, fun held isHeld => ?_⟩
  · simp only [resolveVKTurnProxyClientPublicKey, isSnapshot, trimmed]
    split
    · exact isKey.symm
    · rfl
  · simp only [heldBy, trimmed] at isHeld
    split at isHeld
    · cases isHeld
    · rename_i notBlank
      cases isHeld
      have sameKey : resolveVKTurnProxyClientPublicKey client = peer.publicKey := by
        rw [isKey] at notBlank ⊢
        simp only [resolveVKTurnProxyClientPublicKey, isSnapshot]
        exact if_pos notBlank
      rw [sameKey] at available ⊢
      exact ⟨rfl, available⟩

theorem ensureEnabled_ensures (well : WellBound db.vkTurnInbounds) :
    Ensures (ensureVKTurnProxyClientPeerEnabled library faults clock wgInboundID client) db
      (fun bound next => next.vkTurnInbounds = db.vkTurnInbounds ∧
        BoundAs db.vkTurnInbounds wgInboundID client bound)
      (fun next => next.vkTurnInbounds = db.vkTurnInbounds) := by
  refine Ensures.refuse (fun _ => rfl) fun _ => ?_
  refine Ensures.bind (Ensures.query (fun _ passed => ?_) rfl)
  have isAvailable := well.available passed
  rw [trimSpace_resolve] at isAvailable
  refine Ensures.refuse (fun _ => rfl) fun _ => ?_
  split
  · rename_i peer isPeer
    refine Ensures.bind (mutateWireguardPeers_frame.mono (fun _ next same => ?_) fun _ same => same)
    exact Ensures.pure ⟨same, .of_peer isPeer isAvailable⟩
  · refine Ensures.bind (Ensures.query (fun _ _ => ?_) rfl)
    exact Ensures.pure ⟨rfl, .of_key isAvailable⟩

/-- The key of the peer that was found is the one that was looked for. -/
theorem getWireguardPeer_key {fails : Bool} {publicKey : String} {peer : WireguardPeer}
    (found : getWireguardPeerByPublicKey db fails wgInboundID publicKey = .ok peer) :
    trimSpace peer.publicKey = trimSpace publicKey := by
  simp only [getWireguardPeerByPublicKey, bind_eq_ok, refuse_eq_ok] at found
  obtain ⟨inbound, _, _, ⟨settings, peers⟩, _, found⟩ := found
  dsimp only at found
  split at found
  · cases found
  · rename_i other isFound
    cases pure_eq_ok.mp found
    simpa using List.find?_some isFound

/-- A snapshot has the key that the client asked for. -/
theorem snapshot_keeps (db : Database) (fails : Bool) (wgInboundID : Int)
    (hasKey : resolveVKTurnProxyClientPublicKey client ≠ "") :
    (snapshotVKTurnProxyClientPeer db fails wgInboundID client).id = client.id ∧
      resolveVKTurnProxyClientPublicKey
        { snapshotVKTurnProxyClientPeer db fails wgInboundID client with
          peerPublicKey := resolveVKTurnProxyClientPublicKey client } =
        resolveVKTurnProxyClientPublicKey client := by
  unfold snapshotVKTurnProxyClientPeer
  dsimp only
  rw [if_neg hasKey]
  split
  · exact ⟨rfl, resolve_resolve client⟩
  · rename_i peer found
    have sameKey := (getWireguardPeer_key found).trans (trimSpace_resolve client)
    have cloned : trimSpace (cloneWireguardPeerToVKTurnProxyClientPeer peer).publicKey =
        resolveVKTurnProxyClientPublicKey client :=
      (trimSpace_trimSpace peer.publicKey).trans sameKey
    refine ⟨rfl, ?_⟩
    rw [resolve_of_snapshot rfl (by rw [cloned]; exact hasKey), cloned]

theorem ensureDisabled_ensures (inbounds : List Inbound) :
    Ensures (ensureVKTurnProxyClientPeerDisabled library faults wgInboundID client) db
      (fun bound next => next.vkTurnInbounds = db.vkTurnInbounds ∧
        ((resolveVKTurnProxyClientPublicKey client ≠ "" → Available inbounds wgInboundID
          (resolveVKTurnProxyClientPublicKey client) client.id) →
          BoundAs inbounds wgInboundID client bound))
      (fun next => next.vkTurnInbounds = db.vkTurnInbounds) := by
  unfold ensureVKTurnProxyClientPeerDisabled
  dsimp only
  split
  · rename_i noKey
    -- a client that asks for no key holds none
    have sameKey : resolveVKTurnProxyClientPublicKey client = trimSpace client.peerPublicKey := by
      obtain ⟨_, _, notBlank, isKey⟩ | isKey := resolve_withKey client
      · exact absurd ((isKey client.peerPublicKey).symm.trans noKey) notBlank
      · exact isKey client.peerPublicKey
    refine Ensures.pure ⟨rfl, fun _ => ⟨rfl, sameKey, fun held isHeld => ?_⟩⟩
    rw [heldBy, if_pos (sameKey.symm.trans noKey)] at isHeld
    cases isHeld
  · rename_i hasKey
    refine Ensures.bind (Ensures.query (fun snapshot isSnapshot => ?_) rfl)
    cases isSnapshot
    obtain ⟨sameID, sameKey⟩ := snapshot_keeps db (faults .peer) wgInboundID hasKey
    refine Ensures.refuse (fun _ => rfl) fun _ => ?_
    refine Ensures.bind (mutateWireguardPeers_frame.mono (fun _ next same => ?_) fun _ same => same)
    have trimmed := trimSpace_resolve client
    refine Ensures.pure ⟨same, fun isAvailable =>
      ⟨sameID, sameKey.trans trimmed.symm, fun held isHeld => ?_⟩⟩
    simp only [heldBy, trimmed, if_neg hasKey, sameID] at isHeld
    cases isHeld
    exact ⟨rfl, isAvailable hasKey⟩

/-- A snapshot with the key of the client does not change what the client asks for. -/
theorem resolve_withSnapshot {snapshot : VKTurnProxyClientPeer} (noPeer : client.peer = none)
    (agrees : trimSpace snapshot.publicKey ≠ "" →
      trimSpace snapshot.publicKey = trimSpace client.peerPublicKey) :
    resolveVKTurnProxyClientPublicKey { client with peer := some snapshot } =
      resolveVKTurnProxyClientPublicKey client := by
  have own : resolveVKTurnProxyClientPublicKey client = trimSpace client.peerPublicKey := by
    unfold resolveVKTurnProxyClientPublicKey
    rw [noPeer]
  rw [own]
  by_cases isBlank : trimSpace snapshot.publicKey = ""
  · unfold resolveVKTurnProxyClientPublicKey
    exact if_neg (not_not.mpr isBlank)
  · rw [resolve_of_snapshot rfl isBlank, agrees isBlank]

/-- What the candidate of a binding keeps of the client in the request. -/
theorem bindingCandidate_keeps (client : VKTurnProxyClient) {previous : Option VKTurnProxyClient}
    (kept : ∀ stored ∈ previous, KeptClient stored) :
    (bindingCandidate client previous).id = client.id ∧
      resolveVKTurnProxyClientPublicKey (bindingCandidate client previous) =
        resolveVKTurnProxyClientPublicKey client ∧
      (resolveVKTurnProxyClientPublicKey client ≠ "" →
        (bindingCandidate client previous).peerPublicKey =
          resolveVKTurnProxyClientPublicKey client) := by
  obtain ⟨asking, isAsking⟩ : ∃ asking, asking =
      if resolveVKTurnProxyClientPublicKey client ≠ "" then
        { client with peerPublicKey := resolveVKTurnProxyClientPublicKey client } else client :=
    ⟨_, rfl⟩
  have asks : asking.id = client.id ∧ resolveVKTurnProxyClientPublicKey asking =
      resolveVKTurnProxyClientPublicKey client ∧
        (resolveVKTurnProxyClientPublicKey client ≠ "" →
          asking.peerPublicKey = resolveVKTurnProxyClientPublicKey client) := by
    rw [isAsking]
    split
    · exact ⟨rfl, resolve_resolve client, fun _ => rfl⟩
    · rename_i noKey
      exact ⟨rfl, rfl, fun hasKey => absurd hasKey noKey⟩
  unfold bindingCandidate
  dsimp only
  rw [← isAsking]
  split
  · rename_i snapshot isSnapshot noPeer
    split
    · -- the snapshot of the client that is replaced has the same key
      rename_i sameKey
      obtain ⟨stored, isStored, isPeer⟩ := Option.bind_eq_some_iff.mp isSnapshot
      subst isStored
      have sameKey : trimSpace stored.peerPublicKey = trimSpace asking.peerPublicKey :=
        Option.some.inj sameKey
      refine ⟨asks.1, (resolve_withSnapshot noPeer fun notBlank => ?_).trans asks.2.1, asks.2.2⟩
      have cloned : trimSpace (trimSpace snapshot.publicKey) = trimSpace snapshot.publicKey :=
        trimSpace_trimSpace _
      have notBlank : trimSpace snapshot.publicKey ≠ "" := fun isBlank =>
        notBlank (cloned.trans isBlank)
      have isKey := (resolve_of_snapshot isPeer notBlank).symm.trans (kept stored rfl).snapshot
      exact cloned.trans (isKey.trans sameKey)
    · exact asks
  · exact asks

theorem applyBinding_ensures (well : WellBound db.vkTurnInbounds) {settings : VKTurnProxySettings}
    {previous : Option VKTurnProxyClient} :
    Ensures (applyVKTurnProxyClientBinding library faults clock settings client previous) db
      (fun bound next => settings.forward.type = .wireguardInbound ∧
        next.vkTurnInbounds = db.vkTurnInbounds ∧
        ((∀ stored ∈ previous, KeptClient stored) →
          BoundAs db.vkTurnInbounds settings.forward.wireguardInboundID client bound))
      (fun next => next.vkTurnInbounds = db.vkTurnInbounds) := by
  obtain ⟨candidate, isCandidate⟩ : ∃ candidate, candidate = bindingCandidate client previous :=
    ⟨_, rfl⟩
  have keeps (kept : ∀ stored ∈ previous, KeptClient stored) :=
    isCandidate ▸ bindingCandidate_keeps client kept
  refine Ensures.refuse (fun _ => rfl) fun isWireguard => ?_
  have isWireguard := not_not.mp isWireguard
  dsimp only
  rw [← isCandidate]
  -- what is bound for the candidate is bound for the client, and the old peer is given up
  have ends (bound : VKTurnProxyClient) (next : Database)
      (same : next.vkTurnInbounds = db.vkTurnInbounds)
      (isBound : (∀ stored ∈ previous, KeptClient stored) →
        BoundAs db.vkTurnInbounds settings.forward.wireguardInboundID candidate bound) :
      Ensures (if previousKey previous ≠ "" ∧ previousKey previous ≠ trimSpace bound.peerPublicKey
        then do
          removeWireguardPeerByPublicKey library (faults <| .release ·)
            settings.forward.wireguardInboundID (previousKey previous)
          pure bound
        else pure bound) next
      (fun bound next => settings.forward.type = .wireguardInbound ∧
        next.vkTurnInbounds = db.vkTurnInbounds ∧
        ((∀ stored ∈ previous, KeptClient stored) →
          BoundAs db.vkTurnInbounds settings.forward.wireguardInboundID client bound))
      (fun next => next.vkTurnInbounds = db.vkTurnInbounds) := by
    have isBound (kept : ∀ stored ∈ previous, KeptClient stored) :
        BoundAs db.vkTurnInbounds settings.forward.wireguardInboundID client bound := by
      obtain ⟨sameID, sameKey, _⟩ := keeps kept
      obtain ⟨id, snapshot, key⟩ := isBound kept
      rw [sameID, sameKey] at key
      exact ⟨id.trans sameID, snapshot, key⟩
    split
    · refine Ensures.bind (mutateWireguardPeers_frame.mono (fun _ later kept => ?_)
        fun _ kept => kept.trans same)
      exact Ensures.pure ⟨isWireguard, kept.trans same, isBound⟩
    · exact Ensures.pure ⟨isWireguard, same, isBound⟩
  split
  · exact Ensures.bind ((ensureEnabled_ensures well).mono
      (fun bound next isBound => ends bound next isBound.1 fun _ => isBound.2) fun _ same => same)
  · split
    · refine Ensures.bind (Ensures.query (fun _ passed => ?_) rfl)
      refine Ensures.bind ((ensureDisabled_ensures db.vkTurnInbounds).mono
        (fun bound next isBound => ends bound next isBound.1 fun kept => isBound.2 fun hasKey => ?_)
        fun _ same => same)
      obtain ⟨_, sameKey, isKey⟩ := keeps kept
      have isAvailable := well.available passed
      rw [isKey (sameKey ▸ hasKey), ← sameKey, trimSpace_resolve] at isAvailable
      exact isAvailable
    · rename_i noKey
      refine Ensures.bind ((ensureDisabled_ensures db.vkTurnInbounds).mono
        (fun bound next isBound => ends bound next isBound.1 fun kept => isBound.2 fun hasKey => ?_)
        fun _ same => same)
      obtain ⟨_, sameKey, isKey⟩ := keeps kept
      rw [sameKey] at hasKey
      exact absurd ((isKey hasKey).trans_ne hasKey) noKey

end Binding

end VkTurn.Panel
