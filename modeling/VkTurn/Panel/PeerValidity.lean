import VkTurn.Panel.Inbounds
import VkTurn.Transition.Machine

/-! # Which peers are stored

`validateWireguardPeers` says which peers a WireGuard inbound may have.  `UpdateInbound` checks
them, and so does every call on peers, which ends in `UpdateInbound`; `AddInbound` does not.
-/

namespace VkTurn.Panel

open VkTurn.Store VkTurn.Transition

/-- Distinct keys, and distinct prefixes of which every peer has one. -/
structure DistinctPeers (library : Library) (peers : List WireguardPeer) : Prop where
  keys : (publicKeys peers).Nodup
  prefixes : ∃ prefixes : List String,
    (peers.flatMap (·.allowedIPs)).map (normalizeWireGuardAllowedIP library) =
      prefixes.map .ok ∧ prefixes.Nodup
  routed : ∀ peer ∈ peers, peer.allowedIPs ≠ []

theorem AcceptablePeers.distinct {library : Library} {peers : List WireguardPeer}
    (acceptable : AcceptablePeers library peers) : DistinctPeers library peers :=
  ⟨acceptable.distinctKeys, acceptable.distinctPrefixes,
    fun peer member => (acceptable.filled peer member).2.2⟩

/-- The peers of an inbound can be read and are distinct. -/
def ValidPeers (library : Library) (inbound : Inbound) : Prop :=
  ∃ settings peers, getWireguardSettings inbound.settings = .ok (settings, peers) ∧
    DistinctPeers library peers

def PeersValid (library : Library) (db : Database) : Prop :=
  ∀ inbound ∈ db.inbounds.rows, inbound.protocol = .wireguard → ValidPeers library inbound

section Writes

variable {library : Library} {clock : Clock} {db next : Database} {inbound : Inbound}

theorem PeersValid.congr (valid : PeersValid library db) (same : next.inbounds = db.inbounds) :
    PeersValid library next := by
  unfold PeersValid
  rw [same]
  exact valid

theorem PeersValid.save (valid : PeersValid library db) (saved : db.saveInbound inbound = .ok next)
    (isValid : inbound.protocol = .wireguard → ValidPeers library inbound) :
    PeersValid library next := by
  intro row member isWireguard
  obtain rfl | ⟨inRows, _⟩ := mem_saved saved member
  · exact isValid isWireguard
  · exact valid row inRows isWireguard

theorem PeersValid.upsert (valid : PeersValid library db)
    (saved : db.upsertInbound inbound = .ok next)
    (isValid : inbound.protocol = .wireguard → ValidPeers library inbound) :
    PeersValid library next := by
  intro row member isWireguard
  rw [(upsertInbound_eq_ok.mp saved).1] at member
  obtain rfl | ⟨inRows, _⟩ := mem_upsertRow member
  · exact isValid isWireguard
  · exact valid row inRows isWireguard

/-- Settings with peers have nothing that a VK TURN inbound has. -/
theorem vkTurn_of_wireguard {raw : Settings} {read : WireguardSettings × List WireguardPeer}
    (peers : getWireguardSettings raw = .ok read) {settings : VKTurnProxySettings}
    (decoded : getVKTurnProxySettings clock raw = .ok settings) :
    settings.forward.type = .other "" ∧ settings.clients = [] := by
  cases raw with
  | wireguard stored =>
    cases decoded
    exact ⟨rfl, rfl⟩
  | vkTurnProxy stored => cases peers
  | clients stored => cases peers
  | text stored => cases peers

theorem rewriteUntyped_of_wireguard {raw : Settings}
    {read : WireguardSettings × List WireguardPeer} (peers : getWireguardSettings raw = .ok read) :
    rewriteUntyped raw = raw := by
  cases raw with
  | wireguard stored => rfl
  | vkTurnProxy stored => cases peers
  | clients stored => cases peers
  | text stored => cases peers

end Writes

/-! ## UpdateInbound -/

section Update

variable {library : Library} {faults : InboundSite → Bool} {clock : Clock} {db : Database}
  {inbound requested oldInbound : Inbound}

theorem checkedSettings_of_wireguard {targetFails : Bool} (isWireguard : inbound.protocol = .wireguard)
    (checked : checkedSettings library clock db targetFails requested = .ok inbound) :
    inbound = requested := by
  unfold checkedSettings at checked
  split at checked
  · rename_i isVKTurn
    obtain ⟨_, _, checked⟩ := bind_eq_ok.mp checked
    obtain ⟨_, _, checked⟩ := bind_eq_ok.mp checked
    cases pure_eq_ok.mp checked
    exact absurd (isWireguard.symm.trans isVKTurn) (by decide)
  · exact (pure_eq_ok.mp checked).symm

theorem checkedReplacement_valid
    (checked : checkedReplacement library faults clock db requested = .ok (inbound, oldInbound))
    (isWireguard : inbound.protocol = .wireguard) : ValidPeers library inbound := by
  obtain ⟨_, _, checked⟩ := bind_eq_ok.mp checked
  obtain ⟨_, checked⟩ := refuse_eq_ok.mp checked
  obtain ⟨written, _, checked⟩ := bind_eq_ok.mp checked
  split at checked
  · obtain ⟨⟨settings, peers⟩, isRead, checked⟩ := bind_eq_ok.mp checked
    obtain ⟨_, accepted, checked⟩ := bind_eq_ok.mp checked
    obtain ⟨_, _, checked⟩ := bind_eq_ok.mp checked
    cases pure_eq_ok.mp checked
    exact ⟨settings, peers, isRead, (validateWireguardPeers_eq_ok.mp accepted).distinct⟩
  · rename_i notWireguard
    obtain ⟨_, _, checked⟩ := bind_eq_ok.mp checked
    cases pure_eq_ok.mp checked
    exact absurd isWireguard notWireguard

theorem ValidPeers.replaced (valid : ValidPeers library inbound) :
    ValidPeers library (replacedInbound oldInbound inbound) := by
  obtain ⟨settings, peers, isRead, distinct⟩ := valid
  refine ⟨settings, peers, ?_, distinct⟩
  rw [replacedInbound, rewriteUntyped_of_wireguard isRead]
  exact isRead

theorem replaceInbound_keeps
    (isValid : inbound.protocol = .wireguard → ValidPeers library inbound) :
    Keeps (replaceInbound faults oldInbound inbound) (PeersValid library) := by
  intro db valid
  unfold Ensures replaceInbound
  cases updated : updateClientTraffics faults db oldInbound inbound with
  | error message => exact valid
  | ok stats =>
    have statsValid := valid.congr (updateClientTraffics_inbounds updated)
    dsimp only
    cases saved : attempt (faults .save)
        (stats.saveInbound (replacedInbound oldInbound inbound)) with
    | error message =>
      dsimp only
      split
      · exact valid
      · exact statsValid
    | ok next =>
      dsimp only
      split
      · exact valid
      · exact statsValid.save (attempt_eq_ok.mp saved).2 fun isWireguard =>
          (isValid isWireguard).replaced

theorem updateInbound_keeps : Keeps (updateInbound library faults clock requested)
    (PeersValid library) :=
  Keeps.afterQuery fun _ _ _ checked => replaceInbound_keeps (checkedReplacement_valid checked)

end Update

/-! ## The calls on peers -/

section Peers

variable {library : Library} {faults : PeerSite → Bool} {inboundID : Int}
  {mutate : List WireguardPeer → Except String (List WireguardPeer)}

theorem mutateWireguardPeers_keeps :
    Keeps (mutateWireguardPeers library faults inboundID mutate) (PeersValid library) := by
  refine Keeps.bind (Keeps.query _) fun inbound => Keeps.uncheckedTransaction ?_
  intro db next valid updated
  obtain ⟨_, _, updated⟩ := bind_eq_ok.mp updated
  obtain ⟨_, updated⟩ := refuse_eq_ok.mp updated
  obtain ⟨⟨settings, peers⟩, isRead, updated⟩ := bind_eq_ok.mp updated
  obtain ⟨_, accepted, updated⟩ := bind_eq_ok.mp updated
  obtain ⟨_, _, updated⟩ := bind_eq_ok.mp updated
  exact valid.save (attempt_eq_ok.mp updated).2 fun _ =>
    ⟨settings, peers, isRead, (validateWireguardPeers_eq_ok.mp accepted).distinct⟩

theorem addInboundPeer_keeps {data : Settings} :
    Keeps (addInboundPeer library faults inboundID data) (PeersValid library) :=
  Keeps.bind (Keeps.query _) fun _ => Keeps.refuse fun _ => mutateWireguardPeers_keeps

theorem updateInboundPeer_keeps {data : Settings} {peerIndex : Int} :
    Keeps (updateInboundPeer library faults inboundID data peerIndex) (PeersValid library) := by
  refine Keeps.bind (Keeps.query _) fun read => ?_
  dsimp only
  split
  · exact mutateWireguardPeers_keeps
  · exact Keeps.throw _

theorem delInboundPeer_keeps {peerIndex : Int} :
    Keeps (delInboundPeer library faults inboundID peerIndex) (PeersValid library) :=
  mutateWireguardPeers_keeps

end Peers

/-! ## AddInbound -/

section Add

variable {library : Library} {faults : InboundSite → Bool} {clock : Clock} {db : Database}
  {newID : Int} {inbound requested : Inbound} {clients : List Client}
  {clientStats : List ClientTraffic}

theorem checkedInbound_valid
    (isValid : requested.protocol = .wireguard → ValidPeers library requested)
    (checked : checkedInbound library faults clock db requested = .ok (inbound, clients))
    (isWireguard : inbound.protocol = .wireguard) : ValidPeers library inbound := by
  obtain ⟨_, _, checked⟩ := bind_eq_ok.mp checked
  obtain ⟨_, checked⟩ := refuse_eq_ok.mp checked
  obtain ⟨written, isWritten, checked⟩ := bind_eq_ok.mp checked
  obtain ⟨_, _, checked⟩ := bind_eq_ok.mp checked
  obtain ⟨_, checked⟩ := refuse_eq_ok.mp checked
  obtain ⟨_, _, checked⟩ := bind_eq_ok.mp checked
  obtain ⟨_, _, checked⟩ := bind_eq_ok.mp checked
  cases pure_eq_ok.mp checked
  have isRequested : written = requested := checkedSettings_of_wireguard isWireguard isWritten
  subst isRequested
  obtain ⟨settings, peers, isRead, distinct⟩ := isValid isWireguard
  refine ⟨settings, peers, ?_, distinct⟩
  cases raw : written.settings with
  | wireguard stored => rw [raw] at isRead; exact isRead
  | vkTurnProxy stored => rw [raw] at isRead; cases isRead
  | clients stored => rw [raw] at isRead; cases isRead
  | text stored => rw [raw] at isRead; cases isRead

theorem withID_eq_ok {written : Inbound} (numbered : db.withID newID inbound = .ok written) :
    written.protocol = inbound.protocol ∧ written.settings = inbound.settings := by
  unfold Database.withID at numbered
  split at numbered
  · cases numbered
    exact ⟨rfl, rfl⟩
  · split at numbered
    · cases numbered
    · cases numbered
      exact ⟨rfl, rfl⟩

theorem addInbound_keeps
    (isValid : requested.protocol = .wireguard → ValidPeers library requested) :
    Keeps (addInbound library faults clock newID requested clientStats) (PeersValid library) := by
  refine Keeps.afterQuery fun ⟨inbound, clients⟩ db valid checked => ?_
  have checkedValid := checkedInbound_valid isValid checked
  refine Keeps.uncheckedTransaction fun db next valid added => ?_
  obtain ⟨written, numbered, added⟩ := bind_eq_ok.mp added
  obtain ⟨sameProtocol, sameSettings⟩ := withID_eq_ok numbered
  obtain ⟨saved, isSaved, added⟩ := bind_eq_ok.mp added
  cases pure_eq_ok.mp added
  obtain ⟨stored, isStored, stats⟩ := bind_eq_ok.mp (attempt_eq_ok.mp isSaved).2
  have storedValid : PeersValid library stored := by
    refine valid.upsert isStored fun isWireguard => ?_
    obtain ⟨settings, peers, isRead, distinct⟩ := checkedValid (sameProtocol ▸ isWireguard)
    exact ⟨settings, peers, sameSettings ▸ isRead, distinct⟩
  have savedValid : PeersValid library saved :=
    foldlM_keeps (PeersValid library)
      (fun _ _ _ _ valid created => valid.congr (createTraffic_inbounds created)) storedValid stats
  split
  · exact savedValid.congr (addClientStats_inbounds faults saved written.id clients)
  · exact savedValid

end Add

/-! ## The calls on VK TURN clients -/

section Clients

variable {library : Library} {faults : Faults} {clock : Clock} {db : Database} {inboundID : Int}
  {oldInbound : Inbound} {settings : VKTurnProxySettings}

/-- An inbound whose settings a call has read as those of a VK TURN inbound, with clients or with a
    forward, has no peers of its own. -/
theorem not_wireguard (valid : PeersValid library db) (found : db.inbound? inboundID = some oldInbound)
    (decoded : getVKTurnProxySettings clock oldInbound.settings = .ok settings)
    (isVKTurn : settings.forward.type ≠ .other "" ∨ settings.clients ≠ []) :
    oldInbound.protocol ≠ .wireguard := by
  intro isWireguard
  obtain ⟨_, _, isRead, _⟩ := valid oldInbound (inbound?_mem found).1 isWireguard
  obtain ⟨noForward, noClients⟩ := vkTurn_of_wireguard isRead decoded
  exact isVKTurn.elim (· noForward) (· noClients)

theorem saveSettings_keeps {saveTraffics : Database → Except String Database}
    (notWireguard : oldInbound.protocol ≠ .wireguard)
    (keeps : ∀ before after, saveTraffics before = .ok after → after.inbounds = before.inbounds) :
    Keeps (transaction (faults .commit) (saveSettings faults oldInbound settings saveTraffics))
      (PeersValid library) := by
  refine Keeps.transaction fun db next valid saves => ?_
  obtain ⟨stored, isStored, same⟩ := saveSettings_inbounds keeps saves
  exact (valid.save isStored fun isWireguard => absurd isWireguard notWireguard).congr same

theorem validate_forward {targetFails allowClients : Bool}
    (passed : validateVKTurnProxySettings library db targetFails settings allowClients = .ok ()) :
    settings.forward.type ≠ .other "" := by
  intro noForward
  unfold validateVKTurnProxySettings at passed
  rw [noForward] at passed
  cases passed

theorem addVKTurnProxyClient_keeps {data : Envelope} :
    Keeps (addVKTurnProxyClient library faults clock inboundID data) (PeersValid library) := by
  refine Keeps.afterQuery fun ⟨old, settings, client⟩ db valid checked => ?_
  obtain ⟨inbound, found, checked⟩ := bind_eq_ok.mp checked
  obtain ⟨decoded, isDecoded, checked⟩ := bind_eq_ok.mp checked
  obtain ⟨_, passed, checked⟩ := bind_eq_ok.mp checked
  obtain ⟨_, _, checked⟩ := bind_eq_ok.mp checked
  obtain ⟨_, _, checked⟩ := bind_eq_ok.mp checked
  obtain ⟨_, _, checked⟩ := bind_eq_ok.mp checked
  cases pure_eq_ok.mp checked
  have notWireguard := not_wireguard valid (getInbound_eq_ok.mp found).2 isDecoded
    (.inl (validate_forward passed))
  exact Keeps.bind (applyBinding_keeps fun _ _ => mutateWireguardPeers_keeps) fun _ =>
    saveSettings_keeps notWireguard fun _ _ => addTraffic_inbounds

theorem updateVKTurnProxyClient_keeps {data : Envelope} {clientID : String} :
    Keeps (updateVKTurnProxyClient library faults clock inboundID data clientID)
      (PeersValid library) := by
  refine Keeps.afterQuery fun ⟨old, settings, index, previous, client⟩ db valid checked => ?_
  obtain ⟨inbound, found, checked⟩ := bind_eq_ok.mp checked
  obtain ⟨decoded, isDecoded, checked⟩ := bind_eq_ok.mp checked
  obtain ⟨_, passed, checked⟩ := bind_eq_ok.mp checked
  obtain ⟨_, _, checked⟩ := bind_eq_ok.mp checked
  obtain ⟨_, _, checked⟩ := bind_eq_ok.mp checked
  obtain ⟨_, _, checked⟩ := bind_eq_ok.mp checked
  have sameRead : inbound = old ∧ decoded = settings := by
    split at checked
    · obtain ⟨_, _, checked⟩ := bind_eq_ok.mp checked
      cases pure_eq_ok.mp checked
      exact ⟨rfl, rfl⟩
    · cases pure_eq_ok.mp checked
      exact ⟨rfl, rfl⟩
  obtain ⟨rfl, rfl⟩ := sameRead
  have notWireguard := not_wireguard valid (getInbound_eq_ok.mp found).2 isDecoded
    (.inl (validate_forward passed))
  exact Keeps.bind (applyBinding_keeps fun _ _ => mutateWireguardPeers_keeps) fun _ =>
    saveSettings_keeps notWireguard fun _ _ => updateTraffic_inbounds

theorem clientCall_keeps (call : ClientCall) :
    Keeps (call.program library faults clock) (PeersValid library) := by
  cases call with
  | add inboundID data => exact addVKTurnProxyClient_keeps
  | update inboundID data clientID => exact updateVKTurnProxyClient_keeps
  | setEnable inboundID clientID enable =>
    refine Keeps.bind (Keeps.query _) fun client => ?_
    split
    · exact Keeps.pure _
    · exact updateVKTurnProxyClient_keeps
  | del inboundID clientID =>
    refine Keeps.afterQuery fun ⟨old, settings, index, client⟩ db valid checked => ?_
    obtain ⟨inbound, found, checked⟩ := bind_eq_ok.mp checked
    obtain ⟨decoded, isDecoded, checked⟩ := bind_eq_ok.mp checked
    obtain ⟨⟨place, stored⟩, isStored, checked⟩ := bind_eq_ok.mp checked
    cases pure_eq_ok.mp checked
    have notWireguard : old.protocol ≠ .wireguard := by
      refine not_wireguard valid (getInbound_eq_ok.mp found).2 isDecoded (.inr fun noClients => ?_)
      rw [clientAt, findVKTurnProxyClientIndex, noClients] at isStored
      cases isStored
    dsimp only
    split
    · exact Keeps.bind mutateWireguardPeers_keeps fun _ =>
        saveSettings_keeps notWireguard fun _ _ => delTraffic_inbounds
    · exact saveSettings_keeps notWireguard fun _ _ => delTraffic_inbounds

end Clients

/-! ## Sequences of calls -/

inductive PeerCall where
  | addInbound (faults : InboundSite → Bool) (newID : Int) (inbound : Inbound)
      (clientStats : List ClientTraffic)
  | updateInbound (faults : InboundSite → Bool) (inbound : Inbound)
  | addPeer (faults : PeerSite → Bool) (inboundID : Int) (data : Settings)
  | updatePeer (faults : PeerSite → Bool) (inboundID : Int) (data : Settings) (peerIndex : Int)
  | delPeer (faults : PeerSite → Bool) (inboundID : Int) (peerIndex : Int)
  | client (faults : Faults) (call : ClientCall)

def PeerCall.program (library : Library) (clock : Clock) : PeerCall → Program Database Unit
  | addInbound faults newID inbound clientStats =>
    Panel.addInbound library faults clock newID inbound clientStats
  | updateInbound faults inbound => Panel.updateInbound library faults clock inbound
  | addPeer faults inboundID data => addInboundPeer library faults inboundID data
  | updatePeer faults inboundID data peerIndex =>
    updateInboundPeer library faults inboundID data peerIndex
  | delPeer faults inboundID peerIndex => delInboundPeer library faults inboundID peerIndex
  | client faults call => call.program library faults clock

/-- The database under one call after the other, with the clock of each. -/
def peerCalls (library : Library) : Machine Database (PeerCall × Clock) where
  step db label := some (label.1.program library label.2 db).2

/-- A WireGuard inbound is added with peers that `UpdateInbound` would accept. -/
def AddsValidPeers (library : Library) (_ : Database) (label : PeerCall × Clock) : Prop :=
  match label.1 with
  | .addInbound _ _ inbound _ => inbound.protocol = .wireguard → ValidPeers library inbound
  | _ => True

theorem peerCall_keeps {library : Library} {db : Database} {label : PeerCall × Clock}
    (adds : AddsValidPeers library db label) :
    Keeps (label.1.program library label.2) (PeersValid library) := by
  obtain ⟨call, clock⟩ := label
  cases call with
  | addInbound => exact addInbound_keeps adds
  | updateInbound => exact updateInbound_keeps
  | addPeer => exact addInboundPeer_keeps
  | updatePeer => exact updateInboundPeer_keeps
  | delPeer => exact delInboundPeer_keeps
  | client faults call => exact clientCall_keeps call

/-- As long as WireGuard inbounds are added with distinct peers, the peers of every stored one stay
    distinct. -/
theorem peers_stay_distinct {library : Library} {db : Database}
    (reached : (peerCalls library).ReachableWhile (AddsValidPeers library) (PeersValid library) db) :
    PeersValid library db := by
  refine reached.invariant (fun _ => id) fun db next label valid adds stepped => ?_
  cases stepped
  exact (peerCall_keeps adds).ends valid

/-! ## Two peers with one key -/

/-- Libraries that take every prefix for one in canonical form. -/
def canonical : Library where
  toLower text := text
  equalFold text other := text = other
  decodeBase64 _ := none
  decodeRawBase64 _ := none
  encodeBase64 _ := ""
  x25519 _ := .error "not computed"
  parseIP _ := none
  parseCIDR text := .ok text

def noInbounds : Database where
  inbounds := ⟨[], uniqueInbounds_nil⟩
  clientTraffics := ⟨[], uniqueTraffics_nil⟩
  clientIps := ⟨[], uniqueIps_nil⟩

theorem noInbounds_valid : PeersValid canonical noInbounds :=
  fun _ member => absurd member List.not_mem_nil

/-- A WireGuard inbound with peers under these keys, each with a prefix of its own. -/
def addWireguard (keys : List String) : PeerCall × Clock :=
  (.addInbound (fun _ => false) 1
    { id := 0, port := 51820, protocol := .wireguard, tag := "inbound-51820"
      settings := .wireguard { peers := some (keys.mapIdx fun index key =>
        { privateKey := "secret", publicKey := key
          allowedIPs := ["10.0.0." ++ toString (index + 2) ++ "/32"] }) } } [],
    ⟨1700000000000, "a0b1"⟩)

theorem peers_stay_distinct_pair :
    ∃ db, (peerCalls canonical).run noInbounds [addWireguard ["key", "other"]] = some db ∧
      db.peerKeys 1 = ["key", "other"] ∧ PeersValid canonical db := by
  have adds : AddsValidPeers canonical noInbounds (addWireguard ["key", "other"]) :=
    fun _ => ⟨_, _, rfl, (validateWireguardPeers_eq_ok.mp (by decide +kernel)).distinct⟩
  exact ⟨_, rfl, by decide +kernel, peers_stay_distinct (.step (.start noInbounds_valid) adds rfl)⟩

/-- A new inbound is stored without a look at its peers. -/
theorem added_with_one_key_twice :
    ∃ db, (peerCalls canonical).Reachable (PeersValid canonical) db ∧
      ¬ PeersValid canonical db := by
  obtain ⟨db, ran, twice⟩ : ∃ db, (peerCalls canonical).run noInbounds
      [addWireguard ["key", "key"]] = some db ∧
        db.inbounds.rows.map (fun inbound => (inbound.protocol,
          (getWireguardSettings inbound.settings).toOption.map (publicKeys ·.2))) =
            [(.wireguard, some ["key", "key"])] :=
    ⟨_, rfl, by decide +kernel⟩
  refine ⟨db, Machine.Reachable.run (.start noInbounds_valid) ran, fun valid => ?_⟩
  obtain ⟨inbound, member, isTwice⟩ := List.mem_map.mp (twice ▸ List.mem_singleton_self _)
  obtain ⟨isWireguard, keys⟩ := Prod.mk.inj isTwice
  obtain ⟨settings, peers, isRead, distinct⟩ := valid inbound member isWireguard
  rw [isRead] at keys
  have noneTwice : (publicKeys peers).Nodup := distinct.keys
  have isKeys : publicKeys peers = ["key", "key"] := Option.some.inj keys
  rw [isKeys] at noneTwice
  exact absurd noneTwice (by decide)

end VkTurn.Panel
