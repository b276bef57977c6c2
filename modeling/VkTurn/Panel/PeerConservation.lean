import VkTurn.Panel.PeerValidity
import VkTurn.Panel.UniqueBindings

/-! # What becomes of a peer

A peer that is on a WireGuard inbound is moved into the snapshot of a client that is disabled, and
back to the inbound when the client is enabled.  A peer of its own goes with its client; but so does
any other, when its client gives it up for another peer or is deleted while it is disabled.

`PeerAt` says whether the inbound has the peer, and `clientsFor` gives the clients that may have it
instead.  Each call balances the two.
-/

namespace VkTurn.Panel

open VkTurn.Store VkTurn.Transition
open VkTurn.Text (trimSpace trimSpace_trimSpace)

/-! ## Peers under their keys -/

def peerUnder (publicKey : String) (peers : List WireguardPeer) : Option WireguardPeer :=
  peers.find? fun peer => trimSpace peer.publicKey = publicKey

section Under

variable {peers written : List WireguardPeer} {peer head : WireguardPeer} {key publicKey : String}

theorem peerUnder_cons : peerUnder key (head :: peers) =
    if trimSpace head.publicKey = key then some head else peerUnder key peers := by
  unfold peerUnder
  rw [List.find?_cons]
  by_cases same : trimSpace head.publicKey = key
  · simp [same]
  · simp [same]

theorem peerUnder_eq_none : peerUnder key peers = none ↔ key ∉ publicKeys peers := by
  simp [peerUnder, publicKeys]

theorem peerUnder_mem (found : peerUnder key peers = some peer) :
    peer ∈ peers ∧ trimSpace peer.publicKey = key :=
  ⟨List.mem_of_find?_eq_some found, by simpa using List.find?_some found⟩

theorem peerUnder_upsert : peerUnder key (upsertPeer peer peers) =
    if trimSpace peer.publicKey = key then some peer else peerUnder key peers := by
  induction peers with
  | nil => exact peerUnder_cons
  | cons head rest inductionHypothesis =>
    rw [upsertPeer_cons, peerUnder_cons]
    by_cases overwritten : trimSpace head.publicKey = trimSpace peer.publicKey
    · rw [if_pos overwritten, peerUnder_cons, overwritten]
      split <;> rfl
    · rw [if_neg overwritten, peerUnder_cons, inductionHypothesis]
      by_cases same : trimSpace peer.publicKey = key
      · rw [if_pos same, if_neg (same ▸ overwritten), if_pos same]
      · rw [if_neg same, if_neg same]

theorem peerUnder_remove (differs : key ≠ trimSpace publicKey) :
    peerUnder key (removePeer publicKey peers) = peerUnder key peers := by
  induction peers with
  | nil => rfl
  | cons head rest inductionHypothesis =>
    rw [removePeer_cons, peerUnder_cons]
    by_cases removed : trimSpace head.publicKey = trimSpace publicKey
    · rw [if_pos removed, if_neg fun same => differs (same.symm.trans removed)]
    · rw [if_neg removed, peerUnder_cons, inductionHypothesis]

/-- Reading peers again reads each under its key. -/
theorem peerUnder_reread (reread : peers.mapM rereadPeer = .ok written)
    (found : peerUnder key peers = some peer) (exact : rereadPeer peer = .ok head) :
    peerUnder key written = some head := by
  induction peers generalizing written with
  | nil => cases found
  | cons first rest inductionHypothesis =>
    obtain ⟨firstRead, restRead, isFirst, isRest, rfl⟩ := mapM_cons_eq_ok.mp reread
    rw [peerUnder_cons] at found ⊢
    rw [(rereadPeer_keeps isFirst).2.1]
    split at found
    · rename_i isKey
      cases found
      cases exact.symm.trans isFirst
      exact if_pos isKey
    · rename_i otherKey
      rw [if_neg otherKey]
      exact inductionHypothesis isRest found

end Under

/-! ## Whether an inbound has a peer -/

/-- The WireGuard inbound can be read, and has the peer under its key, or nothing. -/
def PeerAt (wgInboundID : Int) (peer : WireguardPeer) (there : Bool) (db : Database) : Prop :=
  ∃ peers, db.wireguardPeers? wgInboundID = some peers ∧ (publicKeys peers).Nodup ∧
    peerUnder (trimSpace peer.publicKey) peers = if there then some peer else none

/-- The peer comes back from JSON as it went. -/
def ExactPeer (peer : WireguardPeer) : Prop := rereadPeer peer = .ok peer

section Peers

variable {library : Library} {db next : Database} {wgInboundID otherID : Int} {peer : WireguardPeer}
  {there : Bool} {mutate : List WireguardPeer → List WireguardPeer}

theorem wireguardPeers_eq_some {peers : List WireguardPeer} :
    db.wireguardPeers? wgInboundID = some peers ↔ ∃ inbound settings,
      db.inbound? wgInboundID = some inbound ∧ inbound.protocol = .wireguard ∧
        getWireguardSettings inbound.settings = .ok (settings, peers) := by
  unfold Database.wireguardPeers?
  constructor
  · intro read
    obtain ⟨inbound, found, read⟩ := Option.bind_eq_some_iff.mp read
    split at read
    · cases read
    · rename_i isWireguard
      obtain ⟨⟨settings, peers⟩, isRead, rfl⟩ := Option.map_eq_some_iff.mp read
      refine ⟨inbound, settings, found, not_not.mp isWireguard, ?_⟩
      cases read : getWireguardSettings inbound.settings with
      | error message =>
        rw [read] at isRead
        cases isRead
      | ok value =>
        rw [read] at isRead
        cases isRead
        rfl
  · rintro ⟨inbound, settings, found, isWireguard, read⟩
    rw [found]
    simp [isWireguard, read, Except.toOption]

/-- What is read of an inbound whose peers were written. -/
theorem PeersWritten.read (written : PeersWritten library mutate wgInboundID db next) :
    ∃ peers reread, db.wireguardPeers? wgInboundID = some peers ∧
      AcceptablePeers library (mutate peers) ∧ (mutate peers).mapM rereadPeer = .ok reread ∧
      next.wireguardPeers? wgInboundID = some reread := by
  obtain ⟨inbound, settings, peers, reread, found, isWireguard, read, acceptable, isReread, _,
    saved⟩ := written
  refine ⟨peers, reread, wireguardPeers_eq_some.mpr ⟨inbound, settings, found, isWireguard, read⟩,
    acceptable, isReread, ?_⟩
  have sameID := (inbound?_mem found).2
  rw [← sameID] at found ⊢
  have isSaved := inbound?_saved_self (by exact found) saved
  refine wireguardPeers_eq_some.mpr ⟨_, { settings with peers := some (mutate peers) }, isSaved,
    isWireguard, ?_⟩
  exact bind_eq_ok.mpr ⟨reread, isReread, rfl⟩

theorem PeersWritten.elsewhere (written : PeersWritten library mutate otherID db next)
    (differs : wgInboundID ≠ otherID) :
    next.wireguardPeers? wgInboundID = db.wireguardPeers? wgInboundID := by
  obtain ⟨inbound, settings, peers, reread, found, _, _, _, _, _, saved⟩ := written
  unfold Database.wireguardPeers?
  rw [inbound?_saved_of_ne saved (by rw [(inbound?_mem found).2]; exact differs)]

/-- A change that leaves the peer alone. -/
theorem PeerAt.frame (at_ : PeerAt wgInboundID peer there db) (exact : ExactPeer peer)
    (written : PeersWritten library mutate wgInboundID db next)
    (same : ∀ peers, peerUnder (trimSpace peer.publicKey) (mutate peers) =
      peerUnder (trimSpace peer.publicKey) peers) : PeerAt wgInboundID peer there next := by
  obtain ⟨peers, read, _, isUnder⟩ := at_
  obtain ⟨other, reread, isRead, acceptable, isReread, isNext⟩ := written.read
  cases read.symm.trans isRead
  refine ⟨reread, isNext, ?_, ?_⟩
  · rw [publicKeys_reread isReread]
    exact acceptable.distinctKeys
  · rw [← same] at isUnder
    cases there with
    | true => exact peerUnder_reread isReread isUnder exact
    | false =>
      rw [if_neg Bool.false_ne_true] at isUnder ⊢
      rw [peerUnder_eq_none, publicKeys_reread isReread, ← peerUnder_eq_none]
      exact isUnder

theorem PeerAt.upserted {written : WireguardPeer} (at_ : PeerAt wgInboundID peer there db)
    (isWritten : PeersWritten library (upsertPeer written) wgInboundID db next)
    (isPeer : rereadPeer written = .ok peer) : PeerAt wgInboundID peer true next := by
  obtain ⟨peers, read, _, _⟩ := at_
  obtain ⟨other, reread, isRead, acceptable, isReread, isNext⟩ := isWritten.read
  cases read.symm.trans isRead
  refine ⟨reread, isNext, ?_, ?_⟩
  · rw [publicKeys_reread isReread]
    exact acceptable.distinctKeys
  · refine peerUnder_reread isReread ?_ isPeer
    rw [peerUnder_upsert, if_pos]
    rw [(rereadPeer_keeps isPeer).2.1]

theorem PeerAt.removed {publicKey : String} (at_ : PeerAt wgInboundID peer there db)
    (isWritten : PeersWritten library (removePeer publicKey) wgInboundID db next)
    (isKey : trimSpace publicKey = trimSpace peer.publicKey) :
    PeerAt wgInboundID peer false next := by
  obtain ⟨peers, read, distinct, _⟩ := at_
  obtain ⟨other, reread, isRead, acceptable, isReread, isNext⟩ := isWritten.read
  cases read.symm.trans isRead
  refine ⟨reread, isNext, ?_, ?_⟩
  · rw [publicKeys_reread isReread]
    exact acceptable.distinctKeys
  · rw [if_neg Bool.false_ne_true, peerUnder_eq_none, publicKeys_reread isReread,
      mem_publicKeys_removePeer distinct]
    exact fun member => member.2 isKey.symm

end Peers

/-! ## The clients that may have a peer -/

/-- The peer that a client puts on the inbound when it is enabled, as its snapshot is read. -/
def snapshotOf (client : VKTurnProxyClient) : Option WireguardPeer :=
  (client.peer.bind fun snapshot => (rereadClientPeer snapshot).toOption).map
    vkTurnProxyClientPeerToWireguardPeer

/-- A disabled client that has the peer in its snapshot. -/
def holdsPeer (peer : WireguardPeer) (client : VKTurnProxyClient) : Bool :=
  !client.enable && snapshotOf client = some peer

/-- The clients of an inbound, if it forwards to the WireGuard inbound. -/
def clientsOf (wgInboundID : Int) (inbound : Inbound) : List VKTurnProxyClient :=
  match inbound.settings with
  | .vkTurnProxy settings =>
    if settings.forward.type = .wireguardInbound ∧
        rereadNumber settings.forward.wireguardInboundID = .ok wgInboundID then settings.clients
    else []
  | .wireguard _ => []
  | .clients _ => []
  | .text _ => []

def Database.clientsFor (db : Database) (wgInboundID : Int) : List VKTurnProxyClient :=
  db.inbounds.rows.flatMap (clientsOf wgInboundID)

/-- The part of a client that matters here. -/
def peerPart (client : VKTurnProxyClient) : Bool × Option WireguardPeer × String :=
  (client.enable, snapshotOf client, trimSpace client.peerPublicKey)

section Clients

variable {clock : Clock} {client after : VKTurnProxyClient} {inbound : Inbound}
  {settings : VKTurnProxySettings} {clients others : List VKTurnProxyClient} {wgInboundID : Int}
  {peer : WireguardPeer}

theorem rereadClientPeer_idem {stored reread : VKTurnProxyClientPeer}
    (passed : rereadClientPeer stored = .ok reread) : rereadClientPeer reread = .ok reread := by
  obtain ⟨keepAlive, numberPassed, isReread⟩ := bind_eq_ok.mp passed
  cases pure_eq_ok.mp isReread
  exact bind_eq_ok.mpr ⟨keepAlive, rereadNumber_idem numberPassed, rfl⟩

theorem rereadClient_peerPart (passed : rereadClient client = .ok after) :
    peerPart after = peerPart client := by
  simp only [rereadClient, bind_eq_ok, pure_eq_ok] at passed
  obtain ⟨limitIP, _, totalGB, _, expiryTime, _, tgID, _, reset, _, createdAt, _, updatedAt, _,
    snapshot, isSnapshot, rfl⟩ := passed
  unfold peerPart snapshotOf
  cases isStored : client.peer with
  | none =>
    rw [isStored] at isSnapshot
    cases isSnapshot
    rfl
  | some stored =>
    rw [isStored] at isSnapshot
    obtain ⟨reread, isReread, isSome⟩ := bind_eq_ok.mp isSnapshot
    cases isSome
    simp [isReread, rereadClientPeer_idem isReread, Except.toOption]

/-- The clients in settings are for this WireGuard inbound. -/
def VKTurnProxySettings.ForwardsTo (settings : VKTurnProxySettings) (wgInboundID : Int) : Prop :=
  settings.forward.type = .wireguardInbound ∧ settings.forward.wireguardInboundID = wgInboundID

instance : Decidable (settings.ForwardsTo wgInboundID) := inferInstanceAs (Decidable (_ ∧ _))

/-- What a call reads of a VK TURN inbound. -/
theorem read_clients (decoded : getVKTurnProxySettings clock inbound.settings = .ok settings)
    {stored : VKTurnProxySettings} (isVKTurn : inbound.settings = .vkTurnProxy stored)
    (wgInboundID : Int) : (clientsOf wgInboundID inbound).map peerPart =
      (if settings.ForwardsTo wgInboundID then settings.clients else []).map peerPart := by
  obtain ⟨read, isRead, rfl⟩ := getVKTurnProxySettings_eq_ok.mp decoded
  have sameParts : (normalizeVKTurnProxySettings clock read).clients.map peerPart =
      read.clients.map peerPart := by
    simp only [normalizeVKTurnProxySettings, List.map_map]
    exact List.map_congr_left fun _ _ => rfl
  unfold clientsOf
  rw [isVKTurn] at isRead ⊢
  have passed : sanitizeVKTurnProxySettingsJSON stored = .ok read := isRead
  by_cases noClients : stored.clients = []
  · rw [sanitizeVKTurnProxySettingsJSON, if_pos noClients] at passed
    cases passed
    have nothing : (normalizeVKTurnProxySettings clock stored).clients = [] :=
      List.map_eq_nil_iff.mpr noClients
    rw [nothing]
    simp [noClients]
  · obtain ⟨_, sameType, isNumber⟩ := sanitize_keeps noClients passed
    rw [sanitizeVKTurnProxySettingsJSON, if_neg noClients] at passed
    obtain ⟨own, isOwn, passed⟩ := bind_eq_ok.mp passed
    obtain ⟨reread, isReread, same⟩ := bind_eq_ok.mp passed
    cases pure_eq_ok.mp same
    rw [(rereadOwnNumbers_keeps isOwn).1] at isReread
    have storedParts : reread.map peerPart = stored.clients.map peerPart :=
      mapM_map_eq (fun _ _ => rereadClient_peerPart) isReread
    have forwards : (normalizeVKTurnProxySettings clock { own with clients := reread }).ForwardsTo
        wgInboundID ↔ stored.forward.type = .wireguardInbound ∧
          rereadNumber stored.forward.wireguardInboundID = .ok wgInboundID := by
      dsimp only at sameType isNumber
      rw [isNumber, ← sameType, Except.ok.injEq]
      rfl
    by_cases isHere : (normalizeVKTurnProxySettings clock { own with clients := reread }).ForwardsTo
        wgInboundID
    · rw [if_pos isHere, sameParts]
      dsimp only
      rw [if_pos (forwards.mp isHere), storedParts]
    · rw [if_neg isHere]
      dsimp only
      rw [if_neg fun both => isHere (forwards.mpr both)]

/-- Settings that forward to a WireGuard inbound, or have clients, are those of a VK TURN inbound. -/
theorem vkTurn_of_decoded (decoded : getVKTurnProxySettings clock inbound.settings = .ok settings)
    (hasSome : settings.forward.type = .wireguardInbound ∨ settings.clients ≠ []) :
    ∃ stored, inbound.settings = .vkTurnProxy stored := by
  obtain ⟨read, isRead, rfl⟩ := getVKTurnProxySettings_eq_ok.mp decoded
  -- the JSON of the others is read as settings without anything
  have nothing (isEmpty : read = {}) : False := by
    subst isEmpty
    exact hasSome.elim (fun isWireguard => nomatch isWireguard) fun hasClients => hasClients rfl
  cases raw : inbound.settings with
  | vkTurnProxy stored => exact ⟨stored, rfl⟩
  | wireguard stored =>
    rw [raw] at isRead
    exact (nothing (Except.ok.inj isRead).symm).elim
  | clients stored =>
    rw [raw] at isRead
    exact (nothing (Except.ok.inj isRead).symm).elim
  | text stored =>
    rw [raw] at isRead
    simp only [decodeVKTurnProxySettings] at isRead
    split at isRead
    · exact (nothing (Except.ok.inj isRead).symm).elim
    · cases isRead

/-- The clients that a call has written. -/
theorem written_clients
    (exactID : rereadNumber settings.forward.wireguardInboundID =
      .ok settings.forward.wireguardInboundID)
    (written : inbound.settings = .vkTurnProxy { settings with clients }) :
    clientsOf wgInboundID inbound = if settings.ForwardsTo wgInboundID then clients else [] := by
  unfold clientsOf
  rw [written]
  dsimp only
  rw [exactID]
  refine if_congr ?_ rfl rfl
  rw [Except.ok.injEq]
  rfl

theorem countP_of_parts (same : clients.map peerPart = others.map peerPart) :
    clients.countP (holdsPeer peer) = others.countP (holdsPeer peer) := by
  have counts (list : List VKTurnProxyClient) : list.countP (holdsPeer peer) =
      (list.map peerPart).countP fun part => !part.1 && part.2.1 = some peer := by
    rw [List.countP_map]
    rfl
  rw [counts, counts, same]

/-- Every client that has the peer goes by its key. -/
def Keyed (peer : WireguardPeer) (clients : List VKTurnProxyClient) : Prop :=
  ∀ client ∈ clients, holdsPeer peer client = true →
    trimSpace client.peerPublicKey = trimSpace peer.publicKey

theorem holdsPeer_of_part {other : VKTurnProxyClient} (same : peerPart client = peerPart other) :
    holdsPeer peer client = holdsPeer peer other := by
  obtain ⟨sameEnable, sameRest⟩ := Prod.mk.inj same
  unfold holdsPeer
  rw [sameEnable, (Prod.mk.inj sameRest).1]

theorem keyed_of_parts (same : clients.map peerPart = others.map peerPart)
    (keyed : Keyed peer others) : Keyed peer clients := by
  intro client member holds
  have isPart : peerPart client ∈ others.map peerPart := same ▸ List.mem_map_of_mem member
  obtain ⟨other, isOther, samePart⟩ := List.mem_map.mp isPart
  have sameKey := congrArg (·.2.2) samePart
  dsimp only [peerPart] at sameKey
  rw [← sameKey]
  exact keyed other isOther (holdsPeer_of_part samePart ▸ holds)

/-- The number of the WireGuard inbound in settings that have clients is one that JSON keeps. -/
theorem exactID_of_clients (decoded : getVKTurnProxySettings clock inbound.settings = .ok settings)
    (hasClients : settings.clients ≠ []) :
    rereadNumber settings.forward.wireguardInboundID =
      .ok settings.forward.wireguardInboundID := by
  obtain ⟨read, isRead, rfl⟩ := getVKTurnProxySettings_eq_ok.mp decoded
  have readClients : read.clients ≠ [] := fun noClients =>
    hasClients (List.map_eq_nil_iff.mpr noClients)
  have isKept := decode_exact isRead readClients
  exact isKept

/-- A client with the peer in its snapshot asks for the key of the peer. -/
theorem resolve_of_snapshotOf (hasKey : trimSpace peer.publicKey ≠ "")
    (isPeer : snapshotOf client = some peer) :
    resolveVKTurnProxyClientPublicKey client = trimSpace peer.publicKey := by
  obtain ⟨reread, isReread, rfl⟩ := Option.map_eq_some_iff.mp isPeer
  obtain ⟨snapshot, isSnapshot, isRead⟩ := Option.bind_eq_some_iff.mp isReread
  have sameKey : reread.publicKey = snapshot.publicKey := by
    cases passed : rereadClientPeer snapshot with
    | error message =>
      rw [passed] at isRead
      cases isRead
    | ok value =>
      rw [passed] at isRead
      cases isRead
      obtain ⟨keepAlive, _, isKept⟩ := bind_eq_ok.mp passed
      cases pure_eq_ok.mp isKept
      rfl
  have isKey : trimSpace (vkTurnProxyClientPeerToWireguardPeer reread).publicKey =
      trimSpace snapshot.publicKey := by
    rw [← sameKey]
    exact trimSpace_trimSpace _
  rw [isKey] at hasKey ⊢
  exact resolve_of_snapshot isSnapshot hasKey

end Clients

/-! ## Binding a client -/

/-- Where the peer is while a call changes the peers, which leaves the clients alone, and with them
    the inbound whose client it is about. -/
structure PeerSiteAt (wgInboundID : Int) (peer : WireguardPeer) (clients : List VKTurnProxyClient)
    (old : Inbound) (there : Bool) (db : Database) : Prop where
  peerAt : PeerAt wgInboundID peer there db
  clients : db.clientsFor wgInboundID = clients
  found : db.inbound? old.id = some old

/-- The inbound has the peer under its key. -/
def Database.HasPeer (db : Database) (wgInboundID : Int) (peer : WireguardPeer) : Prop :=
  (db.wireguardPeers? wgInboundID).bind (peerUnder (trimSpace peer.publicKey)) = some peer

/-- A snapshot of the peer has its full record. -/
def CleanPeer (peer : WireguardPeer) : Prop :=
  vkTurnProxyClientPeerToWireguardPeer (cloneWireguardPeerToVKTurnProxyClientPeer peer) = peer

section Binding

variable {library : Library} {clock : Clock} {faults : Faults} {peerFaults : PeerSite → Bool}
  {db next : Database} {wgInboundID otherID : Int} {peer : WireguardPeer} {there : Bool}
  {clients : List VKTurnProxyClient} {old : Inbound} {client candidate : VKTurnProxyClient}
  {mutate : List WireguardPeer → List WireguardPeer}

theorem PeerAt.hasPeer (at_ : PeerAt wgInboundID peer there db) :
    db.HasPeer wgInboundID peer ↔ there = true := by
  obtain ⟨peers, read, _, isUnder⟩ := at_
  unfold Database.HasPeer
  rw [read, Option.bind_some, isUnder]
  cases there <;> simp

theorem getWireguardPeer_there (at_ : PeerAt wgInboundID peer true db) {publicKey : String}
    (isKey : trimSpace publicKey = trimSpace peer.publicKey) :
    getWireguardPeerByPublicKey db false wgInboundID publicKey = .ok peer := by
  obtain ⟨peers, read, _, isUnder⟩ := at_
  obtain ⟨inbound, settings, found, isWireguard, isRead⟩ := wireguardPeers_eq_some.mp read
  refine bind_eq_ok.mpr ⟨inbound, getInbound_eq_ok.mpr ⟨rfl, found⟩, ?_⟩
  refine refuse_eq_ok.mpr ⟨not_not.mpr isWireguard, ?_⟩
  refine bind_eq_ok.mpr ⟨(settings, peers), isRead, ?_⟩
  have isUnder : peers.find? (fun stored => trimSpace stored.publicKey = trimSpace publicKey) =
      some peer := by
    rw [isKey]
    exact isUnder
  dsimp only
  rw [isUnder]
  rfl

theorem getWireguardPeer_gone (at_ : PeerAt wgInboundID peer false db) {publicKey : String}
    (isKey : trimSpace publicKey = trimSpace peer.publicKey) {fails : Bool} {other : WireguardPeer} :
    getWireguardPeerByPublicKey db fails wgInboundID publicKey ≠ .ok other := by
  intro found
  obtain ⟨peers, read, _, isUnder⟩ := at_
  obtain ⟨inbound, settings, isInbound, _, isRead⟩ := wireguardPeers_eq_some.mp read
  obtain ⟨stored, isStored, found⟩ := bind_eq_ok.mp found
  cases isInbound.symm.trans (getInbound_eq_ok.mp isStored).2
  obtain ⟨_, found⟩ := refuse_eq_ok.mp found
  obtain ⟨⟨_, others⟩, isOthers, found⟩ := bind_eq_ok.mp found
  cases isRead.symm.trans isOthers
  have nothing : peers.find? (fun stored => trimSpace stored.publicKey = trimSpace publicKey) =
      none := by
    rw [isKey]
    exact isUnder
  dsimp only at found
  rw [nothing] at found
  cases found

/-- The change of a WireGuard inbound changes no client. -/
theorem PeersWritten.clientsFor (written : PeersWritten library mutate otherID db next) :
    next.clientsFor wgInboundID = db.clientsFor wgInboundID := by
  obtain ⟨inbound, settings, peers, _, found, _, read, _, _, _, saved⟩ := written
  have noClients : clientsOf wgInboundID inbound = [] := by
    unfold clientsOf
    cases raw : inbound.settings with
    | wireguard stored => rfl
    | vkTurnProxy stored =>
      rw [raw] at read
      cases read
    | clients stored => rfl
    | text stored => rfl
  unfold Database.clientsFor
  rw [(saveInbound_eq_ok.mp saved).1, replaceRow, List.flatMap_map]
  refine List.flatMap_congr fun row member => ?_
  split
  · rename_i sameID
    rw [inbound_eq_of_id member (inbound?_mem found).1 sameID, noClients]
    rfl
  · rfl

/-- An inbound with the settings of a VK TURN inbound is not changed with the peers of another. -/
theorem PeersWritten.found (written : PeersWritten library mutate otherID db next)
    (isOld : db.inbound? old.id = some old) {stored : VKTurnProxySettings}
    (isVKTurn : old.settings = .vkTurnProxy stored) : next.inbound? old.id = some old := by
  obtain ⟨inbound, settings, peers, _, found, _, read, _, _, _, saved⟩ := written
  have differs : old.id ≠ inbound.id := by
    intro same
    rw [same, (inbound?_mem found).2, found] at isOld
    cases isOld
    rw [isVKTurn] at read
    cases read
  rw [inbound?_saved_of_ne saved differs]
  exact isOld

/-- A change that goes through, of the inbound of the peer or of another. -/
theorem PeerSiteAt.written (site : PeerSiteAt wgInboundID peer clients old there db)
    {stored : VKTurnProxySettings} (isVKTurn : old.settings = .vkTurnProxy stored) {after : Bool}
    (written : PeersWritten library mutate otherID db next)
    (peerAt : PeerAt wgInboundID peer after next) :
    PeerSiteAt wgInboundID peer clients old after next :=
  ⟨peerAt, written.clientsFor.trans site.clients, written.found site.found isVKTurn⟩

/-- A change that leaves the peer alone. -/
theorem PeerSiteAt.leave (site : PeerSiteAt wgInboundID peer clients old there db)
    (exact : ExactPeer peer) {stored : VKTurnProxySettings}
    (isVKTurn : old.settings = .vkTurnProxy stored)
    (same : otherID = wgInboundID → ∀ peers, peerUnder (trimSpace peer.publicKey) (mutate peers) =
      peerUnder (trimSpace peer.publicKey) peers) :
    Ensures (mutateWireguardPeers library peerFaults otherID fun peers => .ok (mutate peers)) db
      (fun _ next => PeerSiteAt wgInboundID peer clients old there next)
      (fun next => PeerSiteAt wgInboundID peer clients old there next) := by
  refine mutateWireguardPeers_ensures.mono (fun _ next done => ?_) fun _ same => same ▸ site
  cases commits : peerFaults .commit with
  | true =>
    rw [done.1 commits]
    exact site
  | false =>
    have written := done.2 commits
    refine site.written isVKTurn written ?_
    by_cases sameInbound : otherID = wgInboundID
    · subst sameInbound
      exact site.peerAt.frame exact written (same rfl)
    · obtain ⟨peers, read, rest⟩ := site.peerAt
      exact ⟨peers, (written.elsewhere (Ne.symm sameInbound)).trans read, rest⟩

/-- A change of the peers that goes through changes whether the peer is there. -/
theorem PeerSiteAt.change (site : PeerSiteAt wgInboundID peer clients old there db)
    {stored : VKTurnProxySettings} (isVKTurn : old.settings = .vkTurnProxy stored)
    (commits : peerFaults .commit = false) {after : Bool}
    (changes : ∀ next, PeersWritten library mutate wgInboundID db next →
      PeerAt wgInboundID peer after next) :
    Ensures (mutateWireguardPeers library peerFaults wgInboundID fun peers => .ok (mutate peers)) db
      (fun _ next => PeerSiteAt wgInboundID peer clients old after next) (fun _ => True) := by
  refine mutateWireguardPeers_ensures.mono (fun _ next done => ?_) fun _ _ => trivial
  have written := done.2 commits
  exact site.written isVKTurn written (changes next written)

/-- What it takes that a client which is enabled under the key of the peer leaves the record of
    the peer: what it writes is that record, and it was its own or is there. -/
def EnablesSafely (db : Database) (wgInboundID : Int) (peer : WireguardPeer)
    (candidate : VKTurnProxyClient) (previous : Option VKTurnProxyClient) : Prop :=
  ∀ written, peerToWrite candidate = some written → rereadPeer written = .ok peer ∧
    (db.HasPeer wgInboundID peer ∨ previous.any (holdsPeer peer) = true)

/-- What it takes that a client which is disabled under the key of the peer has its record. -/
def DisablesSafely (faults : Faults) (db : Database) (wgInboundID : Int) (peer : WireguardPeer)
    (candidate : VKTurnProxyClient) (previous : Option VKTurnProxyClient) : Prop :=
  (db.HasPeer wgInboundID peer → faults .peer = false ∧ CleanPeer peer) ∧
    (¬ db.HasPeer wgInboundID peer →
      holdsPeer peer candidate = previous.any (holdsPeer peer))

/-- How a client comes out of its binding: what the inbound loses, it gains. -/
structure BoundWith (peer : WireguardPeer) (before after : Bool)
    (previous : Option VKTurnProxyClient) (bound : VKTurnProxyClient) : Prop where
  balance : (!after).toNat + (previous.any (holdsPeer peer)).toNat =
    (!before).toNat + (holdsPeer peer bound).toNat
  keyed : holdsPeer peer bound = true → trimSpace bound.peerPublicKey = trimSpace peer.publicKey

variable {previous : Option VKTurnProxyClient} {stored : VKTurnProxySettings}

theorem mapError_eq_ok {Error Value : Type} {result : Except Error Value} {rename : Error → Error}
    {value : Value} : result.mapError rename = .ok value ↔ result = .ok value := by
  cases result <;> simp [Except.mapError]

/-- The key of the peer that a client writes is the one that it asks for, or blank. -/
theorem peerToWrite_key {written : WireguardPeer} (isWritten : peerToWrite candidate = some written) :
    trimSpace written.publicKey = resolveVKTurnProxyClientPublicKey candidate ∨
      trimSpace written.publicKey = "" := by
  unfold peerToWrite at isWritten
  split at isWritten
  · cases isWritten
  · rename_i snapshot isSnapshot
    split at isWritten
    · cases isWritten
      have isKey : trimSpace (vkTurnProxyClientPeerToWireguardPeer snapshot).publicKey =
          trimSpace snapshot.publicKey := trimSpace_trimSpace _
      by_cases isBlank : trimSpace snapshot.publicKey = ""
      · exact .inr (isKey.trans isBlank)
      · exact .inl (isKey.trans (resolve_of_snapshot isSnapshot isBlank).symm)
    · cases isWritten

/-- An enabled client has no peer but on the inbound. -/
theorem BoundWith.of_enabled {before after : Bool} {bound : VKTurnProxyClient}
    (isEnabled : bound.enable = true)
    (balance : (!after).toNat + (previous.any (holdsPeer peer)).toNat = (!before).toNat) :
    BoundWith peer before after previous bound := by
  have holdsNone : holdsPeer peer bound = false := by simp [holdsPeer, isEnabled]
  refine ⟨?_, ?_⟩
  · rw [holdsNone]
    exact balance
  · rw [holdsNone]
    exact nofun

theorem ensureEnabled_conserves (site : PeerSiteAt wgInboundID peer clients old there db)
    (exact : ExactPeer peer) (hasKey : trimSpace peer.publicKey ≠ "")
    (isVKTurn : old.settings = .vkTurnProxy stored) (isEnabled : candidate.enable = true)
    (kept : there = true → previous.any (holdsPeer peer) = false)
    (other : resolveVKTurnProxyClientPublicKey candidate ≠ trimSpace peer.publicKey →
      previous.any (holdsPeer peer) = false)
    (safely : resolveVKTurnProxyClientPublicKey candidate = trimSpace peer.publicKey →
      faults (.bind .commit) = false ∧ EnablesSafely db wgInboundID peer candidate previous) :
    Ensures (ensureVKTurnProxyClientPeerEnabled library faults clock wgInboundID candidate) db
      (fun bound next => ∃ after, PeerSiteAt wgInboundID peer clients old after next ∧
        BoundWith peer there after previous bound ∧
        (resolveVKTurnProxyClientPublicKey candidate = trimSpace peer.publicKey →
          trimSpace bound.peerPublicKey = trimSpace peer.publicKey))
      (fun _ => True) := by
  refine Ensures.refuse (fun _ => trivial) fun _ => ?_
  refine Ensures.bind (Ensures.query (fun _ _ => ?_) trivial)
  refine Ensures.refuse (fun _ => trivial) fun _ => ?_
  split
  · rename_i written isWritten
    by_cases isKey : resolveVKTurnProxyClientPublicKey candidate = trimSpace peer.publicKey
    · obtain ⟨commits, writesPeer⟩ := safely isKey
      obtain ⟨isPeer, hadPeer⟩ := writesPeer written isWritten
      have sameKey : written.publicKey = peer.publicKey := (rereadPeer_keeps isPeer).2.1.symm
      refine Ensures.bind ((site.change isVKTurn commits fun next upserted =>
        site.peerAt.upserted upserted isPeer).mono (fun _ next isSite => ?_) fun _ => id)
      refine Ensures.pure ⟨true, isSite, .of_enabled isEnabled ?_, fun _ => by rw [sameKey]⟩
      rw [site.peerAt.hasPeer] at hadPeer
      cases there with
      | true =>
        rw [kept rfl]
        rfl
      | false =>
        rw [hadPeer.resolve_left Bool.false_ne_true]
        rfl
    · have differs : trimSpace written.publicKey ≠ trimSpace peer.publicKey := by
        obtain asked | isBlank := peerToWrite_key isWritten
        · exact asked ▸ isKey
        · exact isBlank ▸ hasKey.symm
      refine Ensures.bind ((site.leave exact isVKTurn fun _ peers => ?_).mono
        (fun _ next isSite => ?_) fun _ _ => trivial)
      · rw [peerUnder_upsert, if_neg differs]
      · refine Ensures.pure ⟨there, isSite, .of_enabled isEnabled ?_, fun same => absurd same isKey⟩
        rw [other isKey]
        rfl
  · refine Ensures.bind (Ensures.query (fun _ found => ?_) trivial)
    refine Ensures.pure ⟨there, site, .of_enabled isEnabled ?_, fun same =>
      (trimSpace_resolve candidate).trans same⟩
    by_cases isKey : resolveVKTurnProxyClientPublicKey candidate = trimSpace peer.publicKey
    · cases there with
      | true =>
        rw [kept rfl]
        rfl
      | false =>
        -- without the peer on the inbound the client is refused
        refine absurd (mapError_eq_ok.mp found) (getWireguardPeer_gone site.peerAt ?_)
        exact (trimSpace_resolve candidate).trans isKey
    · rw [other isKey]
      rfl

theorem holdsPeer_key (hasKey : trimSpace peer.publicKey ≠ "") (holds : holdsPeer peer client = true) :
    resolveVKTurnProxyClientPublicKey client = trimSpace peer.publicKey := by
  simp only [holdsPeer, Bool.and_eq_true, decide_eq_true_eq] at holds
  exact resolve_of_snapshotOf hasKey holds.2

/-- A client under another key, which replaces one under another key. -/
theorem BoundWith.of_other {before : Bool} {bound : VKTurnProxyClient}
    (hasKey : trimSpace peer.publicKey ≠ "")
    (otherKey : resolveVKTurnProxyClientPublicKey bound ≠ trimSpace peer.publicKey)
    (previousOther : previous.any (holdsPeer peer) = false) :
    BoundWith peer before before previous bound := by
  have holdsNone : holdsPeer peer bound = false :=
    Bool.eq_false_iff.mpr fun holds => otherKey (holdsPeer_key hasKey holds)
  refine ⟨?_, ?_⟩
  · rw [holdsNone, previousOther]
  · rw [holdsNone]
    exact nofun

/-- The snapshot of a client that is disabled while the peer is there. -/
theorem snapshot_there (at_ : PeerAt wgInboundID peer true db) (exact : ExactPeer peer)
    (clean : CleanPeer peer) (isDisabled : candidate.enable = false)
    (hasKey : resolveVKTurnProxyClientPublicKey candidate ≠ "")
    (isKey : resolveVKTurnProxyClientPublicKey candidate = trimSpace peer.publicKey) :
    holdsPeer peer (snapshotVKTurnProxyClientPeer db false wgInboundID candidate) = true := by
  have trimmed := (trimSpace_resolve candidate).trans isKey
  have sameNumber : rereadClientPeer (cloneWireguardPeerToVKTurnProxyClientPeer peer) =
      .ok (cloneWireguardPeerToVKTurnProxyClientPeer peer) := by
    obtain ⟨keepAlive, isRead, isPeer⟩ := bind_eq_ok.mp exact
    have sameKeepAlive := congrArg WireguardPeer.keepAlive (pure_eq_ok.mp isPeer)
    dsimp only at sameKeepAlive
    subst sameKeepAlive
    exact bind_eq_ok.mpr ⟨peer.keepAlive, isRead, rfl⟩
  unfold snapshotVKTurnProxyClientPeer
  dsimp only
  rw [if_neg hasKey, getWireguardPeer_there at_ trimmed]
  have isPeer : vkTurnProxyClientPeerToWireguardPeer
      (cloneWireguardPeerToVKTurnProxyClientPeer peer) = peer := clean
  simp [holdsPeer, snapshotOf, isDisabled, sameNumber, Except.toOption, isPeer]

/-- There is nothing to take a snapshot of while the peer is gone. -/
theorem snapshot_gone (at_ : PeerAt wgInboundID peer false db) {fails : Bool}
    (isKey : resolveVKTurnProxyClientPublicKey candidate = trimSpace peer.publicKey) :
    snapshotVKTurnProxyClientPeer db fails wgInboundID candidate = candidate := by
  have trimmed := (trimSpace_resolve candidate).trans isKey
  unfold snapshotVKTurnProxyClientPeer
  dsimp only
  split
  · rfl
  · split
    · rfl
    · rename_i found
      exact absurd found (getWireguardPeer_gone at_ trimmed)

theorem ensureDisabled_conserves (site : PeerSiteAt wgInboundID peer clients old there db)
    (exact : ExactPeer peer) (hasKey : trimSpace peer.publicKey ≠ "")
    (isVKTurn : old.settings = .vkTurnProxy stored) (isDisabled : candidate.enable = false)
    (kept : there = true → previous.any (holdsPeer peer) = false)
    (other : resolveVKTurnProxyClientPublicKey candidate ≠ trimSpace peer.publicKey →
      previous.any (holdsPeer peer) = false)
    (safely : resolveVKTurnProxyClientPublicKey candidate = trimSpace peer.publicKey →
      faults (.bind .commit) = false ∧ DisablesSafely faults db wgInboundID peer candidate previous) :
    Ensures (ensureVKTurnProxyClientPeerDisabled library faults wgInboundID candidate) db
      (fun bound next => ∃ after, PeerSiteAt wgInboundID peer clients old after next ∧
        BoundWith peer there after previous bound ∧
        (resolveVKTurnProxyClientPublicKey candidate = trimSpace peer.publicKey →
          trimSpace bound.peerPublicKey = trimSpace peer.publicKey))
      (fun _ => True) := by
  unfold ensureVKTurnProxyClientPeerDisabled
  dsimp only
  split
  · rename_i noKey
    have otherKey : resolveVKTurnProxyClientPublicKey candidate ≠ trimSpace peer.publicKey :=
      fun same => hasKey (same.symm.trans noKey)
    exact Ensures.pure ⟨there, site, .of_other hasKey otherKey (other otherKey),
      fun same => absurd same otherKey⟩
  · rename_i asks
    refine Ensures.bind (Ensures.query (fun snapshot isSnapshot => ?_) trivial)
    cases isSnapshot
    refine Ensures.refuse (fun _ => trivial) fun _ => ?_
    by_cases isKey : resolveVKTurnProxyClientPublicKey candidate = trimSpace peer.publicKey
    · obtain ⟨commits, safe⟩ := safely isKey
      have trimmed := (trimSpace_resolve candidate).trans isKey
      refine Ensures.bind ((site.change isVKTurn commits fun next removed =>
        site.peerAt.removed removed trimmed).mono (fun _ next isSite => ?_) fun _ => id)
      refine Ensures.pure ⟨false, isSite, ⟨?_, fun _ => trimmed⟩, fun _ => trimmed⟩
      cases there with
      | true =>
        obtain ⟨answers, clean⟩ := safe.1 (site.peerAt.hasPeer.mpr rfl)
        have holds := snapshot_there site.peerAt exact clean isDisabled asks isKey
        rw [answers]
        show _ = (!true).toNat +
          (holdsPeer peer (snapshotVKTurnProxyClientPeer db false wgInboundID candidate)).toNat
        rw [holds, kept rfl]
        rfl
      | false =>
        have sameHolds := safe.2 fun has => Bool.false_ne_true (site.peerAt.hasPeer.mp has)
        rw [snapshot_gone site.peerAt isKey]
        show _ = (!false).toNat + (holdsPeer peer candidate).toNat
        rw [sameHolds]
    · refine Ensures.bind ((site.leave exact isVKTurn fun _ peers => ?_).mono
        (fun _ next isSite => ?_) fun _ _ => trivial)
      · exact peerUnder_remove fun same => isKey ((trimSpace_resolve candidate).symm.trans same.symm)
      · refine Ensures.pure ⟨there, isSite, .of_other hasKey ?_ (other isKey), fun same =>
          absurd same isKey⟩
        rw [(snapshot_keeps db (faults .peer) wgInboundID asks).2]
        exact isKey

/-- What it takes of a call that binds a client that the peer is not lost. -/
def BindsSafely (faults : Faults) (db : Database) (wgInboundID : Int) (peer : WireguardPeer)
    (settings : VKTurnProxySettings) (client : VKTurnProxyClient)
    (previous : Option VKTurnProxyClient) : Prop :=
  let candidate := bindingCandidate client previous
  settings.forward.wireguardInboundID = wgInboundID →
    (previousKey previous = trimSpace peer.publicKey →
      resolveVKTurnProxyClientPublicKey candidate = trimSpace peer.publicKey) ∧
    (resolveVKTurnProxyClientPublicKey candidate = trimSpace peer.publicKey →
      faults (.bind .commit) = false ∧
        if candidate.enable then EnablesSafely db wgInboundID peer candidate previous
        else DisablesSafely faults db wgInboundID peer candidate previous)

/-- A binding under the WireGuard inbound of the peer. -/
theorem applyBinding_here {settings : VKTurnProxySettings}
    (site : PeerSiteAt wgInboundID peer clients old there db) (exact : ExactPeer peer)
    (hasKey : trimSpace peer.publicKey ≠ "") (isVKTurn : old.settings = .vkTurnProxy stored)
    (here : settings.forward.wireguardInboundID = wgInboundID)
    (safely : BindsSafely faults db wgInboundID peer settings client previous)
    (kept : there = true → previous.any (holdsPeer peer) = false)
    (keyed : previous.any (holdsPeer peer) = true → previousKey previous = trimSpace peer.publicKey) :
    Ensures (applyVKTurnProxyClientBinding library faults clock settings client previous) db
      (fun bound next => ∃ after, PeerSiteAt wgInboundID peer clients old after next ∧
        BoundWith peer there after previous bound) (fun _ => True) := by
  obtain ⟨candidate, isCandidate⟩ : ∃ candidate, candidate = bindingCandidate client previous :=
    ⟨_, rfl⟩
  unfold BindsSafely at safely
  refine Ensures.refuse (fun _ => trivial) fun _ => ?_
  dsimp only at safely ⊢
  rw [← isCandidate] at safely ⊢
  rw [here] at safely ⊢
  obtain ⟨keepsKey, bindsPeer⟩ := safely rfl
  have other (otherKey : resolveVKTurnProxyClientPublicKey candidate ≠ trimSpace peer.publicKey) :
      previous.any (holdsPeer peer) = false :=
    Bool.eq_false_iff.mpr fun holds => otherKey (keepsKey (keyed holds))
  -- the key that is given up after a binding is not that of the peer
  have releases (bound : VKTurnProxyClient) {middle : Database} {after : Bool}
      (isSite : PeerSiteAt wgInboundID peer clients old after middle)
      (isBound : BoundWith peer there after previous bound)
      (sameKey : resolveVKTurnProxyClientPublicKey candidate = trimSpace peer.publicKey →
        trimSpace bound.peerPublicKey = trimSpace peer.publicKey) :
      Ensures (if previousKey previous ≠ "" ∧ previousKey previous ≠ trimSpace bound.peerPublicKey
        then do
          removeWireguardPeerByPublicKey library (faults <| .release ·) wgInboundID
            (previousKey previous)
          pure bound
        else pure bound) middle
      (fun bound next => ∃ after, PeerSiteAt wgInboundID peer clients old after next ∧
        BoundWith peer there after previous bound) (fun _ => True) := by
    split
    · rename_i givesUp
      refine Ensures.bind ((isSite.leave exact isVKTurn fun _ peers => ?_).mono
        (fun _ next isSite => ?_) fun _ _ => trivial)
      · refine peerUnder_remove fun same => givesUp.2 ?_
        have trimmed : trimSpace (previousKey previous) = previousKey previous := by
          cases previous with
          | none => rfl
          | some stored => exact trimSpace_trimSpace _
        have isKey := trimmed.symm.trans same.symm
        rw [sameKey (keepsKey isKey), isKey]
      · exact Ensures.pure ⟨after, isSite, isBound⟩
    · exact Ensures.pure ⟨after, isSite, isBound⟩
  split
  · rename_i isEnabled
    refine Ensures.bind ((ensureEnabled_conserves site exact hasKey isVKTurn isEnabled kept other
      fun isKey => ?_).mono ?_ fun _ => id)
    · obtain ⟨commits, safe⟩ := bindsPeer isKey
      rw [if_pos isEnabled] at safe
      exact ⟨commits, safe⟩
    · rintro bound middle ⟨after, isSite, isBound, sameKey⟩
      exact releases bound isSite isBound sameKey
  · rename_i isDisabled
    have disabled : Ensures (ensureVKTurnProxyClientPeerDisabled library faults wgInboundID candidate)
        db (fun bound next => ∃ after, PeerSiteAt wgInboundID peer clients old after next ∧
          BoundWith peer there after previous bound ∧
          (resolveVKTurnProxyClientPublicKey candidate = trimSpace peer.publicKey →
            trimSpace bound.peerPublicKey = trimSpace peer.publicKey)) (fun _ => True) := by
      refine ensureDisabled_conserves site exact hasKey isVKTurn (Bool.eq_false_iff.mpr isDisabled)
        kept other fun isKey => ?_
      obtain ⟨commits, safe⟩ := bindsPeer isKey
      rw [if_neg isDisabled] at safe
      exact ⟨commits, safe⟩
    have ends := disabled.mono (fun bound middle ⟨after, isSite, isBound, sameKey⟩ =>
      releases bound isSite isBound sameKey) fun _ => id
    split
    · exact Ensures.bind (Ensures.query (fun _ _ => Ensures.bind ends) trivial)
    · exact Ensures.bind ends

/-- There are clients for inbounds that forward to a WireGuard inbound, and for no others. -/
theorem applyBinding_refuses {settings : VKTurnProxySettings}
    (notWireguard : settings.forward.type ≠ .wireguardInbound) :
    Ensures (applyVKTurnProxyClientBinding library faults clock settings client previous) db
      (fun _ _ => False) (fun _ => True) :=
  Ensures.refuse (fun _ => trivial) fun isWireguard => absurd (not_not.mp isWireguard) notWireguard

/-- A binding under any WireGuard inbound. -/
theorem applyBinding_conserves {settings : VKTurnProxySettings}
    (site : PeerSiteAt wgInboundID peer clients old there db) (exact : ExactPeer peer)
    (hasKey : trimSpace peer.publicKey ≠ "") (isVKTurn : old.settings = .vkTurnProxy stored)
    (safely : BindsSafely faults db wgInboundID peer settings client previous)
    (kept : settings.forward.wireguardInboundID = wgInboundID → there = true →
      previous.any (holdsPeer peer) = false)
    (keyed : settings.forward.wireguardInboundID = wgInboundID →
      previous.any (holdsPeer peer) = true → previousKey previous = trimSpace peer.publicKey) :
    Ensures (applyVKTurnProxyClientBinding library faults clock settings client previous) db
      (fun bound next => ∃ after, PeerSiteAt wgInboundID peer clients old after next ∧
          (settings.forward.wireguardInboundID = wgInboundID →
            BoundWith peer there after previous bound) ∧
          (settings.forward.wireguardInboundID ≠ wgInboundID → after = there))
      (fun _ => True) := by
  by_cases here : settings.forward.wireguardInboundID = wgInboundID
  · refine (applyBinding_here site exact hasKey isVKTurn here safely (kept here) (keyed here)).mono
      ?_ fun _ => id
    rintro bound next ⟨after, isSite, isBound⟩
    exact ⟨after, isSite, fun _ => isBound, fun elsewhere => absurd here elsewhere⟩
  · have keeps : Keeps (applyVKTurnProxyClientBinding library faults clock settings client previous)
        (PeerSiteAt wgInboundID peer clients old there) :=
      applyBinding_keeps fun _ _ _ isSite =>
        isSite.leave exact isVKTurn fun same => absurd same here
    refine (keeps db site).mono (fun bound next isSite => ?_) fun _ _ => trivial
    exact ⟨there, isSite, fun same => absurd same here, fun _ => rfl⟩

end Binding

/-! ## Saving the clients -/

/-- The peer is on the inbound, or one disabled client has it. -/
structure Conserved (wgInboundID : Int) (peer : WireguardPeer) (there : Bool) (db : Database) :
    Prop where
  exact : ExactPeer peer
  hasKey : trimSpace peer.publicKey ≠ ""
  peerAt : PeerAt wgInboundID peer there db
  holders : (db.clientsFor wgInboundID).countP (holdsPeer peer) = (!there).toNat
  keyed : Keyed peer (db.clientsFor wgInboundID)

section Saving

variable {clock : Clock} {faults : Faults} {db middle next : Database} {wgInboundID : Int}
  {peer : WireguardPeer} {there after : Bool} {old row : Inbound} {clients : List VKTurnProxyClient}
  {settings : VKTurnProxySettings}

theorem PeerAt.congr (at_ : PeerAt wgInboundID peer there db) (same : next.inbounds = db.inbounds) :
    PeerAt wgInboundID peer there next := by
  unfold PeerAt Database.wireguardPeers? Database.inbound? at at_ ⊢
  rw [same]
  exact at_

/-- Saving an inbound that is not the WireGuard inbound exchanges its clients. -/
theorem PeerSiteAt.saved (site : PeerSiteAt wgInboundID peer clients old after middle)
    {stored : VKTurnProxySettings} (isVKTurn : old.settings = .vkTurnProxy stored)
    (sameID : old.id = row.id) (saved : middle.saveInbound row = .ok next) :
    PeerAt wgInboundID peer after next ∧ ∃ others,
      clients.Perm (clientsOf wgInboundID old ++ others) ∧
        (next.clientsFor wgInboundID).Perm (clientsOf wgInboundID row ++ others) := by
  have isOld := (inbound?_mem site.found).1
  constructor
  · obtain ⟨peers, read, rest⟩ := site.peerAt
    refine ⟨peers, ?_, rest⟩
    obtain ⟨inbound, wireguard, found, isWireguard, isRead⟩ := wireguardPeers_eq_some.mp read
    have differs : wgInboundID ≠ row.id := by
      intro same
      rw [same, ← sameID, site.found] at found
      cases found
      rw [isVKTurn] at isRead
      cases isRead
    refine wireguardPeers_eq_some.mpr ⟨inbound, wireguard, ?_, isWireguard, isRead⟩
    rw [inbound?_saved_of_ne saved differs]
    exact found
  · obtain ⟨others, permOld, permNew, _⟩ := replaceRow_perm middle.inbounds.valid.1 isOld sameID
    refine ⟨others.flatMap (clientsOf wgInboundID), ?_, ?_⟩
    · rw [← site.clients]
      exact permOld.flatMap_right _
    · unfold Database.clientsFor
      rw [(saveInbound_eq_ok.mp saved).1]
      exact permNew.flatMap_right _

/-- A call that puts one client in the place of another, or adds or drops one. -/
theorem Conserved.saved (conserved : Conserved wgInboundID peer there db)
    (previous bound : Option VKTurnProxyClient)
    (site : PeerSiteAt wgInboundID peer (db.clientsFor wgInboundID) old after middle)
    (decoded : getVKTurnProxySettings clock old.settings = .ok settings)
    {stored : VKTurnProxySettings} (isVKTurn : old.settings = .vkTurnProxy stored)
    (exactID : rereadNumber settings.forward.wireguardInboundID =
      .ok settings.forward.wireguardInboundID)
    {siblings written : List VKTurnProxyClient}
    (permOld : settings.clients.Perm (previous.toList ++ siblings))
    (permNew : written.Perm (bound.toList ++ siblings))
    (balance : settings.ForwardsTo wgInboundID →
      (!after).toNat + (previous.any (holdsPeer peer)).toNat =
        (!there).toNat + (bound.any (holdsPeer peer)).toNat)
    (keyed : settings.ForwardsTo wgInboundID → Keyed peer bound.toList)
    (elsewhere : ¬ settings.ForwardsTo wgInboundID → after = there)
    {saveTraffics : Database → Except String Database}
    (keeps : ∀ before after, saveTraffics before = .ok after → after.inbounds = before.inbounds)
    (saves : saveSettings faults old { settings with clients := written } saveTraffics middle =
      .ok next) : Conserved wgInboundID peer after next := by
  obtain ⟨saved, isSaved, sameInbounds⟩ := saveSettings_inbounds keeps saves
  have sameParts := read_clients decoded isVKTurn wgInboundID
  obtain ⟨peerAt, others, permClients, permNext⟩ := site.saved isVKTurn (by rfl) isSaved
  have sameNext : next.clientsFor wgInboundID = saved.clientsFor wgInboundID := by
    unfold Database.clientsFor
    rw [sameInbounds]
  rw [← sameNext] at permNext
  rw [written_clients exactID rfl] at permNext
  have optionCount (client : Option VKTurnProxyClient) :
      client.toList.countP (holdsPeer peer) = (client.any (holdsPeer peer)).toNat := by
    cases client with
    | none => rfl
    | some client =>
      cases holds : holdsPeer peer client <;> simp [holds]
  have before := permClients.countP_eq (holdsPeer peer)
  have countNext := permNext.countP_eq (holdsPeer peer)
  rw [List.countP_append, countP_of_parts sameParts, conserved.holders] at before
  rw [List.countP_append] at countNext
  have othersKeyed : Keyed peer others := fun client member =>
    conserved.keyed client (permClients.mem_iff.mpr (List.mem_append_right _ member))
  have storedKeyed := keyed_of_parts sameParts.symm fun client member =>
    conserved.keyed client (permClients.mem_iff.mpr (List.mem_append_left _ member))
  refine ⟨conserved.exact, conserved.hasKey, peerAt.congr sameInbounds, ?_, fun client member => ?_⟩
  · rw [countNext]
    by_cases here : settings.ForwardsTo wgInboundID
    · rw [if_pos here] at before ⊢
      rw [permOld.countP_eq, List.countP_append, optionCount] at before
      rw [permNew.countP_eq, List.countP_append, optionCount]
      have balanced := balance here
      omega
    · rw [if_neg here] at before ⊢
      rw [elsewhere here]
      exact before.symm
  · obtain inWritten | inOthers := List.mem_append.mp (permNext.mem_iff.mp member)
    · by_cases here : settings.ForwardsTo wgInboundID
      · rw [if_pos here] at inWritten storedKeyed
        obtain isBound | isSibling := List.mem_append.mp (permNew.mem_iff.mp inWritten)
        · exact keyed here client isBound
        · exact storedKeyed client (permOld.mem_iff.mpr (List.mem_append_right _ isSibling))
      · rw [if_neg here] at inWritten
        cases inWritten
    · exact othersKeyed client inOthers

end Saving

/-! ## The calls -/

/-- The peer is in one of the two places. -/
def Somewhere (wgInboundID : Int) (peer : WireguardPeer) (db : Database) : Prop :=
  ∃ there, Conserved wgInboundID peer there db

/-- A successful call leaves the peer on the inbound or with one client. -/
def Conserves (wgInboundID : Int) (peer : WireguardPeer) (program : Program Database Unit)
    (db : Database) : Prop :=
  Ensures program db (fun _ next => Somewhere wgInboundID peer next) (fun _ => True)

/-- What it takes of an add that the peer is not lost; the number of the WireGuard inbound is one
    that its JSON keeps. -/
def AddsSafely (library : Library) (faults : Faults) (clock : Clock) (wgInboundID : Int)
    (peer : WireguardPeer) (db : Database) (inboundID : Int) (data : Envelope) : Prop :=
  ∀ old settings request client, db.inbound? inboundID = some old →
    getVKTurnProxySettings clock old.settings = .ok settings → data = .ok [request] →
    validateVKTurnProxyClient library (normalizeVKTurnProxyClient clock request) = .ok client →
    rereadNumber settings.forward.wireguardInboundID = .ok settings.forward.wireguardInboundID ∧
      BindsSafely faults db wgInboundID peer settings client none

def UpdatesSafely (library : Library) (faults : Faults) (clock : Clock) (wgInboundID : Int)
    (peer : WireguardPeer) (db : Database) (inboundID : Int) (data : Envelope) (clientID : String) :
    Prop :=
  ∀ old settings request index previous client, db.inbound? inboundID = some old →
    getVKTurnProxySettings clock old.settings = .ok settings → data = .ok [request] →
    clientAt settings clientID = .ok (index, previous) →
    validateVKTurnProxyClient library
      (normalizeVKTurnProxyClient clock (replacementClient request previous)) = .ok client →
    BindsSafely faults db wgInboundID peer settings client (some previous)

/-- A client that is deleted does not have the peer, and it is not its own peer either. -/
def DeletesSafely (clock : Clock) (wgInboundID : Int) (peer : WireguardPeer) (db : Database)
    (inboundID : Int) (clientID : String) : Prop :=
  ∀ old settings index client, db.inbound? inboundID = some old →
    getVKTurnProxySettings clock old.settings = .ok settings →
    clientAt settings clientID = .ok (index, client) →
    settings.forward.type = .wireguardInbound →
    settings.forward.wireguardInboundID = wgInboundID →
    holdsPeer peer client = false ∧
      (client.peerManaged = true → trimSpace client.peerPublicKey ≠ trimSpace peer.publicKey)

/-- What it takes of a call that the peer is not lost. -/
def CallsSafely (library : Library) (faults : Faults) (clock : Clock) (wgInboundID : Int)
    (peer : WireguardPeer) (db : Database) : ClientCall → Prop
  | .add inboundID data => AddsSafely library faults clock wgInboundID peer db inboundID data
  | .update inboundID data clientID =>
    UpdatesSafely library faults clock wgInboundID peer db inboundID data clientID
  | .setEnable inboundID clientID enable =>
    -- the client is updated with itself
    ∀ client, getVKTurnProxyClient clock db false inboundID clientID = .ok client →
      client.enable ≠ enable →
      UpdatesSafely library faults clock wgInboundID peer db inboundID (.ok [{ client with enable }])
        clientID
  | .del inboundID clientID => DeletesSafely clock wgInboundID peer db inboundID clientID

section Calls

variable {library : Library} {clock : Clock} {faults : Faults} {db : Database} {wgInboundID : Int}
  {peer : WireguardPeer} {there : Bool} {inboundID : Int} {old : Inbound} {data : Envelope}
  {clientID : String} {settings : VKTurnProxySettings}

theorem Conserved.site (conserved : Conserved wgInboundID peer there db)
    (found : db.inbound? inboundID = some old) :
    PeerSiteAt wgInboundID peer (db.clientsFor wgInboundID) old there db := by
  refine ⟨conserved.peerAt, rfl, ?_⟩
  rw [(inbound?_mem found).2]
  exact found

/-- A client of the inbound that a call has read is one of the clients that may have the peer. -/
theorem Conserved.client (conserved : Conserved wgInboundID peer there db)
    (found : db.inbound? inboundID = some old) {clients : List VKTurnProxyClient}
    (sameParts : (clientsOf wgInboundID old).map peerPart =
      (if settings.ForwardsTo wgInboundID then clients else []).map peerPart)
    (here : settings.ForwardsTo wgInboundID) {client : VKTurnProxyClient}
    (member : client ∈ clients) :
    (there = true → holdsPeer peer client = false) ∧
      (holdsPeer peer client = true → trimSpace client.peerPublicKey = trimSpace peer.publicKey) := by
  rw [if_pos here] at sameParts
  have isPart : peerPart client ∈ (clientsOf wgInboundID old).map peerPart :=
    sameParts ▸ List.mem_map_of_mem member
  obtain ⟨stored, isStored, samePart⟩ := List.mem_map.mp isPart
  have isClient : stored ∈ db.clientsFor wgInboundID :=
    List.mem_flatMap.mpr ⟨old, (inbound?_mem found).1, isStored⟩
  rw [← holdsPeer_of_part samePart]
  constructor
  · intro isThere
    have nobody := conserved.holders
    rw [isThere] at nobody
    exact Bool.eq_false_iff.mpr (List.countP_eq_zero.mp nobody stored isClient)
  · intro holds
    have sameKey := congrArg (·.2.2) samePart
    dsimp only [peerPart] at sameKey
    rw [← sameKey]
    exact conserved.keyed stored isClient holds

theorem addVKTurnProxyClient_conserves (conserved : Conserved wgInboundID peer there db)
    (safely : AddsSafely library faults clock wgInboundID peer db inboundID data) :
    Conserves wgInboundID peer (addVKTurnProxyClient library faults clock inboundID data) db := by
  refine Ensures.bind (Ensures.query (fun ⟨old, settings, client⟩ checked => ?_) trivial)
  obtain ⟨inbound, found, checked⟩ := bind_eq_ok.mp checked
  obtain ⟨decoded, isDecoded, checked⟩ := bind_eq_ok.mp checked
  obtain ⟨_, _, checked⟩ := bind_eq_ok.mp checked
  obtain ⟨request, isRequest, checked⟩ := bind_eq_ok.mp checked
  obtain ⟨validated, isValid, checked⟩ := bind_eq_ok.mp checked
  obtain ⟨_, _, checked⟩ := bind_eq_ok.mp checked
  cases pure_eq_ok.mp checked
  have found := (getInbound_eq_ok.mp found).2
  obtain ⟨exactID, safe⟩ :=
    safely old settings request client found isDecoded (onlyClient_eq_ok isRequest) isValid
  by_cases isWireguard : settings.forward.type = .wireguardInbound
  · obtain ⟨stored, isVKTurn⟩ := vkTurn_of_decoded isDecoded (.inl isWireguard)
    refine Ensures.bind ((applyBinding_conserves (conserved.site found) conserved.exact
      conserved.hasKey isVKTurn safe
      (fun _ _ => rfl) (fun _ held => absurd held Bool.false_ne_true)).mono ?_ fun _ => id)
    rintro bound middle ⟨after, isSite, isBound, elsewhere⟩
    refine Ensures.transaction (fun next saves _ => ⟨after, ?_⟩) fun _ => trivial
    refine conserved.saved none (some bound) isSite isDecoded isVKTurn exactID
      (List.Perm.refl _) (List.perm_append_singleton _ _) (fun here => (isBound here.2).balance)
      (fun here => ?_) (fun others => elsewhere fun here => others ⟨isWireguard, here⟩)
      (fun _ _ => addTraffic_inbounds) saves
    intro client member
    cases List.mem_singleton.mp member
    exact (isBound here.2).keyed
  · exact Ensures.bind ((applyBinding_refuses isWireguard).mono (fun _ _ => False.elim) fun _ => id)

theorem updateVKTurnProxyClient_conserves (conserved : Conserved wgInboundID peer there db)
    (safely : UpdatesSafely library faults clock wgInboundID peer db inboundID data clientID) :
    Conserves wgInboundID peer
      (updateVKTurnProxyClient library faults clock inboundID data clientID) db := by
  refine Ensures.bind (Ensures.query (fun ⟨old, settings, index, previous, client⟩ checked => ?_)
    trivial)
  obtain ⟨inbound, found, checked⟩ := bind_eq_ok.mp checked
  obtain ⟨decoded, isDecoded, checked⟩ := bind_eq_ok.mp checked
  obtain ⟨_, _, checked⟩ := bind_eq_ok.mp checked
  obtain ⟨request, isRequest, checked⟩ := bind_eq_ok.mp checked
  obtain ⟨⟨place, stored⟩, isStored, checked⟩ := bind_eq_ok.mp checked
  obtain ⟨validated, isValid, checked⟩ := bind_eq_ok.mp checked
  have sameRead : inbound = old ∧ decoded = settings ∧ place = index ∧ stored = previous ∧
      validated = client := by
    split at checked
    · obtain ⟨_, _, checked⟩ := bind_eq_ok.mp checked
      cases pure_eq_ok.mp checked
      exact ⟨rfl, rfl, rfl, rfl, rfl⟩
    · cases pure_eq_ok.mp checked
      exact ⟨rfl, rfl, rfl, rfl, rfl⟩
  obtain ⟨rfl, rfl, rfl, rfl, rfl⟩ := sameRead
  have found := (getInbound_eq_ok.mp found).2
  have safe := safely inbound decoded request place stored validated found isDecoded
    (onlyClient_eq_ok isRequest) isStored isValid
  obtain ⟨inRange, isPrevious⟩ := List.getElem?_eq_some_iff.mp (clientAt_eq_ok isStored)
  have isMember : stored ∈ decoded.clients := isPrevious ▸ List.getElem_mem inRange
  have permOld : decoded.clients.Perm ((some stored).toList ++ decoded.clients.eraseIdx place) := by
    rw [← isPrevious]
    exact (List.getElem_cons_eraseIdx_perm inRange).symm
  by_cases isWireguard : decoded.forward.type = .wireguardInbound
  · obtain ⟨raw, isVKTurn⟩ := vkTurn_of_decoded isDecoded (.inl isWireguard)
    have sameParts := read_clients isDecoded isVKTurn wgInboundID
    refine Ensures.bind ((applyBinding_conserves (conserved.site found) conserved.exact
      conserved.hasKey isVKTurn safe
      (fun here isThere => ?_) (fun here held => ?_)).mono ?_ fun _ => id)
    · exact (conserved.client found sameParts ⟨isWireguard, here⟩ isMember).1 isThere
    · exact (conserved.client found sameParts ⟨isWireguard, here⟩ isMember).2 held
    rintro bound middle ⟨after, isSite, isBound, elsewhere⟩
    refine Ensures.transaction (fun next saves _ => ⟨after, ?_⟩) fun _ => trivial
    refine conserved.saved (some stored) (some bound) isSite isDecoded isVKTurn
      (exactID_of_clients isDecoded (List.ne_nil_of_mem isMember)) permOld
      (List.set_perm_cons_eraseIdx inRange bound) (fun here => (isBound here.2).balance)
      (fun here => ?_) (fun others => elsewhere fun here => others ⟨isWireguard, here⟩)
      (fun _ _ => updateTraffic_inbounds) saves
    intro client member
    cases List.mem_singleton.mp member
    exact (isBound here.2).keyed
  · exact Ensures.bind ((applyBinding_refuses isWireguard).mono (fun _ _ => False.elim) fun _ => id)

theorem delVKTurnProxyClient_conserves (conserved : Conserved wgInboundID peer there db)
    (safely : DeletesSafely clock wgInboundID peer db inboundID clientID) :
    Conserves wgInboundID peer (delVKTurnProxyClient library faults clock inboundID clientID) db := by
  refine Ensures.bind (Ensures.query (fun ⟨old, settings, index, client⟩ checked => ?_) trivial)
  obtain ⟨inbound, found, checked⟩ := bind_eq_ok.mp checked
  obtain ⟨decoded, isDecoded, checked⟩ := bind_eq_ok.mp checked
  obtain ⟨⟨place, stored⟩, isStored, checked⟩ := bind_eq_ok.mp checked
  cases pure_eq_ok.mp checked
  have found := (getInbound_eq_ok.mp found).2
  obtain ⟨inRange, isClient⟩ := List.getElem?_eq_some_iff.mp (clientAt_eq_ok isStored)
  have isMember : client ∈ settings.clients := isClient ▸ List.getElem_mem inRange
  have permOld : settings.clients.Perm ((some client).toList ++ settings.clients.eraseIdx index) := by
    rw [← isClient]
    exact (List.getElem_cons_eraseIdx_perm inRange).symm
  obtain ⟨stored, isVKTurn⟩ := vkTurn_of_decoded isDecoded (.inr (List.ne_nil_of_mem isMember))
  have deletes (middle : Database)
      (isSite : PeerSiteAt wgInboundID peer (db.clientsFor wgInboundID) old there middle) :
      Ensures (transaction (faults .commit) <| saveSettings faults old
          { settings with clients := settings.clients.eraseIdx index } fun db =>
            delVKTurnProxyClientTraffic faults db client.email) middle
        (fun _ next => Somewhere wgInboundID peer next) (fun _ => True) := by
    refine Ensures.transaction (fun next saves _ => ⟨there, ?_⟩) fun _ => trivial
    refine conserved.saved (some client) none isSite isDecoded isVKTurn
      (exactID_of_clients isDecoded (List.ne_nil_of_mem isMember)) permOld (List.Perm.refl _)
      (fun here => ?_) (fun _ _ member => nomatch member) (fun _ => rfl)
      (fun _ _ => delTraffic_inbounds) saves
    have holdsNone := (safely old settings index client found isDecoded isStored here.1 here.2).1
    simp [holdsNone]
  dsimp only
  split
  · rename_i isManaged
    refine Ensures.bind (((conserved.site found).leave conserved.exact isVKTurn fun here peers => ?_).mono
      (fun _ middle isSite => deletes middle isSite) fun _ _ => trivial)
    have otherKey := (safely old settings index client found isDecoded isStored isManaged.2.1 here).2
      isManaged.1
    exact peerUnder_remove (Ne.symm otherKey)
  · exact deletes db (conserved.site found)

theorem clientCall_conserves (conserved : Conserved wgInboundID peer there db) (call : ClientCall)
    (safely : CallsSafely library faults clock wgInboundID peer db call) :
    Conserves wgInboundID peer (call.program library faults clock) db := by
  cases call with
  | add inboundID data => exact addVKTurnProxyClient_conserves conserved safely
  | update inboundID data clientID =>
    exact updateVKTurnProxyClient_conserves conserved safely
  | setEnable inboundID clientID enable =>
    refine Ensures.bind (Ensures.query (fun client found => ?_) trivial)
    split
    · exact Ensures.pure ⟨there, conserved⟩
    · rename_i differs
      refine updateVKTurnProxyClient_conserves conserved (safely client ?_ differs)
      obtain ⟨inbound, isInbound, found⟩ := bind_eq_ok.mp found
      exact bind_eq_ok.mpr ⟨inbound, getInbound_eq_ok.mpr ⟨rfl, (getInbound_eq_ok.mp isInbound).2⟩,
        found⟩
  | del inboundID clientID => exact delVKTurnProxyClient_conserves conserved safely

end Calls

/-! ## Sequences of calls -/

/-- A call, with the statements of it that fail and what it asks of the machine. -/
structure ClientRun where
  call : ClientCall
  faults : Faults := fun _ => false
  clock : Clock

/-- The database under one successful call after the other. -/
def clientRuns (library : Library) : Machine Database ClientRun where
  step db run := match run.call.program library run.faults run.clock db with
    | (.ok _, next) => some next
    | (.error _, _) => none

/-- A peer that was put on a WireGuard inbound with peers under distinct keys, and that no client
    has a snapshot of. -/
structure CreatedPeer (wgInboundID : Int) (peer : WireguardPeer) (db : Database) : Prop where
  served : PeerAt wgInboundID peer true db
  unmanaged : ∀ client ∈ db.clientsFor wgInboundID, holdsPeer peer client = false
  hasKey : trimSpace peer.publicKey ≠ ""

/-- The record of the peer is on the inbound, or in the snapshot of exactly one disabled client. -/
def KeptPeer (wgInboundID : Int) (peer : WireguardPeer) (db : Database) : Prop :=
  (∃ peers, db.wireguardPeers? wgInboundID = some peers ∧ peer ∈ peers) ∨
    ∃ client, (db.clientsFor wgInboundID).filter (holdsPeer peer) = [client]

section Runs

variable {library : Library} {db : Database} {wgInboundID : Int} {peer : WireguardPeer}

/-- The numbers of a peer that was read are those that JSON keeps. -/
theorem CreatedPeer.exact (created : CreatedPeer wgInboundID peer db) : ExactPeer peer := by
  obtain ⟨peers, read, _, isUnder⟩ := created.served
  obtain ⟨inbound, settings, _, _, isRead⟩ := wireguardPeers_eq_some.mp read
  have member := (peerUnder_mem isUnder).1
  cases raw : inbound.settings with
  | wireguard stored =>
    rw [raw, getWireguardSettings] at isRead
    split at isRead
    · cases isRead
    · obtain ⟨reread, isReread, same⟩ := bind_eq_ok.mp isRead
      cases pure_eq_ok.mp same
      exact forall_of_mapM_eq_ok (fun _ _ => rereadPeer_idem) isReread peer member
  | vkTurnProxy stored =>
    rw [raw] at isRead
    cases isRead
  | clients stored =>
    rw [raw] at isRead
    cases isRead
  | text stored =>
    rw [raw] at isRead
    cases isRead

theorem CreatedPeer.conserved (created : CreatedPeer wgInboundID peer db) :
    Conserved wgInboundID peer true db where
  exact := created.exact
  hasKey := created.hasKey
  peerAt := created.served
  holders := List.countP_eq_zero.mpr fun client member =>
    Bool.eq_false_iff.mp (created.unmanaged client member)
  keyed client member holds :=
    absurd holds (Bool.eq_false_iff.mp (created.unmanaged client member))

theorem Conserved.kept {there : Bool} (conserved : Conserved wgInboundID peer there db) :
    KeptPeer wgInboundID peer db := by
  cases there with
  | true =>
    obtain ⟨peers, read, _, isUnder⟩ := conserved.peerAt
    exact .inl ⟨peers, read, (peerUnder_mem isUnder).1⟩
  | false =>
    have oneHolder := conserved.holders
    rw [List.countP_eq_length_filter] at oneHolder
    exact .inr (List.length_eq_one_iff.mp oneHolder)

/-- What it takes of a run that the peer is not lost. -/
def RunsSafely (library : Library) (wgInboundID : Int) (peer : WireguardPeer) (db : Database)
    (run : ClientRun) : Prop :=
  CallsSafely library run.faults run.clock wgInboundID peer db run.call

/-- As long as no call loses it, a peer stays on its inbound or with one client. -/
theorem peer_not_lost
    (reached : (clientRuns library).ReachableWhile (RunsSafely library wgInboundID peer)
      (CreatedPeer wgInboundID peer) db) : KeptPeer wgInboundID peer db := by
  have somewhere : Somewhere wgInboundID peer db := by
    refine reached.invariant (fun _ created => ⟨true, created.conserved⟩) ?_
    rintro db next run ⟨there, conserved⟩ safely stepped
    have conserves := clientCall_conserves conserved run.call safely
    unfold Conserves Ensures at conserves
    unfold clientRuns at stepped
    dsimp only at stepped
    split at conserves
    · rename_i ran
      rw [ran] at stepped
      cases stepped
      exact conserves
    · rename_i ran
      rw [ran] at stepped
      cases stepped
  obtain ⟨there, conserved⟩ := somewhere
  exact conserved.kept

end Runs

/-! ## A peer that is given up -/

/-- A WireGuard inbound with two peers, and a VK TURN inbound that forwards to it. -/
def twoPeers : Database where
  inbounds := ⟨[
    { id := 1, port := 51820, protocol := .wireguard, tag := "inbound-51820"
      settings := .wireguard { peers := some [⟨"secret", "key", "", ["10.0.0.2/32"], 0⟩,
        ⟨"secret", "other", "", ["10.0.0.3/32"], 0⟩] } },
    { id := 2, port := 56000, protocol := .vkTurnProxy, tag := "inbound-56000"
      settings := .vkTurnProxy
        { forward := { type := .wireguardInbound, wireguardInboundID := 1 } } }], by decide⟩
  clientTraffics := ⟨[], uniqueTraffics_nil⟩
  clientIps := ⟨[], uniqueIps_nil⟩

def firstPeer : WireguardPeer := ⟨"secret", "key", "", ["10.0.0.2/32"], 0⟩

def phoneOn (peerPublicKey : String) (enable : Bool) : Envelope :=
  .ok [{ id := "phone", email := "a@example", enable, link := "https://vk.com/call/join/a"
         peerPublicKey }]

def addPhoneTo (peerPublicKey : String) (enable : Bool) : ClientRun where
  call := .add 2 (phoneOn peerPublicKey enable)
  clock := ⟨1700000000000, "a0b1"⟩

def movePhoneTo (peerPublicKey : String) : ClientRun where
  call := .update 2 (phoneOn peerPublicKey true) "phone"
  clock := ⟨1700000060000, "a0b2"⟩

theorem twoPeers_created : CreatedPeer 1 firstPeer twoPeers where
  served := ⟨_, rfl, by decide, by decide⟩
  unmanaged _ member := nomatch member
  hasKey := by decide

theorem peer_not_lost_snapshot :
    ∃ db, (clientRuns canonical).run twoPeers [addPhoneTo "key" false] = some db ∧
      db.peerKeys 1 = ["other"] ∧ KeptPeer 1 firstPeer db := by
  have safely : RunsSafely canonical 1 firstPeer twoPeers (addPhoneTo "key" false) := by
    intro old settings request client found decoded isRequest isValid
    cases found
    cases decoded
    cases isRequest
    cases isValid
    refine ⟨by decide, fun _ => ⟨by decide, fun _ => ⟨rfl, ?_⟩⟩⟩
    have has : twoPeers.HasPeer 1 firstPeer := rfl
    have clean : CleanPeer firstPeer := by
      unfold CleanPeer
      decide
    exact ⟨fun _ => ⟨rfl, clean⟩, fun hasNot => absurd has hasNot⟩
  exact ⟨_, rfl, by decide +kernel, peer_not_lost (.step (.start twoPeers_created) safely rfl)⟩

/-- A client that moves to another peer takes the one that it leaves off the inbound. -/
theorem peer_lost_on_move :
    ∃ db, (clientRuns canonical).Reachable (CreatedPeer 1 firstPeer) db ∧
      ¬ KeptPeer 1 firstPeer db := by
  obtain ⟨db, ran, peers, holders⟩ : ∃ db, (clientRuns canonical).run twoPeers
      [addPhoneTo "key" true, movePhoneTo "other"] = some db ∧
        db.peerKeys 1 = ["other"] ∧ (db.clientsFor 1).filter (holdsPeer firstPeer) = [] :=
    ⟨_, rfl, by decide +kernel, by decide +kernel⟩
  refine ⟨db, Machine.Reachable.run (.start twoPeers_created) ran, ?_⟩
  rintro (⟨stored, read, member⟩ | ⟨client, isHolder⟩)
  · have isKey : trimSpace firstPeer.publicKey ∈ db.peerKeys 1 := by
      unfold Database.peerKeys
      rw [read]
      exact List.mem_map_of_mem member
    rw [peers] at isKey
    exact absurd isKey (by decide)
  · rw [holders] at isHolder
    cases isHolder

end VkTurn.Panel
