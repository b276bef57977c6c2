import Mathlib.Data.Set.List
import VkTurn.Panel.WrittenSettings

/-! # A client that is disabled and enabled again

Disabling a client takes its peer off the WireGuard inbound and keeps a snapshot of it; enabling it
puts the snapshot back.  The two calls are followed here statement by statement, where no statement
fails by itself.
-/

namespace VkTurn.Panel

open VkTurn.Store
open VkTurn.Text (trimSpace trimSpace_trimSpace)

/-! ## Peers taken off and put back -/

/-- The peer that comes back: the texts of its keys without the blanks around them. -/
def trimmedPeer (peer : WireguardPeer) : WireguardPeer :=
  vkTurnProxyClientPeerToWireguardPeer (cloneWireguardPeerToVKTurnProxyClientPeer peer)

section Peers

variable {library : Library} {peers written : List WireguardPeer} {peer : WireguardPeer}
  {publicKey : String}

/-- What `validateWireguardPeers` looks at in a peer. -/
def checkedPart (peer : WireguardPeer) : String × String × List String :=
  (trimSpace peer.privateKey, trimSpace peer.publicKey, peer.allowedIPs)

theorem checkedPart_trimmed : checkedPart (trimmedPeer peer) = checkedPart peer := by
  unfold checkedPart trimmedPeer vkTurnProxyClientPeerToWireguardPeer
    cloneWireguardPeerToVKTurnProxyClientPeer
  simp only [trimSpace_trimSpace]

theorem trimmedPeer_keepAlive : (trimmedPeer peer).keepAlive = peer.keepAlive := by
  unfold trimmedPeer vkTurnProxyClientPeerToWireguardPeer cloneWireguardPeerToVKTurnProxyClientPeer
  rfl

theorem trimmedPeer_key : (trimmedPeer peer).publicKey = trimSpace peer.publicKey :=
  trimSpace_trimSpace _

theorem exactPeer_iff : ExactPeer peer ↔ Exact peer.keepAlive := by
  constructor
  · intro exact
    obtain ⟨keepAlive, isRead, isPeer⟩ := bind_eq_ok.mp exact
    have sameNumber := congrArg WireguardPeer.keepAlive (pure_eq_ok.mp isPeer)
    exact isRead.trans (congrArg Except.ok sameNumber)
  · intro exact
    exact bind_eq_ok.mpr ⟨peer.keepAlive, exact, rfl⟩

theorem ExactPeer.trimmed (exact : ExactPeer peer) : ExactPeer (trimmedPeer peer) := by
  rw [exactPeer_iff, trimmedPeer_keepAlive]
  exact exactPeer_iff.mp exact

/-- The check of peers is one of the parts that it looks at, in any order. -/
theorem AcceptablePeers.perm (acceptable : AcceptablePeers library peers)
    (same : (written.map checkedPart).Perm (peers.map checkedPart)) :
    AcceptablePeers library written := by
  obtain ⟨prefixes, mapped, distinct⟩ := acceptable.distinctPrefixes
  refine ⟨fun peer member => ?_, ?_, ?_⟩
  · have isPart := same.mem_iff.mp (List.mem_map_of_mem member)
    obtain ⟨stored, isStored, samePart⟩ := List.mem_map.mp isPart
    have filled := acceptable.filled stored isStored
    simp only [checkedPart, Prod.mk.injEq] at samePart
    rw [samePart.1, samePart.2.1, samePart.2.2] at filled
    exact filled
  · have keys (list : List WireguardPeer) :
        publicKeys list = (list.map checkedPart).map fun part => part.2.1 := by
      rw [List.map_map]
      rfl
    have samePublic : (publicKeys written).Perm (publicKeys peers) := by
      rw [keys, keys]
      exact same.map _
    exact samePublic.nodup_iff.mpr acceptable.distinctKeys
  · have addresses (list : List WireguardPeer) : list.flatMap (·.allowedIPs) =
        (list.map checkedPart).flatMap fun part => part.2.2 := by
      rw [List.flatMap_map]
      rfl
    have sameResults : ((written.flatMap (·.allowedIPs)).map
        (normalizeWireGuardAllowedIP library)).Perm (prefixes.map .ok) := by
      rw [← mapped, addresses, addresses]
      exact (same.flatMap_right _).map _
    have areTexts : (written.flatMap (·.allowedIPs)).map (normalizeWireGuardAllowedIP library) ∈
        Set.range (List.map Except.ok) := by
      rw [Set.range_list_map]
      intro result member
      obtain ⟨text, _, isText⟩ := List.mem_map.mp (sameResults.mem_iff.mp member)
      exact ⟨text, isText⟩
    obtain ⟨kept, isKept⟩ := areTexts
    rw [← isKept, List.map_perm_map_iff fun _ _ => Except.ok.inj] at sameResults
    exact ⟨kept, isKept.symm, sameResults.nodup_iff.mpr distinct⟩

theorem removePeer_perm (member : peer ∈ peers) (distinct : (publicKeys peers).Nodup)
    (isKey : trimSpace publicKey = trimSpace peer.publicKey) :
    peers.Perm (peer :: removePeer publicKey peers) := by
  induction peers with
  | nil => cases member
  | cons head rest inductionHypothesis =>
    rw [publicKeys, List.map_cons, List.nodup_cons] at distinct
    rw [removePeer_cons, isKey]
    obtain isHead | inRest := List.mem_cons.mp member
    · rw [← isHead, if_pos rfl]
    · have otherKey : trimSpace head.publicKey ≠ trimSpace peer.publicKey := fun same =>
        distinct.1 (same ▸ List.mem_map_of_mem inRest)
      rw [if_neg otherKey]
      exact ((inductionHypothesis inRest distinct.2).cons head).trans (List.Perm.swap ..)

theorem removePeer_of_not_mem (missing : trimSpace publicKey ∉ publicKeys peers) :
    removePeer publicKey peers = peers := by
  induction peers with
  | nil => rfl
  | cons head rest inductionHypothesis =>
    simp only [publicKeys, List.map_cons, List.mem_cons, not_or] at missing
    rw [removePeer_cons, if_neg (Ne.symm missing.1), inductionHypothesis missing.2]

theorem upsertPeer_of_not_mem (missing : trimSpace peer.publicKey ∉ publicKeys peers) :
    upsertPeer peer peers = peers ++ [peer] := by
  induction peers with
  | nil => rfl
  | cons head rest inductionHypothesis =>
    simp only [publicKeys, List.map_cons, List.mem_cons, not_or] at missing
    rw [upsertPeer_cons, if_neg (Ne.symm missing.1), inductionHypothesis missing.2,
      List.cons_append]

theorem mem_upsertPeer {other : WireguardPeer} (member : other ∈ upsertPeer peer peers) :
    other = peer ∨ other ∈ peers := by
  induction peers with
  | nil => exact .inl (List.mem_singleton.mp member)
  | cons head rest inductionHypothesis =>
    rw [upsertPeer_cons] at member
    split at member
    · exact (List.mem_cons.mp member).imp_right (List.mem_cons_of_mem _)
    · obtain isHead | inRest := List.mem_cons.mp member
      · exact .inr (isHead ▸ List.mem_cons_self)
      · exact (inductionHypothesis inRest).imp_right (List.mem_cons_of_mem _)

/-- Taking a peer off and putting it back, trimmed, leaves the others. -/
theorem upsert_removed (distinct : (publicKeys peers).Nodup)
    (isKey : trimSpace publicKey = trimSpace peer.publicKey) :
    (upsertPeer (trimmedPeer peer) (removePeer publicKey peers)).Perm
      (trimmedPeer peer :: removePeer publicKey peers) := by
  have missing : trimSpace (trimmedPeer peer).publicKey ∉
      publicKeys (removePeer publicKey peers) := by
    rw [trimmedPeer_key, trimSpace_trimSpace, mem_publicKeys_removePeer distinct, isKey]
    exact fun member => member.2 rfl
  rw [upsertPeer_of_not_mem missing]
  exact List.perm_append_singleton _ _

theorem AcceptablePeers.restored (acceptable : AcceptablePeers library peers)
    (member : peer ∈ peers) (isKey : trimSpace publicKey = trimSpace peer.publicKey) :
    AcceptablePeers library (upsertPeer (trimmedPeer peer) (removePeer publicKey peers)) := by
  refine acceptable.perm ?_
  have before := (removePeer_perm member acceptable.distinctKeys isKey).map checkedPart
  have after := (upsert_removed acceptable.distinctKeys isKey).map checkedPart
  rw [List.map_cons, checkedPart_trimmed] at after
  exact after.trans before.symm

end Peers

/-! ## Changes of the peers that go through -/

/-- The WireGuard inbound has these peers; its port is free, and no other row has its tag. -/
structure Writable (db : Database) (wgInboundID : Int) (peers : List WireguardPeer) : Prop where
  row : ∃ inbound settings, db.inbound? wgInboundID = some inbound ∧
    inbound.protocol = .wireguard ∧ getWireguardSettings inbound.settings = .ok (settings, peers) ∧
    db.checkPortExist false inbound.listen inbound.port inbound.id = .ok false ∧
    ∀ row ∈ db.inbounds.rows, row.tag = inboundTag inbound.listen inbound.port →
      row.id = inbound.id

section Writing

variable {library : Library} {db next : Database} {wgInboundID : Int} {inbound stored : Inbound}
  {peers written : List WireguardPeer} {peer : WireguardPeer}
  {mutate : List WireguardPeer → List WireguardPeer}

/-- Peers that were read come back from JSON as they are. -/
theorem readPeers_exact {raw : Settings} {settings : WireguardSettings}
    (read : getWireguardSettings raw = .ok (settings, peers)) : ∀ peer ∈ peers, ExactPeer peer := by
  cases raw with
  | wireguard stored =>
    rw [getWireguardSettings] at read
    split at read
    · cases read
    · obtain ⟨reread, isReread, same⟩ := bind_eq_ok.mp read
      cases pure_eq_ok.mp same
      exact forall_of_mapM_eq_ok (fun _ _ => rereadPeer_idem) isReread
  | vkTurnProxy stored => cases read
  | clients stored => cases read
  | text stored => cases read

theorem mapM_rereadPeer_self (exact : ∀ peer ∈ peers, ExactPeer peer) :
    peers.mapM rereadPeer = .ok peers := by
  induction peers with
  | nil => rfl
  | cons head tail inductionHypothesis =>
    have rest := inductionHypothesis fun peer member => exact peer (List.mem_cons_of_mem _ member)
    exact mapM_cons_eq_ok.mpr ⟨head, tail, exact head List.mem_cons_self, rest, rfl⟩

theorem mutateWireguardPeers_runs (written : PeersWritten library mutate wgInboundID db next) :
    Runs (mutateWireguardPeers library (fun _ => false) wgInboundID
      fun peers => .ok (mutate peers)) db () next := by
  obtain ⟨inbound, settings, peers, reread, found, isWireguard, read, acceptable, isReread, free,
    saved⟩ := written
  have checked : mutatedInbound library db (fun _ => false) wgInboundID
      (fun peers => .ok (mutate peers)) = .ok { inbound with
        settings := .wireguard { settings with peers := some (mutate peers) } } := by
    simp only [mutatedInbound, bind_eq_ok, refuse_eq_ok, pure_eq_ok, getInbound_eq_ok]
    exact ⟨inbound, ⟨trivial, found⟩, not_not.mpr isWireguard, (settings, peers), read, _, rfl, (),
      validateWireguardPeers_eq_ok.mpr acceptable, rfl⟩
  -- the settings are read again before they are stored
  have isRead : getWireguardSettings (.wireguard { settings with peers := some (mutate peers) }) =
      .ok ({ settings with peers := some (mutate peers) }, reread) :=
    bind_eq_ok.mpr ⟨reread, isReread, rfl⟩
  have updated : updateWireguardInbound library db (fun _ => false) { inbound with
      settings := .wireguard { settings with peers := some (mutate peers) } } = .ok next := by
    simp only [updateWireguardInbound, bind_eq_ok, refuse_eq_ok, getInbound_eq_ok, attempt_eq_ok]
    exact ⟨false, free, Bool.false_ne_true, _, isRead, (),
      validateWireguardPeers_eq_ok.mpr (acceptable.reread isReread), inbound,
      ⟨trivial, (inbound?_mem found).2 ▸ found⟩, trivial, saved⟩
  exact Runs.bind (Runs.query checked) (Runs.uncheckedTransaction updated)

/-- Saving a row under a tag that no other row has. -/
theorem saveInbound_of_freeTag (found : db.inbound? inbound.id = some stored)
    (free : ∀ row ∈ db.inbounds.rows, row.tag = inbound.tag → row.id = inbound.id) :
    ∃ next, db.saveInbound inbound = .ok next := by
  obtain ⟨isStored, sameID⟩ := inbound?_mem found
  have ids : (replaceRow (·.id) inbound db.inbounds.rows).map (·.id) =
      db.inbounds.rows.map (·.id) :=
    map_replaceRow fun _ _ same => same
  obtain ⟨others, before, after, differ⟩ :=
    replaceRow_perm db.inbounds.valid.1 isStored sameID
  have tags : ((replaceRow (·.id) inbound db.inbounds.rows).map (·.tag)).Nodup := by
    rw [(after.map (·.tag)).nodup_iff, List.map_cons, List.nodup_cons]
    have beforeTags := (before.map (·.tag)).nodup_iff.mp db.inbounds.valid.2
    rw [List.map_cons, List.nodup_cons] at beforeTags
    refine ⟨fun isTaken => ?_, beforeTags.2⟩
    obtain ⟨row, isOther, sameTag⟩ := List.mem_map.mp isTaken
    have isRow := before.mem_iff.mpr (List.mem_cons_of_mem _ isOther)
    exact differ row isOther (free row isRow sameTag)
  have valid : UniqueInbounds (replaceRow (·.id) inbound db.inbounds.rows) :=
    ⟨ids ▸ db.inbounds.valid.1, tags⟩
  exact ⟨{ db with inbounds := ⟨_, valid⟩ }, saveInbound_eq_ok.mpr ⟨rfl, rfl, rfl⟩⟩

/-- A change to acceptable peers goes through, and the next one can. -/
theorem Writable.changed (writable : Writable db wgInboundID peers)
    (acceptable : AcceptablePeers library (mutate peers))
    (exact : ∀ peer ∈ mutate peers, ExactPeer peer) :
    ∃ next, PeersWritten library mutate wgInboundID db next ∧
      Writable next wgInboundID (mutate peers) := by
  obtain ⟨inbound, settings, found, isWireguard, read, free, tags⟩ := writable.row
  have sameID := (inbound?_mem found).2
  have isReread := mapM_rereadPeer_self exact
  obtain ⟨row, isRow⟩ : ∃ row, row = { inbound with
    settings := .wireguard { settings with peers := some (mutate peers) }
    tag := inboundTag inbound.listen inbound.port } := ⟨_, rfl⟩
  have foundRow : db.inbound? row.id = some inbound := by
    rw [isRow, sameID]
    exact found
  obtain ⟨next, saved⟩ := saveInbound_of_freeTag foundRow (by rw [isRow]; exact tags)
  have foundNext : next.inbound? wgInboundID = some row := by
    rw [← sameID]
    have isSaved := inbound?_saved_self foundRow saved
    rw [isRow] at isSaved ⊢
    exact isSaved
  have readRow : getWireguardSettings row.settings =
      .ok ({ settings with peers := some (mutate peers) }, mutate peers) := by
    rw [isRow]
    exact bind_eq_ok.mpr ⟨_, isReread, rfl⟩
  have freeNext := @checkPortExist_saved db next row inbound.id inbound foundRow
    (by rw [isRow]) (by rw [isRow]) saved false inbound.listen inbound.port
  rw [free] at freeNext
  subst isRow
  refine ⟨next, ⟨inbound, settings, peers, mutate peers, found, isWireguard, read, acceptable,
    isReread, free, saved⟩, ⟨_, _, foundNext, isWireguard, readRow, freeNext, ?_⟩⟩
  intro row member sameTag
  obtain rfl | ⟨isRow, _⟩ := mem_saved saved member
  · rfl
  · exact tags row isRow sameTag

/-- The WireGuard inbound stays as it is when another row is saved under its tag and address. -/
theorem Writable.saved (writable : Writable db wgInboundID peers)
    (found : db.inbound? inbound.id = some stored) (differs : wgInboundID ≠ inbound.id)
    (sameListen : inbound.listen = stored.listen) (samePort : inbound.port = stored.port)
    (sameTag : inbound.tag = stored.tag) (saved : db.saveInbound inbound = .ok next) :
    Writable next wgInboundID peers := by
  obtain ⟨target, settings, isTarget, isWireguard, read, free, tags⟩ := writable.row
  refine ⟨target, settings, ?_, isWireguard, read, ?_, fun row member isTag => ?_⟩
  · rw [inbound?_saved_of_ne saved differs]
    exact isTarget
  · exact (checkPortExist_saved found sameListen samePort saved).trans free
  · obtain rfl | ⟨isRow, _⟩ := mem_saved saved member
    · rw [sameTag] at isTag
      obtain ⟨isStored, sameID⟩ := inbound?_mem found
      rw [← sameID]
      exact tags stored isStored isTag
    · exact tags row isRow isTag

theorem Writable.read (writable : Writable db wgInboundID peers) :
    db.wireguardPeers? wgInboundID = some peers := by
  obtain ⟨inbound, settings, found, isWireguard, read, _⟩ := writable.row
  exact wireguardPeers_eq_some.mpr ⟨inbound, settings, found, isWireguard, read⟩

theorem Writable.exact (writable : Writable db wgInboundID peers) :
    ∀ peer ∈ peers, ExactPeer peer := by
  obtain ⟨inbound, settings, _, _, read, _⟩ := writable.row
  exact readPeers_exact read

theorem Writable.peerAt (writable : Writable db wgInboundID peers)
    (distinct : (publicKeys peers).Nodup) (member : peer ∈ peers) :
    PeerAt wgInboundID peer true db :=
  ⟨peers, writable.read, distinct, find?_key_of_mem distinct member⟩

end Writing

/-! ## Bindings that go through -/

section Binding

variable {library : Library} {clock : Clock} {db : Database} {wgInboundID : Int}
  {settings : VKTurnProxySettings} {request previous : VKTurnProxyClient}
  {peers : List WireguardPeer} {peer : WireguardPeer}

/-- What a binding leaves besides the client: these peers, and nothing else changed. -/
structure Leaves (wgInboundID : Int) (peers : List WireguardPeer) (db next : Database) : Prop where
  writable : Writable next wgInboundID peers
  bindings : next.vkTurnInbounds = db.vkTurnInbounds
  found : ∀ old stored, db.inbound? old.id = some old → old.settings = .vkTurnProxy stored →
    next.inbound? old.id = some old

theorem Leaves.refl (writable : Writable db wgInboundID peers) : Leaves wgInboundID peers db db :=
  ⟨writable, rfl, fun _ _ found _ => found⟩

/-- One more change of the peers. -/
theorem Leaves.changed {mutate : List WireguardPeer → List WireguardPeer} {middle : Database}
    (bound : Leaves wgInboundID peers db middle)
    (acceptable : AcceptablePeers library (mutate peers))
    (exact : ∀ peer ∈ mutate peers, ExactPeer peer) :
    ∃ next, Runs (mutateWireguardPeers library (fun _ => false) wgInboundID
        fun peers => .ok (mutate peers)) middle () next ∧
      Leaves wgInboundID (mutate peers) db next := by
  obtain ⟨next, written, writable⟩ := bound.writable.changed acceptable exact
  exact ⟨next, mutateWireguardPeers_runs written, writable,
    written.vkTurnInbounds.trans bound.bindings,
    fun old _ found isVKTurn => written.found (bound.found old _ found isVKTurn) isVKTurn⟩

/-- The client that is bound: the request under the key that it asks for. -/
theorem bindingCandidate_of_key (hasKey : resolveVKTurnProxyClientPublicKey request ≠ "")
    (hasPeer : request.peer = none → previous.peer = none) :
    bindingCandidate request (some previous) =
      { request with peerPublicKey := resolveVKTurnProxyClientPublicKey request } := by
  unfold bindingCandidate
  dsimp only
  rw [if_pos hasKey]
  split
  · rename_i snapshot isPrevious isRequest
    -- a client that had a snapshot still has one
    have isPrevious : previous.peer = some snapshot := isPrevious
    rw [hasPeer isRequest] at isPrevious
    cases isPrevious
  · rfl

/-- A client that is disabled with a peer on the inbound keeps a snapshot of it. -/
theorem ensureDisabled_runs (writable : Writable db wgInboundID peers)
    (acceptable : AcceptablePeers library peers) (member : peer ∈ peers)
    (isKey : resolveVKTurnProxyClientPublicKey request = trimSpace peer.publicKey) :
    ∃ next, Runs (ensureVKTurnProxyClientPeerDisabled library (fun _ => false) wgInboundID request)
        db
        { request with
          peer := some (cloneWireguardPeerToVKTurnProxyClientPeer peer)
          peerPublicKey := trimSpace peer.publicKey } next ∧
      Leaves wgInboundID (removePeer (trimSpace peer.publicKey) peers) db next := by
  have hasKey : trimSpace peer.publicKey ≠ "" := (acceptable.filled peer member).2.1
  have removedSub : (removePeer (trimSpace peer.publicKey) peers).Sublist peers :=
    removePeer_sublist
  obtain ⟨next, removes, bound⟩ := (Leaves.refl writable).changed
    (acceptable.sublist removedSub) fun other isOther =>
      writable.exact other (removedSub.subset isOther)
  have snapshot : snapshotVKTurnProxyClientPeer db false wgInboundID request =
      { request with
        peer := some (cloneWireguardPeerToVKTurnProxyClientPeer peer)
        peerPublicKey := trimSpace peer.publicKey } := by
    unfold snapshotVKTurnProxyClientPeer
    dsimp only
    rw [isKey, if_neg hasKey, getWireguardPeer_there
      (writable.peerAt acceptable.distinctKeys member) (trimSpace_trimSpace _)]
  refine ⟨next, ?_, bound⟩
  unfold ensureVKTurnProxyClientPeerDisabled
  dsimp only
  rw [isKey, if_neg hasKey]
  refine Runs.bind (Runs.query (congrArg Except.ok snapshot)) ?_
  exact Runs.refuse (fun isNone => nomatch isNone) (Runs.bind removes Runs.pure)

/-- A key that is given up is taken off the inbound, where it is that of no peer. -/
theorem release_runs {middle : Database} {oldKey : String}
    (bound : Leaves wgInboundID peers db middle) (acceptable : AcceptablePeers library peers)
    (missing : oldKey ≠ trimSpace request.peerPublicKey → trimSpace oldKey ∉ publicKeys peers) :
    ∃ next, Runs (if oldKey ≠ "" ∧ oldKey ≠ trimSpace request.peerPublicKey then do
          removeWireguardPeerByPublicKey library (fun _ => false) wgInboundID oldKey
          pure request
        else pure request) middle request next ∧
      Leaves wgInboundID peers db next := by
  split
  · rename_i givesUp
    have unchanged := removePeer_of_not_mem (missing givesUp.2)
    obtain ⟨next, gone, isBound⟩ := @Leaves.changed library db wgInboundID peers
      (removePeer oldKey) middle bound (by rw [unchanged]; exact acceptable)
      (by rw [unchanged]; exact bound.writable.exact)
    rw [unchanged] at isBound
    exact ⟨next, Runs.bind gone Runs.pure, isBound⟩
  · exact ⟨middle, Runs.pure, bound⟩

/-- Disabling a client takes its peer off the inbound and keeps the snapshot. -/
theorem disable_binds (forwards : settings.ForwardsTo wgInboundID)
    (writable : Writable db wgInboundID peers) (acceptable : AcceptablePeers library peers)
    (member : peer ∈ peers) (isDisabled : request.enable = false)
    (isKey : resolveVKTurnProxyClientPublicKey request = trimSpace peer.publicKey)
    (hasPeer : request.peer = none → previous.peer = none)
    (available : ensureVKTurnProxyBindingAvailable clock db false wgInboundID
      (trimSpace peer.publicKey) request.id = .ok ())
    (oldKey : trimSpace previous.peerPublicKey ∈ publicKeys peers →
      trimSpace previous.peerPublicKey = trimSpace peer.publicKey) :
    ∃ next, Runs (applyVKTurnProxyClientBinding library (fun _ => false) clock settings request
        (some previous)) db
        { request with
          peerPublicKey := trimSpace peer.publicKey
          peer := some (cloneWireguardPeerToVKTurnProxyClientPeer peer) } next ∧
      Leaves wgInboundID (removePeer (trimSpace peer.publicKey) peers) db next := by
  have hasKey : trimSpace peer.publicKey ≠ "" := (acceptable.filled peer member).2.1
  have isCandidate := @bindingCandidate_of_key request previous (isKey ▸ hasKey) hasPeer
  have candidateKey := resolve_resolve request
  rw [isKey] at isCandidate candidateKey
  obtain ⟨middle, disables, bound⟩ :=
    @ensureDisabled_runs library db wgInboundID _ peers peer writable acceptable member candidateKey
  obtain ⟨next, releases, isBound⟩ := @release_runs library db wgInboundID
    { request with
      peerPublicKey := trimSpace peer.publicKey
      peer := some (cloneWireguardPeerToVKTurnProxyClientPeer peer) } _ middle
    (previousKey (some previous)) bound (acceptable.sublist removePeer_sublist) (by
      intro differs
      rw [mem_publicKeys_removePeer acceptable.distinctKeys]
      have isPrevious : trimSpace (previousKey (some previous)) =
          previousKey (some previous) := trimSpace_trimSpace _
      rw [isPrevious]
      intro isTaken
      refine differs ?_
      dsimp only
      rw [trimSpace_trimSpace]
      exact oldKey isTaken.1)
  refine ⟨next, ?_, isBound⟩
  unfold applyVKTurnProxyClientBinding
  refine Runs.refuse (not_not.mpr forwards.1) ?_
  dsimp only
  rw [isCandidate, forwards.2, if_neg (by simp [isDisabled]), if_pos hasKey]
  exact Runs.bind (Runs.query available) (Runs.bind disables releases)

/-- Enabling a client with the snapshot of a peer puts it on the inbound. -/
theorem enable_binds (forwards : settings.ForwardsTo wgInboundID)
    (writable : Writable db wgInboundID peers) (isEnabled : request.enable = true)
    (isPeer : request.peer = some (cloneWireguardPeerToVKTurnProxyClientPeer peer))
    (isKey : request.peerPublicKey = trimSpace peer.publicKey)
    (hasKey : trimSpace peer.publicKey ≠ "")
    (sameKey : previous.peerPublicKey = request.peerPublicKey) (exact : ExactPeer peer)
    (acceptable : AcceptablePeers library (upsertPeer (trimmedPeer peer) peers))
    (available : ensureVKTurnProxyBindingAvailable clock db false wgInboundID
      (trimSpace peer.publicKey) request.id = .ok ()) :
    ∃ next, Runs (applyVKTurnProxyClientBinding library (fun _ => false) clock settings request
        (some previous)) db request next ∧
      Leaves wgInboundID (upsertPeer (trimmedPeer peer) peers) db next := by
  have trimmed : trimSpace (trimSpace peer.publicKey) = trimSpace peer.publicKey :=
    trimSpace_trimSpace _
  have snapshotKey : trimSpace (cloneWireguardPeerToVKTurnProxyClientPeer peer).publicKey ≠ "" := by
    unfold cloneWireguardPeerToVKTurnProxyClientPeer
    rw [trimmed]
    exact hasKey
  have isResolved : resolveVKTurnProxyClientPublicKey request = trimSpace peer.publicKey :=
    (resolve_of_snapshot isPeer snapshotKey).trans trimmed
  have isCandidate := @bindingCandidate_of_key request previous (isResolved ▸ hasKey)
    fun isNone => nomatch isPeer.symm.trans isNone
  have sameClient : { request with peerPublicKey := trimSpace peer.publicKey } = request := by
    rw [← isKey]
  rw [isResolved, sameClient] at isCandidate
  have isWritten : peerToWrite request = some (trimmedPeer peer) := by
    unfold peerToWrite
    rw [isPeer]
    exact if_pos (.inr snapshotKey)
  obtain ⟨next, upserts, bound⟩ := (Leaves.refl writable).changed acceptable fun other member => by
    obtain rfl | isOther := mem_upsertPeer member
    · exact exact.trimmed
    · exact writable.exact other isOther
  have enables : Runs (ensureVKTurnProxyClientPeerEnabled library (fun _ => false) clock wgInboundID
      request) db request next := by
    unfold ensureVKTurnProxyClientPeerEnabled
    dsimp only
    rw [isResolved, isWritten]
    refine Runs.refuse hasKey (Runs.bind (Runs.query available) ?_)
    refine Runs.refuse (fun isManaged => nomatch isPeer.symm.trans isManaged.2) ?_
    dsimp only
    rw [trimmedPeer_key, sameClient]
    exact Runs.bind upserts Runs.pure
  have keepsKey : ¬ (previousKey (some previous) ≠ "" ∧
      previousKey (some previous) ≠ trimSpace request.peerPublicKey) := by
    have isPrevious : previousKey (some previous) = trimSpace previous.peerPublicKey := rfl
    rw [isPrevious, sameKey]
    exact fun givesUp => givesUp.2 rfl
  refine ⟨next, ?_, bound⟩
  unfold applyVKTurnProxyClientBinding
  refine Runs.refuse (not_not.mpr forwards.1) ?_
  dsimp only
  rw [isCandidate, forwards.2, if_pos isEnabled]
  refine Runs.bind enables ?_
  rw [if_neg keepsKey]
  exact Runs.pure

end Binding

/-! ## Calls that go through -/

section Calls

variable {library : Library} {clock : Clock} {db middle : Database} {inboundID : Int}
  {clientID : String} {old : Inbound} {settings : VKTurnProxySettings} {index : Nat}
  {client request bound : VKTurnProxyClient} {enable : Bool}

/-- The traffic row of a client keeps its email. -/
theorem updateTraffic_runs {oldEmail : String} (sameEmail : bound.email = oldEmail) :
    ∃ next, updateVKTurnProxyClientTraffic (fun _ => false) db oldEmail bound = .ok next ∧
      next.inbounds = db.inbounds := by
  obtain ⟨update, isUpdate⟩ : ∃ update : ClientTraffic → ClientTraffic, update = fun row =>
      { row with
        enable := bound.enable
        email := bound.email
        total := bound.totalGB
        expiryTime := bound.expiryTime
        reset := bound.reset } := ⟨_, rfl⟩
  have valid : UniqueTraffics (db.clientTraffics.rows.map fun row =>
      if row.email = oldEmail then update row else row) := by
    have emails : (db.clientTraffics.rows.map fun row =>
        if row.email = oldEmail then update row else row).map (·.email) =
          db.clientTraffics.rows.map (·.email) := by
      rw [List.map_map]
      refine List.map_congr_left fun row _ => ?_
      dsimp only [Function.comp_apply]
      split
      · rename_i isOld
        rw [isUpdate, isOld]
        exact sameEmail
      · rfl
    unfold UniqueTraffics
    rw [emails]
    exact db.clientTraffics.valid
  have updated : db.updateTraffic oldEmail update =
      .ok { db with clientTraffics := ⟨_, valid⟩ } :=
    bind_eq_ok.mpr ⟨⟨_, valid⟩, Table.write_of_valid valid, rfl⟩
  refine ⟨{ db with clientTraffics := ⟨_, valid⟩ }, ?_, rfl⟩
  unfold updateVKTurnProxyClientTraffic
  rw [← isUpdate]
  refine bind_eq_ok.mpr ⟨_, attempt_eq_ok.mpr ⟨rfl, updated⟩, ?_⟩
  rw [if_neg (not_not.mpr sameEmail.symm)]
  rfl

theorem Writable.congr {next : Database} {wgInboundID : Int} {peers : List WireguardPeer}
    (writable : Writable db wgInboundID peers) (same : next.inbounds = db.inbounds) :
    Writable next wgInboundID peers := by
  obtain ⟨inbound, settings, rest⟩ := writable.row
  refine ⟨inbound, settings, ?_⟩
  unfold Database.inbound? Database.checkPortExist at rest ⊢
  rw [same]
  exact rest

/-- Settings are accepted again with other clients, as long as there is the WireGuard inbound. -/
theorem validateSettings_again {next : Database} {wgInboundID : Int}
    {peers others : List WireguardPeer} {clients : List VKTurnProxyClient}
    (forwards : settings.ForwardsTo wgInboundID) (writable : Writable db wgInboundID peers)
    (stays : Writable next wgInboundID others)
    (valid : validateVKTurnProxySettings library db false settings true = .ok ()) :
    validateVKTurnProxySettings library next false { settings with clients } true = .ok () := by
  obtain ⟨target, _, found, isWireguard, _⟩ := writable.row
  obtain ⟨later, _, isLater, stillWireguard, _⟩ := stays.row
  have isTarget := getInbound_eq_ok.mpr ⟨@rfl _ false, found⟩
  have isTargetLater := getInbound_eq_ok.mpr ⟨@rfl _ false, isLater⟩
  rw [← valid]
  unfold validateVKTurnProxySettings
  have answered (target : Inbound) (rest : Inbound → Except String Unit) :
      (Except.ok target >>= rest) = rest target := rfl
  simp only [forwards.1, forwards.2, isTarget, isTargetLater, answered, isWireguard, stillWireguard,
    not_true_eq_false, false_and, if_false]

/-- What a call leaves: the inbound with one client exchanged, and the peers that it bound. -/
structure CallLeaves (wgInboundID : Int) (row : Inbound) (peers : List WireguardPeer)
    (db next : Database) : Prop where
  found : next.inbound? row.id = some row
  writable : Writable next wgInboundID peers
  bindings : next.vkTurnInbounds = replaceRow (·.id) row db.vkTurnInbounds

/-- Saving an inbound after a binding. -/
theorem Leaves.saves {saved next : Database} {wgInboundID : Int} {peers : List WireguardPeer}
    (isBound : Leaves wgInboundID peers db middle) (isOld : db.inbound? old.id = some old)
    (isVKTurn : old.protocol = .vkTurnProxy) (kept : middle.inbound? old.id = some old)
    {stored : Settings} (isSaved : middle.saveInbound { old with settings := stored } = .ok saved)
    (same : next.inbounds = saved.inbounds) :
    CallLeaves wgInboundID { old with settings := stored } peers db next := by
  have differs : wgInboundID ≠ old.id := by
    obtain ⟨target, _, isTarget, isWireguard, _⟩ := isBound.writable.row
    intro sameID
    rw [sameID, kept] at isTarget
    cases isTarget
    rw [isVKTurn] at isWireguard
    exact absurd isWireguard (by decide)
  have sameRows : next.vkTurnInbounds = saved.vkTurnInbounds := by
    unfold Database.vkTurnInbounds
    rw [same]
  have sameFound : next.inbound? old.id = saved.inbound? old.id := by
    unfold Database.inbound?
    rw [same]
  have isStored := @inbound?_saved_self middle saved { old with settings := stored } old kept
    isSaved
  refine ⟨sameFound.trans isStored, ?_, ?_⟩
  · refine Writable.congr ?_ same
    exact @Writable.saved middle saved wgInboundID { old with settings := stored } old peers
      isBound.writable kept differs rfl rfl rfl isSaved
  · rw [sameRows]
    exact saved_vkTurnInbounds { old with settings := stored } (inbound?_mem isOld).1 rfl rfl
      isBound.bindings isSaved

/-- The call binds the client with the other switch and saves it in its place. -/
theorem setEnable_runs {wgInboundID : Int} {peers : List WireguardPeer}
    (found : db.inbound? inboundID = some old)
    (isVKTurn : old.protocol = .vkTurnProxy)
    (read : getVKTurnProxySettings clock old.settings = .ok settings)
    (isClient : clientAt settings clientID = .ok (index, client)) (differs : client.enable ≠ enable)
    (created : client.createdAt ≠ 0) (named : client.id ≠ "")
    (valid : validateVKTurnProxySettings library db false settings true = .ok ())
    (passes : validateVKTurnProxyClient library { client with enable, updatedAt := clock.now } =
      .ok request)
    (folds : library.equalFold request.email client.email = true)
    (binds : Runs (applyVKTurnProxyClientBinding library (fun _ => false) clock settings request
      (some client)) db bound middle)
    (isBound : Leaves wgInboundID peers db middle) (forwards : settings.ForwardsTo wgInboundID)
    (sameEmail : bound.email = client.email) :
    ∃ next, Runs (setVKTurnProxyClientEnable library (fun _ => false) clock inboundID clientID
        enable) db () next ∧
      CallLeaves wgInboundID { old with
        settings := .vkTurnProxy { settings with clients := settings.clients.set index bound } }
        peers db next := by
  have isRead : getVKTurnProxyClient clock db false inboundID clientID = .ok client := by
    unfold getVKTurnProxyClient
    simp only [bind_eq_ok, refuse_eq_ok, getInbound_eq_ok]
    exact ⟨old, ⟨trivial, found⟩, not_not.mpr isVKTurn, settings, read, (index, client), isClient,
      rfl⟩
  have isRequest : normalizeVKTurnProxyClient clock
      (replacementClient { client with enable } client) =
        { client with enable, updatedAt := clock.now } := by
    unfold normalizeVKTurnProxyClient replacementClient
    simp [named, created]
  have checked : checkedUpdate library (fun _ => false) clock db inboundID
      (.ok [{ client with enable }]) clientID = .ok (old, settings, index, client, request) := by
    unfold checkedUpdate
    refine bind_eq_ok.mpr ⟨old, getInbound_eq_ok.mpr ⟨rfl, found⟩, ?_⟩
    refine bind_eq_ok.mpr ⟨settings, read, bind_eq_ok.mpr ⟨(), valid, ?_⟩⟩
    refine bind_eq_ok.mpr ⟨{ client with enable }, rfl, ?_⟩
    refine bind_eq_ok.mpr ⟨(index, client), isClient, ?_⟩
    refine bind_eq_ok.mpr ⟨request, isRequest ▸ passes, ?_⟩
    rw [if_neg (not_not.mpr folds)]
    rfl
  obtain ⟨stored, isStored⟩ := vkTurn_of_decoded read (.inl forwards.1)
  have isOld : db.inbound? old.id = some old := (inbound?_mem found).2 ▸ found
  have kept := isBound.found old stored isOld isStored
  obtain ⟨saved, isSaved⟩ := @saveInbound_of_tag middle { old with
    settings := .vkTurnProxy { settings with clients := settings.clients.set index bound } } old
    kept rfl
  obtain ⟨next, traffics, sameInbounds⟩ := @updateTraffic_runs saved bound client.email sameEmail
  refine ⟨next, ?_, isBound.saves isOld isVKTurn kept isSaved sameInbounds⟩
  unfold setVKTurnProxyClientEnable
  refine Runs.bind (Runs.query isRead) ?_
  rw [if_neg differs]
  unfold updateVKTurnProxyClient
  refine Runs.bind (Runs.query checked) (Runs.bind binds (Runs.transaction ?_))
  exact bind_eq_ok.mpr ⟨saved, attempt_eq_ok.mpr ⟨rfl, isSaved⟩, traffics⟩

end Calls

/-! ## Both calls -/

/-- The panel finds the client under its id, enabled, in settings that forward to the WireGuard
    inbound, and one of the peers there has the key that the client asks for. -/
structure BoundClient (clock : Clock) (db : Database) (inboundID : Int) (clientID : String)
    (wgInboundID : Int) (settings : VKTurnProxySettings) (client : VKTurnProxyClient)
    (peers : List WireguardPeer) (peer : WireguardPeer) : Prop where
  stored : ∃ old index, db.inbound? inboundID = some old ∧ old.protocol = .vkTurnProxy ∧
    getVKTurnProxySettings clock old.settings = .ok settings ∧
    clientAt settings clientID = .ok (index, client)
  forwards : settings.ForwardsTo wgInboundID
  enabled : client.enable = true
  served : db.wireguardPeers? wgInboundID = some peers
  member : peer ∈ peers
  key : resolveVKTurnProxyClientPublicKey client = trimSpace peer.publicKey

/-- What the panel checks of the settings, the client, its key and the peers in the two calls. -/
structure Acceptance (library : Library) (clock : Clock) (db : Database) (clientID : String)
    (wgInboundID : Int) (settings : VKTurnProxySettings) (client validated : VKTurnProxyClient)
    (peers : List WireguardPeer) (peer : WireguardPeer) : Prop where
  settingsPass : validateVKTurnProxySettings library db false settings true = .ok ()
  clientPasses : validateVKTurnProxyClient library client = .ok validated
  /-- The private keys of a managed client, in its snapshot and on the inbound, are for its key. -/
  derives : client.peerManaged = true → ∀ snapshot, client.peer = some snapshot →
    deriveWireGuardPublicKey library snapshot.privateKey = .ok (trimSpace peer.publicKey) ∧
      deriveWireGuardPublicKey library peer.privateKey = .ok (trimSpace peer.publicKey)
  /-- The client is not stored under the key of another peer than that of its snapshot. -/
  oldKey : trimSpace client.peerPublicKey ∈ publicKeys peers →
    trimSpace client.peerPublicKey = trimSpace peer.publicKey
  available : ensureVKTurnProxyBindingAvailable clock db false wgInboundID
    (trimSpace peer.publicKey) clientID = .ok ()
  peersPass : validateWireguardPeers library peers = .ok ()
  writable : Writable db wgInboundID peers

/-- The client with a snapshot of the peer. -/
def withSnapshot (client : VKTurnProxyClient) (peer : WireguardPeer) : VKTurnProxyClient :=
  { client with
    peer := some (cloneWireguardPeerToVKTurnProxyClientPeer peer)
    peerPublicKey := trimSpace peer.publicKey }

section Both

variable {library : Library} {first second later : Clock} {db disabled : Database} {inboundID : Int}
  {clientID : String} {wgInboundID : Int} {settings : VKTurnProxySettings}
  {client validated : VKTurnProxyClient} {peers : List WireguardPeer} {peer : WireguardPeer}
  {old : Inbound} {index : Nat} {enable : Bool} {updatedAt : Int}

/-- Every client that is read has a time of creation. -/
theorem read_created (read : getVKTurnProxySettings first old.settings = .ok settings)
    (started : first.now ≠ 0) (member : client ∈ settings.clients) : client.createdAt ≠ 0 := by
  obtain ⟨decoded, _, rfl⟩ := getVKTurnProxySettings_eq_ok.mp read
  obtain ⟨before, _, rfl⟩ := List.mem_map.mp member
  unfold normalizeVKTurnProxyClient
  dsimp only
  split
  · exact started
  · rename_i hasTime
    exact hasTime

/-- A client that passes still asks for the key of the peer. -/
theorem resolve_validated (passes : validateVKTurnProxyClient library client = .ok validated)
    (isKey : resolveVKTurnProxyClientPublicKey client = trimSpace peer.publicKey)
    (hasKey : trimSpace peer.publicKey ≠ "")
    (derives : client.peerManaged = true → ∀ snapshot, client.peer = some snapshot →
      deriveWireGuardPublicKey library snapshot.privateKey = .ok (trimSpace peer.publicKey)) :
    resolveVKTurnProxyClientPublicKey validated = trimSpace peer.publicKey := by
  have trimmed : trimSpace (trimSpace peer.publicKey) = trimSpace peer.publicKey :=
    trimSpace_trimSpace _
  obtain ⟨_, passes⟩ := refuse_eq_ok.mp passes
  obtain ⟨_, passes⟩ := refuse_eq_ok.mp passes
  split at passes
  · cases passes
  · dsimp only at passes
    split at passes
    · rename_i isManaged
      split at passes
      · cases passes
      · rename_i snapshot isPeer
        obtain ⟨_, passes⟩ := refuse_eq_ok.mp passes
        obtain ⟨publicKey, derived, passes⟩ := bind_eq_ok.mp passes
        obtain ⟨_, passes⟩ := refuse_eq_ok.mp passes
        cases pure_eq_ok.mp passes
        cases (derives isManaged snapshot isPeer).symm.trans derived
        have notBlank : trimSpace (trimSpace peer.publicKey) ≠ "" := by
          rw [trimmed]
          exact hasKey
        unfold resolveVKTurnProxyClientPublicKey
        dsimp only
        rw [if_pos notBlank, trimmed]
    · obtain ⟨_, passes⟩ := refuse_eq_ok.mp passes
      cases pure_eq_ok.mp passes
      rw [← isKey]
      unfold resolveVKTurnProxyClientPublicKey at isKey ⊢
      dsimp only
      split
      · rename_i snapshot isPeer
        rw [isPeer] at isKey ⊢
        dsimp only at isKey ⊢
        -- a blank key is filled in from the snapshot
        by_cases hasOwn : trimSpace snapshot.publicKey = ""
        · rw [if_neg (not_not.mpr hasOwn)] at isKey ⊢
          rw [if_neg (by rw [isKey]; exact hasKey)]
          simp [hasOwn]
        · simp [hasOwn]
      · rename_i isPeer
        rw [isPeer]
        simp

theorem exactRecord_withSnapshot (filled : FilledIn client validated) (exact : ExactRecord client)
    (exactPeer : ExactPeer peer) (timely : Exact updatedAt) :
    ExactRecord { withSnapshot validated peer with enable, updatedAt } := by
  obtain ⟨⟨one, two, three, four, five⟩, created, _, _⟩ := exactRecord_iff.mp exact
  have limits := congrArg VKTurnProxyClient.limitIP filled.others
  have totals := congrArg VKTurnProxyClient.totalGB filled.others
  have expiries := congrArg VKTurnProxyClient.expiryTime filled.others
  have tgIDs := congrArg VKTurnProxyClient.tgID filled.others
  have resets := congrArg VKTurnProxyClient.reset filled.others
  have times := congrArg VKTurnProxyClient.createdAt filled.others
  rw [← limits] at one
  rw [← totals] at two
  rw [← expiries] at three
  rw [← tgIDs] at four
  rw [← resets] at five
  rw [← times] at created
  unfold withSnapshot
  refine exactRecord_iff.mpr ?_
  dsimp only
  refine ⟨⟨one, two, three, four, five⟩, created, timely, ?_⟩
  intro snapshot isPeer
  cases isPeer
  exact exactPeer_iff.mp exactPeer

/-- The key is still available to the client after a call has written it. -/
theorem available_again (read : getVKTurnProxySettings first old.settings = .ok settings)
    (isOld : db.inbound? old.id = some old) (settled : Settled settings)
    (forwards : settings.ForwardsTo wgInboundID)
    (isClient : clientAt settings clientID = .ok (index, client)) {bound : VKTurnProxyClient}
    (exact : ExactRecord bound) (sameID : bound.id = clientID) (named : clientID ≠ "")
    (isKey : bound.peerPublicKey = trimSpace peer.publicKey)
    (hasKey : trimSpace peer.publicKey ≠ "")
    (clockFirst : ClockFor clientID first) (clockSecond : ClockFor clientID second)
    (bindings : disabled.vkTurnInbounds = replaceRow (·.id) { old with
      settings := .vkTurnProxy { settings with clients := settings.clients.set index bound } }
        db.vkTurnInbounds)
    (available : ensureVKTurnProxyBindingAvailable first db false wgInboundID
      (trimSpace peer.publicKey) clientID = .ok ()) :
    ensureVKTurnProxyBindingAvailable second disabled false wgInboundID (trimSpace peer.publicKey)
      clientID = .ok () := by
  have trimmed : trimSpace (trimSpace peer.publicKey) = trimSpace peer.publicKey :=
    trimSpace_trimSpace _
  rw [ensureAvailable_eq_ok] at available ⊢
  rw [trimmed] at available ⊢
  refine KeepsMine.forall_mine (KeepsMine.flatMap ?_) available
  rw [bindings, replaceRow]
  refine List.forall₂_map_right_iff.mpr (List.forall₂_same.mpr fun inbound member => ?_)
  split
  · rename_i sameRow
    have isRow := inbound_eq_of_id (List.mem_filter.mp member).1 (inbound?_mem isOld).1 sameRow
    subst isRow
    exact keepsMine_written read settled forwards isClient rfl exact sameID named
      (by rw [isKey, trimmed]) hasKey clockSecond
  · exact keepsMine_unwritten clockFirst clockSecond named

/-- The first call goes through. -/
theorem disable_runs (folds : ∀ email, library.equalFold email email = true)
    (clockFirst : ClockFor clientID first) (found : db.inbound? inboundID = some old)
    (isVKTurn : old.protocol = .vkTurnProxy)
    (read : getVKTurnProxySettings first old.settings = .ok settings)
    (isClient : clientAt settings clientID = .ok (index, client))
    (forwards : settings.ForwardsTo wgInboundID) (enabled : client.enable = true)
    (member : peer ∈ peers)
    (isKey : resolveVKTurnProxyClientPublicKey client = trimSpace peer.publicKey)
    (accepted : Acceptance library first db clientID wgInboundID settings client validated peers
      peer) :
    ∃ disabled, Runs (setVKTurnProxyClientEnable library (fun _ => false) first inboundID clientID
        false) db () disabled ∧
      CallLeaves wgInboundID { old with
        settings := .vkTurnProxy { settings with
          clients := settings.clients.set index
            { withSnapshot validated peer with enable := false, updatedAt := first.now } } }
        (removePeer (trimSpace peer.publicKey) peers) db disabled := by
  have acceptable := validateWireguardPeers_eq_ok.mp accepted.peersPass
  have filled := filledIn_of_passes accepted.clientPasses
  have sameID := congrArg VKTurnProxyClient.id filled.others
  have sameEmail := congrArg VKTurnProxyClient.email filled.others
  have isID : client.id = clientID := (clientAt_iff.mp isClient).2.1
  have isResolved := resolve_validated accepted.clientPasses isKey
    (acceptable.filled peer member).2.1 fun isManaged snapshot isPeer =>
      (accepted.derives isManaged snapshot isPeer).1
  have hasPeer (isNone : validated.peer = none) : client.peer = none := by
    have same := filled.peer
    rw [isNone] at same
    exact Option.isSome_eq_false_iff.mp same.symm |> Option.isNone_iff_eq_none.mp
  obtain ⟨middle, binds, isBound⟩ := @disable_binds library first db wgInboundID settings
    { validated with enable := false, updatedAt := first.now } client peers peer forwards
    accepted.writable acceptable member rfl isResolved hasPeer
    (by rw [sameID, isID]; exact accepted.available) accepted.oldKey
  refine setEnable_runs found isVKTurn read isClient (by simp [enabled]) ?_ ?_
    accepted.settingsPass (passes_with accepted.clientPasses) ?_ binds isBound forwards sameEmail
  · exact read_created read clockFirst.started (List.mem_of_getElem? (clientAt_eq_ok isClient))
  · intro unnamed
    refine filled.named ?_
    rw [unnamed]
    decide
  · dsimp only
    rw [sameEmail]
    exact folds client.email

/-- A client with a snapshot of the peer, complete and checked. -/
structure Snapped (library : Library) (clientID : String) (peer : WireguardPeer)
    (snapped : VKTurnProxyClient) : Prop where
  id : snapped.id = clientID
  named : trimSpace clientID ≠ ""
  addressed : trimSpace snapped.email ≠ ""
  created : snapped.createdAt ≠ 0
  links : dedupedClientLinks snapped = snapped.link :: snapped.links
  snapshot : snapped.peer = some (cloneWireguardPeerToVKTurnProxyClientPeer peer)
  key : snapped.peerPublicKey = trimSpace peer.publicKey
  derives : snapped.peerManaged = true →
    deriveWireGuardPublicKey library peer.privateKey = .ok (trimSpace peer.publicKey)
  exact : ∀ enable updatedAt, Exact updatedAt → ExactRecord { snapped with enable, updatedAt }

theorem Snapped.clientNamed {snapped : VKTurnProxyClient}
    (isSnapped : Snapped library clientID peer snapped) : clientID ≠ "" ∧ snapped.id ≠ "" := by
  have isNamed : clientID ≠ "" := by
    intro unnamed
    have notBlank := isSnapped.named
    rw [unnamed] at notBlank
    exact notBlank (by decide)
  exact ⟨isNamed, isSnapped.id ▸ isNamed⟩

theorem snapped_of_accepted (read : getVKTurnProxySettings first old.settings = .ok settings)
    (clockFirst : ClockFor clientID first)
    (isClient : clientAt settings clientID = .ok (index, client)) (member : peer ∈ peers)
    (accepted : Acceptance library first db clientID wgInboundID settings client validated peers
      peer) : Snapped library clientID peer (withSnapshot validated peer) := by
  have filled := filledIn_of_passes accepted.clientPasses
  have sameID := congrArg VKTurnProxyClient.id filled.others
  have sameEmail := congrArg VKTurnProxyClient.email filled.others
  have sameTime := congrArg VKTurnProxyClient.createdAt filled.others
  have sameManaged := congrArg VKTurnProxyClient.peerManaged filled.others
  have isID : client.id = clientID := (clientAt_iff.mp isClient).2.1
  have isMember : client ∈ settings.clients := List.mem_of_getElem? (clientAt_eq_ok isClient)
  have settled := settled_of_read read (List.ne_nil_of_mem isMember) clockFirst.exact
  refine ⟨sameID.trans isID, isID ▸ filled.named, ?_, ?_, ?_, rfl, rfl, fun isManaged => ?_,
    fun enable updatedAt timely => exactRecord_withSnapshot filled (settled.clients client isMember)
      (accepted.writable.exact peer member) timely⟩
  · show trimSpace validated.email ≠ ""
    rw [sameEmail]
    exact filled.addressed
  · show validated.createdAt ≠ 0
    have created : client.createdAt ≠ 0 := read_created read clockFirst.started isMember
    rw [sameTime]
    exact created
  · exact dedupedClientLinks_again filled.links
  · have isManaged : client.peerManaged = true := sameManaged.symm.trans isManaged
    obtain ⟨snapshot, isPeer⟩ := Option.ne_none_iff_exists'.mp (filled.managed isManaged)
    exact (accepted.derives isManaged snapshot isPeer).2

/-- The second call goes through. -/
theorem enable_runs (folds : ∀ email, library.equalFold email email = true)
    {snapped : VKTurnProxyClient} (isSnapped : Snapped library clientID peer snapped)
    (found : disabled.inbound? inboundID = some old) (isVKTurn : old.protocol = .vkTurnProxy)
    (read : getVKTurnProxySettings second old.settings = .ok settings)
    (isClient : clientAt settings clientID =
      .ok (index, { snapped with enable := false, updatedAt := second.now }))
    (forwards : settings.ForwardsTo wgInboundID) (writable : Writable disabled wgInboundID peers)
    (valid : validateVKTurnProxySettings library disabled false settings true = .ok ())
    (filled : trimSpace peer.privateKey ≠ "" ∧ trimSpace peer.publicKey ≠ "" ∧ peer.allowedIPs ≠ [])
    (exact : ExactPeer peer)
    (acceptable : AcceptablePeers library (upsertPeer (trimmedPeer peer) peers))
    (available : ensureVKTurnProxyBindingAvailable second disabled false wgInboundID
      (trimSpace peer.publicKey) clientID = .ok ()) :
    ∃ restored, Runs (setVKTurnProxyClientEnable library (fun _ => false) second inboundID clientID
        true) disabled () restored ∧
      CallLeaves wgInboundID { old with
        settings := .vkTurnProxy { settings with
          clients := settings.clients.set index
            { snapped with enable := true, updatedAt := second.now } } }
        (upsertPeer (trimmedPeer peer) peers) disabled restored := by
  obtain ⟨_, named⟩ := isSnapped.clientNamed
  obtain ⟨middle, binds, isBound⟩ := @enable_binds library second disabled wgInboundID settings
    { snapped with enable := true, updatedAt := second.now }
    { snapped with enable := false, updatedAt := second.now } peers peer forwards writable rfl
    isSnapped.snapshot isSnapped.key filled.2.1 rfl exact acceptable
    (by rw [isSnapped.id]; exact available)
  refine setEnable_runs found isVKTurn read isClient (by simp) isSnapped.created named valid
    (passes_snapshot ?_ isSnapped.addressed isSnapped.links isSnapped.snapshot isSnapped.key filled
      isSnapped.derives) (folds _) binds isBound forwards rfl
  dsimp only
  rw [isSnapped.id]
  exact isSnapped.named

/-- What is read of the client after both calls. -/
theorem CallLeaves.reads {snapped : VKTurnProxyClient} {restored : Database}
    (leaves : CallLeaves wgInboundID { old with
      settings := .vkTurnProxy { settings with
        clients := settings.clients.set index
          { snapped with enable := true, updatedAt := second.now } } } peers disabled restored)
    (isSnapped : Snapped library clientID peer snapped) (isVKTurn : old.protocol = .vkTurnProxy)
    (settled : Settled settings) (isClient : clientAt settings clientID = .ok (index, client))
    (clockSecond : ClockFor clientID second) (clockLater : ClockFor clientID later) :
    getVKTurnProxyClient later restored false old.id clientID =
      .ok { snapped with enable := true, updatedAt := later.now } := by
  obtain ⟨isNamed, named⟩ := isSnapped.clientNamed
  have exact := isSnapped.exact true second.now clockSecond.exact
  have isRead := @Settled.read_exchanged later settings client
    { snapped with enable := true, updatedAt := second.now } clientID index settled isClient exact
  have isFound := @clientAt_written later settings client
    { snapped with enable := true, updatedAt := second.now } clientID index isClient
    clockLater.fresh isNamed isSnapped.id
  have isComplete := @normalize_complete
    { snapped with enable := true, updatedAt := second.now } later named isSnapped.created
  rw [isComplete] at isFound
  unfold getVKTurnProxyClient
  simp only [bind_eq_ok, refuse_eq_ok, getInbound_eq_ok]
  exact ⟨_, ⟨trivial, leaves.found⟩, not_not.mpr isVKTurn, _, isRead, _, isFound, rfl⟩

/-- As far as the panel accepts the client and the peers, a client that is disabled and enabled
    again has its peer back, trimmed, among the others, and keeps a snapshot of it. -/
theorem disable_enable_restores (folds : ∀ email, library.equalFold email email = true)
    (clockFirst : ClockFor clientID first) (clockSecond : ClockFor clientID second)
    (bound : BoundClient first db inboundID clientID wgInboundID settings client peers peer)
    (accepted : Acceptance library first db clientID wgInboundID settings client validated peers
      peer) :
    ∃ disabled restored,
      Runs (setVKTurnProxyClientEnable library (fun _ => false) first inboundID clientID false) db
        () disabled ∧
      Runs (setVKTurnProxyClientEnable library (fun _ => false) second inboundID clientID true)
        disabled () restored ∧
      (∃ others after, peers.Perm (peer :: others) ∧
        restored.wireguardPeers? wgInboundID = some after ∧
        after.Perm (trimmedPeer peer :: others)) ∧
      ∀ later, ClockFor clientID later →
        getVKTurnProxyClient later restored false inboundID clientID =
          .ok { withSnapshot validated peer with updatedAt := later.now } := by
  obtain ⟨old, index, found, isVKTurn, read, isClient⟩ := bound.stored
  have acceptable := validateWireguardPeers_eq_ok.mp accepted.peersPass
  have trimmed : trimSpace (trimSpace peer.publicKey) = trimSpace peer.publicKey :=
    trimSpace_trimSpace _
  have filled := acceptable.filled peer bound.member
  have isMember : client ∈ settings.clients := List.mem_of_getElem? (clientAt_eq_ok isClient)
  have settled := settled_of_read read (List.ne_nil_of_mem isMember) clockFirst.exact
  have isEnabled : (withSnapshot validated peer).enable = true := by
    have sameEnable := congrArg VKTurnProxyClient.enable
      (filledIn_of_passes accepted.clientPasses).others
    exact sameEnable.trans bound.enabled
  have isSnapped := snapped_of_accepted read clockFirst isClient bound.member accepted
  obtain ⟨disabled, disables, leaves⟩ := disable_runs folds clockFirst found isVKTurn read isClient
    bound.forwards bound.enabled bound.member bound.key accepted
  obtain ⟨isOld, rfl⟩ := inbound?_mem found
  generalize withSnapshot validated peer = snapped at isSnapped leaves isEnabled ⊢
  obtain ⟨isNamed, named⟩ := isSnapped.clientNamed
  -- the second call reads the client that the first has written
  have exact := isSnapped.exact false first.now clockFirst.exact
  have readAgain := @Settled.read_exchanged second settings client
    { snapped with enable := false, updatedAt := first.now } clientID index settled isClient exact
  have isDisabled := @clientAt_written second settings client
    { snapped with enable := false, updatedAt := first.now } clientID index isClient
    clockSecond.fresh isNamed isSnapped.id
  have isComplete := @normalize_complete
    { snapped with enable := false, updatedAt := first.now } second named isSnapped.created
  rw [isComplete] at isDisabled
  have settledAgain := settled_of_read readAgain
    (List.ne_nil_of_mem (List.mem_of_getElem? (clientAt_eq_ok isDisabled))) clockSecond.exact
  have available := available_again read found settled bound.forwards isClient exact isSnapped.id
    isNamed isSnapped.key filled.2.1 clockFirst clockSecond leaves.bindings accepted.available
  have valid (clients : List VKTurnProxyClient) : validateVKTurnProxySettings library disabled false
      { settings with clients } true = .ok () :=
    validateSettings_again bound.forwards accepted.writable leaves.writable accepted.settingsPass
  obtain ⟨restored, enables, leavesAgain⟩ := enable_runs folds isSnapped leaves.found isVKTurn
    readAgain isDisabled bound.forwards leaves.writable (valid _) filled
    (accepted.writable.exact peer bound.member) (acceptable.restored bound.member trimmed) available
  refine ⟨disabled, restored, disables, enables, ⟨_, _,
    removePeer_perm bound.member acceptable.distinctKeys trimmed, leavesAgain.writable.read,
    upsert_removed acceptable.distinctKeys trimmed⟩, fun later clockLater => ?_⟩
  rw [leavesAgain.reads isSnapped isVKTurn settledAgain isDisabled clockSecond clockLater,
    ← isEnabled]

end Both

/-! ## A client with a peer of its own -/

/-- Libraries under which one text is a private key. -/
def oneKey : Library where
  toLower text := text
  equalFold text other := text = other
  decodeBase64 text := if text = "secret" then some (List.replicate 32 0) else none
  decodeRawBase64 _ := none
  encodeBase64 _ := "key"
  x25519 key := .ok key
  parseIP _ := none
  parseCIDR text := .ok text

def evening : Clock := ⟨1700000060000, "a0b2"⟩

/-- The settings of a VK TURN inbound with the client. -/
def settingsWith (client : VKTurnProxyClient) : VKTurnProxySettings where
  forward := { type := .wireguardInbound, wireguardInboundID := 1 }
  clients := [client]

/-- A WireGuard inbound with two peers, and the VK TURN inbound that forwards to it. -/
def inboundsWith (client : VKTurnProxyClient) (peer : WireguardPeer) : List Inbound := [
  { id := 1, port := 51820, protocol := .wireguard, tag := "inbound-51820"
    settings := .wireguard { peers := some [peer,
      ⟨"secret", "other", "", ["10.0.0.3/32"], 0⟩] } },
  { id := 2, port := 56000, protocol := .vkTurnProxy, tag := "inbound-56000"
    settings := .vkTurnProxy (settingsWith client) }]

theorem inboundsWith_unique (client : VKTurnProxyClient) (peer : WireguardPeer) :
    UniqueInbounds (inboundsWith client peer) := by
  constructor
  · simp [inboundsWith]
  · simp [inboundsWith]

def withClient (client : VKTurnProxyClient) (peer : WireguardPeer) : Database where
  inbounds := ⟨inboundsWith client peer, inboundsWith_unique client peer⟩
  clientTraffics := ⟨[], uniqueTraffics_nil⟩
  clientIps := ⟨[], uniqueIps_nil⟩

/-- A client that is stored with the key of its peer, and nothing else of it. -/
def barePhone : VKTurnProxyClient where
  id := "phone"
  email := "a@example"
  enable := true
  link := "https://vk.com/call/join/a"
  peerPublicKey := "key"

/-- A client that brought its peer. -/
def managedPhone : VKTurnProxyClient :=
  { barePhone with
    peerManaged := true
    peer := some ⟨"secret", "key", "", ["10.0.0.2/32"], 0⟩ }

/-- The peers of the inbound. -/
def peersWith (peer : WireguardPeer) : List WireguardPeer :=
  [peer, ⟨"secret", "other", "", ["10.0.0.3/32"], 0⟩]

theorem clockFor_noon : ClockFor "phone" noon :=
  ⟨by unfold Exact; decide, by decide, by decide⟩

theorem clockFor_evening : ClockFor "phone" evening :=
  ⟨by unfold Exact; decide, by decide, by decide⟩

theorem boundClient_with {client : VKTurnProxyClient} {peer : WireguardPeer}
    (read : getVKTurnProxySettings noon (.vkTurnProxy (settingsWith client)) =
      .ok (normalizeVKTurnProxySettings noon (settingsWith client)))
    (isClient : clientAt (normalizeVKTurnProxySettings noon (settingsWith client)) "phone" =
      .ok (0, normalizeVKTurnProxyClient noon client)) (enabled : client.enable = true)
    (served : (withClient client peer).wireguardPeers? 1 = some (peersWith peer))
    (key : resolveVKTurnProxyClientPublicKey client = trimSpace peer.publicKey) :
    BoundClient noon (withClient client peer) 2 "phone" 1
      (normalizeVKTurnProxySettings noon (settingsWith client))
      (normalizeVKTurnProxyClient noon client) (peersWith peer) peer where
  stored := ⟨_, 0, rfl, rfl, read, isClient⟩
  forwards := ⟨rfl, rfl⟩
  enabled := enabled
  served := served
  member := List.mem_cons_self
  key := key

theorem boundClient_managed : BoundClient noon (withClient managedPhone firstPeer) 2 "phone" 1
    (normalizeVKTurnProxySettings noon (settingsWith managedPhone))
    (normalizeVKTurnProxyClient noon managedPhone) (peersWith firstPeer) firstPeer :=
  boundClient_with (by decide +kernel) (by decide +kernel) rfl (by decide +kernel)
    (by decide +kernel)

theorem accepted_managed : Acceptance oneKey noon (withClient managedPhone firstPeer) "phone" 1
    (normalizeVKTurnProxySettings noon (settingsWith managedPhone))
    (normalizeVKTurnProxyClient noon managedPhone) (normalizeVKTurnProxyClient noon managedPhone)
    (peersWith firstPeer) firstPeer where
  settingsPass := rfl
  clientPasses := by decide +kernel
  derives := by
    intro _ snapshot isPeer
    cases isPeer
    decide +kernel
  oldKey := by decide +kernel
  available := by decide +kernel
  peersPass := by decide +kernel
  writable := ⟨_, _, rfl, rfl, rfl, by decide +kernel, by decide +kernel⟩

theorem disable_enable_restores_managed :
    ∃ disabled restored,
      Runs (setVKTurnProxyClientEnable oneKey (fun _ => false) noon 2 "phone" false)
        (withClient managedPhone firstPeer) () disabled ∧
      Runs (setVKTurnProxyClientEnable oneKey (fun _ => false) evening 2 "phone" true) disabled ()
        restored ∧
      (∃ others after, (peersWith firstPeer).Perm (firstPeer :: others) ∧
        restored.wireguardPeers? 1 = some after ∧ after.Perm (trimmedPeer firstPeer :: others)) ∧
      ∀ later, ClockFor "phone" later →
        getVKTurnProxyClient later restored false 2 "phone" =
          .ok { withSnapshot (normalizeVKTurnProxyClient noon managedPhone) firstPeer with
            updatedAt := later.now } :=
  disable_enable_restores (fun _ => decide_eq_true rfl) clockFor_noon clockFor_evening
    boundClient_managed accepted_managed

/-! ## What does not come back -/

/-- Both calls go through, and leave the peers and the client as they were. -/
def Restores (library : Library) (first second : Clock) (db : Database) (inboundID : Int)
    (clientID : String) (wgInboundID : Int) (client : VKTurnProxyClient)
    (peers : List WireguardPeer) : Prop :=
  ∃ disabled restored,
    Runs (setVKTurnProxyClientEnable library (fun _ => false) first inboundID clientID false) db
      () disabled ∧
    Runs (setVKTurnProxyClientEnable library (fun _ => false) second inboundID clientID true)
      disabled () restored ∧
    (∃ after, restored.wireguardPeers? wgInboundID = some after ∧ after.Perm peers) ∧
    ∀ later, ClockFor clientID later → ∃ after,
      getVKTurnProxyClient later restored false inboundID clientID = .ok after ∧
        { after with updatedAt := client.updatedAt } = client

/-- The database after both calls, if they go through. -/
def afterBoth (library : Library) (first second : Clock) (db : Database) (inboundID : Int)
    (clientID : String) : Except String Database :=
  match setVKTurnProxyClientEnable library (fun _ => false) first inboundID clientID false db with
  | (.error message, _) => .error message
  | (.ok (), disabled) =>
    match setVKTurnProxyClientEnable library (fun _ => false) second inboundID clientID true
      disabled with
    | (.error message, _) => .error message
    | (.ok (), restored) => .ok restored

theorem afterBoth_of_runs {library : Library} {first second : Clock} {inboundID : Int}
    {clientID : String} {db disabled restored : Database}
    (disables : Runs (setVKTurnProxyClientEnable library (fun _ => false) first inboundID clientID
      false) db () disabled)
    (enables : Runs (setVKTurnProxyClientEnable library (fun _ => false) second inboundID clientID
      true) disabled () restored) :
    afterBoth library first second db inboundID clientID = .ok restored := by
  unfold Runs at disables enables
  unfold afterBoth
  rw [disables]
  dsimp only
  rw [enables]

/-- A client with a snapshot of a peer that is not its own. -/
def snappedPhone : VKTurnProxyClient :=
  { barePhone with peer := some ⟨"secret", "key", "", ["10.0.0.2/32"], 0⟩ }

def spacedPeer : WireguardPeer := { firstPeer with publicKey := "key " }

def changedPeer : WireguardPeer := { firstPeer with privateKey := "changed" }

/-- The phone is bound to the peer, as above. -/
def PhoneBound (client : VKTurnProxyClient) (peer : WireguardPeer) : Prop :=
  BoundClient noon (withClient client peer) 2 "phone" 1
    (normalizeVKTurnProxySettings noon (settingsWith client))
    (normalizeVKTurnProxyClient noon client) (peersWith peer) peer

def PhoneRestores (client : VKTurnProxyClient) (peer : WireguardPeer) : Prop :=
  Restores oneKey noon evening (withClient client peer) 2 "phone" 1
    (normalizeVKTurnProxyClient noon client) (peersWith peer)

/-- The two calls on the bare client, on the peer with the blank and on the changed peer. -/
theorem afterBoth_ends :
    ((afterBoth oneKey noon evening (withClient barePhone firstPeer) 2 "phone" >>=
      fun last => getVKTurnProxyClient evening last false 2 "phone").map (·.peer.isSome) =
        .ok true) ∧
    ((afterBoth oneKey noon evening (withClient snappedPhone spacedPeer) 2 "phone").map
      (fun last => (last.wireguardPeers? 1).map (·.contains spacedPeer)) = .ok (some false)) ∧
    (afterBoth oneKey noon evening (withClient managedPhone changedPeer) 2 "phone").isOk =
      false :=
  ⟨by decide +kernel, by decide +kernel, by decide +kernel⟩

/-- A client without a snapshot gets one. -/
theorem bare_changes : ¬ PhoneRestores barePhone firstPeer := by
  rintro ⟨disabled, restored, disables, enables, _, reads⟩
  have ended := afterBoth_of_runs disables enables
  obtain ⟨after, isAfter, same⟩ := reads evening clockFor_evening
  have snapped := afterBoth_ends.1
  rw [bind_eq_ok.mpr ⟨restored, ended, isAfter⟩] at snapped
  have noSnapshot := congrArg (·.peer.isSome) same
  exact absurd (noSnapshot.symm.trans (Except.ok.inj snapped)) (by decide)

/-- A key loses the blanks around it. -/
theorem spaced_changes : ¬ PhoneRestores snappedPhone spacedPeer := by
  rintro ⟨disabled, restored, disables, enables, ⟨after, isAfter, same⟩, _⟩
  have ended := afterBoth_of_runs disables enables
  have trimmed := afterBoth_ends.2.1
  rw [ended] at trimmed
  have missing : after.contains spacedPeer = false := by simpa [Except.map, isAfter] using trimmed
  have kept : spacedPeer ∈ after := same.mem_iff.mpr List.mem_cons_self
  rw [List.contains_iff_mem.mpr kept] at missing
  cases missing

/-- A managed client is not enabled with a private key that is none. -/
theorem changed_refused : ¬ PhoneRestores managedPhone changedPeer := by
  rintro ⟨disabled, restored, disables, enables, _⟩
  have ended := afterBoth_of_runs disables enables
  have refused := afterBoth_ends.2.2
  rw [ended] at refused
  cases refused

theorem disable_enable_changes :
    (PhoneBound barePhone firstPeer ∧ ¬ PhoneRestores barePhone firstPeer) ∧
    (PhoneBound snappedPhone spacedPeer ∧ ¬ PhoneRestores snappedPhone spacedPeer) ∧
    (PhoneBound managedPhone changedPeer ∧ ¬ PhoneRestores managedPhone changedPeer) := by
  refine ⟨⟨?_, bare_changes⟩, ⟨?_, spaced_changes⟩, ⟨?_, changed_refused⟩⟩
  · exact boundClient_with (by decide +kernel) (by decide +kernel) rfl (by decide +kernel)
      (by decide +kernel)
  · exact boundClient_with (by decide +kernel) (by decide +kernel) rfl (by decide +kernel)
      (by decide +kernel)
  · exact boundClient_with (by decide +kernel) (by decide +kernel) rfl (by decide +kernel)
      (by decide +kernel)

end VkTurn.Panel
