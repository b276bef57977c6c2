import VkTurn.Panel.Settings

/-! # The peers of a WireGuard inbound

What peers the services accept, and `mutateWireguardPeers`, which every change of the peers of
a stored inbound goes through.  It leaves the database alone when it fails; when it succeeds
it has written acceptable peers, or has lost them in a commit whose error it drops.
-/

namespace VkTurn.Panel

open VkTurn.Store
open VkTurn.Text (trimSpace)

/-! ## Decoding -/

def rereadPeer (peer : WireguardPeer) : Except String WireguardPeer := do
  let keepAlive ← rereadNumber peer.keepAlive
  return { peer with keepAlive }

def getWireguardSettings : Settings → Except String (WireguardSettings × List WireguardPeer)
  | .wireguard settings =>
    match settings.peers with
    | none => .error (newError ["wireguard peers is empty"])
    | some peers => do
      let peers ← peers.mapM rereadPeer
      return (settings, peers)
  | .vkTurnProxy _ => .error (newError ["wireguard peers is empty"])
  | .clients _ => .error (newError ["wireguard peers is empty"])
  | .text _ => .error "invalid character"

variable (library : Library)

/-! ## Checks -/

def normalizeWireGuardAllowedIP (raw : String) : Except String String :=
  let value := trimSpace raw
  if value = "" then .error (newError ["allowedIP is empty"])
  else if '/' ∉ value.toList then
    match library.parseIP value with
    | none => .error (newError ["invalid IP"])
    | some ip => .ok (ip.text ++ if ip.isV4 then "/32" else "/128")
  else library.parseCIDR value

/-- The inner loop of `validateWireguardPeers`, over the allowed IPs of peer number `number`;
    `seen` are the prefixes so far with the numbers of their peers. -/
def validateAllowedIPs (number : Nat) :
    List (String × Nat) → List String → Except String (List (String × Nat))
  | seen, [] => .ok seen
  | seen, raw :: rest =>
    match normalizeWireGuardAllowedIP library raw with
    | .error message => .error
        ("wireguard peer #" ++ toString number ++ " allowedIP " ++ raw.quote ++
          " is invalid: " ++ message)
    | .ok prefixText =>
      match seen.lookup prefixText with
      | some previous => .error
          ("duplicate wireguard allowedIP " ++ prefixText ++ " between peer #" ++
            toString previous ++ " and peer #" ++ toString number)
      | none => validateAllowedIPs number (seen ++ [(prefixText, number)]) rest

def validatePeersFrom : Nat → List String → List (String × Nat) → List WireguardPeer →
    Except String Unit
  | _, _, _, [] => .ok ()
  | number, seenPublicKeys, seenAllowedIPs, peer :: rest =>
    if trimSpace peer.privateKey = "" then
      .error ("wireguard peer #" ++ toString number ++ " privateKey is empty")
    else if trimSpace peer.publicKey = "" then
      .error ("wireguard peer #" ++ toString number ++ " publicKey is empty")
    else if peer.allowedIPs = [] then
      .error ("wireguard peer #" ++ toString number ++ " allowedIPs is empty")
    else if trimSpace peer.publicKey ∈ seenPublicKeys then
      .error (newError ["Duplicate wireguard publicKey:", trimSpace peer.publicKey])
    else do
      let seenAllowedIPs ← validateAllowedIPs library number seenAllowedIPs peer.allowedIPs
      validatePeersFrom (number + 1) (seenPublicKeys ++ [trimSpace peer.publicKey])
        seenAllowedIPs rest

def validateWireguardPeers (peers : List WireguardPeer) : Except String Unit :=
  validatePeersFrom library 1 [] [] peers

/-! ## Changes -/

/-- The statements of one `mutateWireguardPeers`. -/
inductive PeerSite where
  | inbound
  | port
  | inboundAgain
  | save
  | commit
  deriving DecidableEq

def findWireguardPeerIndexByPublicKey (peers : List WireguardPeer) (publicKey : String) :
    Option Nat :=
  peers.findIdx? fun peer => trimSpace peer.publicKey = trimSpace publicKey

def getWireguardPeerByPublicKey (db : Database) (fails : Bool) (inboundID : Int)
    (publicKey : String) : Except String WireguardPeer := do
  let inbound ← db.getInbound fails inboundID
  if inbound.protocol ≠ .wireguard then throw (newError ["inbound is not wireguard"])
  let (_, peers) ← getWireguardSettings inbound.settings
  match peers.find? (fun peer => trimSpace peer.publicKey = trimSpace publicKey) with
  | none => throw (newError ["wireguard peer not found:", publicKey])
  | some peer => return peer

def inboundTag (listen : String) (port : Int) : String :=
  if Database.listensEverywhere listen then "inbound-" ++ toString port
  else "inbound-" ++ listen ++ ":" ++ toString port

/-- The row `mutateWireguardPeers` hands to `UpdateInbound`. -/
def mutatedInbound (db : Database) (faults : PeerSite → Bool) (inboundID : Int)
    (mutate : List WireguardPeer → Except String (List WireguardPeer)) :
    Except String Inbound := do
  let oldInbound ← db.getInbound (faults .inbound) inboundID
  if oldInbound.protocol ≠ .wireguard then throw (newError ["inbound is not wireguard"])
  let (settings, peers) ← getWireguardSettings oldInbound.settings
  let updatedPeers ← mutate peers
  validateWireguardPeers library updatedPeers
  return { oldInbound with
    settings := .wireguard { settings with peers := some updatedPeers } }

/-- `UpdateInbound` of a WireGuard inbound, up to its commit.  Such an inbound has no clients,
    so no traffic rows follow and no client timestamps are filled in. -/
def updateWireguardInbound (db : Database) (faults : PeerSite → Bool) (inbound : Inbound) :
    Except String Database := do
  let exist ← db.checkPortExist (faults .port) inbound.listen inbound.port inbound.id
  if exist then throw (newError ["Port already exists:", toString inbound.port])
  let (_, peers) ← getWireguardSettings inbound.settings
  validateWireguardPeers library peers
  let oldInbound ← db.getInbound (faults .inboundAgain) inbound.id
  attempt (faults .save) <| db.saveInbound { oldInbound with
    up := inbound.up
    down := inbound.down
    total := inbound.total
    remark := inbound.remark
    enable := inbound.enable
    expiryTime := inbound.expiryTime
    listen := inbound.listen
    port := inbound.port
    protocol := inbound.protocol
    settings := inbound.settings
    tag := inboundTag inbound.listen inbound.port }

def mutateWireguardPeers (faults : PeerSite → Bool) (inboundID : Int)
    (mutate : List WireguardPeer → Except String (List WireguardPeer)) :
    Program Database Unit := do
  let inbound ← query fun db => mutatedInbound library db faults inboundID mutate
  -- the deferred `tx.Commit()` drops its error
  uncheckedTransaction (faults .commit) fun db => updateWireguardInbound library db faults inbound

def upsertPeer (peer : WireguardPeer) (peers : List WireguardPeer) : List WireguardPeer :=
  match findWireguardPeerIndexByPublicKey peers peer.publicKey with
  | some index => peers.set index peer
  | none => peers ++ [peer]

def removePeer (publicKey : String) (peers : List WireguardPeer) : List WireguardPeer :=
  match findWireguardPeerIndexByPublicKey peers publicKey with
  | some index => peers.eraseIdx index
  | none => peers

def upsertWireguardPeerByPublicKey (faults : PeerSite → Bool) (inboundID : Int)
    (peer : WireguardPeer) : Program Database Unit :=
  mutateWireguardPeers library faults inboundID fun peers => .ok (upsertPeer peer peers)

def removeWireguardPeerByPublicKey (faults : PeerSite → Bool) (inboundID : Int)
    (publicKey : String) : Program Database Unit :=
  mutateWireguardPeers library faults inboundID fun peers => .ok (removePeer publicKey peers)

/-! ## Acceptable peers -/

section Acceptable

variable {library : Library} {peers written : List WireguardPeer} {peer : WireguardPeer}

def publicKeys (peers : List WireguardPeer) : List String :=
  peers.map fun peer => trimSpace peer.publicKey

/-- What `validateWireguardPeers` accepts. -/
structure AcceptablePeers (library : Library) (peers : List WireguardPeer) : Prop where
  filled : ∀ peer ∈ peers, trimSpace peer.privateKey ≠ "" ∧ trimSpace peer.publicKey ≠ "" ∧
    peer.allowedIPs ≠ []
  distinctKeys : (publicKeys peers).Nodup
  distinctPrefixes : ∃ prefixes : List String,
    (peers.flatMap (·.allowedIPs)).map (normalizeWireGuardAllowedIP library) =
      prefixes.map .ok ∧ prefixes.Nodup

theorem validateAllowedIPs_cons_eq_ok {number : Nat} {seen after : List (String × Nat)}
    {raw : String} {rest : List String} :
    validateAllowedIPs library number seen (raw :: rest) = .ok after ↔
      ∃ text, normalizeWireGuardAllowedIP library raw = .ok text ∧ text ∉ seen.map (·.1) ∧
        validateAllowedIPs library number (seen ++ [(text, number)]) rest = .ok after := by
  rw [validateAllowedIPs]
  cases normalized : normalizeWireGuardAllowedIP library raw with
  | error message => exact ⟨nofun, fun ⟨_, isOk, _⟩ => nomatch isOk⟩
  | ok text =>
    have unknown : seen.lookup text = none ↔ text ∉ seen.map (·.1) := by
      grind [List.lookup_eq_none_iff]
    dsimp only
    cases known : seen.lookup text with
    | some previous =>
      rw [known] at unknown
      refine ⟨nofun, ?_⟩
      rintro ⟨other, isOk, unseen, _⟩
      cases isOk
      cases unknown.mpr unseen
    | none => exact ⟨fun ends => ⟨text, rfl, unknown.mp known, ends⟩,
        fun ⟨other, isOk, _, ends⟩ => by cases isOk; exact ends⟩

theorem validateAllowedIPs_eq_ok {number : Nat} {seen after : List (String × Nat)}
    {raw : List String} :
    validateAllowedIPs library number seen raw = .ok after ↔
      ∃ prefixes : List String,
        raw.map (normalizeWireGuardAllowedIP library) = prefixes.map .ok ∧ prefixes.Nodup ∧
        (∀ text ∈ prefixes, text ∉ seen.map (·.1)) ∧
        after = seen ++ prefixes.map fun text => (text, number) := by
  induction raw generalizing seen with
  | nil =>
    simp only [validateAllowedIPs, Except.ok.injEq]
    constructor
    · rintro rfl
      exact ⟨[], by simp, List.nodup_nil, nofun, by simp⟩
    · rintro ⟨prefixes, mapped, _, _, rfl⟩
      have noPrefixes : prefixes = [] := by simpa using mapped.symm
      simp [noPrefixes]
  | cons head tail inductionHypothesis =>
    rw [validateAllowedIPs_cons_eq_ok]
    simp only [inductionHypothesis]
    constructor
    · rintro ⟨text, normalized, unseen, prefixes, mapped, distinct, fresh, rfl⟩
      refine ⟨text :: prefixes, by rw [List.map_cons, normalized, mapped]; rfl, ?_, ?_, by simp⟩
      · refine List.nodup_cons.mpr ⟨fun member => fresh text member ?_, distinct⟩
        simp
      · intro other member
        rcases List.mem_cons.mp member with rfl | inRest
        · exact unseen
        · intro inSeen
          exact fresh other inRest (by rw [List.map_append]; exact List.mem_append_left _ inSeen)
    · rintro ⟨prefixes, mapped, distinct, fresh, rfl⟩
      cases prefixes with
      | nil => simp at mapped
      | cons text prefixes =>
        obtain ⟨normalized, mapped⟩ := List.cons.inj mapped
        have distinct := List.nodup_cons.mp distinct
        refine ⟨text, normalized, fresh text (by simp), prefixes, mapped, distinct.2, ?_, by simp⟩
        intro other member inSeen
        rcases List.mem_append.mp (List.map_append ▸ inSeen) with before | isText
        · exact fresh other (List.mem_cons_of_mem _ member) before
        · have same : other = text := by simpa using isText
          exact distinct.1 (same ▸ member)

theorem validatePeersFrom_eq_ok {number : Nat} {seenKeys : List String}
    {seenIPs : List (String × Nat)} :
    validatePeersFrom library number seenKeys seenIPs peers = .ok () ↔
      (∀ peer ∈ peers, trimSpace peer.privateKey ≠ "" ∧ trimSpace peer.publicKey ≠ "" ∧
        peer.allowedIPs ≠ []) ∧
      (publicKeys peers).Nodup ∧ (∀ key ∈ publicKeys peers, key ∉ seenKeys) ∧
      ∃ prefixes : List String,
        (peers.flatMap (·.allowedIPs)).map (normalizeWireGuardAllowedIP library) =
          prefixes.map .ok ∧ prefixes.Nodup ∧ ∀ text ∈ prefixes, text ∉ seenIPs.map (·.1) := by
  induction peers generalizing number seenKeys seenIPs with
  | nil =>
    rw [validatePeersFrom]
    exact iff_of_true rfl ⟨nofun, List.nodup_nil, nofun, [], by simp, List.nodup_nil, nofun⟩
  | cons peer rest inductionHypothesis =>
    rw [validatePeersFrom]
    simp only [publicKeys, List.map_cons, List.flatMap_cons, List.map_append, List.nodup_cons,
      List.forall_mem_cons]
    by_cases noPrivate : trimSpace peer.privateKey = ""
    · simp [noPrivate]
    by_cases noPublic : trimSpace peer.publicKey = ""
    · simp [noPrivate, noPublic]
    by_cases noIPs : peer.allowedIPs = []
    · simp [noPrivate, noPublic, noIPs]
    by_cases seenKey : trimSpace peer.publicKey ∈ seenKeys
    · simp [noPrivate, noPublic, noIPs, seenKey]
    rw [if_neg noPrivate, if_neg noPublic, if_neg noIPs, if_neg seenKey, bind_eq_ok]
    simp only [validateAllowedIPs_eq_ok, inductionHypothesis]
    constructor
    · rintro ⟨_, ⟨own, ownMapped, ownDistinct, ownFresh, rfl⟩, filled, keys, keysFresh, later,
        laterMapped, laterDistinct, laterFresh⟩
      have apart : ∀ text ∈ later, text ∉ own ∧ text ∉ seenIPs.map (·.1) := by
        intro text member
        have fresh := laterFresh text member
        simp only [List.map_append, List.map_map, List.mem_append, not_or] at fresh
        exact ⟨fun inOwn => fresh.2 (List.mem_map.mpr ⟨text, inOwn, rfl⟩), fresh.1⟩
      refine ⟨⟨⟨noPrivate, noPublic, noIPs⟩, filled⟩, ⟨fun again => ?_, keys⟩, ⟨seenKey, ?_⟩,
        own ++ later, ?_, ?_, ?_⟩
      · exact keysFresh _ again (by simp)
      · exact fun key member inSeen => keysFresh key member (List.mem_append_left _ inSeen)
      · rw [ownMapped, laterMapped, List.map_append]
      · exact List.nodup_append.mpr ⟨ownDistinct, laterDistinct,
          fun text inOwn other inLater same => (apart other inLater).1 (same ▸ inOwn)⟩
      · intro text member
        rcases List.mem_append.mp member with inOwn | inLater
        · exact ownFresh text inOwn
        · exact (apart text inLater).2
    · rintro ⟨⟨_, filled⟩, ⟨keyOnce, keys⟩, ⟨_, keysFresh⟩, prefixes, mapped, distinct, fresh⟩
      obtain ⟨own, later, rfl, ownMapped, laterMapped⟩ := List.map_eq_append_iff.mp mapped.symm
      obtain ⟨ownDistinct, laterDistinct, apart⟩ := List.nodup_append.mp distinct
      refine ⟨_, ⟨own, ownMapped.symm, ownDistinct,
        fun text inOwn => fresh text (List.mem_append_left _ inOwn), rfl⟩, filled, keys, ?_, later,
        laterMapped.symm, laterDistinct, ?_⟩
      · intro key member inSeen
        rcases List.mem_append.mp inSeen with before | isOwn
        · exact keysFresh key member before
        · exact keyOnce (List.mem_singleton.mp isOwn ▸ member)
      · intro text inLater inSeen
        rw [List.map_append, List.map_map] at inSeen
        rcases List.mem_append.mp inSeen with before | isOwn
        · exact fresh text (List.mem_append_right _ inLater) before
        · obtain ⟨other, inOwn, same⟩ := List.mem_map.mp isOwn
          exact apart other inOwn text inLater same

theorem validateWireguardPeers_eq_ok :
    validateWireguardPeers library peers = .ok () ↔ AcceptablePeers library peers := by
  rw [validateWireguardPeers, validatePeersFrom_eq_ok]
  constructor
  · rintro ⟨filled, keys, _, prefixes, mapped, distinct, _⟩
    exact ⟨filled, keys, prefixes, mapped, distinct⟩
  · rintro ⟨filled, keys, prefixes, mapped, distinct⟩
    exact ⟨filled, keys, fun _ _ => by simp, prefixes, mapped, distinct, fun _ _ => by simp⟩

theorem AcceptablePeers.sublist (acceptable : AcceptablePeers library peers)
    (sub : written.Sublist peers) : AcceptablePeers library written := by
  obtain ⟨prefixes, mapped, distinct⟩ := acceptable.distinctPrefixes
  refine ⟨fun peer member => acceptable.filled peer (sub.subset member),
    acceptable.distinctKeys.sublist (sub.map _), ?_⟩
  have subPrefixes : (written.flatMap (·.allowedIPs)).map (normalizeWireGuardAllowedIP library)
      |>.Sublist (prefixes.map .ok) := by
    rw [← mapped]
    exact (sub.flatMap _).map _
  obtain ⟨kept, keptSub, keptMapped⟩ := List.sublist_map_iff.mp subPrefixes
  exact ⟨kept, keptMapped, distinct.sublist keptSub⟩

theorem AcceptablePeers.blank_not_mem (acceptable : AcceptablePeers library peers) :
    "" ∉ publicKeys peers := by
  intro member
  obtain ⟨peer, inPeers, isBlank⟩ := List.mem_map.mp member
  exact (acceptable.filled peer inPeers).2.1 isBlank

end Acceptable

/-! ## The keys after a change -/

section Keys

variable {library : Library} {peers : List WireguardPeer} {peer head : WireguardPeer}
  {key publicKey : String}

theorem upsertPeer_cons : upsertPeer peer (head :: peers) =
    if trimSpace head.publicKey = trimSpace peer.publicKey then peer :: peers
    else head :: upsertPeer peer peers := by
  unfold upsertPeer findWireguardPeerIndexByPublicKey
  rw [List.findIdx?_cons]
  by_cases same : trimSpace head.publicKey = trimSpace peer.publicKey
  · simp [same]
  · rw [if_neg (by simpa using same), if_neg same]
    cases peers.findIdx? fun other => trimSpace other.publicKey = trimSpace peer.publicKey <;> rfl

theorem removePeer_cons : removePeer publicKey (head :: peers) =
    if trimSpace head.publicKey = trimSpace publicKey then peers
    else head :: removePeer publicKey peers := by
  unfold removePeer findWireguardPeerIndexByPublicKey
  rw [List.findIdx?_cons]
  by_cases same : trimSpace head.publicKey = trimSpace publicKey
  · simp [same]
  · rw [if_neg (by simpa using same), if_neg same]
    cases peers.findIdx? fun other => trimSpace other.publicKey = trimSpace publicKey <;> rfl

theorem mem_publicKeys_upsertPeer : key ∈ publicKeys (upsertPeer peer peers) ↔
    key = trimSpace peer.publicKey ∨ key ∈ publicKeys peers := by
  induction peers with
  | nil => simp [upsertPeer, findWireguardPeerIndexByPublicKey, publicKeys]
  | cons head rest inductionHypothesis =>
    rw [upsertPeer_cons]
    by_cases same : trimSpace head.publicKey = trimSpace peer.publicKey
    · simp [publicKeys, same]
    · rw [if_neg same]
      simp only [publicKeys, List.map_cons, List.mem_cons] at inductionHypothesis ⊢
      rw [inductionHypothesis]
      grind

theorem mem_publicKeys_removePeer (distinct : (publicKeys peers).Nodup) :
    key ∈ publicKeys (removePeer publicKey peers) ↔
      key ∈ publicKeys peers ∧ key ≠ trimSpace publicKey := by
  induction peers with
  | nil => simp [removePeer, findWireguardPeerIndexByPublicKey, publicKeys]
  | cons head rest inductionHypothesis =>
    rw [publicKeys, List.map_cons, List.nodup_cons] at distinct
    rw [removePeer_cons]
    by_cases same : trimSpace head.publicKey = trimSpace publicKey
    · -- the keys are distinct, so the removed one does not come again
      rw [if_pos same]
      rw [same] at distinct
      simp only [publicKeys, List.map_cons, List.mem_cons, same]
      grind
    · rw [if_neg same]
      have tail := inductionHypothesis distinct.2
      simp only [publicKeys, List.map_cons, List.mem_cons] at tail ⊢
      rw [tail]
      grind

theorem removePeer_sublist : (removePeer publicKey peers).Sublist peers := by
  unfold removePeer
  split
  · exact List.eraseIdx_sublist _ _
  · exact List.Sublist.refl _

end Keys

/-! ## The effect of a change -/

section Effect

variable {library : Library} {db next : Database} {inboundID : Int} {faults : PeerSite → Bool}
  {mutate : List WireguardPeer → List WireguardPeer} {peers written : List WireguardPeer}

theorem rereadPeer_keeps {peer reread : WireguardPeer} (passed : rereadPeer peer = .ok reread) :
    reread.privateKey = peer.privateKey ∧ reread.publicKey = peer.publicKey ∧
      reread.allowedIPs = peer.allowedIPs := by
  obtain ⟨keepAlive, _, isReread⟩ := bind_eq_ok.mp passed
  cases pure_eq_ok.mp isReread
  exact ⟨rfl, rfl, rfl⟩

theorem rereadPeer_idem {peer reread : WireguardPeer} (passed : rereadPeer peer = .ok reread) :
    rereadPeer reread = .ok reread := by
  obtain ⟨keepAlive, numberPassed, isReread⟩ := bind_eq_ok.mp passed
  cases pure_eq_ok.mp isReread
  exact bind_eq_ok.mpr ⟨keepAlive, rereadNumber_idem numberPassed, rfl⟩

theorem publicKeys_reread (reread : peers.mapM rereadPeer = .ok written) :
    publicKeys written = publicKeys peers :=
  mapM_map_eq (fun _ _ passed => by rw [(rereadPeer_keeps passed).2.1]) reread

theorem AcceptablePeers.reread (acceptable : AcceptablePeers library peers)
    (reread : peers.mapM rereadPeer = .ok written) : AcceptablePeers library written := by
  have sameChecked : written.map (fun peer => (peer.privateKey, peer.publicKey, peer.allowedIPs)) =
      peers.map fun peer => (peer.privateKey, peer.publicKey, peer.allowedIPs) :=
    mapM_map_eq (fun _ _ passed => by
      obtain ⟨privateKey, publicKey, allowedIPs⟩ := rereadPeer_keeps passed
      rw [privateKey, publicKey, allowedIPs]) reread
  have sameIPs : written.flatMap (·.allowedIPs) = peers.flatMap (·.allowedIPs) := by
    have lists : written.map (·.allowedIPs) = peers.map (·.allowedIPs) :=
      mapM_map_eq (fun _ _ passed => (rereadPeer_keeps passed).2.2) reread
    rw [List.flatMap_def, List.flatMap_def, lists]
  refine ⟨fun peer member => ?_, ?_, ?_⟩
  · have inPeers := sameChecked ▸ List.mem_map_of_mem member
    obtain ⟨stored, isStored, same⟩ := List.mem_map.mp inPeers
    have filled := acceptable.filled stored isStored
    simp only [Prod.mk.injEq] at same
    rw [same.1, same.2.1, same.2.2] at filled
    exact filled
  · rw [publicKeys_reread reread]
    exact acceptable.distinctKeys
  · rw [sameIPs]
    exact acceptable.distinctPrefixes

/-- The peers the services read of an inbound. -/
def Database.wireguardPeers? (db : Database) (inboundID : Int) : Option (List WireguardPeer) := do
  let inbound ← db.inbound? inboundID
  if inbound.protocol ≠ .wireguard then none
  else (getWireguardSettings inbound.settings).toOption.map (·.2)

/-- The public keys an inbound serves. -/
def Database.peerKeys (db : Database) (inboundID : Int) : List String :=
  publicKeys ((db.wireguardPeers? inboundID).getD [])

/-- `next` is `db` with `mutate` applied to the peers of the inbound. -/
def PeersWritten (library : Library) (mutate : List WireguardPeer → List WireguardPeer)
    (inboundID : Int) (db next : Database) : Prop :=
  ∃ inbound settings peers written,
    db.inbound? inboundID = some inbound ∧ inbound.protocol = .wireguard ∧
    getWireguardSettings inbound.settings = .ok (settings, peers) ∧
    AcceptablePeers library (mutate peers) ∧
    (mutate peers).mapM rereadPeer = .ok written ∧
    db.checkPortExist false inbound.listen inbound.port inbound.id = .ok false ∧
    db.saveInbound { inbound with
      settings := .wireguard { settings with peers := some (mutate peers) }
      tag := inboundTag inbound.listen inbound.port } = .ok next

theorem mutateWireguardPeers_ensures :
    Ensures (mutateWireguardPeers library faults inboundID fun peers => .ok (mutate peers)) db
      (fun _ next => (faults .commit = true → next = db) ∧
        (faults .commit = false → PeersWritten library mutate inboundID db next))
      (fun next => next = db) := by
  refine Ensures.bind (Ensures.query ?_ rfl)
  intro inbound checked
  refine Ensures.uncheckedTransaction ?_ rfl
  intro next updated
  refine ⟨fun fails => by rw [fails]; rfl, fun commits => ?_⟩
  rw [commits]
  simp only [mutatedInbound, bind_eq_ok, refuse_eq_ok, pure_eq_ok, getInbound_eq_ok] at checked
  obtain ⟨stored, ⟨_, found⟩, isWireguard, ⟨settings, peers⟩, decoded, changed, isChanged, _,
    accepted, rfl⟩ := checked
  cases isChanged
  simp only [updateWireguardInbound, bind_eq_ok, refuse_eq_ok, getInbound_eq_ok,
    attempt_eq_ok] at updated
  obtain ⟨exist, portChecked, free, ⟨_, written⟩, reread, _, _, again, ⟨_, foundAgain⟩, _,
    saved⟩ := updated
  rw [(inbound?_mem found).2, found] at foundAgain
  cases foundAgain
  obtain ⟨peersRead, isRead, same⟩ := bind_eq_ok.mp reread
  cases pure_eq_ok.mp same
  have isFree : exist = false := by simpa using free
  exact ⟨stored, settings, peers, written, found, not_not.mp isWireguard, decoded,
    validateWireguardPeers_eq_ok.mp accepted, isRead, isFree ▸ (checkPortExist_eq_ok.mp
      portChecked).2, saved⟩

end Effect

end VkTurn.Panel
