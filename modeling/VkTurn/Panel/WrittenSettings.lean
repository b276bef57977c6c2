import VkTurn.Panel.InboundAddition
import VkTurn.Panel.PeerConservation
import VkTurn.Store.Running

/-! # Settings that a call has written

What the next call reads of settings in which one client was exchanged: the same settings with that
client, found under the same id, and with the key that it held for nobody else to take.
-/

namespace VkTurn.Panel

open VkTurn.Store
open VkTurn.Text (trimSpace trimSpace_trimSpace)

/-! ## Records that JSON keeps -/

/-- A client that is read back as it was written. -/
def ExactRecord (client : VKTurnProxyClient) : Prop := rereadClient client = .ok client

/-- A clock whose time JSON keeps, and which does not give out the id. -/
structure ClockFor (clientID : String) (clock : Clock) : Prop where
  exact : Exact clock.now
  started : clock.now ≠ 0
  fresh : clock.uuid ≠ clientID

section Records

variable {client result : VKTurnProxyClient} {clientID : String} {clock : Clock}

theorem exactRecord_iff : ExactRecord client ↔ ExactClient client ∧ Exact client.createdAt ∧
    Exact client.updatedAt ∧
    ∀ snapshot, client.peer = some snapshot → Exact snapshot.keepAlive := by
  have snapshots : client.peer.mapM rereadClientPeer = .ok client.peer ↔
      ∀ snapshot, client.peer = some snapshot → Exact snapshot.keepAlive := by
    cases isPeer : client.peer with
    | none => exact iff_of_true rfl fun _ isSome => nomatch isSome
    | some snapshot =>
      have one : (some snapshot).mapM rereadClientPeer = (do
          let reread ← rereadClientPeer snapshot
          return some reread) := rfl
      simp only [one, rereadClientPeer, bind_eq_ok, pure_eq_ok, Option.some.injEq, forall_eq']
      constructor
      · rintro ⟨_, ⟨keepAlive, isRead, rfl⟩, same⟩
        have sameNumber := congrArg VKTurnProxyClientPeer.keepAlive same
        exact isRead.trans (congrArg Except.ok sameNumber)
      · intro exact
        exact ⟨_, ⟨_, exact, rfl⟩, rfl⟩
  constructor
  · intro exact
    have exact : rereadClient client = .ok client := exact
    simp only [rereadClient, bind_eq_ok, pure_eq_ok] at exact
    obtain ⟨limitIP, one, totalGB, two, expiryTime, three, tgID, four, reset, five, createdAt, six,
      updatedAt, seven, peer, eight, same⟩ := exact
    have limits := congrArg VKTurnProxyClient.limitIP same
    have totals := congrArg VKTurnProxyClient.totalGB same
    have expiries := congrArg VKTurnProxyClient.expiryTime same
    have tgIDs := congrArg VKTurnProxyClient.tgID same
    have resets := congrArg VKTurnProxyClient.reset same
    have created := congrArg VKTurnProxyClient.createdAt same
    have updated := congrArg VKTurnProxyClient.updatedAt same
    have peers := congrArg VKTurnProxyClient.peer same
    dsimp only at limits totals expiries tgIDs resets created updated peers
    subst limits totals expiries tgIDs resets created updated peers
    exact ⟨⟨one, two, three, four, five⟩, six, seven, snapshots.mp eight⟩
  · rintro ⟨⟨one, two, three, four, five⟩, six, seven, eight⟩
    unfold ExactRecord rereadClient
    simp only [bind_eq_ok, pure_eq_ok]
    exact ⟨_, one, _, two, _, three, _, four, _, five, _, six, _, seven, _, snapshots.mpr eight,
      rfl⟩

theorem exactRecord_of_reread (passed : rereadClient client = .ok result) : ExactRecord result := by
  obtain ⟨exact, created⟩ := exactClient_of_reread passed
  simp only [rereadClient, bind_eq_ok, pure_eq_ok] at passed
  obtain ⟨_, _, _, _, _, _, _, _, _, _, _, _, _, updated, peer, isPeer, rfl⟩ := passed
  refine exactRecord_iff.mpr ⟨exact, created, exact_of_reread updated, fun snapshot isSome => ?_⟩
  cases isStored : client.peer with
  | none =>
    rw [isStored] at isPeer
    cases isPeer
    cases isSome
  | some stored =>
    rw [isStored] at isPeer
    obtain ⟨reread, isReread, isRead⟩ := bind_eq_ok.mp isPeer
    cases isRead
    cases isSome
    obtain ⟨keepAlive, isRead, isReread⟩ := bind_eq_ok.mp isReread
    cases pure_eq_ok.mp isReread
    exact exact_of_reread isRead

theorem ExactRecord.normalize (exact : ExactRecord client) (timely : Exact clock.now) :
    ExactRecord (normalizeVKTurnProxyClient clock client) := by
  obtain ⟨⟨one, two, three, four, five⟩, created, _, snapshots⟩ := exactRecord_iff.mp exact
  refine exactRecord_iff.mpr ⟨⟨one, two, three, four, five⟩, ?_, timely, snapshots⟩
  unfold normalizeVKTurnProxyClient
  dsimp only
  split
  · exact timely
  · exact created

/-- Reading a client that is complete fills in the time of the reading alone. -/
theorem normalize_complete (named : client.id ≠ "") (created : client.createdAt ≠ 0) :
    normalizeVKTurnProxyClient clock client = { client with updatedAt := clock.now } := by
  unfold normalizeVKTurnProxyClient
  rw [if_neg named, if_neg created]

/-- A client that goes by the id goes by it after it was read again. -/
theorem normalize_id (fresh : clock.uuid ≠ clientID) (named : clientID ≠ "") :
    (normalizeVKTurnProxyClient clock client).id = clientID ↔ client.id = clientID := by
  unfold normalizeVKTurnProxyClient
  dsimp only
  split
  · rename_i unnamed
    rw [unnamed]
    exact iff_of_false fresh (Ne.symm named)
  · exact Iff.rfl

end Records

/-! ## Settings that JSON keeps -/

/-- Settings that come back as they were written, up to what their clients are filled in with. -/
structure Settled (settings : VKTurnProxySettings) : Prop where
  own : ExactOwn settings
  clients : ∀ client ∈ settings.clients, ExactRecord client
  normal : ∀ clock clients, normalizeVKTurnProxySettings clock { settings with clients } =
    { settings with clients := clients.map (normalizeVKTurnProxyClient clock) }

section Settings

variable {clock later : Clock} {raw : Settings} {settings : VKTurnProxySettings}
  {client bound : VKTurnProxyClient} {clients : List VKTurnProxyClient} {clientID : String}
  {index : Nat}

theorem settled_of_read (read : getVKTurnProxySettings clock raw = .ok settings)
    (hasClients : settings.clients ≠ []) (timely : Exact clock.now) : Settled settings := by
  have own := (parsed_exact read hasClients ⟨_, timely⟩).1
  obtain ⟨decoded, isDecoded, rfl⟩ := getVKTurnProxySettings_eq_ok.mp read
  refine ⟨own, fun client member => ?_, fun later clients => normalize_twice clients⟩
  obtain ⟨before, inDecoded, rfl⟩ := List.mem_map.mp member
  refine ExactRecord.normalize ?_ timely
  cases raw with
  | vkTurnProxy stored =>
    have passed : sanitizeVKTurnProxySettingsJSON stored = .ok decoded := isDecoded
    by_cases noClients : stored.clients = []
    · rw [sanitizeVKTurnProxySettingsJSON, if_pos noClients] at passed
      cases passed
      rw [noClients] at inDecoded
      cases inDecoded
    · rw [sanitizeVKTurnProxySettingsJSON, if_neg noClients] at passed
      obtain ⟨_, _, passed⟩ := bind_eq_ok.mp passed
      obtain ⟨_, isClients, passed⟩ := bind_eq_ok.mp passed
      cases pure_eq_ok.mp passed
      exact forall_of_mapM_eq_ok (fun _ _ => exactRecord_of_reread) isClients before inDecoded
  | wireguard stored =>
    cases isDecoded
    cases inDecoded
  | clients stored =>
    cases isDecoded
    cases inDecoded
  | text stored =>
    simp only [decodeVKTurnProxySettings] at isDecoded
    split at isDecoded
    · cases isDecoded
      cases inDecoded
    · cases isDecoded

theorem mapM_reread_self (exact : ∀ client ∈ clients, ExactRecord client) :
    clients.mapM rereadClient = .ok clients := by
  induction clients with
  | nil => rfl
  | cons head tail inductionHypothesis =>
    have rest := inductionHypothesis fun client member =>
      exact client (List.mem_cons_of_mem _ member)
    exact mapM_cons_eq_ok.mpr ⟨head, tail, exact head List.mem_cons_self, rest, rfl⟩

/-- Settled settings are read with the clients that were written. -/
theorem Settled.read (settled : Settled settings) (exact : ∀ client ∈ clients, ExactRecord client)
    (hasClients : clients ≠ []) :
    getVKTurnProxySettings later (.vkTurnProxy { settings with clients }) =
      .ok { settings with clients := clients.map (normalizeVKTurnProxyClient later) } := by
  obtain ⟨one, two, three, four, five⟩ := settled.own
  have sanitized : sanitizeVKTurnProxySettingsJSON { settings with clients } =
      .ok { settings with clients } := by
    have own : ExactOwn { settings with clients } := ⟨one, two, three, four, five⟩
    unfold sanitizeVKTurnProxySettingsJSON
    rw [if_neg hasClients, own.reread]
    exact bind_eq_ok.mpr ⟨_, rfl, bind_eq_ok.mpr ⟨clients, mapM_reread_self exact, rfl⟩⟩
  exact getVKTurnProxySettings_eq_ok.mpr ⟨_, sanitized, settled.normal later clients⟩

/-- The settings that the next call reads after one client was exchanged. -/
theorem Settled.read_exchanged (settled : Settled settings)
    (found : clientAt settings clientID = .ok (index, client)) (exact : ExactRecord bound) :
    getVKTurnProxySettings later
        (.vkTurnProxy { settings with clients := settings.clients.set index bound }) =
      .ok { settings with
        clients := (settings.clients.set index bound).map (normalizeVKTurnProxyClient later) } := by
  obtain ⟨inRange, _⟩ := List.getElem?_eq_some_iff.mp (clientAt_eq_ok found)
  refine settled.read (fun other member => ?_) fun nothing => ?_
  · obtain isOther | isBound := List.mem_or_eq_of_mem_set member
    · exact settled.clients other isOther
    · exact isBound ▸ exact
  · have noLength := congrArg List.length nothing
    simp at noLength
    simp [noLength] at inRange

/-! ## The client under an id -/

theorem clientAt_iff : clientAt settings clientID = .ok (index, client) ↔
    settings.clients[index]? = some client ∧ client.id = clientID ∧
      ∀ other ∈ settings.clients.take index, other.id ≠ clientID := by
  unfold clientAt findVKTurnProxyClientIndex
  constructor
  · intro found
    split at found
    · cases found
    · rename_i place isPlace
      split at found
      · cases found
      · rename_i stored isStored
        cases found
        obtain ⟨inRange, isID, others⟩ := List.findIdx?_eq_some_iff_getElem.mp isPlace
        obtain ⟨_, isClient⟩ := List.getElem?_eq_some_iff.mp isStored
        subst isClient
        refine ⟨isStored, by simpa using isID, fun other member => ?_⟩
        obtain ⟨position, before, isOther⟩ := List.mem_take_iff_getElem.mp member
        subst isOther
        simpa using others position (by omega)
  · rintro ⟨isStored, isID, others⟩
    obtain ⟨inRange, isClient⟩ := List.getElem?_eq_some_iff.mp isStored
    have isPlace : settings.clients.findIdx? (·.id = clientID) = some index := by
      refine List.findIdx?_eq_some_iff_getElem.mpr ⟨inRange, by simp [isClient, isID], ?_⟩
      intro position before
      have isTaken : settings.clients[position] ∈ settings.clients.take index :=
        List.mem_take_iff_getElem.mpr ⟨position, by omega, rfl⟩
      simpa using others _ isTaken
    simp [isPlace, isStored]

/-- The client that was exchanged is found again. -/
theorem clientAt_written (found : clientAt settings clientID = .ok (index, client))
    (fresh : later.uuid ≠ clientID) (named : clientID ≠ "") (sameID : bound.id = clientID) :
    clientAt { settings with
        clients := (settings.clients.set index bound).map (normalizeVKTurnProxyClient later) }
      clientID = .ok (index, normalizeVKTurnProxyClient later bound) := by
  obtain ⟨isStored, isID, others⟩ := clientAt_iff.mp found
  obtain ⟨inRange, _⟩ := List.getElem?_eq_some_iff.mp isStored
  refine clientAt_iff.mpr ⟨?_, (normalize_id fresh named).mpr sameID, fun other member => ?_⟩
  · simp [inRange]
  · rw [← List.map_take] at member
    obtain ⟨before, inTaken, rfl⟩ := List.mem_map.mp member
    rw [List.take_set_of_le le_rfl] at inTaken
    exact fun isOther => others before inTaken ((normalize_id fresh named).mp isOther)

end Settings

/-! ## Clients that pass -/

section Passing

variable {library : Library} {client other validated : VKTurnProxyClient} {peer : WireguardPeer}
  {enable : Bool} {updatedAt : Int}

theorem nodup_eraseDups (texts : List String) : texts.eraseDups.Nodup := by
  induction length : texts.length using Nat.strong_induction_on generalizing texts with
  | h _ inductionHypothesis =>
    cases texts with
    | nil => exact List.nodup_nil
    | cons head tail =>
      rw [List.eraseDups_cons, List.nodup_cons]
      constructor
      · simp [List.mem_eraseDups]
      · -- what is left of the tail is no longer than the tail
        refine inductionHypothesis _ ?_ _ rfl
        have shorter := List.length_filter_le (fun other => !other == head) tail
        simp only [List.length_cons] at length
        omega

theorem eraseDups_of_nodup {texts : List String} (distinct : texts.Nodup) :
    texts.eraseDups = texts := by
  induction texts with
  | nil => rfl
  | cons head tail inductionHypothesis =>
    obtain ⟨once, rest⟩ := List.nodup_cons.mp distinct
    have others : (tail.filter fun other => !other == head) = tail := by
      refine List.filter_eq_self.mpr fun other member => ?_
      simpa using fun same : other = head => once (same ▸ member)
    rw [List.eraseDups_cons, others, inductionHypothesis rest]

/-- Links that were checked are left alone. -/
theorem dedupedClientLinks_again (links : dedupedClientLinks client = other.link :: other.links) :
    dedupedClientLinks other = other.link :: other.links := by
  have checked : ∀ text ∈ other.link :: other.links, trimSpace text = text ∧ text ≠ "" := by
    intro text member
    rw [← links] at member
    unfold dedupedClientLinks at member
    rw [List.mem_eraseDups, List.mem_filter] at member
    obtain ⟨isTrimmed, notEmpty⟩ := member
    obtain ⟨raw, _, rfl⟩ := List.mem_map.mp isTrimmed
    exact ⟨trimSpace_trimSpace raw, by simpa using notEmpty⟩
  have trimmed : (other.link :: other.links).map trimSpace = other.link :: other.links := by
    conv_rhs => rw [← List.map_id (other.link :: other.links)]
    exact List.map_congr_left fun text member => (checked text member).1
  have kept : (other.link :: other.links).filter (· ≠ "") = other.link :: other.links :=
    List.filter_eq_self.mpr fun text member => by simpa using (checked text member).2
  unfold dedupedClientLinks at links ⊢
  rw [trimmed, kept, ← links, eraseDups_of_nodup (nodup_eraseDups _)]

/-- What the check fills in of a client. -/
structure FilledIn (client validated : VKTurnProxyClient) : Prop where
  named : trimSpace client.id ≠ ""
  addressed : trimSpace client.email ≠ ""
  links : dedupedClientLinks client = validated.link :: validated.links
  peer : validated.peer.isSome = client.peer.isSome
  managed : client.peerManaged = true → client.peer ≠ none
  others : validated = { client with
    link := validated.link
    links := validated.links
    peerPublicKey := validated.peerPublicKey
    peer := validated.peer }

theorem filledIn_of_passes (passes : validateVKTurnProxyClient library client = .ok validated) :
    FilledIn client validated := by
  obtain ⟨named, passes⟩ := refuse_eq_ok.mp passes
  obtain ⟨addressed, passes⟩ := refuse_eq_ok.mp passes
  split at passes
  · cases passes
  · rename_i link links isLinks
    dsimp only at passes
    split at passes
    · split at passes
      · cases passes
      · rename_i snapshot isPeer
        obtain ⟨_, passes⟩ := refuse_eq_ok.mp passes
        obtain ⟨publicKey, _, passes⟩ := bind_eq_ok.mp passes
        obtain ⟨_, passes⟩ := refuse_eq_ok.mp passes
        cases pure_eq_ok.mp passes
        exact ⟨named, addressed, isLinks, by simp [isPeer], by simp [isPeer], rfl⟩
    · rename_i notManaged
      obtain ⟨_, passes⟩ := refuse_eq_ok.mp passes
      cases pure_eq_ok.mp passes
      refine ⟨named, addressed, isLinks, ?_, fun isManaged => absurd isManaged notManaged, ?_⟩
      · dsimp only
      · dsimp only

/-- The check does not look at the switch and the time of a client. -/
theorem passes_with (passes : validateVKTurnProxyClient library client = .ok validated) :
    validateVKTurnProxyClient library { client with enable, updatedAt } =
      .ok { validated with enable, updatedAt } := by
  obtain ⟨named, passes⟩ := refuse_eq_ok.mp passes
  obtain ⟨addressed, passes⟩ := refuse_eq_ok.mp passes
  refine refuse_eq_ok.mpr ⟨named, refuse_eq_ok.mpr ⟨addressed, ?_⟩⟩
  have sameLinks : dedupedClientLinks { client with enable, updatedAt } =
      dedupedClientLinks client := rfl
  rw [sameLinks]
  split at passes
  · cases passes
  · dsimp only at passes ⊢
    split at passes
    · rename_i isManaged
      rw [if_pos isManaged]
      split at passes
      · cases passes
      · rename_i snapshot isPeer
        obtain ⟨hasPrivate, passes⟩ := refuse_eq_ok.mp passes
        obtain ⟨publicKey, derived, passes⟩ := bind_eq_ok.mp passes
        obtain ⟨hasIPs, passes⟩ := refuse_eq_ok.mp passes
        cases pure_eq_ok.mp passes
        exact refuse_eq_ok.mpr ⟨hasPrivate, bind_eq_ok.mpr ⟨publicKey, derived,
          refuse_eq_ok.mpr ⟨hasIPs, rfl⟩⟩⟩
    · rename_i isNotManaged
      rw [if_neg isNotManaged]
      obtain ⟨hasKey, passes⟩ := refuse_eq_ok.mp passes
      cases pure_eq_ok.mp passes
      -- `rfl` would compare the two records field by field
      exact refuse_eq_ok.mpr ⟨hasKey, pure_eq_ok.mpr (by dsimp only)⟩

/-- A client with the snapshot of an acceptable peer passes as it is, if that has the key of its
    private key where the client's own does. -/
theorem passes_snapshot (named : trimSpace client.id ≠ "") (addressed : trimSpace client.email ≠ "")
    (links : dedupedClientLinks client = client.link :: client.links)
    (isPeer : client.peer = some (cloneWireguardPeerToVKTurnProxyClientPeer peer))
    (isKey : client.peerPublicKey = trimSpace peer.publicKey)
    (filled : trimSpace peer.privateKey ≠ "" ∧ trimSpace peer.publicKey ≠ "" ∧ peer.allowedIPs ≠ [])
    (derives : client.peerManaged = true →
      deriveWireGuardPublicKey library peer.privateKey = .ok (trimSpace peer.publicKey)) :
    validateVKTurnProxyClient library client = .ok client := by
  refine refuse_eq_ok.mpr ⟨named, refuse_eq_ok.mpr ⟨addressed, ?_⟩⟩
  rw [links]
  dsimp only
  split
  · rename_i isManaged
    have derived : deriveWireGuardPublicKey library (trimSpace peer.privateKey) =
        .ok (trimSpace peer.publicKey) := by
      have same : parseWireGuardKey library (trimSpace peer.privateKey) =
          parseWireGuardKey library peer.privateKey := by
        unfold parseWireGuardKey
        rw [trimSpace_trimSpace]
      unfold deriveWireGuardPublicKey
      rw [same]
      exact derives isManaged
    rw [isPeer]
    refine refuse_eq_ok.mpr ⟨?_, bind_eq_ok.mpr ⟨_, derived, refuse_eq_ok.mpr ⟨filled.2.2, ?_⟩⟩⟩
    · unfold cloneWireguardPeerToVKTurnProxyClientPeer
      rw [trimSpace_trimSpace]
      exact filled.1
    · refine pure_eq_ok.mpr ?_
      cases client
      cases isPeer
      cases isKey
      rfl
  · have notBlank : trimSpace client.peerPublicKey ≠ "" := by
      rw [isKey, trimSpace_trimSpace]
      exact filled.2.1
    rw [if_neg notBlank]
    exact refuse_eq_ok.mpr ⟨notBlank, rfl⟩

end Passing

/-! ## Keys that stay available -/

/-- The binding that one client adds to the map. -/
def bindingOf (inbound : Inbound) (client : VKTurnProxyClient) :
    Option (String × VKTurnProxyPeerBinding) :=
  if trimSpace client.peerPublicKey = "" then none
  else some (trimSpace client.peerPublicKey, ⟨inbound.id, inbound.remark, client.id, client.email⟩)

section Bindings

variable {clock later : Clock} {db : Database} {wgInboundID : Int} {publicKey clientID : String}
  {inbound row old : Inbound} {settings : VKTurnProxySettings}
  {before after client bound : VKTurnProxyClient} {index : Nat}

theorem ensureAvailable_eq_ok :
    ensureVKTurnProxyBindingAvailable clock db false wgInboundID publicKey clientID = .ok () ↔
      ∀ binding, lastEntry (trimSpace publicKey)
        (db.vkTurnInbounds.flatMap (inboundBindings clock wgInboundID)) = some binding →
          binding.clientID = clientID := by
  unfold ensureVKTurnProxyBindingAvailable
  rw [bind_eq_ok]
  have isRead : getVKTurnProxyPeerBindings clock db false wgInboundID =
      .ok (db.vkTurnInbounds.flatMap (inboundBindings clock wgInboundID)).reverse := rfl
  simp only [isRead, Except.ok.injEq, exists_eq_left', lastEntry]
  cases found : (db.vkTurnInbounds.flatMap (inboundBindings clock wgInboundID)).reverse.lookup
      (trimSpace publicKey) with
  | none => exact iff_of_true rfl fun _ isSome => nomatch isSome
  | some binding =>
    simp only [Option.some.injEq, forall_eq']
    by_cases isClient : binding.clientID = clientID
    · rw [if_neg (not_not.mpr isClient)]
      exact iff_of_true rfl isClient
    · rw [if_pos isClient]
      exact iff_of_false nofun isClient

theorem inboundBindings_of_read
    (read : getVKTurnProxySettings clock inbound.settings = .ok settings)
    (forwards : settings.ForwardsTo wgInboundID) :
    inboundBindings clock wgInboundID inbound = settings.clients.filterMap (bindingOf inbound) := by
  unfold inboundBindings
  rw [read]
  exact if_pos forwards

theorem keepsMine_binding (sameKey : after.peerPublicKey = before.peerPublicKey)
    (stays : before.id = clientID → after.id = clientID) :
    KeepsMine (·.clientID = clientID) publicKey (bindingOf inbound before).toList
      (bindingOf row after).toList := by
  unfold bindingOf
  rw [sameKey]
  split
  · exact KeepsMine.nil
  · exact KeepsMine.single stays

/-- The bindings of an inbound that was not written, as they are read the next time. -/
theorem keepsMine_unwritten (fresh : ClockFor clientID clock) (freshLater : ClockFor clientID later)
    (named : clientID ≠ "") :
    KeepsMine (·.clientID = clientID) publicKey (inboundBindings clock wgInboundID inbound)
      (inboundBindings later wgInboundID inbound) := by
  cases decoded : decodeVKTurnProxySettings inbound.settings with
  | error message =>
    have fails (clock : Clock) : inboundBindings clock wgInboundID inbound = [] := by
      unfold inboundBindings getVKTurnProxySettings
      rw [decoded]
      rfl
    rw [fails, fails]
    exact KeepsMine.nil
  | ok stored =>
    have read (clock : Clock) : getVKTurnProxySettings clock inbound.settings =
        .ok (normalizeVKTurnProxySettings clock stored) :=
      getVKTurnProxySettings_eq_ok.mpr ⟨stored, decoded, rfl⟩
    by_cases forwards : stored.ForwardsTo wgInboundID
    · rw [inboundBindings_of_read (read clock) forwards,
        inboundBindings_of_read (read later) forwards]
      refine KeepsMine.filterMap ?_
      refine List.forall₂_map_left_iff.mpr (List.forall₂_map_right_iff.mpr ?_)
      refine List.forall₂_same.mpr fun client _ => ?_
      refine keepsMine_binding rfl fun isID => ?_
      exact (normalize_id freshLater.fresh named).mpr ((normalize_id fresh.fresh named).mp isID)
    · have elsewhere (clock : Clock) : inboundBindings clock wgInboundID inbound = [] := by
        unfold inboundBindings
        rw [read clock]
        exact if_neg forwards
      rw [elsewhere, elsewhere]
      exact KeepsMine.nil

/-- The bindings of the inbound whose client was exchanged for one under its id and its key. -/
theorem keepsMine_written (read : getVKTurnProxySettings clock old.settings = .ok settings)
    (settled : Settled settings) (forwards : settings.ForwardsTo wgInboundID)
    (found : clientAt settings clientID = .ok (index, client))
    (written : row.settings =
      .vkTurnProxy { settings with clients := settings.clients.set index bound })
    (exact : ExactRecord bound) (sameID : bound.id = clientID) (named : clientID ≠ "")
    (isKey : trimSpace bound.peerPublicKey = publicKey) (hasKey : publicKey ≠ "")
    (freshLater : ClockFor clientID later) :
    KeepsMine (·.clientID = clientID) publicKey (inboundBindings clock wgInboundID old)
      (inboundBindings later wgInboundID row) := by
  have readLater : getVKTurnProxySettings later row.settings = .ok { settings with
      clients := (settings.clients.set index bound).map (normalizeVKTurnProxyClient later) } :=
    written ▸ settled.read_exchanged found exact
  rw [inboundBindings_of_read read forwards, inboundBindings_of_read readLater forwards]
  refine KeepsMine.filterMap ?_
  refine List.forall₂_map_right_iff.mpr (forall₂_set (fun other _ => ?_) fun other _ => ?_)
  · exact keepsMine_binding rfl fun isID => (normalize_id freshLater.fresh named).mpr isID
  · -- whoever was bound under the key, the client itself is now
    have isBinding : bindingOf row (normalizeVKTurnProxyClient later bound) = some (publicKey,
        ⟨row.id, row.remark, (normalizeVKTurnProxyClient later bound).id, bound.email⟩) := by
      unfold bindingOf normalizeVKTurnProxyClient
      rw [isKey]
      exact if_neg hasKey
    rw [isBinding]
    exact KeepsMine.of_single ((normalize_id freshLater.fresh named).mpr sameID)

end Bindings

end VkTurn.Panel
