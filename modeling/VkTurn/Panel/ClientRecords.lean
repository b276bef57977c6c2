import VkTurn.Panel.Inbounds
import VkTurn.Panel.PeerBinding

/-! # The clients that are stored

The clients of every inbound, whatever its protocol, and what the calls do to them.  A save writes
the clients of one inbound.  A change of peers writes none, and neither does the binding of a VK
TURN client, which changes its links and its peer; what the client has in common with those of
Xray's own protocols, `toModelClient`, stays.
-/

namespace VkTurn.Panel

open VkTurn.Store
open VkTurn.Text (trimSpace)

/-! ## The table of clients -/

/-- The clients in settings, as `GetClients` reads them. -/
def settingsClients : Settings → List Client
  | .vkTurnProxy settings => settings.clients.map toModelClient
  | .clients clients => clients
  | .wireguard _ => []
  | .text _ => []

namespace Database

/-- The clients of each inbound under its id. -/
def clientTable (db : Database) : List (Int × List Client) :=
  db.inbounds.rows.map fun inbound => (inbound.id, settingsClients inbound.settings)

end Database

section Table

variable {db next : Database} {inbound : Inbound} {clients : List Client} {raw : Settings}

theorem clientTable_keys (db : Database) : (db.clientTable.map Prod.fst).Nodup := by
  unfold Database.clientTable
  rw [List.map_map]
  exact db.inbounds.valid.1

theorem clientTable_congr (same : next.inbounds = db.inbounds) :
    next.clientTable = db.clientTable := by
  unfold Database.clientTable
  rw [same]

theorem mem_clientTable (member : inbound ∈ db.inbounds.rows) :
    (inbound.id, settingsClients inbound.settings) ∈ db.clientTable :=
  List.mem_map_of_mem member

theorem clientTable_saved (saved : db.saveInbound inbound = .ok next) : next.clientTable =
    replaceRow Prod.fst (inbound.id, settingsClients inbound.settings) db.clientTable := by
  unfold Database.clientTable
  rw [(saveInbound_eq_ok.mp saved).1]
  exact map_replaceRow_key fun _ => rfl

theorem clientTable_upserted (saved : db.upsertInbound inbound = .ok next) : next.clientTable =
    upsertRow Prod.fst (inbound.id, settingsClients inbound.settings) db.clientTable := by
  unfold Database.clientTable
  rw [(upsertInbound_eq_ok.mp saved).1]
  exact map_upsertRow_key fun _ => rfl

/-- A save of an inbound with the clients that it has. -/
theorem clientTable_unchanged (saved : db.saveInbound inbound = .ok next)
    (same : (inbound.id, settingsClients inbound.settings) ∈ db.clientTable) :
    next.clientTable = db.clientTable := by
  rw [clientTable_saved saved]
  unfold replaceRow
  conv_rhs => rw [← List.map_id db.clientTable]
  refine List.map_congr_left fun other member => ?_
  by_cases sameKey : other.1 = inbound.id
  · rw [if_pos sameKey]
    exact (List.inj_on_of_nodup_map (clientTable_keys db) member same sameKey).symm
  · rw [if_neg sameKey]
    rfl

theorem readClient_eq_ok {client result : Client} (passed : readClient client = .ok result) :
    result = client := by
  unfold readClient at passed
  split at passed
  · cases passed
    rfl
  · cases passed

theorem mapM_readClient {read : List Client} (passed : clients.mapM readClient = .ok read) :
    read = clients :=
  (mapM_eq_map (fun _ _ => readClient_eq_ok) passed).trans (List.map_id clients)

theorem getClients_eq_ok (passed : getClients raw = .ok clients) :
    clients = settingsClients raw := by
  cases raw with
  | vkTurnProxy settings =>
    have passed : settings.clients.mapM (readClient ∘ toModelClient) = .ok clients := passed
    rw [← List.mapM_map] at passed
    exact mapM_readClient passed
  | wireguard settings =>
    cases passed
    rfl
  | clients stored => exact mapM_readClient passed
  | text text =>
    simp only [getClients] at passed
    split at passed
    · cases passed
      rfl
    · cases passed

/-- What a call on VK TURN clients reads of the clients it finds. -/
theorem decoded_emails {clock : Clock} {settings : VKTurnProxySettings}
    (decoded : getVKTurnProxySettings clock raw = .ok settings) :
    settings.clients = [] ∨
      settings.clients.map (·.email) = (settingsClients raw).map (·.email) := by
  obtain ⟨stored, isStored, rfl⟩ := getVKTurnProxySettings_eq_ok.mp decoded
  have sameEmails : (normalizeVKTurnProxySettings clock stored).clients.map (·.email) =
      stored.clients.map (·.email) := by
    unfold normalizeVKTurnProxySettings
    rw [List.map_map]
    rfl
  cases raw with
  | vkTurnProxy before =>
    refine .inr ?_
    have rawEmails : (settingsClients (.vkTurnProxy before)).map (·.email) =
        before.clients.map (·.email) := by
      unfold settingsClients
      rw [List.map_map]
      rfl
    rw [sameEmails, rawEmails]
    by_cases noClients : before.clients = []
    · have passed : sanitizeVKTurnProxySettingsJSON before = .ok stored := isStored
      rw [sanitizeVKTurnProxySettingsJSON, if_pos noClients] at passed
      cases passed
      rfl
    · have passed : sanitizeVKTurnProxySettingsJSON before = .ok stored := isStored
      rw [sanitizeVKTurnProxySettingsJSON, if_neg noClients] at passed
      obtain ⟨own, isOwn, passed⟩ := bind_eq_ok.mp passed
      obtain ⟨clients, isClients, passed⟩ := bind_eq_ok.mp passed
      cases pure_eq_ok.mp passed
      rw [← (rereadOwnNumbers_keeps isOwn).1]
      refine mapM_map_eq (fun client result passed => ?_) isClients
      simp only [rereadClient, bind_eq_ok, pure_eq_ok] at passed
      obtain ⟨_, _, _, _, _, _, _, _, _, _, _, _, _, _, _, _, rfl⟩ := passed
      rfl
  | wireguard before =>
    cases isStored
    exact .inl rfl
  | clients before =>
    cases isStored
    exact .inl rfl
  | text before =>
    simp only [decodeVKTurnProxySettings] at isStored
    split at isStored
    · cases isStored
      exact .inl rfl
    · cases isStored

end Table

/-! ## Changes of peers -/

section Peers

variable {library : Library} {faults : PeerSite → Bool} {inboundID : Int} {db : Database}
  {mutate : List WireguardPeer → Except String (List WireguardPeer)}
  {table : List (Int × List Client)}

theorem mutateWireguardPeers_clients :
    Keeps (mutateWireguardPeers library faults inboundID mutate) (·.clientTable = table) := by
  intro db isTable
  refine Ensures.bind (Ensures.query (fun inbound mutated => ?_) isTable)
  obtain ⟨old, isOld, mutated⟩ := bind_eq_ok.mp mutated
  obtain ⟨_, mutated⟩ := refuse_eq_ok.mp mutated
  obtain ⟨⟨settings, peers⟩, isRead, mutated⟩ := bind_eq_ok.mp mutated
  obtain ⟨_, _, mutated⟩ := bind_eq_ok.mp mutated
  obtain ⟨_, _, mutated⟩ := bind_eq_ok.mp mutated
  cases pure_eq_ok.mp mutated
  obtain ⟨stored, sameID⟩ := inbound?_mem (getInbound_eq_ok.mp isOld).2
  have noClients : settingsClients old.settings = [] := by
    cases raw : old.settings with
    | wireguard _ => rfl
    | vkTurnProxy _ => rw [raw] at isRead; cases isRead
    | clients _ => rw [raw] at isRead; cases isRead
    | text _ => rw [raw] at isRead; cases isRead
  have isEntry := mem_clientTable stored
  rw [noClients] at isEntry
  refine Ensures.uncheckedTransaction (fun next updated => ?_) isTable
  split
  · exact isTable
  · obtain ⟨_, _, updated⟩ := bind_eq_ok.mp updated
    obtain ⟨_, updated⟩ := refuse_eq_ok.mp updated
    obtain ⟨_, _, updated⟩ := bind_eq_ok.mp updated
    obtain ⟨_, _, updated⟩ := bind_eq_ok.mp updated
    obtain ⟨again, isAgain, updated⟩ := bind_eq_ok.mp updated
    obtain ⟨_, sameAgain⟩ := inbound?_mem (getInbound_eq_ok.mp isAgain).2
    rw [← isTable]
    refine clientTable_unchanged (attempt_eq_ok.mp updated).2 ?_
    rw [sameAgain]
    exact isEntry

theorem addInboundPeer_clients {data : Settings} :
    Keeps (addInboundPeer library faults inboundID data) (·.clientTable = table) :=
  Keeps.bind (Keeps.query _) fun _ => Keeps.refuse fun _ => mutateWireguardPeers_clients

theorem updateInboundPeer_clients {data : Settings} {peerIndex : Int} :
    Keeps (updateInboundPeer library faults inboundID data peerIndex) (·.clientTable = table) := by
  refine Keeps.bind (Keeps.query _) fun read => ?_
  dsimp only
  split
  · exact mutateWireguardPeers_clients
  · exact Keeps.throw _

end Peers

/-! ## The record of a VK TURN client -/

variable {library : Library} {faults : Faults} {clock : Clock} {state : Database}
  {wgInboundID : Int} {settings : VKTurnProxySettings} {client request : VKTurnProxyClient}
  {previous : Option VKTurnProxyClient}

theorem validateVKTurnProxyClient_record
    (passed : validateVKTurnProxyClient library request = .ok client) :
    toModelClient client = toModelClient request := by
  obtain ⟨_, passed⟩ := refuse_eq_ok.mp passed
  obtain ⟨_, passed⟩ := refuse_eq_ok.mp passed
  split at passed
  · cases passed
  · dsimp only at passed
    split at passed
    · split at passed
      · cases passed
      · obtain ⟨_, passed⟩ := refuse_eq_ok.mp passed
        obtain ⟨publicKey, _, passed⟩ := bind_eq_ok.mp passed
        obtain ⟨_, passed⟩ := refuse_eq_ok.mp passed
        cases pure_eq_ok.mp passed
        rfl
    · obtain ⟨_, passed⟩ := refuse_eq_ok.mp passed
      cases pure_eq_ok.mp passed
      rfl

/-- A client without links does not pass. -/
theorem validateVKTurnProxyClient_links
    (passed : validateVKTurnProxyClient library request = .ok client) :
    dedupedClientLinks request ≠ [] := by
  obtain ⟨_, passed⟩ := refuse_eq_ok.mp passed
  obtain ⟨_, passed⟩ := refuse_eq_ok.mp passed
  split at passed
  · cases passed
  · rename_i isLinks
    rw [isLinks]
    exact List.cons_ne_nil _ _

theorem applyBinding_clients {table : List (Int × List Client)} :
    Keeps (applyVKTurnProxyClientBinding library faults clock settings client previous)
      (·.clientTable = table) :=
  applyBinding_keeps fun _ _ => mutateWireguardPeers_clients

theorem ensureEnabled_record (client : VKTurnProxyClient) :
    Ensures (ensureVKTurnProxyClientPeerEnabled library faults clock wgInboundID client) state
      (fun bound _ => toModelClient bound = toModelClient client) (fun _ => True) := by
  refine Ensures.refuse (fun _ => trivial) fun _ => ?_
  refine Ensures.bind (Ensures.query (fun _ _ => ?_) trivial)
  refine Ensures.refuse (fun _ => trivial) fun _ => ?_
  split
  · exact Ensures.bind (Ensures.of_forall (fun _ _ => Ensures.pure rfl) fun _ => trivial)
  · exact Ensures.bind (Ensures.query (fun _ _ => Ensures.pure rfl) trivial)

theorem snapshot_record (db : Database) (fails : Bool) (client : VKTurnProxyClient) :
    toModelClient (snapshotVKTurnProxyClientPeer db fails wgInboundID client) =
      toModelClient client := by
  unfold snapshotVKTurnProxyClientPeer
  dsimp only
  split
  · rfl
  · split
    · rfl
    · rfl

theorem ensureDisabled_record (client : VKTurnProxyClient) :
    Ensures (ensureVKTurnProxyClientPeerDisabled library faults wgInboundID client) state
      (fun bound _ => toModelClient bound = toModelClient client) (fun _ => True) := by
  unfold ensureVKTurnProxyClientPeerDisabled
  dsimp only
  split
  · exact Ensures.pure rfl
  · refine Ensures.bind (Ensures.query (fun snapshot isSnapshot => ?_) trivial)
    cases isSnapshot
    refine Ensures.refuse (fun _ => trivial) fun _ => ?_
    exact Ensures.bind (Ensures.of_forall
      (fun _ _ => Ensures.pure (snapshot_record state (faults .peer) client)) fun _ => trivial)

theorem bindingCandidate_record :
    toModelClient (bindingCandidate client previous) = toModelClient client := by
  unfold bindingCandidate
  by_cases noKey : resolveVKTurnProxyClientPublicKey client = ""
  · simp only [noKey, ne_eq, not_true_eq_false, if_false]
    split
    · split
      · rfl
      · rfl
    · rfl
  · simp only [noKey, ne_eq, not_false_eq_true, if_true]
    split
    · split
      · rfl
      · rfl
    · rfl

theorem applyBinding_record :
    Ensures (applyVKTurnProxyClientBinding library faults clock settings client previous) state
      (fun bound _ => toModelClient bound = toModelClient client) (fun _ => True) := by
  have releases (bound : VKTurnProxyClient) (oldKey : String) (middle : Database)
      (same : toModelClient bound = toModelClient (bindingCandidate client previous)) :
      Ensures (if oldKey ≠ "" ∧ oldKey ≠ trimSpace bound.peerPublicKey then do
          removeWireguardPeerByPublicKey library (faults <| .release ·)
            settings.forward.wireguardInboundID oldKey
          pure bound
        else pure bound) middle
        (fun bound _ => toModelClient bound = toModelClient client) (fun _ => True) := by
    rw [bindingCandidate_record] at same
    split
    · exact Ensures.bind (Ensures.of_forall (fun _ _ => Ensures.pure same) fun _ => trivial)
    · exact Ensures.pure same
  refine Ensures.refuse (fun _ => trivial) fun _ => ?_
  dsimp only
  split
  · exact Ensures.bind ((ensureEnabled_record _).mono
      (fun bound middle same => releases bound _ middle same) fun _ => id)
  · split
    · exact Ensures.bind (Ensures.query (fun _ _ => Ensures.bind ((ensureDisabled_record _).mono
        (fun bound middle same => releases bound _ middle same) fun _ => id)) trivial)
    · exact Ensures.bind ((ensureDisabled_record _).mono
        (fun bound middle same => releases bound _ middle same) fun _ => id)

end VkTurn.Panel
