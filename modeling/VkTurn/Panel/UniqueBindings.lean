import VkTurn.Panel.PeerBinding

/-! # The bindings after a call

A call writes the clients of one inbound, with one client new or replaced.  That keeps the
bindings unique as long as the id of the client is its own: among the clients of its inbound,
and against the client of another inbound that holds the key.
-/

namespace VkTurn.Panel

open VkTurn.Store VkTurn.Transition
open VkTurn.Text (trimSpace)

/-! ## Reading what was written -/

section Written

variable {clock : Clock} {inbound : Inbound} {settings : VKTurnProxySettings}
  {clients others : List VKTurnProxyClient}

theorem ids_of_parts (same : clients.map bindingPart = others.map bindingPart) :
    clients.map (·.id) = others.map (·.id) := by
  have ids (list : List VKTurnProxyClient) : list.map (·.id) = (list.map bindingPart).map (·.1) := by
    rw [List.map_map]
    rfl
  rw [ids, ids, same]

theorem held_of_parts (same : clients.map bindingPart = others.map bindingPart) :
    clients.filterMap heldBy = others.filterMap heldBy := by
  have held (list : List VKTurnProxyClient) : list.filterMap heldBy =
      (list.map bindingPart).filterMap fun part =>
        if part.2.1 = "" then none else some (part.2.1, part.1) := by
    rw [List.filterMap_map]
    rfl
  rw [held, held, same]

theorem kept_of_parts (same : clients.map bindingPart = others.map bindingPart)
    (kept : ∀ client ∈ others, KeptClient client) : ∀ client ∈ clients, KeptClient client := by
  intro client member
  have isPart : bindingPart client ∈ others.map bindingPart :=
    same ▸ List.mem_map_of_mem member
  obtain ⟨other, isOther, samePart⟩ := List.mem_map.mp isPart
  rw [keptClient_iff, ← samePart, ← keptClient_iff]
  exact kept other isOther

/-- What a call reads of an inbound. -/
theorem read_inbound (named : ∀ client ∈ storedClients inbound, client.id ≠ "")
    (decoded : getVKTurnProxySettings clock inbound.settings = .ok settings) :
    settings.clients.map bindingPart = (storedClients inbound).map bindingPart ∧
      (settings.forward.type = .wireguardInbound → ∀ wgInboundID, heldIn wgInboundID inbound =
        if settings.forward.wireguardInboundID = wgInboundID then
          settings.clients.filterMap heldBy else []) := by
  obtain ⟨stored, isStored, rfl⟩ := getVKTurnProxySettings_eq_ok.mp decoded
  unfold storedClients at named ⊢
  unfold heldIn
  rw [isStored] at named ⊢
  have same : (normalizeVKTurnProxySettings clock stored).clients.map bindingPart =
      stored.clients.map bindingPart := by
    simp only [normalizeVKTurnProxySettings, List.map_map]
    exact List.map_congr_left fun client member =>
      normalizeVKTurnProxyClient_keeps (named client member)
  refine ⟨same, fun isWireguard wgInboundID => ?_⟩
  have isWireguard : stored.forward.type = .wireguardInbound := isWireguard
  rw [held_of_parts same]
  simp only [isWireguard, true_and]
  rfl

/-- What can be read of an inbound after its clients were written: nothing, or these clients. -/
theorem written_inbound (isWireguard : settings.forward.type = .wireguardInbound)
    (hasClients : clients ≠ [])
    (exact : ∀ number, rereadNumber settings.forward.wireguardInboundID = .ok number →
      number = settings.forward.wireguardInboundID)
    (written : inbound.settings = .vkTurnProxy { settings with clients }) :
    (storedClients inbound = [] ∧ ∀ wgInboundID, heldIn wgInboundID inbound = []) ∨
    ((storedClients inbound).map bindingPart = clients.map bindingPart ∧
      ∀ wgInboundID, heldIn wgInboundID inbound =
        if settings.forward.wireguardInboundID = wgInboundID then clients.filterMap heldBy
        else []) := by
  have decodes : decodeVKTurnProxySettings inbound.settings =
      sanitizeVKTurnProxySettingsJSON { settings with clients } := by rw [written]; rfl
  unfold storedClients heldIn
  rw [decodes]
  cases sanitized : sanitizeVKTurnProxySettingsJSON { settings with clients } with
  | error message => exact .inl ⟨rfl, fun _ => rfl⟩
  | ok reread =>
    obtain ⟨same, sameType, isRead⟩ := sanitize_keeps hasClients sanitized
    have sameID := exact _ isRead
    refine .inr ⟨same, fun wgInboundID => ?_⟩
    dsimp only
    rw [held_of_parts same, sameID, sameType]
    simp only [isWireguard, true_and]

/-- The number of the WireGuard inbound in settings with clients is one that their JSON keeps. -/
theorem get_exact (decoded : getVKTurnProxySettings clock inbound.settings = .ok settings)
    (hasClients : settings.clients ≠ []) (number : Int)
    (isRead : rereadNumber settings.forward.wireguardInboundID = .ok number) :
    number = settings.forward.wireguardInboundID := by
  obtain ⟨stored, isStored, rfl⟩ := getVKTurnProxySettings_eq_ok.mp decoded
  have storedClients : stored.clients ≠ [] := fun noClients =>
    hasClients (List.map_eq_nil_iff.mpr noClients)
  have isKept := decode_exact isStored storedClients
  exact Except.ok.inj (isRead.symm.trans isKept)

end Written

/-! ## Writing the clients of an inbound -/

section Save

variable {clock : Clock} {inbounds : List Inbound} {old : Inbound} {settings : VKTurnProxySettings}
  {client bound : VKTurnProxyClient} {clients siblings : List VKTurnProxyClient}

/-- The id of a client is its own: no sibling has it, and no client of another inbound that holds
    the key that this one asks for. -/
structure OwnID (inbounds : List Inbound) (inboundID wgInboundID : Int)
    (siblings : List VKTurnProxyClient) (client : VKTurnProxyClient) : Prop where
  siblings : client.id ∉ siblings.map (·.id)
  holders : (resolveVKTurnProxyClientPublicKey client, client.id) ∉
    (inbounds.filter (·.id ≠ inboundID)).flatMap (heldIn wgInboundID)

/-- The keys that are held when one client of an inbound is new. -/
theorem keys_with (well : WellBound inbounds) {wgInboundID : Int} {others : List Inbound}
    (perm : inbounds.Perm (old :: others)) (elsewhere : ∀ other ∈ others, other.id ≠ old.id)
    {held : List VKTurnProxyClient} (isHeld : heldIn wgInboundID old = held.filterMap heldBy)
    (sub : siblings.Sublist held) (isBound : BoundAs inbounds wgInboundID client bound)
    (own : OwnID inbounds old.id wgInboundID siblings client) :
    (((bound :: siblings).filterMap heldBy ++ others.flatMap (heldIn wgInboundID)).map
      Prod.fst).Nodup := by
  have before : ((held.filterMap heldBy ++ others.flatMap (heldIn wgInboundID)).map
      Prod.fst).Nodup := by
    rw [← isHeld]
    exact ((perm.flatMap_right _).map Prod.fst).nodup_iff.mp (well.unique.keys wgInboundID)
  have rest : ((siblings.filterMap heldBy ++ others.flatMap (heldIn wgInboundID)).map
      Prod.fst).Nodup :=
    before.sublist (((sub.filterMap heldBy).append (List.Sublist.refl _)).map Prod.fst)
  cases isKey : heldBy bound with
  | none => rwa [List.filterMap_cons_none isKey]
  | some held =>
    rw [List.filterMap_cons_some isKey, List.cons_append, List.map_cons, List.nodup_cons]
    refine ⟨fun isTaken => ?_, rest⟩
    obtain ⟨rfl, available⟩ := isBound.key held isKey
    obtain ⟨⟨key, holder⟩, isEntry, rfl⟩ := List.mem_map.mp isTaken
    -- whoever holds the key goes by the id of the client
    have inOld : siblings.filterMap heldBy ++ others.flatMap (heldIn wgInboundID) ⊆
        inbounds.flatMap (heldIn wgInboundID) := by
      intro entry member
      refine (perm.flatMap_right _).mem_iff.mpr ?_
      rw [List.flatMap_cons, isHeld]
      exact ((sub.filterMap heldBy).append (List.Sublist.refl _)).subset member
    have isClient := available holder (inOld isEntry)
    subst isClient
    obtain inSiblings | inOthers := List.mem_append.mp isEntry
    · obtain ⟨sibling, isSibling, holds⟩ := List.mem_filterMap.mp inSiblings
      refine own.siblings (List.mem_map.mpr ⟨sibling, isSibling, ?_⟩)
      unfold heldBy at holds
      split at holds
      · cases holds
      · exact congrArg Prod.snd (Option.some.inj holds)
    · refine own.holders ?_
      obtain ⟨other, isOther, holds⟩ := List.mem_flatMap.mp inOthers
      refine List.mem_flatMap.mpr ⟨other, List.mem_filter.mpr ⟨?_, ?_⟩, holds⟩
      · exact perm.mem_iff.mpr (List.mem_cons_of_mem _ isOther)
      · exact decide_eq_true (elsewhere other isOther)

/-- Writing one client, new or in place of another, keeps the bindings unique. -/
theorem WellBound.save (well : WellBound inbounds) (distinct : (inbounds.map (·.id)).Nodup)
    (isOld : old ∈ inbounds) (decoded : getVKTurnProxySettings clock old.settings = .ok settings)
    (isWireguard : settings.forward.type = .wireguardInbound)
    (exact : ∀ number, rereadNumber settings.forward.wireguardInboundID = .ok number →
      number = settings.forward.wireguardInboundID)
    (written : clients.Perm (bound :: siblings)) (sub : siblings.Sublist settings.clients)
    (isBound : BoundAs inbounds settings.forward.wireguardInboundID client bound)
    (named : client.id ≠ "")
    (own : OwnID inbounds old.id settings.forward.wireguardInboundID siblings client) :
    WellBound (replaceRow (·.id) { old with settings := .vkTurnProxy { settings with clients } }
      inbounds) := by
  obtain ⟨row, isRow⟩ : ∃ row : Inbound,
      row = { old with settings := .vkTurnProxy { settings with clients } } := ⟨_, rfl⟩
  rw [← isRow]
  have sameID : old.id = row.id := by rw [isRow]
  obtain ⟨others, permOld, permNew, elsewhere⟩ := replaceRow_perm distinct isOld sameID
  rw [← sameID] at elsewhere
  have isOthers : ∀ other ∈ others, other ∈ inbounds := fun other member =>
    permOld.mem_iff.mpr (List.mem_cons_of_mem _ member)
  have keptOld := well.kept old isOld
  obtain ⟨sameClients, heldOld⟩ :=
    read_inbound (fun client member => (keptOld client member).named) decoded
  have keptClients : ∀ stored ∈ settings.clients, KeptClient stored :=
    kept_of_parts sameClients keptOld
  have hasClients : clients ≠ [] := by
    intro noClients
    rw [noClients] at written
    exact absurd written.length_eq (by simp)
  -- what can be read of the row that was written
  have rowParts := written_inbound isWireguard hasClients exact
    (show row.settings = .vkTurnProxy { settings with clients } by rw [isRow])
  refine ⟨⟨fun wgInboundID => ?_, fun inbound isInbound => ?_⟩, fun inbound isInbound => ?_⟩
  · refine ((permNew.flatMap_right _).map Prod.fst).nodup_iff.mpr ?_
    rw [List.flatMap_cons]
    have before := ((permOld.flatMap_right _).map Prod.fst).nodup_iff.mp
      (well.unique.keys wgInboundID)
    have onlyOthers : (([] ++ others.flatMap (heldIn wgInboundID)).map Prod.fst).Nodup :=
      before.sublist ((List.sublist_append_right _ _).map Prod.fst)
    obtain ⟨_, nothing⟩ | ⟨_, heldRow⟩ := rowParts
    · rw [nothing]
      exact onlyOthers
    · rw [heldRow]
      split
      · rename_i same
        subst same
        have isHeld := (heldOld isWireguard settings.forward.wireguardInboundID).trans
          (if_pos rfl)
        refine (((written.filterMap heldBy).append_right _).map Prod.fst).nodup_iff.mpr ?_
        exact keys_with well permOld elsewhere isHeld sub isBound own
      · exact onlyOthers
  · obtain rfl | isOther := List.mem_cons.mp (permNew.mem_iff.mp isInbound)
    · obtain ⟨noClients, _⟩ | ⟨parts, _⟩ := rowParts
      · rw [noClients]
        exact List.nodup_nil
      · rw [ids_of_parts parts, (written.map _).nodup_iff, List.map_cons, List.nodup_cons,
          isBound.id]
        refine ⟨own.siblings, List.Nodup.sublist (sub.map _) ?_⟩
        rw [ids_of_parts sameClients]
        exact well.unique.ids old isOld
    · exact well.unique.ids inbound (isOthers inbound isOther)
  · obtain rfl | isOther := List.mem_cons.mp (permNew.mem_iff.mp isInbound)
    · obtain ⟨noClients, _⟩ | ⟨parts, _⟩ := rowParts
      · rw [noClients]
        exact fun _ member => nomatch member
      · refine kept_of_parts parts fun stored member => ?_
        obtain rfl | isSibling := List.mem_cons.mp (written.mem_iff.mp member)
        · exact ⟨isBound.id ▸ named, isBound.snapshot⟩
        · exact keptClients stored (sub.subset isSibling)
    · exact well.kept inbound (isOthers inbound isOther)

end Save

/-! ## The calls -/

section Calls

variable {library : Library} {faults : Faults} {clock : Clock} {db middle next : Database}
  {inboundID : Int} {old : Inbound} {settings : VKTurnProxySettings} {data : Envelope}
  {clientID : String} {client : VKTurnProxyClient}

/-- A call that leaves the bindings alone until it saves the inbound that it has read. -/
theorem saved_vkTurnInbounds (row : Inbound) (isOld : old ∈ db.inbounds.rows)
    (sameID : old.id = row.id) (sameProtocol : old.protocol = row.protocol)
    (same : middle.vkTurnInbounds = db.vkTurnInbounds) (saved : middle.saveInbound row = .ok next) :
    next.vkTurnInbounds = replaceRow (·.id) row db.vkTurnInbounds := by
  rw [← same]
  unfold Database.vkTurnInbounds at same ⊢
  rw [(saveInbound_eq_ok.mp saved).1]
  refine filter_replaceRow fun other isOther hit => ?_
  rw [← sameProtocol]
  by_cases isVKTurn : old.protocol = .vkTurnProxy
  · -- the row is still the one that was read
    have isStored : old ∈ db.inbounds.rows.filter (·.protocol = .vkTurnProxy) :=
      List.mem_filter.mpr ⟨isOld, decide_eq_true isVKTurn⟩
    rw [← same] at isStored
    rw [inbound_eq_of_id isOther (List.mem_filter.mp isStored).1 (hit.trans sameID.symm)]
  · have notVKTurn : other.protocol ≠ .vkTurnProxy := by
      intro otherVKTurn
      have isStored : other ∈ middle.inbounds.rows.filter (·.protocol = .vkTurnProxy) :=
        List.mem_filter.mpr ⟨isOther, decide_eq_true otherVKTurn⟩
      rw [same] at isStored
      refine isVKTurn ?_
      rw [← inbound_eq_of_id (List.mem_filter.mp isStored).1 isOld (hit.trans sameID.symm)]
      exact otherVKTurn
    rw [decide_eq_false isVKTurn, decide_eq_false notVKTurn]

/-- A client that passes the check has an id. -/
theorem validateVKTurnProxyClient_named {request : VKTurnProxyClient}
    (passed : validateVKTurnProxyClient library request = .ok client) : client.id ≠ "" := by
  obtain ⟨notBlank, passed⟩ := refuse_eq_ok.mp passed
  obtain ⟨_, passed⟩ := refuse_eq_ok.mp passed
  have sameID : client.id = request.id := by
    split at passed
    · cases passed
    · dsimp only at passed
      split at passed
      · split at passed
        · cases passed
        · obtain ⟨_, passed⟩ := refuse_eq_ok.mp passed
          obtain ⟨publicKey, _, passed⟩ := bind_eq_ok.mp passed
          obtain ⟨_, passed⟩ := refuse_eq_ok.mp passed
          cases pure_eq_ok.mp passed
          rfl
      · obtain ⟨_, passed⟩ := refuse_eq_ok.mp passed
        cases pure_eq_ok.mp passed
        rfl
  intro isEmpty
  rw [← sameID, isEmpty] at notBlank
  exact notBlank (by decide)

/-- Saving the inbound that was read, with one client new or replaced. -/
theorem WellBound.saved (well : WellBound db.vkTurnInbounds)
    (found : db.inbound? inboundID = some old)
    (decoded : getVKTurnProxySettings clock old.settings = .ok settings)
    {request bound : VKTurnProxyClient} {clients siblings : List VKTurnProxyClient}
    (exact : ∀ number, rereadNumber settings.forward.wireguardInboundID = .ok number →
      number = settings.forward.wireguardInboundID)
    (written : clients.Perm (bound :: siblings)) (sub : siblings.Sublist settings.clients)
    (isWireguard : settings.forward.type = .wireguardInbound)
    (same : middle.vkTurnInbounds = db.vkTurnInbounds)
    (isBound : old.protocol = .vkTurnProxy →
      BoundAs db.vkTurnInbounds settings.forward.wireguardInboundID request bound)
    (named : request.id ≠ "")
    (own : OwnID db.vkTurnInbounds inboundID settings.forward.wireguardInboundID siblings request)
    {saveTraffics : Database → Except String Database}
    (keeps : ∀ before after, saveTraffics before = .ok after → after.inbounds = before.inbounds)
    (saves : saveSettings faults old { settings with clients } saveTraffics middle = .ok next) :
    WellBound next.vkTurnInbounds := by
  obtain ⟨isOld, rfl⟩ := inbound?_mem found
  obtain ⟨stored, isStored, sameRows⟩ := saveSettings_inbounds keeps saves
  rw [Database.vkTurnInbounds, sameRows, ← Database.vkTurnInbounds,
    saved_vkTurnInbounds { old with settings := .vkTurnProxy { settings with clients } }
      isOld rfl rfl same isStored]
  by_cases isVKTurn : old.protocol = .vkTurnProxy
  · have isRow : old ∈ db.vkTurnInbounds := List.mem_filter.mpr ⟨isOld, decide_eq_true isVKTurn⟩
    exact well.save (vkTurnInbounds_distinct db) isRow decoded isWireguard exact written sub
      (isBound isVKTurn) named own
  · rw [replaceRow_of_not_mem fun other isOther sameID => ?_]
    · exact well
    · obtain ⟨isRow, otherVKTurn⟩ := List.mem_filter.mp isOther
      rw [inbound_eq_of_id isRow isOld sameID] at otherVKTurn
      exact isVKTurn (of_decide_eq_true otherVKTurn)

/-- The client of an add has an id of its own, and the number of the WireGuard inbound is one that
    its JSON keeps. -/
def AddsOwnID (library : Library) (clock : Clock) (db : Database) (inboundID : Int)
    (data : Envelope) : Prop :=
  ∀ old settings request client, db.inbound? inboundID = some old →
    getVKTurnProxySettings clock old.settings = .ok settings → data = .ok [request] →
    validateVKTurnProxyClient library (normalizeVKTurnProxyClient clock request) = .ok client →
    OwnID db.vkTurnInbounds inboundID settings.forward.wireguardInboundID settings.clients client ∧
      ∀ number, rereadNumber settings.forward.wireguardInboundID = .ok number →
        number = settings.forward.wireguardInboundID

/-- The client of an update has an id of its own. -/
def UpdatesOwnID (library : Library) (clock : Clock) (db : Database) (inboundID : Int)
    (data : Envelope) (clientID : String) : Prop :=
  ∀ old settings request index previous client, db.inbound? inboundID = some old →
    getVKTurnProxySettings clock old.settings = .ok settings → data = .ok [request] →
    clientAt settings clientID = .ok (index, previous) →
    validateVKTurnProxyClient library
      (normalizeVKTurnProxyClient clock (replacementClient request previous)) = .ok client →
    OwnID db.vkTurnInbounds inboundID settings.forward.wireguardInboundID
      (settings.clients.eraseIdx index) client

theorem onlyClient_eq_ok {purpose : String} (passed : onlyClient data purpose = .ok client) :
    data = .ok [client] := by
  obtain ⟨clients, isData, passed⟩ := bind_eq_ok.mp passed
  rw [isData]
  split at passed
  · cases pure_eq_ok.mp passed
    rfl
  · cases passed

theorem clientAt_eq_ok {index : Nat} {previous : VKTurnProxyClient}
    (found : clientAt settings clientID = .ok (index, previous)) :
    settings.clients[index]? = some previous := by
  unfold clientAt at found
  split at found
  · cases found
  · split at found
    · cases found
    · rename_i isClient
      cases found
      exact isClient

theorem addVKTurnProxyClient_ensures (well : WellBound db.vkTurnInbounds)
    (own : AddsOwnID library clock db inboundID data) :
    Ensures (addVKTurnProxyClient library faults clock inboundID data) db
      (fun _ next => WellBound next.vkTurnInbounds) (fun next => WellBound next.vkTurnInbounds) := by
  refine Ensures.bind (Ensures.query (fun ⟨old, settings, client⟩ checked => ?_) well)
  obtain ⟨inbound, found, checked⟩ := bind_eq_ok.mp checked
  obtain ⟨decoded, isDecoded, checked⟩ := bind_eq_ok.mp checked
  obtain ⟨_, _, checked⟩ := bind_eq_ok.mp checked
  obtain ⟨request, isRequest, checked⟩ := bind_eq_ok.mp checked
  obtain ⟨validated, isValid, checked⟩ := bind_eq_ok.mp checked
  obtain ⟨_, _, checked⟩ := bind_eq_ok.mp checked
  cases pure_eq_ok.mp checked
  have found := (getInbound_eq_ok.mp found).2
  obtain ⟨ownID, exact⟩ :=
    own old settings request client found isDecoded (onlyClient_eq_ok isRequest) isValid
  refine Ensures.bind ((applyBinding_ensures well).mono ?_ fun next same => same ▸ well)
  rintro bound middle ⟨isWireguard, same, isBound⟩
  refine Ensures.transaction (fun next saves _ => ?_) fun _ => same ▸ well
  exact well.saved found isDecoded exact (List.perm_append_singleton _ _) (List.Sublist.refl _)
    isWireguard same (fun _ => isBound fun _ isPrevious => nomatch isPrevious)
    (validateVKTurnProxyClient_named isValid) ownID (fun _ _ => addTraffic_inbounds) saves

theorem updateVKTurnProxyClient_ensures (well : WellBound db.vkTurnInbounds)
    (own : UpdatesOwnID library clock db inboundID data clientID) :
    Ensures (updateVKTurnProxyClient library faults clock inboundID data clientID) db
      (fun _ next => WellBound next.vkTurnInbounds) (fun next => WellBound next.vkTurnInbounds) := by
  refine Ensures.bind (Ensures.query (fun ⟨old, settings, index, previous, client⟩ checked => ?_)
    well)
  obtain ⟨inbound, found, checked⟩ := bind_eq_ok.mp checked
  obtain ⟨decoded, isDecoded, checked⟩ := bind_eq_ok.mp checked
  obtain ⟨_, _, checked⟩ := bind_eq_ok.mp checked
  obtain ⟨request, isRequest, checked⟩ := bind_eq_ok.mp checked
  obtain ⟨⟨place, stored⟩, isStored, checked⟩ := bind_eq_ok.mp checked
  obtain ⟨validated, isValid, checked⟩ := bind_eq_ok.mp checked
  have sameRead : inbound = old ∧ decoded = settings ∧ place = index ∧ stored = previous ∧
      validated = client := by
    split at checked
    · obtain ⟨_, _, checked⟩ := bind_eq_ok.mp checked
      cases pure_eq_ok.mp checked
      exact ⟨rfl, rfl, rfl, rfl, rfl⟩
    · cases pure_eq_ok.mp checked
      exact ⟨rfl, rfl, rfl, rfl, rfl⟩
  obtain ⟨rfl, rfl, rfl, rfl, rfl⟩ := sameRead
  have found := (getInbound_eq_ok.mp found).2
  have ownID := own inbound decoded request place stored validated found isDecoded
    (onlyClient_eq_ok isRequest) isStored isValid
  obtain ⟨inRange, isPrevious⟩ := List.getElem?_eq_some_iff.mp (clientAt_eq_ok isStored)
  have isMember : stored ∈ decoded.clients := isPrevious ▸ List.getElem_mem inRange
  -- the client that is replaced is one that a call has written
  have keptPrevious (isVKTurn : inbound.protocol = .vkTurnProxy) : KeptClient stored := by
    have isRow : inbound ∈ db.vkTurnInbounds :=
      List.mem_filter.mpr ⟨(inbound?_mem found).1, decide_eq_true isVKTurn⟩
    have kept := well.kept inbound isRow
    have sameClients := (read_inbound (fun client member => (kept client member).named) isDecoded).1
    exact kept_of_parts sameClients kept stored isMember
  refine Ensures.bind ((applyBinding_ensures well).mono ?_ fun next same => same ▸ well)
  rintro bound middle ⟨isWireguard, same, isBound⟩
  refine Ensures.transaction (fun next saves _ => ?_) fun _ => same ▸ well
  refine well.saved found isDecoded (get_exact isDecoded (List.ne_nil_of_mem isMember))
    (List.set_perm_cons_eraseIdx inRange bound) (List.eraseIdx_sublist ..) isWireguard same
    (fun isVKTurn => isBound fun previous isSome => ?_) (validateVKTurnProxyClient_named isValid)
    ownID (fun _ _ => updateTraffic_inbounds) saves
  cases isSome
  exact keptPrevious isVKTurn

end Calls

/-! ## Sequences of calls -/

inductive BindingRequest where
  | add (inboundID : Int) (data : Envelope)
  | update (inboundID : Int) (data : Envelope) (clientID : String)

/-- A call, with the statements of it that fail and what it asks of the machine. -/
structure BindingCall where
  request : BindingRequest
  faults : Faults := fun _ => false
  clock : Clock

def BindingCall.program (library : Library) (call : BindingCall) : Program Database Unit :=
  match call.request with
  | .add inboundID data => addVKTurnProxyClient library call.faults call.clock inboundID data
  | .update inboundID data clientID =>
    updateVKTurnProxyClient library call.faults call.clock inboundID data clientID

/-- The database under one call after the other, which keeps what a failed call has written. -/
def bindingCalls (library : Library) : Machine Database BindingCall where
  step db call := some (call.program library db).2

/-- The call binds a client whose id is its own. -/
def OwnsItsID (library : Library) (db : Database) (call : BindingCall) : Prop :=
  match call.request with
  | .add inboundID data => AddsOwnID library call.clock db inboundID data
  | .update inboundID data clientID => UpdatesOwnID library call.clock db inboundID data clientID

theorem WellBound.step {library : Library} {db : Database} {call : BindingCall}
    (well : WellBound db.vkTurnInbounds) (own : OwnsItsID library db call) :
    WellBound (call.program library db).2.vkTurnInbounds := by
  have ensured : Ensures (call.program library) db
      (fun _ next => WellBound next.vkTurnInbounds) (fun next => WellBound next.vkTurnInbounds) := by
    unfold BindingCall.program
    unfold OwnsItsID at own
    split at own
    · exact addVKTurnProxyClient_ensures well own
    · exact updateVKTurnProxyClient_ensures well own
  unfold Ensures at ensured
  split at ensured
  · rename_i ran
    rw [ran]
    exact ensured
  · rename_i ran
    rw [ran]
    exact ensured

/-- As long as every client that is bound has an id of its own, no peer gets a second client. -/
theorem bindings_unique {library : Library} {db : Database}
    (reached : (bindingCalls library).ReachableWhile (OwnsItsID library)
      (fun db => WellBound db.vkTurnInbounds) db) : UniqueBindings db.vkTurnInbounds := by
  refine WellBound.unique (reached.invariant (fun _ well => well) ?_)
  intro db next call well own stepped
  cases stepped
  exact well.step own

/-! ## A client under an id that is taken -/

/-- Libraries for clients without a snapshot, under emails in lower case. -/
def lowerCase : Library where
  toLower text := text
  equalFold text other := text = other
  decodeBase64 _ := none
  decodeRawBase64 _ := none
  encodeBase64 _ := ""
  x25519 _ := .error "not computed"
  parseIP _ := none
  parseCIDR text := .error ("invalid CIDR address: " ++ text)

/-- A WireGuard inbound with one peer, and a VK TURN inbound that forwards to it. -/
def onePeer : Database where
  inbounds := ⟨[
    { id := 1, port := 51820, protocol := .wireguard, tag := "inbound-51820"
      settings := .wireguard { peers := some [⟨"secret", "key", "", ["10.0.0.2/32"], 0⟩] } },
    { id := 2, port := 56000, protocol := .vkTurnProxy, tag := "inbound-56000"
      settings := .vkTurnProxy
        { forward := { type := .wireguardInbound, wireguardInboundID := 1 } } }], by decide⟩
  clientTraffics := ⟨[], uniqueTraffics_nil⟩
  clientIps := ⟨[], uniqueIps_nil⟩

/-- A call that binds a client with the id `phone` to the peer. -/
def addPhone (email : String) : BindingCall where
  request := .add 2 (.ok
    [{ id := "phone", email, enable := true, link := "https://vk.com/call/join/a"
       peerPublicKey := "key" }])
  clock := ⟨1700000000000, "a0b1"⟩

theorem onePeer_noClients : ∀ inbound ∈ onePeer.vkTurnInbounds, storedClients inbound = [] := by
  decide

theorem heldIn_eq_nil {inbound : Inbound} (noClients : storedClients inbound = [])
    (wgInboundID : Int) : heldIn wgInboundID inbound = [] := by
  unfold storedClients at noClients
  unfold heldIn
  split
  · rfl
  · rename_i settings decoded
    rw [decoded] at noClients
    have noClients : settings.clients = [] := noClients
    rw [noClients]
    exact ite_self []

theorem onePeer_noKeys (wgInboundID : Int) :
    onePeer.vkTurnInbounds.flatMap (heldIn wgInboundID) = [] :=
  List.flatMap_eq_nil_iff.mpr fun inbound isInbound =>
    heldIn_eq_nil (onePeer_noClients inbound isInbound) wgInboundID

theorem onePeer_wellBound : WellBound onePeer.vkTurnInbounds := by
  refine ⟨⟨fun wgInboundID => ?_, fun inbound isInbound => ?_⟩, fun inbound isInbound client => ?_⟩
  · rw [onePeer_noKeys]
    exact List.nodup_nil
  · rw [onePeer_noClients inbound isInbound]
    exact List.nodup_nil
  · rw [onePeer_noClients inbound isInbound]
    exact fun member => nomatch member

theorem bindings_unique_phone :
    ∃ db, (bindingCalls lowerCase).run onePeer [addPhone "a@example"] = some db ∧
      db.vkTurnInbounds.flatMap (heldIn 1) = [("key", "phone")] ∧
      UniqueBindings db.vkTurnInbounds := by
  have owns : OwnsItsID lowerCase onePeer (addPhone "a@example") := by
    intro old settings request client found decoded isRequest isValid
    cases found
    cases decoded
    have nobody : (onePeer.vkTurnInbounds.filter (·.id ≠ 2)).flatMap (heldIn 1) = [] := by decide
    refine ⟨⟨List.not_mem_nil, fun isHeld => ?_⟩, fun number isRead => ?_⟩
    · exact nomatch nobody ▸ isHeld
    · have isOne : rereadNumber 1 = .ok 1 := by decide
      exact Except.ok.inj (isRead.symm.trans isOne)
  exact ⟨_, rfl, by decide +kernel, bindings_unique (.step (.start onePeer_wellBound) owns rfl)⟩

/-- A second client with the id of the first passes for the first, and gets the same peer. -/
theorem id_bound_twice :
    ∃ db, (bindingCalls lowerCase).Reachable (fun db => WellBound db.vkTurnInbounds) db ∧
      ¬ UniqueBindings db.vkTurnInbounds := by
  obtain ⟨db, ran, twice⟩ : ∃ db, (bindingCalls lowerCase).run onePeer
      [addPhone "a@example", addPhone "b@example"] = some db ∧
        db.vkTurnInbounds.flatMap (heldIn 1) = [("key", "phone"), ("key", "phone")] :=
    ⟨_, rfl, by decide +kernel⟩
  refine ⟨db, Machine.Reachable.run (.start onePeer_wellBound) ran, fun unique => ?_⟩
  have distinct := unique.keys 1
  rw [twice] at distinct
  exact absurd distinct (by decide)

end VkTurn.Panel
