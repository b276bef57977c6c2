import VkTurn.Panel.ClientCalls
import VkTurn.Store.Steps

/-! # A binding, change by change

What a binding of a client writes is known before it writes anything: up to two changes of the
peers of the WireGuard inbound, each in a transaction of its own.  The call that binds the client
makes them one after the other, and then its own transaction.
-/

namespace VkTurn.Panel

open VkTurn.Store
open VkTurn.Text (trimSpace)

/-! ## Changes -/

structure PeerChange where
  faults : PeerSite → Bool
  mutate : List WireguardPeer → List WireguardPeer

section Step

variable (library : Library) (wgInboundID : Int)

/-- `mutateWireguardPeers` as one step. -/
def PeerChange.step (change : PeerChange) (db : Database) : Except String Database := do
  let inbound ← mutatedInbound library db change.faults wgInboundID
    fun peers => .ok (change.mutate peers)
  let next ← updateWireguardInbound library db change.faults inbound
  return if change.faults .commit then db else next

/-- A transaction as one step. -/
def committed (commitFails : Bool) (body : Database → Except String Database) (db : Database) :
    Except String Database := do
  let next ← body db
  if commitFails then throw "commit failed"
  return next

end Step

/-! ## Plans -/

section Plans

variable (faults : Faults) (clock : Clock)

def enabledPlan (db : Database) (wgInboundID : Int) (client : VKTurnProxyClient) :
    Except String (VKTurnProxyClient × List PeerChange) := do
  let publicKey := resolveVKTurnProxyClientPublicKey client
  if publicKey = "" then throw (newError ["wireguard peer binding is required"])
  ensureVKTurnProxyBindingAvailable clock db (faults .bindings) wgInboundID publicKey client.id
  if client.peerManaged ∧ client.peer = none then
    throw (newError ["managed wireguard peer is empty"])
  match peerToWrite client with
  | some peer =>
    return ({ client with peerPublicKey := peer.publicKey },
      [⟨(faults <| .bind ·), upsertPeer peer⟩])
  | none =>
    let _ ← (getWireguardPeerByPublicKey db (faults .peer) wgInboundID publicKey).mapError fun _ =>
      newError ["wireguard peer is missing and no stored snapshot is available:", publicKey]
    return ({ client with peerPublicKey := publicKey }, [])

def disabledPlan (db : Database) (wgInboundID : Int) (client : VKTurnProxyClient) :
    Except String (VKTurnProxyClient × List PeerChange) := do
  let publicKey := resolveVKTurnProxyClientPublicKey client
  if publicKey = "" then return (client, [])
  let client : VKTurnProxyClient := {
    snapshotVKTurnProxyClientPeer db (faults .peer) wgInboundID client with
    peerPublicKey := publicKey }
  if client.peer = none then throw (newError ["wireguard peer not found:", publicKey])
  return (client, [⟨(faults <| .bind ·), removePeer publicKey⟩])

/-- The change that gives up the peer of the client before. -/
def releases (oldPeerKey : String) (bound : VKTurnProxyClient) : List PeerChange :=
  if oldPeerKey ≠ "" ∧ oldPeerKey ≠ trimSpace bound.peerPublicKey then
    [⟨(faults <| .release ·), removePeer oldPeerKey⟩]
  else []

/-- What `applyVKTurnProxyClientBinding` has found before its first write. -/
def bindingPlan (settings : VKTurnProxySettings) (client : VKTurnProxyClient)
    (previous : Option VKTurnProxyClient) (db : Database) :
    Except String (VKTurnProxyClient × List PeerChange) := do
  if settings.forward.type ≠ .wireguardInbound then
    throw (newError
      ["vk-turn-proxy client management requires a wireguard inbound forward target"])
  let wgInboundID := settings.forward.wireguardInboundID
  let client := bindingCandidate client previous
  let (bound, changes) ←
    if client.enable then enabledPlan faults clock db wgInboundID client
    else do
      if client.peerPublicKey ≠ "" then
        ensureVKTurnProxyBindingAvailable clock db (faults .bindings) wgInboundID
          client.peerPublicKey client.id
      disabledPlan faults db wgInboundID client
  return (bound, changes ++ releases faults (previousKey previous) bound)

end Plans

/-! ## A binding makes the changes of its plan -/

section Binding

variable {library : Library} {faults : Faults} {clock : Clock} {db : Database} {wgInboundID : Int}
  {settings : VKTurnProxySettings} {client : VKTurnProxyClient}
  {previous : Option VKTurnProxyClient} {changes : List PeerChange}

/-- The changes, and the client once they are made. -/
def runChanges (library : Library) (wgInboundID : Int) (bound : VKTurnProxyClient)
    (changes : List PeerChange) : Program Database VKTurnProxyClient := fun db =>
  match runSteps (changes.map (·.step library wgInboundID)) db with
  | (.error message, next) => (.error message, next)
  | (.ok _, next) => (.ok bound, next)

theorem mutate_eq (change : PeerChange) :
    mutateWireguardPeers library change.faults wgInboundID (fun peers => .ok (change.mutate peers))
        db = match change.step library wgInboundID db with
      | .error message => (.error message, db)
      | .ok next => (.ok (), next) := by
  unfold mutateWireguardPeers PeerChange.step
  rw [query_bind]
  cases mutatedInbound library db change.faults wgInboundID
      fun peers => .ok (change.mutate peers) with
  | error message => rfl
  | ok inbound =>
    dsimp only [Bind.bind, Except.bind, uncheckedTransaction]
    cases updateWireguardInbound library db change.faults inbound with
    | error message => rfl
    | ok next => rfl

theorem runChanges_nil {bound : VKTurnProxyClient} :
    runChanges library wgInboundID bound [] = pure bound := by
  funext db
  rfl

theorem runChanges_single {bound : VKTurnProxyClient} (change : PeerChange) :
    runChanges library wgInboundID bound [change] = (do
      mutateWireguardPeers library change.faults wgInboundID fun peers => .ok (change.mutate peers)
      return bound) := by
  funext db
  rw [program_bind, mutate_eq]
  unfold runChanges
  rw [List.map_cons, List.map_nil]
  unfold runSteps
  cases change.step library wgInboundID db with
  | error message => rfl
  | ok next => rfl

/-- A plan, followed by what it plans. -/
def runPlan (library : Library) (wgInboundID : Int)
    (plan : Except String (VKTurnProxyClient × List PeerChange)) :
    Program Database VKTurnProxyClient := fun db =>
  match plan with
  | .error message => (.error message, db)
  | .ok (bound, changes) => runChanges library wgInboundID bound changes db

theorem ensureEnabled_eq :
    ensureVKTurnProxyClientPeerEnabled library faults clock wgInboundID client db =
      runPlan library wgInboundID (enabledPlan faults clock db wgInboundID client) db := by
  unfold ensureVKTurnProxyClientPeerEnabled enabledPlan
  by_cases noKey : resolveVKTurnProxyClientPublicKey client = ""
  · simp only [noKey, if_true]
    rfl
  · simp only [noKey, if_false]
    rw [query_bind]
    cases ensureVKTurnProxyBindingAvailable clock db (faults .bindings) wgInboundID
        (resolveVKTurnProxyClientPublicKey client) client.id with
    | error message => rfl
    | ok available =>
      dsimp only [Bind.bind, Except.bind]
      by_cases unmanaged : client.peerManaged ∧ client.peer = none
      · rw [if_pos unmanaged, if_pos unmanaged]
        rfl
      · rw [if_neg unmanaged, if_neg unmanaged]
        cases peerToWrite client with
        | some peer =>
          exact (congrFun (runChanges_single ⟨(faults <| .bind ·), upsertPeer peer⟩) db).symm
        | none =>
          refine query_bind.trans ?_
          dsimp only
          cases (getWireguardPeerByPublicKey db (faults .peer) wgInboundID
              (resolveVKTurnProxyClientPublicKey client)).mapError fun _ =>
                newError ["wireguard peer is missing and no stored snapshot is available:",
                  resolveVKTurnProxyClientPublicKey client] with
          | error message => rfl
          | ok peer => rfl

theorem ensureDisabled_eq :
    ensureVKTurnProxyClientPeerDisabled library faults wgInboundID client db =
      runPlan library wgInboundID (disabledPlan faults db wgInboundID client) db := by
  unfold ensureVKTurnProxyClientPeerDisabled disabledPlan
  by_cases noKey : resolveVKTurnProxyClientPublicKey client = ""
  · simp only [noKey, if_true]
    rfl
  · simp only [noKey, if_false]
    rw [query_bind]
    dsimp only
    by_cases noPeer :
        (snapshotVKTurnProxyClientPeer db (faults .peer) wgInboundID client).peer = none
    · rw [if_pos noPeer, if_pos noPeer]
      rfl
    · rw [if_neg noPeer, if_neg noPeer]
      exact (congrFun (runChanges_single ⟨(faults <| .bind ·),
        removePeer (resolveVKTurnProxyClientPublicKey client)⟩) db).symm

theorem runChanges_append {bound : VKTurnProxyClient} {first second : List PeerChange} :
    runChanges library wgInboundID bound (first ++ second) db =
      match runChanges library wgInboundID bound first db with
      | (.error message, next) => (.error message, next)
      | (.ok _, next) => runChanges library wgInboundID bound second next := by
  unfold runChanges
  rw [List.map_append, runSteps_append]
  cases runSteps (first.map (·.step library wgInboundID)) db with
  | mk result next =>
    cases result with
    | error message => rfl
    | ok done => rfl

theorem runChanges_releases {oldPeerKey : String} {bound : VKTurnProxyClient} :
    runChanges library wgInboundID bound (releases faults oldPeerKey bound) =
      if oldPeerKey ≠ "" ∧ oldPeerKey ≠ trimSpace bound.peerPublicKey then do
        removeWireguardPeerByPublicKey library (faults <| .release ·) wgInboundID oldPeerKey
        pure bound
      else pure bound := by
  unfold releases
  split
  · exact runChanges_single ⟨(faults <| .release ·), removePeer oldPeerKey⟩
  · exact runChanges_nil

/-- The changes of a plan go on with the release. -/
theorem runPlan_releases {oldPeerKey : String}
    {plan : Except String (VKTurnProxyClient × List PeerChange)} :
    (runPlan library wgInboundID plan >>= fun bound =>
        runChanges library wgInboundID bound (releases faults oldPeerKey bound)) db =
      runPlan library wgInboundID (do
        let (bound, changes) ← plan
        return (bound, changes ++ releases faults oldPeerKey bound)) db := by
  rw [program_bind]
  cases plan with
  | error message => rfl
  | ok planned =>
    obtain ⟨bound, changes⟩ := planned
    refine Eq.trans ?_ runChanges_append.symm
    unfold runPlan
    dsimp only
    unfold runChanges
    cases runSteps (changes.map (·.step library wgInboundID)) db with
    | mk result next =>
      cases result with
      | error message => rfl
      | ok done => rfl

/-- A binding writes what its plan says, in that order. -/
theorem applyBinding_eq :
    applyVKTurnProxyClientBinding library faults clock settings client previous db =
      runPlan library settings.forward.wireguardInboundID
        (bindingPlan faults clock settings client previous db) db := by
  unfold applyVKTurnProxyClientBinding bindingPlan
  by_cases notWireguard : settings.forward.type ≠ .wireguardInbound
  · rw [if_pos notWireguard, if_pos notWireguard]
    rfl
  · rw [if_neg notWireguard, if_neg notWireguard]
    dsimp only
    simp only [← runChanges_releases]
    by_cases enabled : (bindingCandidate client previous).enable = true
    · rw [if_pos enabled, if_pos enabled, program_bind, ensureEnabled_eq, ← program_bind]
      exact runPlan_releases
    · rw [if_neg enabled, if_neg enabled]
      by_cases keyless : (bindingCandidate client previous).peerPublicKey ≠ ""
      · rw [if_pos keyless, if_pos keyless]
        refine query_bind.trans ?_
        cases ensureVKTurnProxyBindingAvailable clock db (faults .bindings)
            settings.forward.wireguardInboundID (bindingCandidate client previous).peerPublicKey
            (bindingCandidate client previous).id with
        | error message => rfl
        | ok available =>
          dsimp only
          rw [program_bind, ensureDisabled_eq, ← program_bind]
          exact runPlan_releases
      · rw [if_neg keyless, if_neg keyless, program_bind, ensureDisabled_eq, ← program_bind]
        exact runPlan_releases

end Binding

/-! ## The row that changes leave -/

/-- The row of the WireGuard inbound after a change, which may be lost in its commit. -/
def PeerChange.row (change : PeerChange) (inbound : Inbound) : Inbound :=
  if change.faults .commit then inbound
  else match getWireguardSettings inbound.settings with
    | .error _ => inbound
    | .ok (settings, peers) => { inbound with
        settings := .wireguard { settings with peers := some (change.mutate peers) }
        tag := inboundTag inbound.listen inbound.port }

def rowAfter (changes : List PeerChange) (inbound : Inbound) : Inbound :=
  changes.foldl (fun inbound change => change.row inbound) inbound

/-- The changes leave the row of the WireGuard inbound as it was. -/
def RowStays (wgInboundID : Int) (changes : List PeerChange) (db : Database) : Prop :=
  ∀ inbound, db.inbound? wgInboundID = some inbound → rowAfter changes inbound = inbound

theorem table_eq {Row : Type} {Valid : List Row → Prop} {first second : Table Row Valid}
    (same : first.rows = second.rows) : first = second := by
  cases first
  cases second
  cases same
  rfl

/-- A database is its rows. -/
theorem database_eq {db next : Database} (inbounds : next.inbounds.rows = db.inbounds.rows)
    (traffics : next.clientTraffics.rows = db.clientTraffics.rows)
    (ips : next.clientIps.rows = db.clientIps.rows) : next = db := by
  cases next
  cases db
  cases table_eq inbounds
  cases table_eq traffics
  cases table_eq ips
  rfl

section Rows

variable {library : Library} {wgInboundID : Int} {db next : Database} {change : PeerChange}
  {inbound : Inbound}

@[simp] theorem PeerChange.row_id : (change.row inbound).id = inbound.id := by
  unfold PeerChange.row
  split
  · rfl
  · split
    · rfl
    · rfl

theorem rowAfter_id (changes : List PeerChange) : (rowAfter changes inbound).id = inbound.id := by
  unfold rowAfter
  induction changes generalizing inbound with
  | nil => rfl
  | cons change rest inductionHypothesis =>
    rw [List.foldl_cons, inductionHypothesis, PeerChange.row_id]

/-- `next` is `db` with another row for the WireGuard inbound. -/
def RowWritten (inbound : Inbound) (db next : Database) : Prop :=
  next.inbounds.rows = replaceRow (·.id) inbound db.inbounds.rows ∧
    next.clientTraffics = db.clientTraffics ∧ next.clientIps = db.clientIps

theorem rowWritten_self (stored : inbound ∈ db.inbounds.rows) : RowWritten inbound db db := by
  refine ⟨?_, rfl, rfl⟩
  unfold replaceRow
  conv_lhs => rw [← List.map_id db.inbounds.rows]
  refine List.map_congr_left fun other member => ?_
  split
  · rename_i same
    exact List.inj_on_of_nodup_map db.inbounds.valid.1 member stored same
  · rfl

theorem PeerChange.step_writes (ran : change.step library wgInboundID db = .ok next) :
    ∃ inbound, db.inbound? wgInboundID = some inbound ∧
      RowWritten (change.row inbound) db next := by
  have wrote := @mutateWireguardPeers_ensures library db wgInboundID change.faults change.mutate
  unfold Ensures at wrote
  rw [mutate_eq change, ran] at wrote
  obtain ⟨lost, kept⟩ := wrote
  cases commits : change.faults .commit with
  | true =>
    obtain ⟨_, checked, _⟩ := bind_eq_ok.mp ran
    obtain ⟨inbound, isStored, _⟩ := bind_eq_ok.mp checked
    have found := (getInbound_eq_ok.mp isStored).2
    have same : change.row inbound = inbound := if_pos commits
    refine ⟨inbound, found, ?_⟩
    rw [lost commits, same]
    exact rowWritten_self (inbound?_mem found).1
  | false =>
    obtain ⟨inbound, settings, peers, _, found, _, isRead, _, _, _, saved⟩ := kept commits
    have written : change.row inbound = { inbound with
        settings := .wireguard { settings with peers := some (change.mutate peers) }
        tag := inboundTag inbound.listen inbound.port } := by
      unfold PeerChange.row
      rw [commits, if_neg Bool.false_ne_true, isRead]
    refine ⟨inbound, found, ?_⟩
    rw [written]
    exact saveInbound_eq_ok.mp saved

/-- A row is found as it was written last. -/
theorem RowWritten.found {stored : Inbound} (written : RowWritten inbound db next)
    (found : db.inbound? inbound.id = some stored) : next.inbound? inbound.id = some inbound := by
  obtain ⟨member, same⟩ := inbound?_mem found
  unfold Database.inbound?
  rw [written.1]
  exact find?_replaceRow_self member same

theorem RowWritten.trans {middle : Database} {other : Inbound} (same : other.id = inbound.id)
    (first : RowWritten inbound db middle) (second : RowWritten other middle next) :
    RowWritten other db next := by
  refine ⟨?_, second.2.1.trans first.2.1, second.2.2.trans first.2.2⟩
  rw [second.1, first.1]
  unfold replaceRow
  rw [List.map_map]
  refine List.map_congr_left fun row _ => ?_
  dsimp only [Function.comp_apply]
  by_cases overwritten : row.id = inbound.id
  · simp [overwritten, same]
  · simp [overwritten, same]

theorem RowWritten.eq (written : RowWritten inbound db next) (stored : inbound ∈ db.inbounds.rows) :
    next = db := by
  obtain ⟨rows, traffics, ips⟩ := written
  rw [← (rowWritten_self stored).1] at rows
  exact database_eq rows (congrArg _ traffics) (congrArg _ ips)

/-- What changes leave that all go through. -/
theorem afterChanges_writes {changes : List PeerChange}
    (went : afterSteps (changes.map (·.step library wgInboundID)) db = .ok next)
    (found : db.inbound? wgInboundID = some inbound) :
    RowWritten (rowAfter changes inbound) db next := by
  induction changes generalizing db inbound with
  | nil =>
    cases pure_eq_ok.mp went
    exact rowWritten_self (inbound?_mem found).1
  | cons change rest inductionHypothesis =>
    rw [List.map_cons] at went
    cases ran : change.step library wgInboundID db with
    | error message =>
      unfold afterSteps at went
      rw [List.foldlM_cons, ran] at went
      cases went
    | ok middle =>
      rw [afterSteps_cons ran] at went
      obtain ⟨other, isFound, written⟩ := change.step_writes ran
      rw [found] at isFound
      cases isFound
      have sameID : (change.row inbound).id = wgInboundID :=
        PeerChange.row_id.trans (inbound?_mem found).2
      have again := written.found (by rw [sameID]; exact found)
      rw [sameID] at again
      exact written.trans (rowAfter_id rest) (inductionHypothesis went again)

/-- Changes that go through leave the database exactly when they leave the row. -/
theorem afterChanges_eq_iff {changes : List PeerChange}
    (went : afterSteps (changes.map (·.step library wgInboundID)) db = .ok next) :
    next = db ↔ RowStays wgInboundID changes db := by
  cases found : db.inbound? wgInboundID with
  | none =>
    -- a change needs the inbound
    have noChanges : changes = [] := by
      cases changes with
      | nil => rfl
      | cons change rest =>
        rw [List.map_cons] at went
        unfold afterSteps at went
        rw [List.foldlM_cons] at went
        obtain ⟨middle, ran, _⟩ := bind_eq_ok.mp went
        obtain ⟨inbound, isFound, _⟩ := change.step_writes ran
        rw [found] at isFound
        cases isFound
    subst noChanges
    cases pure_eq_ok.mp went
    exact iff_of_true rfl fun inbound _ => rfl
  | some inbound =>
    have written := afterChanges_writes went found
    have sameID : (rowAfter changes inbound).id = inbound.id := rowAfter_id changes
    constructor
    · rintro rfl other isOther
      rw [found] at isOther
      cases isOther
      have again := written.found (by rw [sameID]; exact inbound?_of_mem (inbound?_mem found).1)
      rw [sameID, inbound?_of_mem (inbound?_mem found).1] at again
      exact (Option.some.inj again).symm
    · intro stays
      rw [stays inbound found] at written
      exact written.eq (inbound?_mem found).1

end Rows

/-! ## Calls that bind a client -/

/-- Wherever a statement of the call fails, the changes that went through before it have left the
    row of the WireGuard inbound as it was. -/
structure ChangesStay (library : Library) (wgInboundID : Int) (changes : List PeerChange)
    (last : Database → Except String Database) (db : Database) : Prop where
  between : ∀ before change after, changes = before ++ change :: after → ∀ middle,
    afterSteps (before.map (·.step library wgInboundID)) db = .ok middle →
      (∃ message, change.step library wgInboundID middle = .error message) →
        RowStays wgInboundID before db
  last : ∀ middle, afterSteps (changes.map (·.step library wgInboundID)) db = .ok middle →
    (∃ message, last middle = .error message) → RowStays wgInboundID changes db

section Calls

variable {library : Library} {faults : Faults} {clock : Clock} {db : Database} {wgInboundID : Int}
  {settings : VKTurnProxySettings} {client : VKTurnProxyClient}
  {previous : Option VKTurnProxyClient} {changes : List PeerChange}
  {last : Database → Except String Database} {commitFails : Bool}

theorem failsAt_iff :
    FailsAt db (changes.map (·.step library wgInboundID) ++ [last]) db ↔
      ChangesStay library wgInboundID changes last db := by
  constructor
  · intro failsAt
    refine ⟨fun before change after isChanges middle went failed => ?_,
      fun middle went failed => ?_⟩
    · refine (afterChanges_eq_iff went).mp (failsAt _ (change.step library wgInboundID)
        (after.map (·.step library wgInboundID) ++ [last]) ?_ middle went failed)
      rw [isChanges, List.map_append, List.map_cons, List.append_assoc]
      rfl
    · exact (afterChanges_eq_iff went).mp (failsAt _ last [] rfl middle went failed)
  · intro stay before step after isSteps middle went failed
    rcases List.eq_nil_or_concat after with rfl | ⟨others, final, rfl⟩
    · obtain ⟨rfl, isLast⟩ := List.append_inj' isSteps rfl
      cases isLast
      exact (afterChanges_eq_iff went).mpr (stay.last middle went failed)
    · rw [List.concat_eq_append, ← List.cons_append, ← List.append_assoc] at isSteps
      obtain ⟨isMapped, _⟩ := List.append_inj' isSteps rfl
      obtain ⟨first, rest, rfl, rfl, isRest⟩ := List.map_eq_append_iff.mp isMapped
      obtain ⟨change, later, rfl, rfl, rfl⟩ := List.map_eq_cons_iff.mp isRest
      exact (afterChanges_eq_iff went).mpr
        (stay.between first change later rfl middle went failed)

/-- A call that binds a client, and then writes the client in a transaction. -/
theorem boundCall_rollsBack_iff {body : VKTurnProxyClient → Database → Except String Database} :
    RollsBack (do
        let client ← applyVKTurnProxyClientBinding library faults clock settings client previous
        transaction commitFails (body client)) db ↔
      ∀ bound changes, bindingPlan faults clock settings client previous db = .ok (bound, changes) →
        ChangesStay library settings.forward.wireguardInboundID changes
          (committed commitFails (body bound)) db := by
  have inSteps (bound : VKTurnProxyClient) (state : Database) :
      transaction commitFails (body bound) state =
        runSteps [committed commitFails (body bound)] state := by
    unfold transaction runSteps committed
    cases body bound state with
    | error message => rfl
    | ok next =>
      cases commitFails with
      | true => rfl
      | false => rfl
  have unfolded : (do
        let client ← applyVKTurnProxyClientBinding library faults clock settings client previous
        transaction commitFails (body client)) db =
      match bindingPlan faults clock settings client previous db with
      | .error message => (.error message, db)
      | .ok (bound, changes) => runSteps
          (changes.map (·.step library settings.forward.wireguardInboundID) ++
            [committed commitFails (body bound)]) db := by
    rw [program_bind, applyBinding_eq]
    unfold runPlan
    cases bindingPlan faults clock settings client previous db with
    | error message => rfl
    | ok planned =>
      obtain ⟨bound, changes⟩ := planned
      dsimp only
      rw [runSteps_append]
      unfold runChanges
      cases runSteps (changes.map (·.step library settings.forward.wireguardInboundID)) db with
      | mk result next =>
        cases result with
        | error message => rfl
        | ok done => exact inSteps bound next
  unfold RollsBack
  rw [unfolded]
  cases bindingPlan faults clock settings client previous db with
  | error message =>
    constructor
    · intro _ bound changes isOk
      cases isOk
    · intro _ other next failed
      cases failed
      rfl
  | ok planned =>
    obtain ⟨bound, changes⟩ := planned
    dsimp only
    refine rollsBack_runSteps.trans (failsAt_iff.trans ?_)
    constructor
    · rintro stay _ _ ⟨⟩
      exact stay
    · intro stay
      exact stay bound changes rfl

end Calls

end VkTurn.Panel
