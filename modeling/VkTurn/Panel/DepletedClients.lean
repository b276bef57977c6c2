import Mathlib.Data.List.Dedup
import Mathlib.Logic.Function.Basic
import VkTurn.Panel.PanelReads
import VkTurn.Panel.PeerBinding
import VkTurn.Panel.RenewalExpiry
import VkTurn.Text.Split

/-! # Deleting the depleted clients

`DelDepletedClients` reads the emails of the depleted rows of each inbound as one text, splits it
and takes the clients out of the settings; an inbound of which no client is left is deleted by
`DelInbound`, on another connection than its transaction.  Last it deletes the rows.

SQLite has one writer at a time, so the statements of `DelInbound` fail once the transaction has
written, and its error is dropped.
-/

namespace VkTurn.Panel

open VkTurn.Store
open VkTurn.Text (trimSpace splitOn join)

/-! ## Deleting rows -/

theorem uniqueInbounds_filter {rows : List Inbound} (keeps : Inbound → Bool)
    (unique : UniqueInbounds rows) : UniqueInbounds (rows.filter keeps) :=
  ⟨unique.1.sublist (List.filter_sublist.map _), unique.2.sublist (List.filter_sublist.map _)⟩

theorem uniqueTraffics_filter {rows : List ClientTraffic} (keeps : ClientTraffic → Bool)
    (unique : UniqueTraffics rows) : UniqueTraffics (rows.filter keeps) :=
  List.Nodup.sublist (List.filter_sublist.map _) unique

theorem uniqueIps_filter {rows : List InboundClientIps} (keeps : InboundClientIps → Bool)
    (unique : UniqueIps rows) : UniqueIps (rows.filter keeps) :=
  List.Nodup.sublist (List.filter_sublist.map _) unique

namespace Database

def filterInbounds (db : Database) (keeps : Inbound → Bool) : Database :=
  { db with inbounds := ⟨_, uniqueInbounds_filter keeps db.inbounds.valid⟩ }

def filterTraffics (db : Database) (keeps : ClientTraffic → Bool) : Database :=
  { db with clientTraffics := ⟨_, uniqueTraffics_filter keeps db.clientTraffics.valid⟩ }

def filterIps (db : Database) (keeps : InboundClientIps → Bool) : Database :=
  { db with clientIps := ⟨_, uniqueIps_filter keeps db.clientIps.valid⟩ }

end Database

/-! ## DelInbound -/

/-- `DelInbound`, where `running` is whether there is a process of Xray, and `locked` whether
    another connection has written and not committed. -/
def delInbound (running locked : Bool) (id : Int) (db : Database) : Ending × Database :=
  match db.inbound? id with
  | none => (.failed, db)
  | some inbound =>
    if inbound.enable ∧ isXrayManagedProtocol inbound.protocol ∧ running = false then
      (.panicked, db)
    else if locked then (.failed, db)
    else
      let db := db.filterTraffics (·.inboundID ≠ id)
      match getClients inbound.settings with
      | .error _ => (.failed, db)
      | .ok clients =>
        (.done, (db.filterIps fun row => ¬ clients.any (·.email = row.clientEmail)).filterInbounds
          (·.id ≠ id))

/-! ## The depleted clients -/

/-- The traffic or the time of a client that does not renew is used up. -/
def isDepleted (now : Int) (row : ClientTraffic) : Bool :=
  row.reset = 0 ∧ ((0 < row.total ∧ row.total ≤ row.up + row.down) ∨
    (0 < row.expiryTime ∧ row.expiryTime ≤ now))

/-- A negative id selects the inbounds after it. -/
def selectsInbound (id inboundID : Int) : Bool :=
  if id < 0 then id < inboundID else inboundID = id

section Query

variable (order : MapOrder Int) (now id : Int) (db : Database)

def depletedTraffics : List ClientTraffic :=
  db.clientTraffics.rows.filter fun row => selectsInbound id row.inboundID && isDepleted now row

/-- The emails of the depleted clients of an inbound. -/
def depletedEmails (inboundID : Int) : List String :=
  ((depletedTraffics now id db).filter (·.inboundID = inboundID)).map (·.email)

/-- A row of the query that groups by inbounds. -/
structure DepletedGroup where
  inboundID : Int
  /-- `GROUP_CONCAT(email)`. -/
  email : String

def depletedGroup (inboundID : Int) : DepletedGroup where
  inboundID
  email := join ',' (depletedEmails now id db inboundID)

/-- The rows of a query without an order come in any. -/
def depletedGroups : List DepletedGroup :=
  (order.arrange ((depletedTraffics now id db).map (·.inboundID)).dedup).map
    (depletedGroup now id db)

end Query

/-! ## DelDepletedClients -/

/-- The clients without those of some emails. -/
def withoutEmails (emails : List String) : Settings → Settings
  | .vkTurnProxy settings =>
    .vkTurnProxy { settings with clients := settings.clients.filter (·.email ∉ emails) }
  | .clients clients => .clients (clients.filter (·.email ∉ emails))
  | settings => settings

/-- What is committed, and what the transaction sees once it has written. -/
structure Deletion where
  stored : Database
  written : Option Database := none

def Deletion.current (deletion : Deletion) : Database := deletion.written.getD deletion.stored

/-- The assertion that settings hold a list of clients; text that is no JSON is an error. -/
def assertClients : Settings → Ending
  | .text _ => .failed
  | settings => if clientList settings = none then .panicked else .done

section Call

variable (running : Bool)

def deleteGroup (group : DepletedGroup) (deletion : Deletion) : Ending × Deletion :=
  match deletion.stored.inbound? group.inboundID with
  | none => (.failed, deletion)
  | some oldInbound =>
    if assertClients oldInbound.settings ≠ .done then
      (assertClients oldInbound.settings, deletion)
    else
      let settings := withoutEmails (splitOn ',' group.email) (rewriteUntyped oldInbound.settings)
      if clientEntries settings ≠ [] then
        match deletion.current.saveInbound { oldInbound with settings } with
        | .error _ => (.failed, deletion)
        | .ok next => (.done, { deletion with written := some next })
      else
        match delInbound running deletion.written.isSome group.inboundID deletion.stored with
        | (.panicked, _) => (.panicked, deletion)
        | (_, stored) => (.done, { deletion with stored })

def deleteGroups : List DepletedGroup → Deletion → Ending × Deletion
  | [], deletion => (.done, deletion)
  | group :: rest, deletion =>
    match deleteGroup running group deletion with
    | (.done, next) => deleteGroups rest next
    | stopped => stopped

/-- `DelDepletedClients` at a time. -/
def delDepletedClients (order : MapOrder Int) (now id : Int) (db : Database) :
    Ending × Database :=
  match deleteGroups running (depletedGroups order now id db) { stored := db } with
  | (.done, deletion) => (.done, deletion.current.filterTraffics fun row =>
      ¬ (selectsInbound id row.inboundID && isDepleted now row))
  | (.failed, deletion) => (.failed, deletion.stored)
  -- the deferred function finds no error
  | (.panicked, deletion) => (.panicked, deletion.current)

end Call

/-! ## What becomes of an inbound -/

def clientEmails (settings : Settings) : List String := (clientEntries settings).map storedEmail

/-- The parts of the text of the emails of an inbound's depleted clients. -/
def splitEmails (now id : Int) (db : Database) (inboundID : Int) : List String :=
  splitOn ',' (depletedGroup now id db inboundID).email

inductive GroupOutcome where
  /-- Some client is left. -/
  | rewritten
  /-- No client is left, and the transaction has written before. -/
  | locked
  /-- No client is left, and `DelInbound` cannot read the clients. -/
  | unread
  | removed
  deriving DecidableEq

def groupOutcome (locked : Bool) (emails : List String) (settings : Settings) : GroupOutcome :=
  if ∃ email ∈ clientEmails settings, email ∉ emails then .rewritten
  else if locked then .locked
  else match getClients settings with
    | .error _ => .unread
    | .ok _ => .removed

/-- `DelInbound` has deleted the rows of the inbound. -/
def GroupOutcome.clears (outcome : GroupOutcome) : Bool := outcome = .unread ∨ outcome = .removed

section Outcomes

variable (now id : Int) (db : Database)

/-- The outcomes of the inbounds with some ids, one after the other. -/
def outcomesFrom : Bool → (Int → Option GroupOutcome) → List Int → Int → Option GroupOutcome
  | _, seen, [] => seen
  | locked, seen, inboundID :: rest =>
    match db.inbound? inboundID with
    | none => outcomesFrom locked seen rest
    | some inbound =>
      let outcome := groupOutcome locked (splitEmails now id db inboundID) inbound.settings
      outcomesFrom (locked || outcome = .rewritten) (Function.update seen inboundID (some outcome))
        rest

def outcomes (order : MapOrder Int) : Int → Option GroupOutcome :=
  outcomesFrom now id db false (fun _ => none)
    (order.arrange ((depletedTraffics now id db).map (·.inboundID)).dedup)

/-- The settings of an inbound of which some client is left. -/
def remainingSettings (inbound : Inbound) : Settings :=
  withoutEmails (splitEmails now id db inbound.id) (rewriteUntyped inbound.settings)

/-- The row of an inbound after the call. -/
def remainingInbound (outcome : Option GroupOutcome) (inbound : Inbound) : Inbound :=
  if outcome = some .rewritten then
    { inbound with settings := remainingSettings now id db inbound }
  else inbound

end Outcomes

/-! ## The deleted clients -/

section Property

variable (now id : Int) (start : Database)

/-- The keys that the managed clients of an inbound hold of the peers of its target, for those
    clients that are depleted. -/
def depletedKeys (inbound : Inbound) : List (Int × String) :=
  match decodeVKTurnProxySettings inbound.settings with
  | .error _ => []
  | .ok settings =>
    if settings.forward.type = .wireguardInbound then
      (settings.clients.filter fun client => client.peerManaged ∧
        trimSpace client.peerPublicKey ≠ "" ∧
        client.email ∈ depletedEmails now id start inbound.id).map fun client =>
          (settings.forward.wireguardInboundID, trimSpace client.peerPublicKey)
    else []

/-- The call deletes exactly the depleted clients. -/
structure DeletesExactly (final : Database) : Prop where
  kept : ∀ inbound ∈ start.inbounds.rows, ∀ after, final.inbound? inbound.id = some after →
    clientEmails after.settings = (clientEmails inbound.settings).filter
      (· ∉ depletedEmails now id start inbound.id)
  deleted : ∀ inbound ∈ start.inbounds.rows, final.inbound? inbound.id = none →
    ∀ email ∈ clientEmails inbound.settings, email ∈ depletedEmails now id start inbound.id
  rows : final.clientTraffics.rows =
    start.clientTraffics.rows.filter (· ∉ depletedTraffics now id start)
  keys : ∀ inbound ∈ start.vkTurnInbounds, ∀ held ∈ depletedKeys now id start inbound,
    held.2 ∉ final.peerKeys held.1

/-- The rows of an inbound are all depleted. -/
def RowsDepleted (inboundID : Int) : Prop :=
  ∀ row ∈ start.clientTraffics.rows, row.inboundID = inboundID →
    row ∈ depletedTraffics now id start

/-- What has to hold of an inbound for its outcome to be right. -/
def GroupOutcome.Exact (inbound : Inbound) : GroupOutcome → Prop
  | .rewritten => ∀ email ∈ clientEmails inbound.settings,
      email ∈ splitEmails now id start inbound.id ↔ email ∈ depletedEmails now id start inbound.id
  | .locked => ∀ email ∈ clientEmails inbound.settings,
      email ∉ depletedEmails now id start inbound.id
  | .unread => (∀ email ∈ clientEmails inbound.settings,
      email ∉ depletedEmails now id start inbound.id) ∧ RowsDepleted now id start inbound.id
  | .removed => (∀ email ∈ clientEmails inbound.settings,
      email ∈ depletedEmails now id start inbound.id) ∧ RowsDepleted now id start inbound.id

structure DeletesWhen (order : MapOrder Int) : Prop where
  inbounds : ∀ inbound ∈ start.inbounds.rows, ∀ outcome,
    outcomes now id start order inbound.id = some outcome →
      outcome.Exact now id start inbound
  keys : ∀ inbound ∈ start.vkTurnInbounds, ∀ held ∈ depletedKeys now id start inbound,
    held.2 ∉ start.peerKeys held.1

end Property

/-! ## Reading settings -/

section Reading

variable {settings : Settings} {emails : List String}

theorem clientEmails_eq_nil : clientEmails settings = [] ↔ clientEntries settings = [] :=
  List.map_eq_nil_iff

theorem clientEmails_rewriteUntyped :
    clientEmails (rewriteUntyped settings) = clientEmails settings := by
  unfold clientEmails
  rw [clientEntries_rewriteUntyped, List.map_map]
  exact List.map_congr_left fun client _ => storedEmail_round client

theorem clientEmails_withoutEmails :
    clientEmails (withoutEmails emails settings) = (clientEmails settings).filter (· ∉ emails) := by
  unfold clientEmails
  cases settings with
  | vkTurnProxy settings =>
    simp [clientEntries, withoutEmails, storedEmail, List.filter_map, Function.comp_def]
  | wireguard settings => rfl
  | clients clients =>
    simp [clientEntries, withoutEmails, storedEmail, List.filter_map, Function.comp_def]
  | text text => rfl

theorem assertClients_eq_done : assertClients settings = .done ↔ clientList settings ≠ none := by
  cases settings with
  | vkTurnProxy settings => simp [assertClients]
  | wireguard settings => simp [assertClients, clientList]
  | clients clients => simp [assertClients]
  | text text => simp [assertClients, clientList]

/-- Some client is left exactly when some email is not among those that are taken out. -/
theorem clients_left : clientEntries (withoutEmails emails (rewriteUntyped settings)) ≠ [] ↔
    ∃ email ∈ clientEmails settings, email ∉ emails := by
  rw [Ne, ← clientEmails_eq_nil, clientEmails_withoutEmails, clientEmails_rewriteUntyped,
    List.filter_eq_nil_iff]
  simp

end Reading

/-! ## One group -/

section Group

variable {running : Bool} {now id inboundID : Int} {start : Database} {deletion next : Deletion}
  {seen : Int → Option GroupOutcome}

/-- The databases after some groups. -/
structure Follows (now id : Int) (start : Database) (seen : Int → Option GroupOutcome)
    (deletion : Deletion) : Prop where
  stored : deletion.stored.inbounds.rows =
    start.inbounds.rows.filter (seen ·.id ≠ some .removed)
  traffics : deletion.stored.clientTraffics.rows =
    start.clientTraffics.rows.filter fun row => ¬ (seen row.inboundID).any (·.clears)
  current : deletion.current.inbounds.rows = deletion.stored.inbounds.rows.map fun inbound =>
    remainingInbound now id start (seen inbound.id) inbound
  sameTraffics : deletion.current.clientTraffics = deletion.stored.clientTraffics
  unwritten : deletion.written = none → ∀ inboundID, seen inboundID ≠ some .rewritten

theorem Follows.refl : Follows now id start (fun _ => none) { stored := start } := by
  refine ⟨?_, ?_, ?_, rfl, fun _ _ => by simp⟩
  · simp
  · simp
  · simp [Deletion.current, remainingInbound]

/-- What one group leaves, by its outcome. -/
def GroupOutcome.Leaves (now id : Int) (start : Database) (inbound : Inbound)
    (deletion next : Deletion) : GroupOutcome → Prop
  | .rewritten => ∃ saved, deletion.current.saveInbound { inbound with
      settings := remainingSettings now id start inbound } = .ok saved ∧
      next = { deletion with written := some saved }
  | .locked => deletion.written ≠ none ∧ next = deletion
  | .unread => deletion.written = none ∧ next.written = none ∧
      next.stored = deletion.stored.filterTraffics (·.inboundID ≠ inbound.id)
  | .removed => deletion.written = none ∧ next.written = none ∧
      next.stored.inbounds.rows = deletion.stored.inbounds.rows.filter (·.id ≠ inbound.id) ∧
      next.stored.clientTraffics.rows =
        deletion.stored.clientTraffics.rows.filter (·.inboundID ≠ inbound.id)

theorem delInbound_leaves {locked : Bool} {db after : Database} {ending : Ending}
    {inbound : Inbound} (found : db.inbound? inboundID = some inbound)
    (ran : delInbound running locked inboundID db = (ending, after))
    (calm : ending ≠ .panicked) :
    if locked then after = db
    else match getClients inbound.settings with
      | .error _ => after = db.filterTraffics (·.inboundID ≠ inboundID)
      | .ok _ => after.inbounds.rows = db.inbounds.rows.filter (·.id ≠ inboundID) ∧
          after.clientTraffics.rows = db.clientTraffics.rows.filter (·.inboundID ≠ inboundID) := by
  unfold delInbound at ran
  rw [found] at ran
  dsimp only at ran
  split at ran
  · cases ran
    exact absurd rfl calm
  · cases locked with
    | true =>
      cases ran
      rfl
    | false =>
      rw [if_neg Bool.false_ne_true] at ran ⊢
      cases isRead : getClients inbound.settings with
      | error message =>
        rw [isRead] at ran
        cases ran
        rfl
      | ok clients =>
        rw [isRead] at ran
        cases ran
        exact ⟨rfl, rfl⟩

theorem deleteGroup_leaves {inbound : Inbound}
    (found : deletion.stored.inbound? inboundID = some inbound)
    (ran : deleteGroup running (depletedGroup now id start inboundID) deletion = (.done, next)) :
    clientList inbound.settings ≠ none ∧
      (groupOutcome deletion.written.isSome (splitEmails now id start inboundID)
        inbound.settings).Leaves now id start inbound deletion next := by
  have sameID : inbound.id = inboundID := (inbound?_mem found).2
  subst sameID
  have sameGroup : (depletedGroup now id start inbound.id).inboundID = inbound.id := rfl
  have sameSettings : withoutEmails (splitOn ',' (depletedGroup now id start inbound.id).email)
      (rewriteUntyped inbound.settings) = remainingSettings now id start inbound := rfl
  have someLeft : clientEntries (remainingSettings now id start inbound) ≠ [] ↔ _ := clients_left
  unfold deleteGroup at ran
  rw [sameGroup, found] at ran
  dsimp only at ran
  rw [sameSettings] at ran
  by_cases refused : assertClients inbound.settings ≠ .done
  · rw [if_pos refused] at ran
    exact absurd (congrArg Prod.fst ran) refused
  rw [if_neg refused] at ran
  refine ⟨assertClients_eq_done.mp (not_not.mp refused), ?_⟩
  unfold groupOutcome
  by_cases left : ∃ email ∈ clientEmails inbound.settings,
      email ∉ splitEmails now id start inbound.id
  · rw [if_pos (someLeft.mpr left)] at ran
    rw [if_pos left]
    cases isSaved : deletion.current.saveInbound { inbound with
        settings := remainingSettings now id start inbound } with
    | error message =>
      rw [isSaved] at ran
      cases ran
    | ok saved =>
      rw [isSaved] at ran
      cases ran
      exact ⟨saved, isSaved, rfl⟩
  · rw [if_neg fun some => left (someLeft.mp some)] at ran
    rw [if_neg left]
    cases deleted : delInbound running deletion.written.isSome inbound.id deletion.stored with
    | mk ending after =>
      rw [deleted] at ran
      have calm : ending ≠ .panicked := by
        rintro rfl
        cases ran
      have isNext : next = { deletion with stored := after } := by
        cases ending with
        | panicked => exact absurd rfl calm
        | done => cases ran; rfl
        | failed => cases ran; rfl
      subst isNext
      have leaves := delInbound_leaves found deleted calm
      cases isWritten : deletion.written with
      | some written =>
        rw [isWritten] at leaves
        have same : after = deletion.stored := leaves
        refine ⟨by simp [isWritten], ?_⟩
        rw [same, ← isWritten]
      | none =>
        rw [isWritten] at leaves
        rw [Option.isSome_none, if_neg Bool.false_ne_true] at leaves ⊢
        cases isRead : getClients inbound.settings with
        | error message =>
          rw [isRead] at leaves
          exact ⟨isWritten, rfl, leaves⟩
        | ok clients =>
          rw [isRead] at leaves
          exact ⟨isWritten, rfl, leaves⟩

@[simp] theorem remainingInbound_id {outcome : Option GroupOutcome} {inbound : Inbound} :
    (remainingInbound now id start outcome inbound).id = inbound.id := by
  unfold remainingInbound
  split
  · rfl
  · rfl

/-- A transaction that has not written sees what is stored. -/
theorem Follows.of_unwritten (idle : deletion.written = none)
    (none : ∀ inboundID, seen inboundID ≠ some .rewritten)
    (stored : deletion.stored.inbounds.rows =
      start.inbounds.rows.filter (seen ·.id ≠ some .removed))
    (traffics : deletion.stored.clientTraffics.rows =
      start.clientTraffics.rows.filter fun row => ¬ (seen row.inboundID).any (·.clears)) :
    Follows now id start seen deletion := by
  have same : deletion.current = deletion.stored := by
    unfold Deletion.current
    rw [idle]
    rfl
  refine ⟨stored, traffics, ?_, by rw [same], fun _ => none⟩
  rw [same]
  conv_lhs => rw [← List.map_id deletion.stored.inbounds.rows]
  exact List.map_congr_left fun inbound _ => (if_neg (none inbound.id)).symm

theorem Follows.mem_stored (follows : Follows now id start seen deletion) {inbound : Inbound}
    (member : inbound ∈ deletion.stored.inbounds.rows) : inbound ∈ start.inbounds.rows := by
  rw [follows.stored] at member
  exact (List.mem_filter.mp member).1

/-- A write of one inbound, when no other group has its id. -/
theorem Follows.rewrite (follows : Follows now id start seen deletion) {inbound : Inbound}
    (isStored : inbound ∈ start.inbounds.rows) {saved : Database}
    (isSaved : deletion.current.saveInbound { inbound with
      settings := remainingSettings now id start inbound } = .ok saved) :
    saved.inbounds.rows = deletion.stored.inbounds.rows.map fun other =>
      remainingInbound now id start (Function.update seen inbound.id (some .rewritten) other.id)
        other := by
  rw [(saveInbound_eq_ok.mp isSaved).1, follows.current]
  unfold replaceRow
  rw [List.map_map]
  refine List.map_congr_left fun other member => ?_
  simp only [Function.comp_apply, remainingInbound_id, Function.update_apply]
  by_cases same : other.id = inbound.id
  · have isInbound : other = inbound :=
      List.inj_on_of_nodup_map start.inbounds.valid.1 (follows.mem_stored member) isStored same
    rw [if_pos same, if_pos same, isInbound]
    rfl
  · rw [if_neg same, if_neg same]

theorem Follows.step (follows : Follows now id start seen deletion) {inbound : Inbound}
    (isStored : inbound ∈ start.inbounds.rows) (fresh : seen inbound.id = none)
    {outcome : GroupOutcome} (leaves : outcome.Leaves now id start inbound deletion next) :
    Follows now id start (Function.update seen inbound.id (some outcome)) next ∧
      next.written.isSome = (deletion.written.isSome || outcome = .rewritten) := by
  -- an outcome that deletes nothing leaves the same rows
  have sameStored (keeps : outcome ≠ .removed) : start.inbounds.rows.filter
        (Function.update seen inbound.id (some outcome) ·.id ≠ some .removed) =
      start.inbounds.rows.filter (seen ·.id ≠ some .removed) := by
    refine List.filter_congr fun other _ => ?_
    rw [Function.update_apply]
    by_cases same : other.id = inbound.id
    · simp [same, fresh, keeps]
    · simp [same]
  have sameTraffics (keeps : outcome.clears = false) :
      start.clientTraffics.rows.filter (fun row =>
        ¬ (Function.update seen inbound.id (some outcome) row.inboundID).any (·.clears)) =
      start.clientTraffics.rows.filter fun row => ¬ (seen row.inboundID).any (·.clears) := by
    refine List.filter_congr fun row _ => ?_
    rw [Function.update_apply]
    by_cases same : row.inboundID = inbound.id
    · simp [same, fresh, keeps]
    · simp [same]
  have fewerTraffics (clears : outcome.clears = true) :
      start.clientTraffics.rows.filter (fun row =>
        ¬ (Function.update seen inbound.id (some outcome) row.inboundID).any (·.clears)) =
      (start.clientTraffics.rows.filter fun row => ¬ (seen row.inboundID).any (·.clears)).filter
        (·.inboundID ≠ inbound.id) := by
    rw [List.filter_filter]
    refine List.filter_congr fun row _ => ?_
    rw [Function.update_apply]
    by_cases same : row.inboundID = inbound.id
    · simp [same, clears]
    · simp [same]
  have notRewritten (idle : deletion.written = none) (other : outcome ≠ .rewritten)
      (inboundID : Int) :
      Function.update seen inbound.id (some outcome) inboundID ≠ some .rewritten := by
    rw [Function.update_apply]
    split
    · simpa using other
    · exact follows.unwritten idle inboundID
  cases outcome with
  | rewritten =>
    obtain ⟨saved, isSaved, rfl⟩ := leaves
    refine ⟨⟨?_, ?_, follows.rewrite isStored isSaved, ?_, by simp⟩, by simp⟩
    · exact follows.stored.trans (sameStored (by decide)).symm
    · exact follows.traffics.trans (sameTraffics (by decide)).symm
    · exact (saveInbound_eq_ok.mp isSaved).2.1.trans follows.sameTraffics
  | locked =>
    obtain ⟨isLocked, rfl⟩ := leaves
    refine ⟨⟨?_, ?_, ?_, follows.sameTraffics, fun idle => absurd idle isLocked⟩, by simp⟩
    · exact follows.stored.trans (sameStored (by decide)).symm
    · exact follows.traffics.trans (sameTraffics (by decide)).symm
    · rw [follows.current]
      refine List.map_congr_left fun other _ => ?_
      rw [Function.update_apply]
      by_cases same : other.id = inbound.id
      · simp [same, fresh, remainingInbound]
      · simp [same]
  | unread =>
    obtain ⟨idle, nextIdle, stored⟩ := leaves
    refine ⟨Follows.of_unwritten nextIdle (notRewritten idle (by decide)) ?_ ?_,
      by simp [idle, nextIdle]⟩
    · rw [stored]
      exact follows.stored.trans (sameStored (by decide)).symm
    · rw [stored, fewerTraffics (by decide), ← follows.traffics]
      rfl
  | removed =>
    obtain ⟨idle, nextIdle, inbounds, traffics⟩ := leaves
    refine ⟨Follows.of_unwritten nextIdle (notRewritten idle (by decide)) ?_ ?_,
      by simp [idle, nextIdle]⟩
    · rw [inbounds, follows.stored, List.filter_filter]
      refine List.filter_congr fun other _ => ?_
      rw [Function.update_apply]
      by_cases same : other.id = inbound.id
      · simp [same]
      · simp [same]
    · rw [traffics, fewerTraffics (by decide), ← follows.traffics]

/-- A run over the groups of some inbounds. -/
theorem deleteGroups_follows {ids : List Int} (distinct : ids.Nodup)
    (fresh : ∀ inboundID ∈ ids, seen inboundID = none)
    (follows : Follows now id start seen deletion)
    (ran : deleteGroups running (ids.map (depletedGroup now id start)) deletion = (.done, next)) :
    Follows now id start (outcomesFrom now id start deletion.written.isSome seen ids) next ∧
      ∀ inboundID ∈ ids, ∃ inbound, start.inbound? inboundID = some inbound ∧
        clientList inbound.settings ≠ none := by
  induction ids generalizing deletion seen with
  | nil =>
    cases ran
    exact ⟨follows, by simp⟩
  | cons inboundID rest inductionHypothesis =>
    obtain ⟨notInRest, restDistinct⟩ := List.nodup_cons.mp distinct
    obtain ⟨isFresh, restFresh⟩ := List.forall_mem_cons.mp fresh
    rw [List.map_cons] at ran
    unfold deleteGroups at ran
    cases ranGroup : deleteGroup running (depletedGroup now id start inboundID) deletion with
    | mk ending middle =>
      rw [ranGroup] at ran
      have isDone : ending = .done := by
        cases ending with
        | done => rfl
        | failed => cases ran
        | panicked => cases ran
      subst isDone
      dsimp only at ran
      obtain ⟨inbound, isFound⟩ : ∃ inbound, deletion.stored.inbound? inboundID = some inbound := by
        cases isFound : deletion.stored.inbound? inboundID with
        | some inbound => exact ⟨inbound, rfl⟩
        | none =>
          have sameID : (depletedGroup now id start inboundID).inboundID = inboundID := rfl
          unfold deleteGroup at ranGroup
          rw [sameID, isFound] at ranGroup
          cases ranGroup
      obtain ⟨member, rfl⟩ := inbound?_mem isFound
      have isStored := follows.mem_stored member
      obtain ⟨hasList, leaves⟩ := deleteGroup_leaves isFound ranGroup
      obtain ⟨next, locked⟩ := follows.step isStored isFresh leaves
      have stillFresh : ∀ other ∈ rest, Function.update seen inbound.id
          (some (groupOutcome deletion.written.isSome (splitEmails now id start inbound.id)
            inbound.settings)) other = none := by
        intro other inRest
        have differs : other ≠ inbound.id := fun same => notInRest (same ▸ inRest)
        rw [Function.update_of_ne differs]
        exact restFresh other inRest
      obtain ⟨final, hasLists⟩ := inductionHypothesis restDistinct stillFresh next ran
      refine ⟨?_, List.forall_mem_cons.mpr ⟨⟨inbound, inbound?_of_mem isStored, hasList⟩, hasLists⟩⟩
      unfold outcomesFrom
      rw [inbound?_of_mem isStored]
      dsimp only
      rw [locked] at final
      exact final

end Group

/-! ## A call that returns nil -/

section Call

variable {running : Bool} {order : MapOrder Int} {now id : Int} {start final : Database}

/-- What a call that returns nil leaves. -/
structure Deleted (now id : Int) (order : MapOrder Int) (start final : Database) : Prop where
  inbounds : final.inbounds.rows = (start.inbounds.rows.filter
    (outcomes now id start order ·.id ≠ some .removed)).map fun inbound =>
      remainingInbound now id start (outcomes now id start order inbound.id) inbound
  traffics : final.clientTraffics.rows = start.clientTraffics.rows.filter fun row =>
    row ∉ depletedTraffics now id start ∧
      ¬ (outcomes now id start order row.inboundID).any (·.clears)
  hasLists : ∀ row ∈ depletedTraffics now id start, ∃ inbound,
    start.inbound? row.inboundID = some inbound ∧ clientList inbound.settings ≠ none

theorem mem_depletedTraffics {row : ClientTraffic} (stored : row ∈ start.clientTraffics.rows) :
    row ∈ depletedTraffics now id start ↔
      (selectsInbound id row.inboundID && isDepleted now row) = true := by
  unfold depletedTraffics
  rw [List.mem_filter]
  exact ⟨And.right, fun selected => ⟨stored, selected⟩⟩

theorem delDepletedClients_deletes
    (returns : delDepletedClients running order now id start = (.done, final)) :
    Deleted now id order start final := by
  unfold delDepletedClients depletedGroups at returns
  have ids := order.perm ((depletedTraffics now id start).map (·.inboundID)).dedup
  cases ran : deleteGroups running ((order.arrange
      ((depletedTraffics now id start).map (·.inboundID)).dedup).map (depletedGroup now id start))
      { stored := start } with
  | mk ending deletion =>
    rw [ran] at returns
    have isDone : ending = .done := by
      cases ending with
      | done => rfl
      | failed => cases returns
      | panicked => cases returns
    subst isDone
    cases returns
    obtain ⟨follows, hasLists⟩ := deleteGroups_follows (ids.nodup_iff.mpr (List.nodup_dedup _))
      (fun _ _ => rfl) Follows.refl ran
    refine ⟨?_, ?_, fun row isDepleted => hasLists row.inboundID ?_⟩
    · exact follows.current.trans (congrArg _ follows.stored)
    · have rows : deletion.current.clientTraffics.rows = _ :=
        (congrArg Table.rows follows.sameTraffics).trans follows.traffics
      change deletion.current.clientTraffics.rows.filter _ = _
      rw [rows, List.filter_filter]
      refine List.filter_congr fun row stored => ?_
      rw [Bool.decide_and]
      congr 1
      exact decide_eq_decide.mpr (not_congr (mem_depletedTraffics stored).symm)
    · rw [ids.mem_iff, List.mem_dedup]
      exact List.mem_map_of_mem isDepleted

theorem outcomesFrom_eq_some {locked : Bool} {seen : Int → Option GroupOutcome} {ids : List Int}
    {inboundID : Int} {outcome : GroupOutcome}
    (isSome : outcomesFrom now id start locked seen ids inboundID = some outcome) :
    inboundID ∈ ids ∨ seen inboundID = some outcome := by
  induction ids generalizing locked seen with
  | nil => exact .inr isSome
  | cons first rest inductionHypothesis =>
    unfold outcomesFrom at isSome
    cases isFound : start.inbound? first with
    | none =>
      rw [isFound] at isSome
      exact (inductionHypothesis isSome).imp_left (List.mem_cons_of_mem _)
    | some inbound =>
      rw [isFound] at isSome
      rcases inductionHypothesis isSome with inRest | isSeen
      · exact .inl (List.mem_cons_of_mem _ inRest)
      · rw [Function.update_apply] at isSeen
        by_cases same : inboundID = first
        · exact .inl (same ▸ List.mem_cons_self)
        · rw [if_neg same] at isSeen
          exact .inr isSeen

theorem outcomesFrom_ne_none {locked : Bool} {seen : Int → Option GroupOutcome} {ids : List Int}
    {inboundID : Int} (stored : start.inbound? inboundID ≠ none)
    (met : inboundID ∈ ids ∨ seen inboundID ≠ none) :
    outcomesFrom now id start locked seen ids inboundID ≠ none := by
  induction ids generalizing locked seen with
  | nil => simpa [outcomesFrom] using met
  | cons first rest inductionHypothesis =>
    unfold outcomesFrom
    cases isFound : start.inbound? first with
    | none =>
      refine inductionHypothesis (met.imp_left fun member => ?_)
      rcases List.mem_cons.mp member with rfl | inRest
      · exact absurd isFound stored
      · exact inRest
    | some inbound =>
      refine inductionHypothesis ?_
      rw [Function.update_apply]
      by_cases same : inboundID = first
      · simp [same]
      · rw [if_neg same]
        exact met.imp_left fun member => (List.mem_cons.mp member).resolve_left same

/-- The inbounds that the call works on are those of depleted rows. -/
theorem depletes_of_outcome {inboundID : Int} {outcome : GroupOutcome}
    (isSome : outcomes now id start order inboundID = some outcome) :
    ∃ row ∈ depletedTraffics now id start, row.inboundID = inboundID := by
  rcases outcomesFrom_eq_some isSome with member | isNone
  · rw [(order.perm _).mem_iff, List.mem_dedup] at member
    exact List.mem_map.mp member
  · cases isNone

theorem depletedEmails_of_no_outcome {inbound : Inbound} (stored : inbound ∈ start.inbounds.rows)
    (isNone : outcomes now id start order inbound.id = none) :
    depletedEmails now id start inbound.id = [] := by
  unfold depletedEmails
  rw [List.map_eq_nil_iff, List.filter_eq_nil_iff]
  intro row depleted same
  refine outcomesFrom_ne_none ?_ (.inl ?_) isNone
  · rw [inbound?_of_mem stored]
    exact Option.some_ne_none _
  · rw [(order.perm _).mem_iff, List.mem_dedup]
    exact List.mem_map.mpr ⟨row, depleted, of_decide_eq_true same⟩

/-- An inbound that is not deleted is found as the call leaves it. -/
theorem Deleted.inbound?_of_kept (deleted : Deleted now id order start final) {inbound : Inbound}
    (stored : inbound ∈ start.inbounds.rows)
    (isKept : outcomes now id start order inbound.id ≠ some .removed) :
    final.inbound? inbound.id =
      some (remainingInbound now id start (outcomes now id start order inbound.id) inbound) := by
  have member : remainingInbound now id start (outcomes now id start order inbound.id) inbound ∈
      final.inbounds.rows := by
    rw [deleted.inbounds]
    exact List.mem_map.mpr ⟨inbound, List.mem_filter.mpr ⟨stored, decide_eq_true isKept⟩, rfl⟩
  have found := inbound?_of_mem member
  rwa [remainingInbound_id] at found

theorem Deleted.inbound?_of_removed (deleted : Deleted now id order start final) {inboundID : Int}
    (isGone : outcomes now id start order inboundID = some .removed ∨
      start.inbound? inboundID = none) :
    final.inbound? inboundID = none := by
  unfold Database.inbound?
  rw [List.find?_eq_none, deleted.inbounds]
  intro after member same
  obtain ⟨inbound, isKept, rfl⟩ := List.mem_map.mp member
  obtain ⟨stored, isKept⟩ := List.mem_filter.mp isKept
  have sameID : inbound.id = inboundID := by simpa using same
  subst sameID
  rcases isGone with isRemoved | isNone
  · exact of_decide_eq_true isKept isRemoved
  · rw [inbound?_of_mem stored] at isNone
    cases isNone

/-- Settings with a list of clients hold no peers. -/
theorem wireguardSettings_of_clients {settings : Settings} (hasList : clientList settings ≠ none) :
    (getWireguardSettings settings).toOption = none := by
  cases settings with
  | vkTurnProxy settings => rfl
  | wireguard settings => exact absurd rfl hasList
  | clients clients => rfl
  | text text => rfl

theorem clientList_remaining {inbound : Inbound} (hasList : clientList inbound.settings ≠ none) :
    (getWireguardSettings (remainingSettings now id start inbound)).toOption = none := by
  unfold remainingSettings
  cases isStored : inbound.settings with
  | vkTurnProxy settings =>
    unfold rewriteUntyped
    dsimp only
    split
    · rfl
    · rfl
  | wireguard settings => exact absurd (isStored ▸ rfl) hasList
  | clients clients => rfl
  | text text => rfl

/-- The call leaves the peers of every inbound. -/
theorem Deleted.peerKeys (deleted : Deleted now id order start final) (inboundID : Int) :
    final.peerKeys inboundID = start.peerKeys inboundID := by
  have samePeers : final.wireguardPeers? inboundID = start.wireguardPeers? inboundID := by
    cases found : start.inbound? inboundID with
    | none =>
      have gone := deleted.inbound?_of_removed (.inr found)
      unfold Database.wireguardPeers?
      rw [found, gone]
    | some inbound =>
      obtain ⟨stored, rfl⟩ := inbound?_mem found
      cases isOutcome : outcomes now id start order inbound.id with
      | none =>
        have kept := deleted.inbound?_of_kept stored (by simp [isOutcome])
        unfold Database.wireguardPeers?
        rw [found, kept, isOutcome]
        rfl
      | some outcome =>
        -- an inbound that the call works on has clients and no peers
        obtain ⟨row, isDepleted, sameID⟩ := depletes_of_outcome isOutcome
        obtain ⟨other, isOther, hasList⟩ := deleted.hasLists row isDepleted
        rw [sameID, found] at isOther
        cases isOther
        have noPeers : start.wireguardPeers? inbound.id = none := by
          unfold Database.wireguardPeers?
          rw [found]
          simp [wireguardSettings_of_clients hasList]
        rw [noPeers]
        unfold Database.wireguardPeers?
        by_cases isRemoved : outcome = .removed
        · rw [deleted.inbound?_of_removed (.inl (isOutcome.trans (congrArg some isRemoved)))]
          rfl
        · rw [deleted.inbound?_of_kept stored (by simpa [isOutcome] using isRemoved)]
          unfold remainingInbound
          split
          · simp [clientList_remaining hasList]
          · simp [wireguardSettings_of_clients hasList]
  unfold Database.peerKeys
  rw [samePeers]

/-- Which clients are left of an inbound that is not deleted. -/
theorem clientEmails_remaining {outcome : Option GroupOutcome} {inbound : Inbound} :
    clientEmails (remainingInbound now id start outcome inbound).settings =
      if outcome = some .rewritten then
        (clientEmails inbound.settings).filter (· ∉ splitEmails now id start inbound.id)
      else clientEmails inbound.settings := by
  unfold remainingInbound
  split
  · exact clientEmails_withoutEmails.trans (by rw [clientEmails_rewriteUntyped])
  · rfl

theorem Deleted.rows_iff (deleted : Deleted now id order start final) :
    final.clientTraffics.rows =
        start.clientTraffics.rows.filter (· ∉ depletedTraffics now id start) ↔
      ∀ row ∈ start.clientTraffics.rows,
        (outcomes now id start order row.inboundID).any (·.clears) →
          row ∈ depletedTraffics now id start := by
  rw [deleted.traffics]
  constructor
  · intro same row stored cleared
    by_contra notDepleted
    have kept : row ∈ start.clientTraffics.rows.filter (· ∉ depletedTraffics now id start) :=
      List.mem_filter.mpr ⟨stored, decide_eq_true notDepleted⟩
    rw [← same] at kept
    exact (of_decide_eq_true (List.mem_filter.mp kept).2).2 cleared
  · intro all
    refine List.filter_congr fun row stored => decide_eq_decide.mpr ?_
    exact ⟨And.left, fun notDepleted => ⟨notDepleted, fun cleared =>
      notDepleted (all row stored cleared)⟩⟩

theorem filter_eq_filter_iff {emails taken depleted : List String} :
    emails.filter (· ∉ taken) = emails.filter (· ∉ depleted) ↔
      ∀ email ∈ emails, email ∈ taken ↔ email ∈ depleted := by
  constructor
  · intro same email member
    have both : email ∈ emails.filter (· ∉ taken) ↔ email ∈ emails.filter (· ∉ depleted) := by
      rw [same]
    simpa [member] using not_congr both
  · intro agree
    refine List.filter_congr fun email member => ?_
    rw [decide_eq_decide, agree email member]

theorem eq_filter_iff {emails depleted : List String} :
    emails = emails.filter (· ∉ depleted) ↔ ∀ email ∈ emails, email ∉ depleted := by
  rw [eq_comm, List.filter_eq_self]
  simp

/-- A call that returns nil deletes exactly the depleted clients exactly when every inbound that
    it works on comes out right, and no target serves the key of a client that is deleted. -/
theorem delDepletedClients_exact_iff
    (returns : delDepletedClients running order now id start = (.done, final)) :
    DeletesExactly now id start final ↔ DeletesWhen now id start order := by
  have deleted := delDepletedClients_deletes returns
  constructor
  · intro exactly
    refine ⟨fun inbound stored outcome isOutcome => ?_, fun inbound stored held member => ?_⟩
    · have rowsDepleted (clears : outcome.clears = true) :
          RowsDepleted now id start inbound.id := fun row isRow sameID =>
        deleted.rows_iff.mp exactly.rows row isRow (by simp [sameID, isOutcome, clears])
      have leftEmails (isKept : outcome ≠ .removed) := exactly.kept inbound stored _
        (deleted.inbound?_of_kept stored (by simpa [isOutcome] using isKept))
      simp only [clientEmails_remaining, isOutcome] at leftEmails
      cases outcome with
      | rewritten => exact filter_eq_filter_iff.mp (leftEmails (by decide))
      | locked => exact eq_filter_iff.mp (leftEmails (by decide))
      | unread => exact ⟨eq_filter_iff.mp (leftEmails (by decide)), rowsDepleted (by decide)⟩
      | removed =>
        exact ⟨exactly.deleted inbound stored (deleted.inbound?_of_removed (.inl isOutcome)),
          rowsDepleted (by decide)⟩
    · rw [← deleted.peerKeys]
      exact exactly.keys inbound stored held member
  · intro holds
    have exactFor {inbound : Inbound} (stored : inbound ∈ start.inbounds.rows)
        {outcome : GroupOutcome}
        (isOutcome : outcomes now id start order inbound.id = some outcome) :=
      holds.inbounds inbound stored outcome isOutcome
    refine ⟨fun inbound stored after isAfter => ?_, fun inbound stored isGone => ?_, ?_,
      fun inbound stored held member => ?_⟩
    · have isKept : outcomes now id start order inbound.id ≠ some .removed := by
        intro isRemoved
        rw [deleted.inbound?_of_removed (.inl isRemoved)] at isAfter
        cases isAfter
      rw [deleted.inbound?_of_kept stored isKept] at isAfter
      cases isAfter
      rw [clientEmails_remaining]
      cases isOutcome : outcomes now id start order inbound.id with
      | none =>
        rw [depletedEmails_of_no_outcome stored isOutcome]
        simp
      | some outcome =>
        have exact := exactFor stored isOutcome
        cases outcome with
        | rewritten => exact filter_eq_filter_iff.mpr exact
        | locked => exact eq_filter_iff.mpr exact
        | unread => exact eq_filter_iff.mpr exact.1
        | removed => exact absurd isOutcome isKept
    · have isRemoved : outcomes now id start order inbound.id = some .removed := by
        by_contra isKept
        rw [deleted.inbound?_of_kept stored isKept] at isGone
        cases isGone
      exact (exactFor stored isRemoved).1
    · refine deleted.rows_iff.mpr fun row stored cleared => ?_
      obtain ⟨outcome, isOutcome, clears⟩ : ∃ outcome,
          outcomes now id start order row.inboundID = some outcome ∧ outcome.clears = true := by
        cases isOutcome : outcomes now id start order row.inboundID with
        | none => simp [isOutcome] at cleared
        | some outcome => exact ⟨outcome, rfl, by simpa [isOutcome] using cleared⟩
      -- the inbound of the row was deleted, so it was there
      obtain ⟨other, isDepleted, sameID⟩ := depletes_of_outcome isOutcome
      obtain ⟨inbound, found, _⟩ := deleted.hasLists other isDepleted
      rw [sameID] at found
      obtain ⟨isStored, same⟩ := inbound?_mem found
      rw [← same] at isOutcome
      have exact := exactFor isStored isOutcome
      cases outcome with
      | rewritten => cases clears
      | locked => cases clears
      | unread => exact exact.2 row stored same.symm
      | removed => exact exact.2 row stored same.symm
    · rw [deleted.peerKeys]
      exact holds.keys inbound stored held member

end Call

/-! A client of VK TURN with a peer of its own, whose traffic is used up. -/

def spentPeer : WireguardPeer where
  privateKey := "private"
  publicKey := "public"
  allowedIPs := ["10.0.0.2/32"]

def spentTarget : Inbound where
  id := 1
  port := 51820
  protocol := .wireguard
  settings := .wireguard { peers := some [spentPeer] }
  tag := "inbound-51820"

def spentClient : VKTurnProxyClient where
  id := "1"
  email := "a"
  enable := true
  link := "vk"
  peerPublicKey := "public"
  peerManaged := true
  peer := some (cloneWireguardPeerToVKTurnProxyClientPeer spentPeer)

def unspentClient : VKTurnProxyClient where
  id := "2"
  email := "b"
  enable := true
  link := "vk"
  peerPublicKey := "other"

def spentInbound : Inbound where
  id := 2
  port := 56000
  protocol := .vkTurnProxy
  settings := .vkTurnProxy {
    forward := { type := .wireguardInbound, wireguardInboundID := 1 },
    clients := [spentClient, unspentClient] }
  tag := "inbound-56000"

def spentRow : ClientTraffic where
  inboundID := 2
  enable := true
  email := "a"
  up := 5
  total := 5

theorem uniqueInbounds_spent : UniqueInbounds [spentTarget, spentInbound] := by
  unfold UniqueInbounds
  simp [spentTarget, spentInbound]

theorem uniqueTraffics_spent : UniqueTraffics [spentRow] := by
  unfold UniqueTraffics
  simp

def spentDatabase : Database where
  inbounds := ⟨[spentTarget, spentInbound], uniqueInbounds_spent⟩
  clientTraffics := ⟨[spentRow], uniqueTraffics_spent⟩
  clientIps := ⟨[], uniqueIps_nil⟩

theorem perm_asListed (ids : List Int) : (id ids).Perm ids := List.Perm.refl ids

def asListed : MapOrder Int where
  arrange := id
  perm := perm_asListed

def afterSpent : Database := (delDepletedClients true asListed 0 (-1) spentDatabase).2

theorem delDepletedClients_spent :
    delDepletedClients true asListed 0 (-1) spentDatabase = (.done, afterSpent) :=
  Prod.ext (by decide) rfl

/-- The peer of the deleted client is still served. -/
theorem spent_key_served :
    delDepletedClients true asListed 0 (-1) spentDatabase = (.done, afterSpent) ∧
      afterSpent.clientTraffics.rows = [] ∧
      afterSpent.peerKeys 1 = ["public"] ∧
      ¬ DeletesExactly 0 (-1) spentDatabase afterSpent := by
  have served : afterSpent.peerKeys 1 = ["public"] := by decide
  refine ⟨delDepletedClients_spent, by decide, served, fun exactly => ?_⟩
  have gone := exactly.keys spentInbound (by decide) (1, "public") (by decide)
  rw [served] at gone
  simp at gone

theorem delDepletedClients_exact_spent :
    DeletesExactly 0 (-1) spentDatabase afterSpent ↔ DeletesWhen 0 (-1) spentDatabase asListed :=
  delDepletedClients_exact_iff delDepletedClients_spent

end VkTurn.Panel
