import VkTurn.Panel.InboundAddition
import VkTurn.Panel.PeerChanges
import VkTurn.Panel.XrayClients

/-! # What a failed edit leaves

`UpdateInbound`, `AddInboundClient` and `UpdateInboundClient` write the rows of the clients first
and the inbound last.  The error of that last statement is returned past the variable that the
deferred function looks at, so the rows are committed without the inbound.  The calls on clients of
VK TURN write the peers of the WireGuard inbound in transactions of their own, which a later error
does not undo.
-/

namespace VkTurn.Panel

open VkTurn.Store

/-! ## Statements -/

section Statements

variable {db next : Database} {fails : Bool} {inboundID : Int} {client : Client} {row : Inbound}

def clientStat (inboundID : Int) (client : Client) : ClientTraffic where
  inboundID
  email := client.email
  total := client.totalGB
  expiryTime := client.expiryTime
  enable := client.enable
  reset := client.reset

/-- `next` is `db` with other traffic rows. -/
structure TrafficsWritten (rows : List ClientTraffic) (db next : Database) : Prop where
  rows : next.clientTraffics.rows = rows
  inbounds : next.inbounds = db.inbounds
  ips : next.clientIps = db.clientIps

/-- A statement that only writes the traffic rows. -/
theorem writeTraffics_eq_ok {rows : List ClientTraffic} :
    (do
      let clientTraffics ← Table.write rows
      return { db with clientTraffics } : Except String Database) = .ok next ↔
      TrafficsWritten rows db next := by
  rw [bind_eq_ok]
  constructor
  · rintro ⟨table, written, isNext⟩
    cases pure_eq_ok.mp isNext
    exact ⟨Table.write_eq_ok.mp written, rfl, rfl⟩
  · intro written
    refine ⟨next.clientTraffics, Table.write_eq_ok.mpr written.rows, ?_⟩
    obtain ⟨_, inbounds, ips⟩ := written
    cases next
    cases inbounds
    cases ips
    rfl

theorem createTraffic_eq_ok {stat : ClientTraffic} : db.createTraffic stat = .ok next ↔
    TrafficsWritten (db.clientTraffics.rows ++ [stat]) db next :=
  writeTraffics_eq_ok

theorem deleteTraffic_eq_ok {email : String} : db.deleteTraffic email = .ok next ↔
    TrafficsWritten (db.clientTraffics.rows.filter (·.email ≠ email)) db next :=
  writeTraffics_eq_ok

/-- Nothing but the traffic rows could differ. -/
theorem TrafficsWritten.eq_iff {rows : List ClientTraffic}
    (written : TrafficsWritten rows db next) :
    next = db ↔ rows = db.clientTraffics.rows := by
  constructor
  · rintro rfl
    exact written.rows.symm
  · intro same
    exact database_eq (congrArg _ written.inbounds) (written.rows.trans same)
      (congrArg _ written.ips)

theorem TrafficsWritten.trans {middle : Database} {first second : List ClientTraffic}
    (before : TrafficsWritten first db middle) (after : TrafficsWritten second middle next) :
    TrafficsWritten second db next :=
  ⟨after.rows, after.inbounds.trans before.inbounds, after.ips.trans before.ips⟩

/-- `tx.Save` of an inbound fails. -/
def SaveFails (fails : Bool) (row : Inbound) (db : Database) : Prop :=
  fails = true ∨ ¬ UniqueInbounds (replaceRow (·.id) row db.inbounds.rows)

theorem saveFails_iff {stats : Database} (same : stats.inbounds = db.inbounds) :
    (∃ message, attempt fails (stats.saveInbound row) = .error message) ↔
      SaveFails fails row db := by
  unfold SaveFails attempt Database.saveInbound Table.write
  rw [same]
  cases fails with
  | true => simp
  | false =>
    by_cases unique : UniqueInbounds (replaceRow (·.id) row db.inbounds.rows)
    · rw [dif_pos unique]
      simp [unique, bind, Except.bind, pure, Except.pure]
    · rw [dif_neg unique]
      simp [unique, bind, Except.bind]

end Statements

/-! ## UpdateInbound -/

/-- The clients of the stored inbound that are not in the requested one. -/
def droppedClients (oldClients newClients : List Client) : List Client :=
  oldClients.filter fun client => ¬ newClients.any (·.email = client.email)

def addedClients (oldClients newClients : List Client) : List Client :=
  newClients.filter fun client => ¬ oldClients.any (·.email = client.email)

/-- No row is deleted and none is created. -/
structure RowsStay (db : Database) (oldClients newClients : List Client) : Prop where
  dropped : ∀ client ∈ droppedClients oldClients newClients,
    ∀ row ∈ db.clientTraffics.rows, row.email ≠ client.email
  added : addedClients oldClients newClients = []

section Update

variable {faults : InboundSite → Bool} {db stats next : Database} {inboundID : Int}
  {oldInbound inbound : Inbound} {clients oldClients newClients : List Client}

theorem mem_addedClients {client : Client} : client ∈ addedClients oldClients newClients ↔
    client ∈ newClients ∧ ∀ other ∈ oldClients, other.email ≠ client.email := by
  unfold addedClients
  rw [List.mem_filter]
  simp

theorem mem_droppedClients {client : Client} : client ∈ droppedClients oldClients newClients ↔
    client ∈ oldClients ∧ ∀ other ∈ newClients, other.email ≠ client.email := by
  unfold droppedClients
  rw [List.mem_filter]
  simp

theorem deleteStats_rows (deleted : clients.foldlM
      (fun db client => delClientStat db (faults (.deleteStat client.email)) client.email) db =
        .ok next) :
    TrafficsWritten (db.clientTraffics.rows.filter (·.email ∉ clients.map (·.email))) db next := by
  induction clients generalizing db with
  | nil =>
    cases pure_eq_ok.mp deleted
    exact ⟨by simp, rfl, rfl⟩
  | cons client rest inductionHypothesis =>
    rw [List.foldlM_cons] at deleted
    obtain ⟨middle, first, deleted⟩ := bind_eq_ok.mp deleted
    have written := deleteTraffic_eq_ok.mp (attempt_eq_ok.mp first).2
    have rest := inductionHypothesis deleted
    rw [written.rows, List.filter_filter] at rest
    refine written.trans ⟨rest.rows.trans ?_, rest.inbounds, rest.ips⟩
    refine List.filter_congr fun row _ => ?_
    rw [List.map_cons, ← Bool.decide_and]
    exact decide_eq_decide.mpr (by rw [List.mem_cons, not_or, and_comm])

theorem createStats_rows (created : clients.foldlM
      (fun db client => addClientStat db (faults (.createStat client.email)) inboundID client) db =
        .ok next) :
    TrafficsWritten (db.clientTraffics.rows ++ clients.map (clientStat inboundID)) db next := by
  induction clients generalizing db with
  | nil =>
    cases pure_eq_ok.mp created
    exact ⟨by simp, rfl, rfl⟩
  | cons client rest inductionHypothesis =>
    rw [List.foldlM_cons] at created
    obtain ⟨middle, first, created⟩ := bind_eq_ok.mp created
    have written := createTraffic_eq_ok.mp (attempt_eq_ok.mp first).2
    have rest := inductionHypothesis created
    rw [written.rows, List.append_assoc] at rest
    exact written.trans rest

theorem updateClientTraffics_rows
    (updated : updateClientTraffics faults db oldInbound inbound = .ok stats)
    (isOld : getClients oldInbound.settings = .ok oldClients)
    (isNew : getClients inbound.settings = .ok newClients) :
    TrafficsWritten (db.clientTraffics.rows.filter
        (·.email ∉ (droppedClients oldClients newClients).map (·.email)) ++
      (addedClients oldClients newClients).map (clientStat oldInbound.id)) db stats := by
  unfold updateClientTraffics at updated
  obtain ⟨_, isFirst, updated⟩ := bind_eq_ok.mp updated
  cases isOld.symm.trans isFirst
  obtain ⟨_, isSecond, updated⟩ := bind_eq_ok.mp updated
  cases isNew.symm.trans isSecond
  obtain ⟨middle, deleted, created⟩ := bind_eq_ok.mp updated
  have written := deleteStats_rows deleted
  have rest := createStats_rows created
  rw [written.rows] at rest
  exact written.trans rest

/-- The rows come out as they were exactly when nothing was deleted or created. -/
theorem rowsStay_iff (unique : UniqueTraffics (db.clientTraffics.rows.filter
        (·.email ∉ (droppedClients oldClients newClients).map (·.email)) ++
      (addedClients oldClients newClients).map (clientStat inboundID))) :
    db.clientTraffics.rows.filter
        (·.email ∉ (droppedClients oldClients newClients).map (·.email)) ++
      (addedClients oldClients newClients).map (clientStat inboundID) = db.clientTraffics.rows ↔
    RowsStay db oldClients newClients := by
  constructor
  · intro same
    have noneAdded : addedClients oldClients newClients = [] := by
      refine List.eq_nil_iff_forall_not_mem.mpr fun client member => ?_
      -- the new row has to be one that was there, which only a dropped client could have had
      have inRows : clientStat inboundID client ∈ db.clientTraffics.rows := by
        rw [← same]
        exact List.mem_append_right _ (List.mem_map_of_mem member)
      unfold UniqueTraffics at unique
      rw [List.map_append] at unique
      have apart := (List.nodup_append.mp unique).2.2
      have isDropped : client.email ∈ (droppedClients oldClients newClients).map (·.email) := by
        by_contra notDropped
        refine apart client.email ?_ client.email ?_ rfl
        · exact List.mem_map.mpr ⟨_, List.mem_filter.mpr ⟨inRows, decide_eq_true notDropped⟩, rfl⟩
        · rw [List.map_map]
          exact List.mem_map.mpr ⟨client, member, rfl⟩
      obtain ⟨other, inDropped, sameEmail⟩ := List.mem_map.mp isDropped
      exact (mem_droppedClients.mp inDropped).2 client (mem_addedClients.mp member).1 sameEmail.symm
    refine ⟨fun client isDropped row stored sameEmail => ?_, noneAdded⟩
    rw [noneAdded, List.map_nil, List.append_nil, List.filter_eq_self] at same
    have kept := of_decide_eq_true (same row stored)
    exact kept (List.mem_map.mpr ⟨client, isDropped, sameEmail.symm⟩)
  · intro stay
    rw [stay.added, List.map_nil, List.append_nil, List.filter_eq_self]
    intro row stored
    refine decide_eq_true fun isDropped => ?_
    obtain ⟨client, inDropped, sameEmail⟩ := List.mem_map.mp isDropped
    exact stay.dropped client inDropped row stored sameEmail.symm

/-- Where the rows could be written and the inbound cannot, they are lost or as they were. -/
def ReplacementStays (faults : InboundSite → Bool) (oldInbound inbound : Inbound) (db : Database) :
    Prop :=
  ∀ oldClients newClients, getClients oldInbound.settings = .ok oldClients →
    getClients inbound.settings = .ok newClients →
    (∃ stats, updateClientTraffics faults db oldInbound inbound = .ok stats) →
    SaveFails (faults .save) (replacedInbound oldInbound inbound) db →
    faults .commit = true ∨ RowsStay db oldClients newClients

theorem replaceInbound_rollsBack_iff :
    RollsBack (replaceInbound faults oldInbound inbound) db ↔
      ReplacementStays faults oldInbound inbound db := by
  unfold RollsBack replaceInbound
  cases updated : updateClientTraffics faults db oldInbound inbound with
  | error message =>
    constructor
    · rintro _ _ _ _ _ ⟨stats, isOk⟩
      rw [updated] at isOk
      cases isOk
    · intro _ other next failed
      cases failed
      rfl
  | ok stats =>
    have sameInbounds := updateClientTraffics_inbounds updated
    obtain ⟨oldClients, isOld, rest⟩ := bind_eq_ok.mp updated
    obtain ⟨newClients, isNew, _⟩ := bind_eq_ok.mp rest
    have written := updateClientTraffics_rows updated isOld isNew
    have sameRows : stats = db ↔ RowsStay db oldClients newClients := by
      refine written.eq_iff.trans (rowsStay_iff ?_)
      rw [← written.rows]
      exact stats.clientTraffics.valid
    have fails := @saveFails_iff db (faults .save) (replacedInbound oldInbound inbound) stats
      sameInbounds
    dsimp only
    cases saved : attempt (faults .save)
        (stats.saveInbound (replacedInbound oldInbound inbound)) with
    | ok next =>
      constructor
      · intro _ _ _ _ _ _ saveFails
        obtain ⟨message, isError⟩ := fails.mpr saveFails
        rw [saved] at isError
        cases isError
      · intro _ message other failed
        cases failed
    | error message =>
      dsimp only
      constructor
      · intro atomic others olders isOthers isOlders _ _
        cases isOld.symm.trans isOthers
        cases isNew.symm.trans isOlders
        cases lost : faults .commit with
        | true => exact .inl rfl
        | false => exact .inr (sameRows.mp (atomic message stats (by rw [lost]; rfl)))
      · intro stays other next failed
        cases failed
        rcases stays oldClients newClients isOld isNew ⟨stats, updated⟩
          (fails.mp ⟨message, saved⟩) with lost | stay
        · rw [if_pos lost]
        · rw [sameRows.mpr stay, ite_self]

end Update

/-! ## New clients -/

/-- The call panics on its way through the clients. -/
def RowsPanic (faults : ClientFaults) (oldInbound : Inbound) (clients : List Client) : Prop :=
  ∃ client ∈ clients, client.email ≠ "" ∧ methodPanics faults oldInbound client = true

/-- No row is created for any of the clients. -/
def NoNewRows (faults : ClientFaults) (db : Database) (clients : List Client) : Prop :=
  ∀ client ∈ clients, client.email ≠ "" → faults.own (.createStat client.email) = true ∨
    ∃ row ∈ db.clientTraffics.rows, row.email = client.email

section Rows

variable {faults : ClientFaults} {db stats next : Database} {oldInbound : Inbound} {fails : Bool}
  {inboundID : Int} {client : Client} {clients : List Client} {running : Bool} {settings : Settings}

/-- A row that cannot be created is there already, or its statement fails. -/
theorem addClientStat_fails {message : String}
    (failed : addClientStat db fails inboundID client = .error message) :
    fails = true ∨ ∃ row ∈ db.clientTraffics.rows, row.email = client.email := by
  by_contra neither
  push Not at neither
  obtain ⟨passes, absent⟩ := neither
  have unique : UniqueTraffics (db.clientTraffics.rows ++ [clientStat inboundID client]) := by
    unfold UniqueTraffics
    rw [List.map_append, List.nodup_append]
    refine ⟨db.clientTraffics.valid, List.nodup_singleton _, ?_⟩
    intro email inRows other isOther same
    obtain ⟨row, stored, rfl⟩ := List.mem_map.mp inRows
    rw [List.mem_singleton.mp isOther] at same
    exact absent row stored same
  have created : db.createTraffic (clientStat inboundID client) =
      .ok { db with clientTraffics := ⟨_, unique⟩ } := createTraffic_eq_ok.mpr ⟨rfl, rfl, rfl⟩
  have isOk : addClientStat db fails inboundID client = _ :=
    attempt_eq_ok.mpr ⟨Bool.eq_false_iff.mpr passes, created⟩
  rw [isOk] at failed
  cases failed

theorem addClientStat_writes (added : addClientStat db fails inboundID client = .ok next) :
    fails = false ∧
      TrafficsWritten (db.clientTraffics.rows ++ [clientStat inboundID client]) db next ∧
      ∀ row ∈ db.clientTraffics.rows, row.email ≠ client.email := by
  obtain ⟨passes, created⟩ := attempt_eq_ok.mp added
  have written :
      TrafficsWritten (db.clientTraffics.rows ++ [clientStat inboundID client]) db next :=
    createTraffic_eq_ok.mp created
  refine ⟨passes, written, fun row stored same => ?_⟩
  have unique := next.clientTraffics.valid
  unfold UniqueTraffics at unique
  rw [written.rows, List.map_append, List.nodup_append] at unique
  exact unique.2.2 row.email (List.mem_map_of_mem stored) client.email (by simp [clientStat]) same

/-- The rows of new clients stand behind those that were there. -/
theorem addClientRows_spec {panicked : Bool}
    (added : addClientRows faults oldInbound clients db = (panicked, next)) :
    (panicked = true ↔ RowsPanic faults oldInbound clients) ∧
      ∃ more, TrafficsWritten (db.clientTraffics.rows ++ more) db next ∧
        (panicked = false → (more = [] ↔ NoNewRows faults db clients)) := by
  induction clients generalizing db with
  | nil =>
    cases added
    refine ⟨by simp [RowsPanic], [], ⟨by simp, rfl, rfl⟩, fun _ => ?_⟩
    simp [NoNewRows]
  | cons client rest inductionHypothesis =>
    have panicsCons : RowsPanic faults oldInbound (client :: rest) ↔
        (client.email ≠ "" ∧ methodPanics faults oldInbound client = true) ∨
          RowsPanic faults oldInbound rest := by
      unfold RowsPanic
      simp only [List.mem_cons, or_and_right, exists_or, exists_eq_left]
    have newCons : NoNewRows faults db (client :: rest) ↔
        (client.email ≠ "" → faults.own (.createStat client.email) = true ∨
          ∃ row ∈ db.clientTraffics.rows, row.email = client.email) ∧ NoNewRows faults db rest := by
      unfold NoNewRows
      rw [List.forall_mem_cons]
    rw [panicsCons, newCons]
    unfold addClientRows at added
    by_cases blank : client.email = ""
    · rw [if_pos blank] at added
      simpa [blank] using inductionHypothesis added
    · rw [if_neg blank] at added
      by_cases panics : methodPanics faults oldInbound client = true
      · -- the call stops behind the row of this client
        rw [if_pos panics] at added
        have isPanic : panicked = true := (congrArg Prod.fst added).symm
        refine ⟨iff_of_true isPanic (.inl ⟨blank, panics⟩), ?_⟩
        cases created : addClientStat db (faults.own (.createStat client.email)) oldInbound.id
            client with
        | ok middle =>
          rw [created] at added
          cases added
          exact ⟨_, (addClientStat_writes created).2.1, fun isFalse => by cases isFalse⟩
        | error message =>
          rw [created] at added
          cases added
          exact ⟨[], ⟨by simp, rfl, rfl⟩, fun isFalse => by cases isFalse⟩
      · rw [if_neg panics] at added
        cases created : addClientStat db (faults.own (.createStat client.email)) oldInbound.id
            client with
        | ok middle =>
          rw [created] at added
          obtain ⟨passes, written, absent⟩ := addClientStat_writes created
          obtain ⟨samePanic, more, rest, _⟩ := inductionHypothesis added
          refine ⟨by simp [samePanic, panics], clientStat oldInbound.id client :: more, ?_, ?_⟩
          · rw [written.rows, List.append_assoc] at rest
            exact written.trans rest
          · refine fun _ => iff_of_false (by simp) fun ⟨noRow, _⟩ => ?_
            rcases noRow blank with fails | ⟨row, stored, same⟩
            · rw [passes] at fails
              cases fails
            · exact absent row stored same
        | error message =>
          rw [created] at added
          have noRow := addClientStat_fails created
          obtain ⟨samePanic, more, rest, newRows⟩ := inductionHypothesis added
          refine ⟨by simp [samePanic, panics], more, rest, fun calm => ?_⟩
          rw [newRows calm]
          exact ⟨fun others => ⟨fun _ => noRow, others⟩, And.right⟩

/-- The call panics before or while it writes the rows. -/
def StorePanics (faults : ClientFaults) (running : Bool) (oldInbound : Inbound)
    (clients : List Client) : Prop :=
  running = false ∨ RowsPanic faults oldInbound clients

/-- Where the inbound cannot be saved, no row was created, or they are lost. -/
def AdditionStays (faults : ClientFaults) (oldInbound : Inbound) (clients : List Client)
    (settings : Settings) (db : Database) : Prop :=
  SaveFails (faults.own .save) { oldInbound with settings } db →
    faults.own .commit = true ∨ NoNewRows faults db clients

theorem endsWith_rollsBack_iff {settings : Settings} (sameInbounds : stats.inbounds = db.inbounds) :
    (∀ message next, endsWith faults db stats (attempt (faults.own .save)
        (stats.saveInbound { oldInbound with settings })) = (.error message, next) → next = db) ↔
      (SaveFails (faults.own .save) { oldInbound with settings } db →
        faults.own .commit = true ∨ stats = db) := by
  have fails := @saveFails_iff db (faults.own .save) { oldInbound with settings } stats sameInbounds
  unfold endsWith
  cases saved : attempt (faults.own .save) (stats.saveInbound { oldInbound with settings }) with
  | ok saved' =>
    constructor
    · intro _ saveFails
      obtain ⟨message, isError⟩ := fails.mpr saveFails
      rw [saved] at isError
      cases isError
    · intro _ message other failed
      cases failed
  | error message =>
    constructor
    · intro atomic _
      cases lost : faults.own .commit with
      | true => exact .inl rfl
      | false => exact .inr (atomic message stats (by rw [lost]; rfl))
    · intro stays other next failed
      cases failed
      rcases stays (fails.mp ⟨message, saved⟩) with lost | same
      · rw [if_pos lost]
      · rw [same, ite_self]

theorem storeClients_rollsBack_iff (calm : ¬ StorePanics faults running oldInbound clients) :
    RollsBack (storeClients faults running oldInbound clients settings) db ↔
      AdditionStays faults oldInbound clients settings db := by
  have isRunning : running = true := Bool.eq_true_of_not_eq_false fun stopped => calm (.inl stopped)
  unfold RollsBack storeClients
  cases added : addClientRows faults oldInbound clients db with
  | mk panicked stats =>
    obtain ⟨samePanic, more, written, newRows⟩ := addClientRows_spec added
    have noPanic : panicked = false :=
      Bool.eq_false_iff.mpr fun panics => calm (.inr (samePanic.mp panics))
    subst noPanic isRunning
    have sameRows : stats = db ↔ NoNewRows faults db clients := by
      rw [written.eq_iff, ← newRows rfl]
      simp
    simp only [not_true_eq_false, if_false]
    refine (endsWith_rollsBack_iff written.inbounds).trans ?_
    unfold AdditionStays
    rw [sameRows]

end Rows

/-! ## One client for another -/

def updatedStat (client : Client) (row : ClientTraffic) : ClientTraffic :=
  { row with
    enable := client.enable
    email := client.email
    total := client.totalGB
    expiryTime := client.expiryTime
    reset := client.reset }

/-- The traffic row and the IP record of the client come out as they were. -/
def ClientRowsStay (faults : ClientFaults) (oldEmail : String) (client : Client) (db : Database) :
    Prop :=
  if client.email ≠ "" then
    if oldEmail ≠ "" then
      (∀ row ∈ db.clientTraffics.rows, row.email = oldEmail → updatedStat client row = row) ∧
        ∀ record ∈ db.clientIps.rows, record.clientEmail = oldEmail → client.email = oldEmail
    else NoNewRows faults db [client]
  else
    (∀ row ∈ db.clientTraffics.rows, row.email ≠ oldEmail) ∧
      ∀ record ∈ db.clientIps.rows, record.clientEmail ≠ oldEmail

section Replacement

variable {faults : ClientFaults} {db stats middle next : Database} {oldInbound : Inbound}
  {inboundID : Int} {oldEmail : String} {client : Client} {running : Bool} {update : ClientUpdate}

theorem map_eq_self_iff {Value : Type} {function : Value → Value} {values : List Value} :
    values.map function = values ↔ ∀ value ∈ values, function value = value := by
  conv_lhs => rhs; rw [← List.map_id values]
  rw [List.map_inj_left]
  rfl

theorem filter_ne_eq_self_iff {Row : Type} {key : Row → String} {email : String}
    {rows : List Row} : rows.filter (key · ≠ email) = rows ↔ ∀ row ∈ rows, key row ≠ email := by
  rw [List.filter_eq_self]
  simp

theorem updateTraffic_writes {update : ClientTraffic → ClientTraffic}
    (updated : db.updateTraffic oldEmail update = .ok next) :
    TrafficsWritten (db.clientTraffics.rows.map fun row =>
      if row.email = oldEmail then update row else row) db next := by
  obtain ⟨table, written, isNext⟩ := bind_eq_ok.mp updated
  cases pure_eq_ok.mp isNext
  exact ⟨Table.write_eq_ok.mp written, rfl, rfl⟩

/-- What is written of a client and of its IP record. -/
structure ClientWritten (rows : List ClientTraffic) (records : List InboundClientIps)
    (db next : Database) : Prop where
  rows : next.clientTraffics.rows = rows
  records : next.clientIps.rows = records
  inbounds : next.inbounds = db.inbounds

theorem ClientWritten.eq_iff {rows : List ClientTraffic} {records : List InboundClientIps}
    (written : ClientWritten rows records db next) :
    next = db ↔ rows = db.clientTraffics.rows ∧ records = db.clientIps.rows := by
  constructor
  · rintro rfl
    exact ⟨written.rows.symm, written.records.symm⟩
  · rintro ⟨sameRows, sameRecords⟩
    exact database_eq (congrArg _ written.inbounds) (written.rows.trans sameRows)
      (written.records.trans sameRecords)

theorem renameClientIps_writes {rows : List ClientTraffic} {newEmail : String}
    (written : TrafficsWritten rows db middle)
    (renamed : middle.renameClientIps oldEmail newEmail = .ok next) :
    ClientWritten rows (db.clientIps.rows.map fun record =>
      if record.clientEmail = oldEmail then { record with clientEmail := newEmail } else record)
      db next := by
  obtain ⟨table, isTable, isNext⟩ := bind_eq_ok.mp renamed
  cases pure_eq_ok.mp isNext
  refine ⟨written.rows, ?_, written.inbounds⟩
  rw [← written.ips]
  exact Table.write_eq_ok.mp isTable

theorem deleteClientIps_writes {rows : List ClientTraffic}
    (written : TrafficsWritten rows db middle)
    (deleted : middle.deleteClientIps oldEmail = .ok next) :
    ClientWritten rows (db.clientIps.rows.filter (·.clientEmail ≠ oldEmail)) db next := by
  obtain ⟨table, isTable, isNext⟩ := bind_eq_ok.mp deleted
  cases pure_eq_ok.mp isNext
  refine ⟨written.rows, ?_, written.inbounds⟩
  rw [← written.ips]
  exact Table.write_eq_ok.mp isTable

theorem updateClientRows_spec
    (updated : updateClientRows faults db inboundID oldEmail client = .ok stats) :
    stats.inbounds = db.inbounds ∧ (stats = db ↔ ClientRowsStay faults oldEmail client db) := by
  unfold updateClientRows at updated
  unfold ClientRowsStay
  by_cases named : client.email ≠ ""
  · rw [if_pos named] at updated ⊢
    by_cases wasNamed : oldEmail ≠ ""
    · rw [if_pos wasNamed] at updated ⊢
      obtain ⟨middle, first, second⟩ := bind_eq_ok.mp updated
      have written := renameClientIps_writes
        (updateTraffic_writes (attempt_eq_ok.mp first).2) (attempt_eq_ok.mp second).2
      refine ⟨written.inbounds, written.eq_iff.trans (and_congr ?_ ?_)⟩
      · rw [map_eq_self_iff]
        refine forall₂_congr fun row _ => ?_
        by_cases same : row.email = oldEmail
        · rw [if_pos same]
          exact ⟨fun stays _ => stays, fun stays => stays same⟩
        · rw [if_neg same]
          exact ⟨fun _ isSame => absurd isSame same, fun _ => rfl⟩
      · rw [map_eq_self_iff]
        refine forall₂_congr fun record _ => ?_
        by_cases same : record.clientEmail = oldEmail
        · rw [if_pos same]
          refine ⟨fun stays _ => ?_, fun stays => ?_⟩
          · rw [← same, ← congrArg InboundClientIps.clientEmail stays]
          · rw [stays same, ← same]
        · rw [if_neg same]
          exact ⟨fun _ isSame => absurd isSame same, fun _ => rfl⟩
    · rw [if_neg wasNamed] at updated ⊢
      cases added : addClientStat db (faults.own (.createStat client.email)) inboundID client with
      | ok created =>
        rw [added] at updated
        cases updated
        obtain ⟨passes, written, absent⟩ := addClientStat_writes added
        refine ⟨written.inbounds, iff_of_false (fun same => ?_) fun noRows => ?_⟩
        · simpa using written.eq_iff.mp same
        · rcases noRows client (by simp) named with fails | ⟨row, stored, same⟩
          · rw [passes] at fails
            cases fails
          · exact absent row stored same
      | error message =>
        rw [added] at updated
        cases updated
        refine ⟨rfl, iff_of_true rfl fun other isOther _ => ?_⟩
        rw [List.mem_singleton.mp isOther]
        exact addClientStat_fails added
  · rw [if_neg named] at updated ⊢
    obtain ⟨middle, first, second⟩ := bind_eq_ok.mp updated
    have written := deleteClientIps_writes
      (deleteTraffic_eq_ok.mp (attempt_eq_ok.mp first).2) (attempt_eq_ok.mp second).2
    exact ⟨written.inbounds,
      written.eq_iff.trans (and_congr filter_ne_eq_self_iff filter_ne_eq_self_iff)⟩

/-- The call panics behind the rows. -/
def UpdatePanics (faults : ClientFaults) (running : Bool) (oldInbound : Inbound)
    (update : ClientUpdate) : Prop :=
  update.oldEmail ≠ "" ∧ (running = false ∨ methodPanics faults oldInbound update.client = true)

/-- Where the rows could be written and the inbound cannot, they are lost or as they were. -/
def ClientUpdateStays (faults : ClientFaults) (oldInbound : Inbound) (update : ClientUpdate)
    (db : Database) : Prop :=
  (∃ stats, updateClientRows faults db oldInbound.id update.oldEmail update.client = .ok stats) →
    SaveFails (faults.own .save) { oldInbound with settings := update.settings } db →
      faults.own .commit = true ∨ ClientRowsStay faults update.oldEmail update.client db

theorem storeClient_rollsBack_iff (calm : ¬ UpdatePanics faults running oldInbound update) :
    RollsBack (storeClient faults running oldInbound update) db ↔
      ClientUpdateStays faults oldInbound update db := by
  unfold RollsBack storeClient ClientUpdateStays
  cases updated : updateClientRows faults db oldInbound.id update.oldEmail update.client with
  | error message =>
    constructor
    · rintro _ ⟨stats, isOk⟩
      cases isOk
    · intro _ other next failed
      cases failed
      rfl
  | ok stats =>
    obtain ⟨sameInbounds, sameRows⟩ := updateClientRows_spec updated
    have noPanic : ¬ (update.oldEmail ≠ "" ∧
        (running = false ∨ methodPanics faults oldInbound update.client = true)) := calm
    dsimp only
    simp only [if_neg noPanic]
    refine (endsWith_rollsBack_iff sameInbounds).trans ?_
    rw [sameRows]
    exact ⟨fun stays _ => stays, fun stays => stays ⟨stats, rfl⟩⟩

end Replacement

/-! ## Peers of a WireGuard inbound -/

section Peers

variable {library : Library} {faults : PeerSite → Bool} {inboundID peerIndex : Int}
  {data : Settings} {db : Database}

theorem mutateWireguardPeers_rollsBack
    {mutate : List WireguardPeer → Except String (List WireguardPeer)} :
    RollsBack (mutateWireguardPeers library faults inboundID mutate) db :=
  rollsBack_query_bind.mpr fun _ _ => RollsBack.uncheckedTransaction

theorem addInboundPeer_rollsBack : RollsBack (addInboundPeer library faults inboundID data) db := by
  refine rollsBack_query_bind.mpr fun value _ => ?_
  dsimp only
  split
  · exact RollsBack.throw _
  · exact mutateWireguardPeers_rollsBack

theorem updateInboundPeer_rollsBack :
    RollsBack (updateInboundPeer library faults inboundID data peerIndex) db := by
  refine rollsBack_query_bind.mpr fun value _ => ?_
  dsimp only
  split
  · exact mutateWireguardPeers_rollsBack
  · exact RollsBack.throw _

end Peers

/-! ## Edits -/

/-- A call that edits an inbound, with the statements that fail. -/
inductive InboundEdit where
  | updateInbound (faults : InboundSite → Bool) (inbound : Inbound)
  | addInboundClient (faults : ClientFaults) (inboundID : Int) (data : Settings)
  | updateInboundClient (faults : ClientFaults) (inboundID : Int) (data : Settings)
      (clientID : String)

/-- An inbound whose clients the calls write themselves. -/
structure OwnInbound (fails : Bool) (inboundID : Int) (db : Database) (oldInbound : Inbound) :
    Prop where
  stored : db.getInbound fails inboundID = .ok oldInbound
  notVKTurn : oldInbound.protocol ≠ .vkTurnProxy
  notWireguard : oldInbound.protocol ≠ .wireguard

section Edits

variable (library : Library) (clock : Clock) (running : Bool)

/-- The changes of the peers that an added client of VK TURN comes with. -/
def BoundAdditionStays (faults : Faults) (inboundID : Int) (data : Envelope) (db : Database) :
    Prop :=
  ∀ oldInbound settings client,
    checkedAddition library faults clock db inboundID data = .ok (oldInbound, settings, client) →
    ∀ bound changes, bindingPlan faults clock settings client none db = .ok (bound, changes) →
      ChangesStay library settings.forward.wireguardInboundID changes
        (committed (faults .commit) (saveSettings faults oldInbound
          { settings with clients := settings.clients ++ [bound] } fun db =>
            addVKTurnProxyClientTraffic faults db oldInbound.id bound)) db

/-- Those of a client of VK TURN that takes the place of another. -/
def BoundUpdateStays (faults : Faults) (inboundID : Int) (data : Envelope) (clientID : String)
    (db : Database) : Prop :=
  ∀ oldInbound settings index previous client,
    checkedUpdate library faults clock db inboundID data clientID =
      .ok (oldInbound, settings, index, previous, client) →
    ∀ bound changes,
      bindingPlan faults clock settings client (some previous) db = .ok (bound, changes) →
      ChangesStay library settings.forward.wireguardInboundID changes
        (committed (faults .commit) (saveSettings faults oldInbound
          { settings with clients := settings.clients.set index bound } fun db =>
            updateVKTurnProxyClientTraffic faults db previous.email bound)) db

namespace InboundEdit

def program : InboundEdit → Program Database Unit
  | updateInbound faults inbound => Panel.updateInbound library faults clock inbound
  | addInboundClient faults inboundID data =>
    Panel.addInboundClient library faults clock running inboundID data
  | updateInboundClient faults inboundID data clientID =>
    Panel.updateInboundClient library faults clock running inboundID data clientID

/-- The call panics in its transaction, and returns nothing. -/
def Panics : InboundEdit → Database → Prop
  | updateInbound _ _, _ => False
  | addInboundClient faults inboundID data, db => ∃ oldInbound clients settings,
      OwnInbound (faults.own .inbound) inboundID db oldInbound ∧
        checkedClients library faults db oldInbound data = .ok (clients, settings) ∧
          StorePanics faults running oldInbound clients
  | updateInboundClient faults inboundID data clientID, db => ∃ oldInbound update,
      OwnInbound (faults.own .inbound) inboundID db oldInbound ∧
        checkedClient library faults db oldInbound data clientID = .ok update ∧
          UpdatePanics faults running oldInbound update

/-- If the call returns an error, the tables are as they were. -/
def AtomicOnError (edit : InboundEdit) (db : Database) : Prop :=
  ¬ edit.Panics library running db → RollsBack (edit.program library clock running) db

/-- No statement fails behind one that has changed a table for good. -/
def AtomicWhen : InboundEdit → Database → Prop
  | updateInbound faults inbound, db => ∀ requested oldInbound,
      checkedReplacement library faults clock db inbound = .ok (requested, oldInbound) →
        ReplacementStays faults oldInbound requested db
  | addInboundClient faults inboundID data, db =>
      ((∃ oldInbound, db.getInbound (faults.own .inbound) inboundID = .ok oldInbound ∧
        oldInbound.protocol = .vkTurnProxy) →
          BoundAdditionStays library clock faults.vkTurn inboundID
            (getVKTurnProxyClientEnvelope data) db) ∧
      ∀ oldInbound clients settings, OwnInbound (faults.own .inbound) inboundID db oldInbound →
        checkedClients library faults db oldInbound data = .ok (clients, settings) →
          ¬ StorePanics faults running oldInbound clients →
            AdditionStays faults oldInbound clients settings db
  | updateInboundClient faults inboundID data clientID, db =>
      ((∃ oldInbound, db.getInbound (faults.own .inbound) inboundID = .ok oldInbound ∧
        oldInbound.protocol = .vkTurnProxy) →
          BoundUpdateStays library clock faults.vkTurn inboundID
            (getVKTurnProxyClientEnvelope data) clientID db) ∧
      ∀ oldInbound update, OwnInbound (faults.own .inbound) inboundID db oldInbound →
        checkedClient library faults db oldInbound data clientID = .ok update →
          ¬ UpdatePanics faults running oldInbound update →
            ClientUpdateStays faults oldInbound update db

end InboundEdit

end Edits

section Atomicity

variable {library : Library} {clock : Clock} {running : Bool} {db : Database} {faults : Faults}
  {inboundID : Int} {envelope : Envelope} {clientID : String}

theorem addVKTurnProxyClient_rollsBack_iff :
    RollsBack (addVKTurnProxyClient library faults clock inboundID envelope) db ↔
      BoundAdditionStays library clock faults inboundID envelope db := by
  refine rollsBack_query_bind.trans ?_
  constructor
  · intro atomic oldInbound settings client checked
    have branch := atomic _ checked
    dsimp only at branch
    exact boundCall_rollsBack_iff.mp branch
  · rintro stays ⟨oldInbound, settings, client⟩ checked
    dsimp only
    exact boundCall_rollsBack_iff.mpr (stays oldInbound settings client checked)

theorem updateVKTurnProxyClient_rollsBack_iff :
    RollsBack (updateVKTurnProxyClient library faults clock inboundID envelope clientID) db ↔
      BoundUpdateStays library clock faults inboundID envelope clientID db := by
  refine rollsBack_query_bind.trans ?_
  constructor
  · intro atomic oldInbound settings index previous client checked
    have branch := atomic _ checked
    dsimp only at branch
    exact boundCall_rollsBack_iff.mp branch
  · rintro stays ⟨oldInbound, settings, index, previous, client⟩ checked
    dsimp only
    exact boundCall_rollsBack_iff.mpr (stays oldInbound settings index previous client checked)

theorem OwnInbound.same {fails : Bool} {oldInbound other : Inbound}
    (own : OwnInbound fails inboundID db oldInbound)
    (stored : db.getInbound fails inboundID = .ok other) : other = oldInbound :=
  Except.ok.inj (stored.symm.trans own.stored)

/-- A call that reads its inbound and hands over where that has clients of VK TURN or peers. -/
theorem dispatch_rollsBack_iff {fails : Bool} {vkTurn wireguard : Program Database Unit}
    {own : Inbound → Program Database Unit} :
    RollsBack (do
        let oldInbound ← query (·.getInbound fails inboundID)
        if oldInbound.protocol = .vkTurnProxy then vkTurn
        else if oldInbound.protocol = .wireguard then wireguard
        else own oldInbound) db ↔
      ((∃ oldInbound, db.getInbound fails inboundID = .ok oldInbound ∧
        oldInbound.protocol = .vkTurnProxy) → RollsBack vkTurn db) ∧
      ((∃ oldInbound, db.getInbound fails inboundID = .ok oldInbound ∧
        oldInbound.protocol = .wireguard) → RollsBack wireguard db) ∧
      ∀ oldInbound, OwnInbound fails inboundID db oldInbound → RollsBack (own oldInbound) db := by
  refine rollsBack_query_bind.trans ?_
  constructor
  · intro atomic
    refine ⟨?_, ?_, ?_⟩
    · rintro ⟨oldInbound, stored, isVKTurn⟩
      have branch := atomic oldInbound stored
      rwa [if_pos isVKTurn] at branch
    · rintro ⟨oldInbound, stored, isWireguard⟩
      have notVKTurn : oldInbound.protocol ≠ .vkTurnProxy := by
        rw [isWireguard]
        decide
      have branch := atomic oldInbound stored
      rwa [if_neg notVKTurn, if_pos isWireguard] at branch
    · intro oldInbound isOwn
      have branch := atomic oldInbound isOwn.stored
      rwa [if_neg isOwn.notVKTurn, if_neg isOwn.notWireguard] at branch
  · rintro ⟨inVKTurn, inWireguard, inOwn⟩ oldInbound stored
    by_cases isVKTurn : oldInbound.protocol = .vkTurnProxy
    · rw [if_pos isVKTurn]
      exact inVKTurn ⟨oldInbound, stored, isVKTurn⟩
    rw [if_neg isVKTurn]
    by_cases isWireguard : oldInbound.protocol = .wireguard
    · rw [if_pos isWireguard]
      exact inWireguard ⟨oldInbound, stored, isWireguard⟩
    · rw [if_neg isWireguard]
      exact inOwn oldInbound ⟨stored, isVKTurn, isWireguard⟩

section Client

variable {clientFaults : ClientFaults} {data : Settings}

theorem addInboundClient_rollsBack_iff :
    RollsBack (addInboundClient library clientFaults clock running inboundID data) db ↔
      ((∃ oldInbound, db.getInbound (clientFaults.own .inbound) inboundID = .ok oldInbound ∧
        oldInbound.protocol = .vkTurnProxy) →
          BoundAdditionStays library clock clientFaults.vkTurn inboundID
            (getVKTurnProxyClientEnvelope data) db) ∧
      ∀ oldInbound clients settings,
        OwnInbound (clientFaults.own .inbound) inboundID db oldInbound →
        checkedClients library clientFaults db oldInbound data = .ok (clients, settings) →
          RollsBack (storeClients clientFaults running oldInbound clients settings) db := by
  refine dispatch_rollsBack_iff.trans ?_
  rw [addVKTurnProxyClient_rollsBack_iff]
  refine and_congr_right fun _ => ?_
  constructor
  · rintro ⟨_, atomic⟩ oldInbound clients settings own checked
    exact rollsBack_query_bind.mp (atomic oldInbound own) _ checked
  · intro atomic
    refine ⟨fun _ => addInboundPeer_rollsBack, fun oldInbound own => ?_⟩
    refine rollsBack_query_bind.mpr ?_
    rintro ⟨clients, settings⟩ checked
    exact atomic oldInbound clients settings own checked

theorem updateInboundClient_rollsBack_iff :
    RollsBack (updateInboundClient library clientFaults clock running inboundID data clientID) db ↔
      ((∃ oldInbound, db.getInbound (clientFaults.own .inbound) inboundID = .ok oldInbound ∧
        oldInbound.protocol = .vkTurnProxy) →
          BoundUpdateStays library clock clientFaults.vkTurn inboundID
            (getVKTurnProxyClientEnvelope data) clientID db) ∧
      ∀ oldInbound update, OwnInbound (clientFaults.own .inbound) inboundID db oldInbound →
        checkedClient library clientFaults db oldInbound data clientID = .ok update →
          RollsBack (storeClient clientFaults running oldInbound update) db := by
  refine dispatch_rollsBack_iff.trans ?_
  rw [updateVKTurnProxyClient_rollsBack_iff]
  refine and_congr_right fun _ => ?_
  constructor
  · rintro ⟨_, atomic⟩ oldInbound update own checked
    exact rollsBack_query_bind.mp (atomic oldInbound own) _ checked
  · intro atomic
    refine ⟨fun _ => ?_, fun oldInbound own => ?_⟩
    · cases atoi clientID with
      | error message => exact RollsBack.throw _
      | ok peerIndex => exact updateInboundPeer_rollsBack
    · exact rollsBack_query_bind.mpr fun update checked => atomic oldInbound update own checked

end Client

/-- An edit that returns an error leaves the tables as they were exactly when no statement fails
    behind one that has changed them for good. -/
theorem atomicOnError_iff (edit : InboundEdit) :
    edit.AtomicOnError library clock running db ↔ edit.AtomicWhen library clock running db := by
  cases edit with
  | updateInbound faults inbound =>
    have always : ¬ (InboundEdit.updateInbound faults inbound).Panics library running db := id
    unfold InboundEdit.AtomicOnError
    refine (forall_prop_of_true always).trans (rollsBack_query_bind.trans ?_)
    constructor
    · intro atomic requested oldInbound checked
      exact replaceInbound_rollsBack_iff.mp (atomic _ checked)
    · rintro stays ⟨requested, oldInbound⟩ checked
      exact replaceInbound_rollsBack_iff.mpr (stays requested oldInbound checked)
  | addInboundClient faults inboundID data =>
    constructor
    · intro atomic
      refine ⟨?_, ?_⟩
      · rintro ⟨oldInbound, stored, isVKTurn⟩
        refine (addInboundClient_rollsBack_iff.mp (atomic ?_)).1 ⟨oldInbound, stored, isVKTurn⟩
        rintro ⟨other, _, _, own, _⟩
        exact own.notVKTurn (own.same stored ▸ isVKTurn)
      · intro oldInbound clients settings own checked calm
        refine (storeClients_rollsBack_iff calm).mp ((addInboundClient_rollsBack_iff.mp
          (atomic ?_)).2 oldInbound clients settings own checked)
        rintro ⟨other, others, olders, isOther, isChecked, panics⟩
        cases isOther.same own.stored
        cases checked.symm.trans isChecked
        exact calm panics
    · rintro ⟨bound, stays⟩ calm
      refine addInboundClient_rollsBack_iff.mpr ⟨bound, ?_⟩
      intro oldInbound clients settings own checked
      have noPanic : ¬ StorePanics faults running oldInbound clients := fun panics =>
        calm ⟨oldInbound, clients, settings, own, checked, panics⟩
      exact (storeClients_rollsBack_iff noPanic).mpr
        (stays oldInbound clients settings own checked noPanic)
  | updateInboundClient faults inboundID data clientID =>
    constructor
    · intro atomic
      refine ⟨?_, ?_⟩
      · rintro ⟨oldInbound, stored, isVKTurn⟩
        refine (updateInboundClient_rollsBack_iff.mp (atomic ?_)).1 ⟨oldInbound, stored, isVKTurn⟩
        rintro ⟨other, _, own, _⟩
        exact own.notVKTurn (own.same stored ▸ isVKTurn)
      · intro oldInbound update own checked calm
        refine (storeClient_rollsBack_iff calm).mp
          ((updateInboundClient_rollsBack_iff.mp (atomic ?_)).2 oldInbound update own checked)
        rintro ⟨other, others, isOther, isChecked, panics⟩
        cases isOther.same own.stored
        cases checked.symm.trans isChecked
        exact calm panics
    · rintro ⟨bound, stays⟩ calm
      refine updateInboundClient_rollsBack_iff.mpr ⟨bound, ?_⟩
      intro oldInbound update own checked
      have noPanic : ¬ UpdatePanics faults running oldInbound update := fun panics =>
        calm ⟨oldInbound, update, own, checked, panics⟩
      exact (storeClient_rollsBack_iff noPanic).mpr (stays oldInbound update own checked noPanic)

end Atomicity

/-! An inbound that gets a second client, and is not saved. -/

def firstClient : Client := { id := "1", email := "a", enable := true }

def secondClient : Client := { id := "2", email := "b", enable := true }

def storedInbound : Inbound where
  id := 1
  port := 443
  protocol := ⟨"vless"⟩
  settings := .clients [firstClient]
  tag := "inbound-443"

def requestedInbound : Inbound :=
  { storedInbound with settings := .clients [firstClient, secondClient] }

theorem uniqueInbounds_stored : UniqueInbounds [storedInbound] := by
  unfold UniqueInbounds
  simp

def storedDatabase : Database where
  inbounds := ⟨[storedInbound], uniqueInbounds_stored⟩
  clientTraffics := ⟨[], uniqueTraffics_nil⟩
  clientIps := ⟨[], uniqueIps_nil⟩

/-- The update whose last statement fails. -/
def unsavedUpdate : InboundEdit := .updateInbound (fun site => site = .save) requestedInbound

def afterUnsaved : Database :=
  (unsavedUpdate.program canonical noon true storedDatabase).2

/-- The call returns an error, the inbound is as it was, and the new client has a row. -/
theorem unsaved_update_commits :
    (unsavedUpdate.program canonical noon true storedDatabase).1 = .error "database error" ∧
      afterUnsaved.inbounds.rows = [storedInbound] ∧
      afterUnsaved.clientTraffics.rows.map (·.email) = ["b"] ∧
      ¬ unsavedUpdate.AtomicOnError canonical noon true storedDatabase := by
  have rows : afterUnsaved.clientTraffics.rows.map (·.email) = ["b"] := by decide
  have isError : (unsavedUpdate.program canonical noon true storedDatabase).1 =
      .error "database error" := by rfl
  refine ⟨isError, by decide, rows, fun atomic => ?_⟩
  have same : afterUnsaved = storedDatabase :=
    atomic id "database error" afterUnsaved (Prod.ext isError rfl)
  rw [same] at rows
  cases rows

end VkTurn.Panel
