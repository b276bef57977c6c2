import VkTurn.Panel.PanelReads
import VkTurn.Panel.TrafficAccounting
import VkTurn.Transition.Machine

/-! # Quotas of the VK TURN clients

`AddTraffic` disables the row of a client that is over its limit.  The row is not all there is: a
read sets it back to the flag in the settings, and the client's peer is stored, and served, on its
own.
-/

namespace VkTurn.Panel

open VkTurn.Store
open VkTurn.Transition

/-! ## Rows that are disabled -/

/-- The client has a row, and it is disabled. -/
def RowDisabled (email : String) (db : Database) : Prop :=
  ∃ row ∈ db.clientTraffics.rows, row.email = email ∧ row.enable = false

section Rows

variable {email : String} {db next : Database}

theorem RowDisabled.congr (disabled : RowDisabled email db)
    (sameTraffics : next.clientTraffics = db.clientTraffics) : RowDisabled email next := by
  unfold RowDisabled
  rw [sameTraffics]
  exact disabled

/-- There is no other row with the email. -/
theorem RowDisabled.enable {row : ClientTraffic} (disabled : RowDisabled email db)
    (stored : row ∈ db.clientTraffics.rows) (same : row.email = email) : row.enable = false := by
  obtain ⟨other, inTable, isClient, isDisabled⟩ := disabled
  have isOther : row = other :=
    List.inj_on_of_nodup_map db.clientTraffics.valid stored inTable (same.trans isClient.symm)
  rw [isOther]
  exact isDisabled

theorem RowDisabled.mapTraffics {update : ClientTraffic → ClientTraffic}
    (disabled : RowDisabled email db) (sameEmail : ∀ row, (update row).email = row.email)
    (keeps : ∀ row ∈ db.clientTraffics.rows, row.email = email → row.enable = false →
      (update row).enable = false) : RowDisabled email (db.mapTraffics update sameEmail) := by
  obtain ⟨row, stored, isClient, isDisabled⟩ := disabled
  exact ⟨update row, List.mem_map_of_mem stored, (sameEmail row).trans isClient,
    keeps row stored isClient isDisabled⟩

theorem RowDisabled.saveTraffics {rows : List ClientTraffic} (disabled : RowDisabled email db)
    (saved : ∀ row ∈ rows, row.email = email → row.enable = false) :
    RowDisabled email (db.saveTraffics rows) := by
  refine disabled.mapTraffics _ fun row _ isClient isDisabled => ?_
  cases isFound : rows.find? (·.email = row.email) with
  | none => exact isDisabled
  | some other =>
    have sameEmail : other.email = row.email := by simpa using List.find?_some isFound
    exact saved other (List.mem_of_find?_eq_some isFound) (sameEmail.trans isClient)

theorem RowDisabled.createTraffic {row : ClientTraffic} (disabled : RowDisabled email db)
    (created : db.createTraffic row = .ok next) : RowDisabled email next := by
  obtain ⟨table, written, isNext⟩ := bind_eq_ok.mp created
  cases pure_eq_ok.mp isNext
  obtain ⟨other, stored, isClient, isDisabled⟩ := disabled
  refine ⟨other, ?_, isClient, isDisabled⟩
  show other ∈ table.rows
  rw [Table.write_eq_ok.mp written]
  exact List.mem_append_left _ stored

end Rows

/-! ## The phases of `AddTraffic` -/

section Phases

variable {email : String} {db counted next : Database} {faults : TrafficSite → Bool}
  {library : Library} {running : Bool} {times : TrafficTimes}

theorem addInboundTraffic_traffics {traffics : List Traffic}
    (ran : addInboundTraffic faults traffics db = .ok counted) :
    counted.clientTraffics = db.clientTraffics := by
  unfold addInboundTraffic at ran
  refine foldlM_keeps (·.clientTraffics = db.clientTraffics)
    (fun before entry after _ same updated => ?_) rfl ran
  cases (attempt_eq_ok.mp updated).2
  exact same

theorem createTraffics_rows {rows : List ClientTraffic}
    (created : createTraffics faults db rows = .ok next) :
    next.clientTraffics.rows = db.clientTraffics.rows ++ rows := by
  induction rows generalizing db with
  | nil =>
    cases pure_eq_ok.mp created
    exact (List.append_nil _).symm
  | cons row rest inductionHypothesis =>
    unfold createTraffics at created
    rw [List.foldlM_cons] at created
    obtain ⟨middle, first, others⟩ := bind_eq_ok.mp created
    obtain ⟨table, written, isMiddle⟩ := bind_eq_ok.mp (attempt_eq_ok.mp first).2
    cases pure_eq_ok.mp isMiddle
    rw [inductionHypothesis others]
    show table.rows ++ rest = _
    rw [Table.write_eq_ok.mp written, List.append_assoc]
    rfl

theorem createTraffics_disabled {rows : List ClientTraffic} (disabled : RowDisabled email db)
    (created : createTraffics faults db rows = .ok next) : RowDisabled email next := by
  obtain ⟨row, stored, isDisabled⟩ := disabled
  refine ⟨row, ?_, isDisabled⟩
  rw [createTraffics_rows created]
  exact List.mem_append_left _ stored

/-- The rows in memory after the first pass are those before, but for their expiry times. -/
theorem adjustTraffics_rows {now : Int} {rows after : List ClientTraffic} {ending : Ending}
    (adjusted : adjustTraffics faults now db rows = (ending, next, after)) :
    next.clientTraffics = db.clientTraffics ∧
      after.map (fun row => (row.email, row.enable)) =
        rows.map fun row => (row.email, row.enable) := by
  unfold adjustTraffics at adjusted
  dsimp only at adjusted
  split at adjusted
  · cases adjusted
    exact ⟨rfl, rfl⟩
  · split at adjusted
    · cases adjusted
      exact ⟨rfl, rfl⟩
    · split at adjusted
      · cases adjusted
        exact ⟨rfl, rfl⟩
      · rename_i visited inbounds ran
        cases adjusted
        refine ⟨?_, ClientPass.visitInbounds_map _ (fun _ _ => rfl) ran⟩
        split
        · rfl
        · rfl

theorem countClient_enable {online : Int} {traffics : List ClientTraffic} {row : ClientTraffic} :
    (countClient online traffics row).enable = row.enable := by
  unfold countClient
  split
  · rfl
  · rfl

theorem addClientTraffic_disabled {traffics : List ClientTraffic}
    (disabled : RowDisabled email db) :
    RowDisabled email (addClientTraffic faults library running times traffics db).2 := by
  unfold addClientTraffic
  split
  · exact disabled
  split
  · exact disabled
  dsimp only
  split
  · exact disabled
  · rename_i middle created
    have isDisabled := createTraffics_disabled disabled created
    split
    · exact isDisabled
    · split
      · rename_i adjusted
        exact isDisabled.congr (adjustTraffics_rows adjusted).1
      · rename_i adjusted
        exact isDisabled.congr (adjustTraffics_rows adjusted).1
      · rename_i after rows adjusted
        obtain ⟨sameTraffics, sameColumns⟩ := adjustTraffics_rows adjusted
        have afterwards := isDisabled.congr sameTraffics
        split
        · exact afterwards
        split
        · exact afterwards
        refine afterwards.saveTraffics fun row saved isClient => ?_
        obtain ⟨before, inMemory, rfl⟩ := List.mem_map.mp saved
        rw [countClient_email] at isClient
        rw [countClient_enable]
        have inColumns : (before.email, before.enable) ∈
            rows.map fun row => (row.email, row.enable) := List.mem_map_of_mem inMemory
        rw [sameColumns] at inColumns
        obtain ⟨counted, isCounted, sameRow⟩ := List.mem_map.mp inColumns
        obtain ⟨sameEmail, sameEnable⟩ := Prod.mk.inj sameRow
        rw [← sameEnable]
        refine isDisabled.enable ?_ (sameEmail.trans isClient)
        rw [createTraffics_rows created]
        rcases List.mem_append.mp isCounted with isKnown | isMissing
        · exact List.mem_append_left _ (List.mem_filter.mp isKnown).1
        · exact List.mem_append_right _ isMissing

/-- A renewal is what enables rows. -/
theorem autoRenewClients_disabled {now : Int} (disabled : RowDisabled email db)
    (notRenewed : email ∉ (autoRenewClients faults now db).2.2.inRows) :
    RowDisabled email (autoRenewClients faults now db).2.1 := by
  by_cases panics : RenewalPanics faults now db
  · rw [autoRenewClients_panicked panics]
    exact disabled
  · obtain ⟨ending, next, renewal, ran, _, _, sameEmails, untouched, _⟩ :=
      autoRenewClients_ends panics
    rw [ran] at notRenewed ⊢
    have hasRow : email ∈ next.clientTraffics.rows.map (·.email) := by
      obtain ⟨row, stored, isClient, _⟩ := disabled
      rw [sameEmails, ← isClient]
      exact List.mem_map_of_mem stored
    obtain ⟨row, stored, isClient⟩ := List.mem_map.mp hasRow
    refine ⟨row, stored, isClient, disabled.enable (untouched row stored ?_) isClient⟩
    rw [isClient]
    exact notRenewed

theorem disableInvalidClients_disabled (disabled : RowDisabled email db)
    (faults : TrafficSite → Bool) (running : Bool) (now : Int) :
    RowDisabled email (disableInvalidClients faults running now db).2 := by
  unfold disableInvalidClients
  split
  · exact disabled
  split
  · exact disabled
  dsimp only
  refine disabled.mapTraffics _ fun row _ _ isDisabled => ?_
  dsimp only
  rw [isDisabled, Bool.false_and]

theorem email_overLimit (now : Int) (row : ClientTraffic) :
    { row with
      enable := row.enable && !overLimit now row.total row.up row.down row.expiryTime }.email =
      row.email := rfl

/-- The rows, those over their limits disabled. -/
def disabledOverLimit (now : Int) (db : Database) : Database :=
  db.mapTraffics (fun row => { row with
    enable := row.enable && !overLimit now row.total row.up row.down row.expiryTime })
    (email_overLimit now)

theorem disableInvalidClients_done (now : Int) (db : Database)
    (reads : ¬ (running = true ∧ faults .invalidClients = true))
    (updates : ¬ faults .disableClients = true) :
    disableInvalidClients faults running now db = (.done, disabledOverLimit now db) := by
  unfold disableInvalidClients
  rw [if_neg reads, if_neg updates]
  rfl

theorem disabledOverLimit_disabled {now : Int} {row : ClientTraffic}
    (stored : row ∈ db.clientTraffics.rows) (isClient : row.email = email)
    (isOver : overLimit now row.total row.up row.down row.expiryTime = true) :
    RowDisabled email (disabledOverLimit now db) := by
  refine ⟨_, List.mem_map_of_mem stored, isClient, ?_⟩
  dsimp only
  rw [isOver, Bool.not_true, Bool.and_false]

theorem disableInvalidInbounds_traffics (faults : TrafficSite → Bool) (running : Bool) (now : Int)
    (db : Database) :
    (disableInvalidInbounds faults running now db).2.clientTraffics = db.clientTraffics := by
  unfold disableInvalidInbounds
  split
  · rfl
  split
  · rfl
  · rfl

theorem committing_disabled {outcome : TrafficOutcome} {renewal : Renewal}
    (disabled : RowDisabled email db) (kept : email ∉ renewal.inRows → RowDisabled email next)
    (notRenewed : email ∉ (committing faults outcome db next renewal).renewal.inRows) :
    RowDisabled email (committing faults outcome db next renewal).db := by
  unfold committing at notRenewed ⊢
  split
  · exact disabled
  · rename_i commits
    rw [if_neg commits] at notRenewed
    exact kept notRenewed

/-- The last phase, and the commit that it decides on. -/
theorem lastPhase_disabled {now : Int} {renewal : Renewal} (disabled : RowDisabled email db)
    (kept : email ∉ renewal.inRows → RowDisabled email next)
    (notRenewed : email ∉ (match disableInvalidInbounds faults running now next with
      | (.done, next) => committing faults .returnsNil db next renewal
      | (_, _) => rolledBack .returnsNil db).renewal.inRows) :
    RowDisabled email (match disableInvalidInbounds faults running now next with
      | (.done, next) => committing faults .returnsNil db next renewal
      | (_, _) => rolledBack .returnsNil db).db := by
  have sameTraffics := disableInvalidInbounds_traffics faults running now next
  cases ran : disableInvalidInbounds faults running now next with
  | mk ending last =>
    rw [ran] at notRenewed sameTraffics
    cases ending with
    | done =>
      exact committing_disabled disabled (fun stays => (kept stays).congr sameTraffics) notRenewed
    | failed => exact disabled
    | panicked => exact disabled

/-- After the counting. -/
theorem settleTraffic_disabled (disabled : RowDisabled email db)
    (isCounted : RowDisabled email counted)
    (notRenewed : email ∉ (settleTraffic faults running times db counted).renewal.inRows) :
    RowDisabled email (settleTraffic faults running times db counted).db := by
  have kept : email ∉ (autoRenewClients faults times.renew counted).2.2.inRows →
      RowDisabled email (autoRenewClients faults times.renew counted).2.1 :=
    autoRenewClients_disabled isCounted
  unfold settleTraffic at notRenewed ⊢
  cases ran : autoRenewClients faults times.renew counted with
  | mk ending rest =>
    obtain ⟨renewedDb, renewal⟩ := rest
    rw [ran] at kept notRenewed
    have checked := fun stays =>
      disableInvalidClients_disabled (kept stays) faults running times.disableClients
    cases ending with
    | panicked => exact committing_disabled disabled kept notRenewed
    | done => exact lastPhase_disabled disabled checked notRenewed
    | failed => exact lastPhase_disabled disabled checked notRenewed

end Phases

/-! ## The call -/

/-- An `AddTraffic`: its argument, and what it meets. -/
structure TrafficCall where
  faults : TrafficSite → Bool
  running : Bool
  times : TrafficTimes
  inboundTraffics : List Traffic := []
  clientTraffics : List ClientTraffic := []

namespace TrafficCall

variable (library : Library) (call : TrafficCall)

def run (db : Database) : Accounting :=
  addTraffic call.faults library call.running call.times call.inboundTraffics call.clientTraffics db

/-- The database that `disableInvalidClients` searches for clients over their limits, if the call
    comes to that and the statements succeed. -/
def checkedDatabase (db : Database) : Option Database :=
  match addInboundTraffic call.faults call.inboundTraffics db with
  | .error _ => none
  | .ok counted =>
    match addClientTraffic call.faults library call.running call.times call.clientTraffics
      counted with
    | (.done, counted) =>
      match autoRenewClients call.faults call.times.renew counted with
      | (.panicked, _, _) => none
      | (_, checked, _) =>
        if (call.running ∧ call.faults .invalidClients) ∨ call.faults .disableClients then none
        else some checked
    | _ => none

/-- The call finds the client over its limit. -/
def finds (email : String) (db : Database) : Bool :=
  (call.checkedDatabase library db).any fun checked =>
    checked.clientTraffics.rows.any fun row => row.email = email ∧
      overLimit call.times.disableClients row.total row.up row.down row.expiryTime

end TrafficCall

section Call

variable {library : Library} {call : TrafficCall} {email : String} {db : Database}

/-- A row stays disabled over a call that does not renew the client. -/
theorem addTraffic_disabled (disabled : RowDisabled email db)
    (notRenewed : email ∉ (call.run library db).renewal.inRows) :
    RowDisabled email (call.run library db).db := by
  unfold TrafficCall.run addTraffic at notRenewed ⊢
  cases counts : addInboundTraffic call.faults call.inboundTraffics db with
  | error message => exact disabled
  | ok counted =>
    rw [counts] at notRenewed
    dsimp only at notRenewed ⊢
    have isCounted : RowDisabled email (addClientTraffic call.faults library call.running call.times
        call.clientTraffics counted).2 :=
      addClientTraffic_disabled (disabled.congr (addInboundTraffic_traffics counts))
    cases ran : addClientTraffic call.faults library call.running call.times call.clientTraffics
        counted with
    | mk ending next =>
      rw [ran] at notRenewed isCounted
      cases ending with
      | failed => exact disabled
      | panicked => exact committing_disabled disabled (fun _ => isCounted) notRenewed
      | done => exact settleTraffic_disabled disabled isCounted notRenewed

/-- A call that comes to the check ends with its last phase. -/
theorem run_of_checked {checked : Database}
    (checks : call.checkedDatabase library db = some checked) :
    ∃ renewal, call.run library db =
      match disableInvalidInbounds call.faults call.running call.times.disableInbounds
          (disabledOverLimit call.times.disableClients checked) with
      | (.done, next) => committing call.faults .returnsNil db next renewal
      | (_, _) => rolledBack .returnsNil db := by
  unfold TrafficCall.checkedDatabase at checks
  unfold TrafficCall.run addTraffic
  cases counts : addInboundTraffic call.faults call.inboundTraffics db with
  | error message =>
    rw [counts] at checks
    cases checks
  | ok first =>
    rw [counts] at checks
    dsimp only at checks ⊢
    split at checks
    · rename_i counted ran
      rw [ran]
      split at checks
      · cases checks
      · rename_i ending searched renewal notPanicked renewed
        split at checks
        · cases checks
        · rename_i succeeds
          cases checks
          obtain ⟨reads, updates⟩ := not_or.mp succeeds
          have isChecked :=
            disableInvalidClients_done call.times.disableClients checked reads updates
          refine ⟨renewal, ?_⟩
          dsimp only
          unfold settleTraffic
          rw [renewed]
          cases ending with
          | panicked => exact (notPanicked rfl).elim
          | done =>
            dsimp only
            rewrite [isChecked]
            rfl
          | failed =>
            dsimp only
            rewrite [isChecked]
            rfl
    · cases checks

/-- What the call finds over its limit it disables, if it is committed. -/
theorem addTraffic_disables (found : call.finds library email db = true)
    (commits : LastPhaseCommits call.faults call.running) :
    RowDisabled email (call.run library db).db := by
  obtain ⟨checked, checks, isFound⟩ := (Option.any_eq_true _ _).mp found
  obtain ⟨row, stored, isOver⟩ := List.any_eq_true.mp isFound
  obtain ⟨isClient, isOver⟩ := of_decide_eq_true isOver
  obtain ⟨renewal, ran⟩ := run_of_checked checks
  obtain ⟨reads, updates, commit⟩ := commits
  obtain ⟨next, last, _, sameTraffics⟩ := disableInvalidInbounds_done call.times.disableInbounds
    (disabledOverLimit call.times.disableClients checked) reads updates
  rw [ran, last]
  dsimp only
  unfold committing
  rw [commit]
  exact (disabledOverLimit_disabled stored isClient isOver).congr sameTraffics

/-- Otherwise nothing is written, and nobody is renewed. -/
theorem addTraffic_rolledBack {checked : Database}
    (checks : call.checkedDatabase library db = some checked)
    (drops : ¬ LastPhaseCommits call.faults call.running) :
    call.run library db = rolledBack .returnsNil db := by
  obtain ⟨renewal, ran⟩ := run_of_checked checks
  rw [ran]
  by_cases lasts : (call.running = true → call.faults .invalidInbounds = false) ∧
      call.faults .disableInbounds = false
  · have commit : call.faults .commit = true := Bool.eq_true_of_not_eq_false fun commits =>
      drops ⟨lasts.1, lasts.2, commits⟩
    obtain ⟨next, last, _⟩ := disableInvalidInbounds_done call.times.disableInbounds
      (disabledOverLimit call.times.disableClients checked) lasts.1 lasts.2
    rw [last]
    dsimp only
    unfold committing
    rw [commit]
    rfl
  · rw [disableInvalidInbounds_failed _ _ lasts]

end Call

/-! ## Reads -/

/-- The bindings that go by the client's email are switched off in the settings. -/
def SwitchedOff (email : String) (bindings : List TrafficBinding) : Prop :=
  ∀ binding ∈ bindings, binding.client.email = email → binding.client.enable = false

section Reads

variable {library : Library} {faults : ReadSite → Bool} {clock : Clock}
  {order : MapOrder TrafficBinding} {email : String} {db next : Database}
  {existing : List ClientTraffic} {bindings : List TrafficBinding}

theorem RowDisabled.updateTraffic {target : String} {update : ClientTraffic → ClientTraffic}
    (disabled : RowDisabled email db)
    (keeps : ∀ row, row.email = email → row.enable = false → target = email →
      (update row).email = email ∧ (update row).enable = false)
    (updated : db.updateTraffic target update = .ok next) : RowDisabled email next := by
  obtain ⟨table, written, isNext⟩ := bind_eq_ok.mp updated
  cases pure_eq_ok.mp isNext
  obtain ⟨row, stored, isClient, isDisabled⟩ := disabled
  refine ⟨if row.email = target then update row else row, ?_, ?_⟩
  · show _ ∈ table.rows
    rw [Table.write_eq_ok.mp written]
    exact List.mem_map_of_mem stored
  · split
    · rename_i isTarget
      exact keeps row isClient isDisabled (isTarget.symm.trans isClient)
    · exact ⟨isClient, isDisabled⟩

/-- The turn of a binding writes to the row with its own email alone. -/
theorem syncRow_disabled {binding : TrafficBinding} (disabled : RowDisabled email db)
    (switchedOff : binding.client.email = email → binding.client.enable = false)
    (synced : syncRow library faults existing binding db = .ok next) : RowDisabled email next := by
  unfold syncRow at synced
  split at synced
  · exact disabled.createTraffic (attempt_eq_ok.mp synced).2
  · split at synced
    · cases synced
      exact disabled
    · refine disabled.updateTraffic (fun row isClient isDisabled isTarget => ?_)
        (attempt_eq_ok.mp synced).2
      refine ⟨isClient, ?_⟩
      unfold setDiffering
      dsimp only
      split
      · exact isDisabled
      · exact switchedOff isTarget

theorem syncRows_disabled (switchedOff : SwitchedOff email bindings) :
    Keeps (syncRows library faults existing bindings) (RowDisabled email) := by
  induction bindings with
  | nil => exact Keeps.pure _
  | cons binding rest inductionHypothesis =>
    unfold syncRows
    refine Keeps.bind (Keeps.transaction fun before after disabled synced => ?_) fun _ => ?_
    · exact syncRow_disabled disabled (switchedOff binding List.mem_cons_self) synced
    · exact inductionHypothesis fun other inRest =>
        switchedOff other (List.mem_cons_of_mem _ inRest)

theorem syncTrafficRows_disabled {inbounds : List Inbound}
    (switchedOff : SwitchedOff email (lastBindings library clock inbounds)) :
    Keeps (syncVKTurnProxyClientTrafficRows library faults clock order inbounds)
      (RowDisabled email) := by
  unfold syncVKTurnProxyClientTrafficRows
  dsimp only
  split
  · exact Keeps.pure _
  · refine Keeps.bind (Keeps.query _) fun existing => syncRows_disabled fun binding member => ?_
    exact switchedOff binding ((order.perm _).mem_iff.mp member)

theorem getAllInbounds_disabled (disabled : RowDisabled email db)
    (switchedOff : SwitchedOff email (lastBindings library clock db.inbounds.rows)) :
    Ensures (getAllInbounds library faults clock order) db
      (fun loaded next => RowDisabled email next ∧ loaded.map (·.inbound) = db.inbounds.rows)
      (RowDisabled email) := by
  unfold getAllInbounds
  refine Ensures.bind (Ensures.query (fun inbounds isRead => ?_) disabled)
  cases (attempt_eq_ok.mp isRead).2
  refine Ensures.bind ((syncTrafficRows_disabled switchedOff db disabled).mono
    (fun _ next isDisabled => ?_) fun _ => id)
  unfold loadInboundClientStats
  split
  · rename_i noInbounds
    exact Ensures.pure ⟨isDisabled, noInbounds.symm⟩
  · refine Ensures.query (fun loaded isLoaded => ⟨isDisabled, ?_⟩) isDisabled
    cases (attempt_eq_ok.mp isLoaded).2
    rw [List.map_map]
    exact List.map_id _

end Reads

/-! ## The panel -/

/-- A `GetAllInbounds`, and what it meets. -/
structure PanelRead where
  faults : ReadSite → Bool
  clock : Clock
  order : MapOrder TrafficBinding

structure QuotaState where
  db : Database
  /-- A call found the client over its limit, and since then it was not renewed, its limits were
      not raised and its traffic was not reset. -/
  depleted : Bool
  /-- The calls of `GetXrayConfig` between `AddTraffic` and `GetAllInbounds`. -/
  building : Nat
  /-- The inbounds of the last configuration since then. -/
  served : List ServedInbound

inductive QuotaLabel where
  | addTraffic (call : TrafficCall)
  | getAllInbounds (read : PanelRead)
  /-- `GetXrayConfig` until after `AddTraffic(nil, nil)`. -/
  | getXrayConfig (templateFails : Bool) (faults : TrafficSite → Bool) (running : Bool)
      (times : TrafficTimes)
  /-- `GetXrayConfig` from there on. -/
  | buildConfig (read : PanelRead)
  /-- Another call of the panel. -/
  | edit (next : Database)

/-- `AddTraffic(nil, nil)`. -/
def emptyCall (faults : TrafficSite → Bool) (running : Bool) (times : TrafficTimes) : TrafficCall :=
  { faults, running, times }

def PanelRead.run (library : Library) (read : PanelRead) : Program Database (List LoadedInbound) :=
  getAllInbounds library read.faults read.clock read.order

/-- The row of a client. -/
def Database.clientRow? (db : Database) (email : String) : Option ClientTraffic :=
  db.clientTraffics.rows.find? (·.email = email)

/-- A limit that is not positive is none. -/
def raisesLimit (limit newLimit : Int) : Bool := 0 < limit ∧ (newLimit ≤ 0 ∨ limit < newLimit)

/-- Another call leaves the client its limits or lower ones, and its traffic. -/
def staysDepleted (before after : Option ClientTraffic) : Bool :=
  match before, after with
  | some row, some next =>
    ¬ raisesLimit row.total next.total ∧ ¬ raisesLimit row.expiryTime next.expiryTime ∧
      row.up ≤ next.up ∧ row.down ≤ next.down
  | _, _ => false

namespace QuotaState

variable (library : Library) (email : String) (state : QuotaState)

def account (call : TrafficCall) : QuotaState :=
  let result := call.run library state.db
  { state with
    db := result.db
    depleted := call.finds library email state.db ||
      (state.depleted && email ∉ result.renewal.inRows)
    served := if state.depleted then state.served else [] }

def next : QuotaLabel → Option QuotaState
  | .addTraffic call => some (state.account library email call)
  | .getAllInbounds read => some { state with db := (read.run library state.db).2 }
  | .getXrayConfig templateFails faults running times =>
    if templateFails then some state
    else
      let call := emptyCall faults running times
      let accounted := state.account library email call
      if (call.run library state.db).outcome = .panics then some accounted
      else some { accounted with building := state.building + 1 }
  | .buildConfig read =>
    if state.building = 0 then none
    else match read.run library state.db with
      | (.error _, db) => some { state with db, building := state.building - 1 }
      | (.ok inbounds, db) => some { state with
          db
          building := state.building - 1
          served := servedInbounds inbounds }
  | .edit next => some { state with
      db := next
      depleted :=
        state.depleted && staysDepleted (state.db.clientRow? email) (next.clientRow? email) }

end QuotaState

def quotas (library : Library) (email : String) : Machine QuotaState QuotaLabel where
  step state label := state.next library email label

/-- Anything may be stored, and nothing was found of the client yet. -/
def QuotaStart (state : QuotaState) : Prop :=
  state.depleted = false ∧ state.building = 0 ∧ state.served = []

/-- The client that was found over its limit has a disabled row, and its peer in a WireGuard
    inbound is not served. -/
def QuotaEnforced (email : String) (wgInboundID : Int) (publicKey : String) (state : QuotaState) :
    Prop :=
  state.depleted = true → RowDisabled email state.db ∧
    ∀ inbound ∈ state.served, inbound.inboundID = wgInboundID → publicKey ∉ inbound.peerKeys

/-- The peer is not stored in the WireGuard inbound, unless that is disabled. -/
def PeerRemoved (wgInboundID : Int) (publicKey : String) (db : Database) : Prop :=
  ∀ inbound ∈ db.inbounds.rows, inbound.id = wgInboundID → inbound.enable = true →
    publicKey ∉ settingsKeys inbound.settings

/-- The call that first finds the client over its limit is committed; a read meets the client
    switched off in the settings, and one for a configuration meets its peer removed; no other call
    writes the flag of its row. -/
def QuotaHolds (library : Library) (email : String) (wgInboundID : Int) (publicKey : String)
    (state : QuotaState) : QuotaLabel → Prop
  | .addTraffic call => Commits call
  | .getAllInbounds read => OffFor read
  | .getXrayConfig _ faults running times => Commits (emptyCall faults running times)
  | .buildConfig read =>
    OffFor read ∧ (state.depleted = true → PeerRemoved wgInboundID publicKey state.db)
  | .edit next => state.depleted = true →
    staysDepleted (state.db.clientRow? email) (next.clientRow? email) = true →
      (next.clientRow? email).map (·.enable) = (state.db.clientRow? email).map (·.enable)
where
  Commits (call : TrafficCall) : Prop :=
    state.depleted = false → call.finds library email state.db = true →
      LastPhaseCommits call.faults call.running
  OffFor (read : PanelRead) : Prop :=
    state.depleted = true →
      SwitchedOff email (lastBindings library read.clock state.db.inbounds.rows)

/-! ## What a step keeps -/

section Steps

variable {library : Library} {email publicKey : String} {wgInboundID : Int}
  {state next : QuotaState}

theorem account_enforced {call : TrafficCall}
    (enforced : QuotaEnforced email wgInboundID publicKey state)
    (commits : QuotaHolds.Commits library email state call) :
    QuotaEnforced email wgInboundID publicKey (state.account library email call) := by
  intro isDepleted
  by_cases wasDepleted : state.depleted = true
  · obtain ⟨disabled, notServed⟩ := enforced wasDepleted
    refine ⟨?_, ?_⟩
    · cases found : call.finds library email state.db with
      | true =>
        by_cases committed : LastPhaseCommits call.faults call.running
        · exact addTraffic_disables found committed
        · obtain ⟨checked, checks, _⟩ := (Option.any_eq_true _ _).mp found
          show RowDisabled email (call.run library state.db).db
          rw [addTraffic_rolledBack checks committed]
          exact disabled
      | false =>
        unfold QuotaState.account at isDepleted
        dsimp only at isDepleted
        rw [found, wasDepleted, Bool.false_or, Bool.true_and] at isDepleted
        exact addTraffic_disabled disabled (of_decide_eq_true isDepleted)
    · unfold QuotaState.account
      dsimp only
      rw [if_pos wasDepleted]
      exact notServed
  · have notDepleted : state.depleted = false := Bool.eq_false_iff.mpr wasDepleted
    unfold QuotaState.account at isDepleted ⊢
    dsimp only at isDepleted ⊢
    rw [notDepleted, Bool.false_and, Bool.or_false] at isDepleted
    refine ⟨addTraffic_disables isDepleted (commits notDepleted isDepleted), ?_⟩
    rw [if_neg wasDepleted]
    exact fun inbound member => absurd member List.not_mem_nil

theorem rowDisabled_iff {db : Database} :
    RowDisabled email db ↔ (db.clientRow? email).map (·.enable) = some false := by
  constructor
  · rintro ⟨row, stored, rfl, isDisabled⟩
    have isRow : db.clientRow? row.email = some row :=
      find?_key_of_mem db.clientTraffics.valid stored
    rw [isRow, Option.map_some, isDisabled]
  · intro isDisabled
    obtain ⟨row, isRow, isDisabled⟩ := Option.map_eq_some_iff.mp isDisabled
    exact ⟨row, List.mem_of_find?_eq_some isRow, by simpa using List.find?_some isRow, isDisabled⟩

theorem next_enforced {label : QuotaLabel}
    (enforced : QuotaEnforced email wgInboundID publicKey state)
    (holds : QuotaHolds library email wgInboundID publicKey state label)
    (stepped : state.next library email label = some next) :
    QuotaEnforced email wgInboundID publicKey next := by
  cases label with
  | addTraffic call =>
    cases stepped
    exact account_enforced enforced holds
  | getAllInbounds read =>
    cases stepped
    intro isDepleted
    obtain ⟨disabled, notServed⟩ := enforced isDepleted
    refine ⟨?_, notServed⟩
    exact ((getAllInbounds_disabled disabled (holds isDepleted)).mono (fun _ _ => And.left)
      fun _ => id).ends
  | getXrayConfig templateFails faults running times =>
    have accounted := account_enforced enforced holds
    simp only [QuotaState.next] at stepped
    split at stepped
    · cases stepped
      exact enforced
    · split at stepped
      · cases stepped
        exact accounted
      · cases stepped
        exact accounted
  | buildConfig read =>
    obtain ⟨switchedOff, removed⟩ := holds
    simp only [QuotaState.next] at stepped
    split at stepped
    · cases stepped
    have ends (wasDepleted : state.depleted = true) : Ensures (read.run library) state.db
        (fun loaded next => RowDisabled email next ∧
          loaded.map (·.inbound) = state.db.inbounds.rows) (RowDisabled email) :=
      getAllInbounds_disabled (enforced wasDepleted).1 (switchedOff wasDepleted)
    unfold Ensures at ends
    cases ran : read.run library state.db with
    | mk result after =>
      rw [ran] at stepped ends
      cases result with
      | error message =>
        cases stepped
        exact fun isDepleted => ⟨ends isDepleted, (enforced isDepleted).2⟩
      | ok inbounds =>
        cases stepped
        intro isDepleted
        obtain ⟨disabled, areStored⟩ := ends isDepleted
        refine ⟨disabled, fun inbound member isTarget inPeers => ?_⟩
        obtain ⟨loaded, isLoaded, isEnabled, sameID, sameKeys⟩ := mem_servedInbounds member
        have stored : loaded.inbound ∈ state.db.inbounds.rows := by
          rw [← areStored]
          exact List.mem_map_of_mem isLoaded
        rw [sameKeys] at inPeers
        have isTarget := sameID.symm.trans isTarget
        exact removed isDepleted loaded.inbound stored isTarget isEnabled inPeers
  | edit after =>
    cases stepped
    intro isDepleted
    obtain ⟨wasDepleted, stays⟩ := Bool.and_eq_true_iff.mp isDepleted
    obtain ⟨disabled, notServed⟩ := enforced wasDepleted
    have sameFlag := holds wasDepleted stays
    exact ⟨rowDisabled_iff.mpr (sameFlag.trans (rowDisabled_iff.mp disabled)), notServed⟩

end Steps

/-- A client that was found over its limit stays disabled and is not served, as long as every read
    meets it switched off in the settings, and its peer removed. -/
theorem quota_enforced {library : Library} {email publicKey : String} {wgInboundID : Int}
    {state : QuotaState} (reached : (quotas library email).ReachableWhile
      (QuotaHolds library email wgInboundID publicKey) QuotaStart state) :
    QuotaEnforced email wgInboundID publicKey state := by
  refine reached.invariant (fun state isStart isDepleted => ?_)
    fun state next label enforced holds stepped => next_enforced enforced holds stepped
  rw [isStart.1] at isDepleted
  cases isDepleted

/-! ## A client over its limit -/

def quotaTarget (peers : List WireguardPeer) : Inbound where
  id := 1
  port := 51820
  protocol := .wireguard
  settings := .wireguard { peers := some peers }
  tag := "inbound-51820"

def quotaClient (enable : Bool) : VKTurnProxyClient where
  id := "id"
  email := "phone"
  enable
  totalGB := 100
  link := ""
  peerPublicKey := "key"

def quotaInbound (enable : Bool) : Inbound where
  id := 2
  port := 56000
  protocol := .vkTurnProxy
  settings := .vkTurnProxy {
    forward := { type := .wireguardInbound, wireguardInboundID := 1 }
    clients := [quotaClient enable] }
  tag := "inbound-56000"

def quotaRow : ClientTraffic where
  inboundID := 2
  enable := true
  email := "phone"
  up := 60
  down := 50
  total := 100

/-- The panel before its traffic job meets the client. -/
def quotaStart (enable : Bool) (peers : List WireguardPeer) : QuotaState where
  db := {
    inbounds := ⟨[quotaTarget peers, quotaInbound enable],
      show ([1, 2] : List Int).Nodup ∧ ["inbound-51820", "inbound-56000"].Nodup by decide⟩
    clientTraffics := ⟨[quotaRow], by decide⟩
    clientIps := ⟨[], uniqueIps_nil⟩ }
  depleted := false
  building := 0
  served := []

def quotaPeer : WireguardPeer where
  privateKey := "private"
  publicKey := "key"
  allowedIPs := ["10.0.0.2/32"]

def quietRead : PanelRead where
  faults _ := false
  clock := ⟨0, ""⟩
  order := ⟨id, fun _ => List.Perm.refl _⟩

/-- The job, and then a configuration. -/
def quotaRun : List QuotaLabel :=
  [.addTraffic (emptyCall (fun _ => false) true ⟨0, 0, 0, 0, 0⟩),
    .getXrayConfig false (fun _ => false) true ⟨0, 0, 0, 0, 0⟩]

/-- A client that was switched off, and whose peer was removed. -/
theorem quota_enforced_phone : ∃ state, state.depleted = true ∧ state.served.length = 1 ∧
    QuotaEnforced "phone" 1 "key" state := by
  have accounted := Machine.ReachableWhile.run
    (.start (show QuotaStart (quotaStart false []) from ⟨rfl, rfl, rfl⟩))
    (show ∀ label ∈ quotaRun, ∀ state, QuotaHolds canonical "phone" 1 "key" state label from
      List.forall_mem_cons.mpr ⟨fun _ _ _ => ⟨fun _ => rfl, rfl, rfl⟩,
        List.forall_mem_singleton.mpr fun _ _ _ => ⟨fun _ => rfl, rfl, rfl⟩⟩)
    (show (quotas canonical "phone").run (quotaStart false []) quotaRun = some _ from rfl)
  refine ⟨_, ?_, ?_, quota_enforced (accounted.step
    (show QuotaHolds canonical "phone" 1 "key" _ (.buildConfig quietRead) from
      ⟨fun _ binding isBound _ => ?_, fun _ inbound stored _ _ isKey => ?_⟩)
    (show (quotas canonical "phone").step _ _ = some _ from rfl))⟩
  · rfl
  · rfl
  · have isOnly : binding ∈ [TrafficBinding.mk "phone" 2
        (normalizeVKTurnProxyClient quietRead.clock (quotaClient false))] := isBound
    rw [List.mem_singleton.mp isOnly]
    rfl
  · have inKeys := List.mem_flatMap.mpr ⟨inbound.settings, List.mem_map_of_mem stored, isKey⟩
    cases (show "key" ∈ ([] : List String) from inKeys)

/-- The configuration enables the row again, and serves the peer. -/
theorem quota_ignored : ∃ state, (quotas canonical "phone").Reachable QuotaStart state ∧
    state.depleted = true ∧ ¬ RowDisabled "phone" state.db ∧
    ∃ inbound ∈ state.served, inbound.inboundID = 1 ∧ "key" ∈ inbound.peerKeys := by
  refine ⟨_, Machine.Reachable.run (.start (show QuotaStart (quotaStart true [quotaPeer]) from
    ⟨rfl, rfl, rfl⟩)) (show (quotas canonical "phone").run (quotaStart true [quotaPeer])
      (quotaRun ++ [.buildConfig quietRead]) = some _ from rfl), rfl, ?_, ?_⟩
  · rintro ⟨row, stored, _, isDisabled⟩
    cases List.mem_singleton.mp stored
    cases isDisabled
  · exact ⟨_, List.mem_singleton.mpr rfl, rfl, List.mem_singleton.mpr rfl⟩

end VkTurn.Panel
