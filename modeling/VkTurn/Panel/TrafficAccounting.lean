import VkTurn.Panel.PeerValidity
import VkTurn.Panel.TrafficRenewal

/-! # Traffic is counted once or not at all

`AddTraffic` is given amounts that were reset where they were read, so what it does not store is
lost.  A call that returns an error leaves the database as it was; one that returns nil may still
have dropped what it was given.
-/

namespace VkTurn.Panel

open VkTurn.Store

/-! ## What a call promises -/

def clientCounters (db : Database) (email : String) : Amount :=
  ((db.clientTraffics.rows.find? (·.email = email)).map ClientTraffic.counters).getD 0

/-- The counters of every inbound have grown by what was reported of it. -/
def InboundsGrown (db after : Database) (traffics : List Traffic) : Prop :=
  ∀ inbound ∈ db.inbounds.rows, ∃ grown, after.inbound? inbound.id = some grown ∧
    grown.counters = inbound.counters + inboundAmount traffics inbound.tag

/-- The counters of every client have grown by what was reported of it, unless it was renewed. -/
def ClientsGrown (db after : Database) (renewed : List String) (traffics : List ClientTraffic) :
    Prop :=
  (∀ row ∈ db.clientTraffics.rows, row.email ∈ after.clientTraffics.rows.map (·.email)) ∧
    ∀ row ∈ after.clientTraffics.rows, row.email ∉ renewed →
      row.counters = clientCounters db row.email + clientAmount traffics row.email

/-- An error and the database as it was, or nil and everything counted, with every renewal in the
    settings and in the row. -/
def AllOrNothing (db : Database) (inboundTraffics : List Traffic)
    (clientTraffics : List ClientTraffic) (result : Accounting) : Prop :=
  (result.outcome = .returnsError ∧ result.db = db) ∨
    (result.outcome = .returnsNil ∧ result.committed = true ∧
      InboundsGrown db result.db inboundTraffics ∧
      ClientsGrown db result.db result.renewal.inRows clientTraffics ∧
      result.renewal.inSettings = result.renewal.inRows)

/-! ## When it keeps the promise -/

section Conditions

variable (faults : TrafficSite → Bool) (library : Library) (running : Bool) (times : TrafficTimes)
  (inboundTraffics : List Traffic) (clientTraffics : List ClientTraffic) (db : Database)

/-- The counters of some inbound cannot be updated. -/
def InboundsRefused : Prop :=
  ∃ entry ∈ inboundTraffics.zipIdx, entry.1.isInbound = true ∧ faults (.inbound entry.2) = true

/-- The database between the two phases that count and those that come after. -/
def countedDatabase : Database :=
  match addInboundTraffic faults inboundTraffics db with
  | .error _ => db
  | .ok counted => (addClientTraffic faults library running times clientTraffics counted).2

/-- The statement that decides between commit and rollback succeeds, and so does the commit. -/
def LastPhaseCommits : Prop :=
  (running = true → faults .invalidInbounds = false) ∧ faults .disableInbounds = false ∧
    faults .commit = false

/-- A client has a row before the call, or gets one. -/
def HasRow (email : String) : Prop :=
  email ∈ db.clientTraffics.rows.map (·.email) ∨
    email ∈ (missingTraffics library.toLower (knownTraffics db clientTraffics) clientTraffics).map
      (·.email)

/-- What is added to the row of every client is all that was reported of it. -/
def CountsEverything : Prop :=
  ∀ email, HasRow library clientTraffics db email →
    ¬ Renewed faults times.renew
      (countedDatabase faults library running times inboundTraffics clientTraffics db) email →
    creditedAmount faults clientTraffics email = clientAmount clientTraffics email

/-- Either the counting is refused, or everything is counted, renewed and committed. -/
def Accounts : Prop :=
  InboundsRefused faults inboundTraffics ∨ ClientsRefused faults library db clientTraffics ∨
    (¬ CountingPanics library running times db clientTraffics ∧
      ¬ RenewalPanics faults times.renew
        (countedDatabase faults library running times inboundTraffics clientTraffics db) ∧
      LastPhaseCommits faults running ∧
      CountsEverything faults library running times inboundTraffics clientTraffics db ∧
      ¬ RenewalTorn faults times.renew
        (countedDatabase faults library running times inboundTraffics clientTraffics db))

end Conditions

section Accounted

variable {faults : TrafficSite → Bool} {library : Library} {running : Bool} {times : TrafficTimes}
  {inboundTraffics : List Traffic} {clientTraffics : List ClientTraffic} {db counted : Database}

/-! ## Inbounds -/

theorem addInboundTraffic_failed (db : Database)
    (refused : InboundsRefused faults inboundTraffics) :
    ∃ message, addInboundTraffic faults inboundTraffics db = .error message := by
  obtain ⟨entry, member, counts, fails⟩ := refused
  cases ran : addInboundTraffic faults inboundTraffics db with
  | error message => exact ⟨message, rfl⟩
  | ok next =>
    have counted : entry ∈ inboundTraffics.zipIdx.filter (·.1.isInbound) :=
      List.mem_filter.mpr ⟨member, counts⟩
    obtain ⟨before, after, split⟩ := List.append_of_mem counted
    unfold addInboundTraffic at ran
    rw [split, List.foldlM_append] at ran
    obtain ⟨middle, _, rest⟩ := bind_eq_ok.mp ran
    rw [List.foldlM_cons, fails] at rest
    cases rest

theorem addInboundTraffic_done (db : Database) (passed : ¬ InboundsRefused faults inboundTraffics) :
    ∃ counted, addInboundTraffic faults inboundTraffics db = .ok counted ∧
      counted.inboundLedger =
        db.inboundLedger.map (InboundEntry.grow (inboundAmount inboundTraffics)) ∧
      counted.inbounds.rows.map (fun inbound => (inbound.id, inbound.settings)) =
        db.inbounds.rows.map (fun inbound => (inbound.id, inbound.settings)) ∧
      counted.clientTraffics = db.clientTraffics :=
  addInboundTraffic_loop db fun entry member counts =>
    Bool.eq_false_iff.mpr fun fails => passed ⟨entry, member, counts, fails⟩

theorem inboundsGrown_of_ledger {after : Database}
    (ledger : after.inboundLedger =
      db.inboundLedger.map (InboundEntry.grow (inboundAmount inboundTraffics))) :
    InboundsGrown db after inboundTraffics := by
  intro inbound member
  have isEntry : inbound.entry.grow (inboundAmount inboundTraffics) ∈ after.inboundLedger := by
    rw [ledger]
    exact List.mem_map_of_mem (List.mem_map_of_mem member)
  obtain ⟨grown, stored, same⟩ := List.mem_map.mp isEntry
  obtain ⟨sameID, _, counters⟩ := InboundEntry.mk.inj same
  have isStored := inbound?_of_mem stored
  rw [sameID] at isStored
  exact ⟨grown, isStored, counters⟩

/-! ## What the first phase leaves to the second -/

section Frame

variable (sameTraffics : counted.clientTraffics = db.clientTraffics)
  (sameSettings : counted.inbounds.rows.map (fun inbound => (inbound.id, inbound.settings)) =
    db.inbounds.rows.map (fun inbound => (inbound.id, inbound.settings)))

include sameTraffics

theorem knownTraffics_congr : knownTraffics counted clientTraffics = knownTraffics db clientTraffics := by
  unfold knownTraffics
  rw [sameTraffics]

theorem clientsRefused_congr : ClientsRefused faults library counted clientTraffics ↔
    ClientsRefused faults library db clientTraffics := by
  unfold ClientsRefused countedRows
  rw [knownTraffics_congr sameTraffics]

include sameSettings

theorem countingPanics_congr : CountingPanics library running times counted clientTraffics ↔
    CountingPanics library running times db clientTraffics := by
  have sameRows : countedRows library counted clientTraffics =
      countedRows library db clientTraffics := by
    unfold countedRows
    rw [knownTraffics_congr sameTraffics]
  have settingsOf (rows : List ClientTraffic) (database : Database) :
      (inboundsOf database rows).map (·.settings) =
        ((database.inbounds.rows.map fun inbound => (inbound.id, inbound.settings)).filter
          fun entry => rows.any (·.inboundID = entry.1)).map Prod.snd := by
    unfold inboundsOf
    rw [List.filter_map, List.map_map]
    rfl
  have samePanics (rows : List ClientTraffic) :
      AdjustPanics times.adjust counted rows ↔ AdjustPanics times.adjust db rows := by
    refine ClientPass.visitInbounds_eq_none_congr _ ?_
    rw [settingsOf, settingsOf, sameSettings]
  unfold CountingPanics
  rw [sameRows, samePanics]

end Frame

/-! ## Clients -/

theorem clientCounters_of_mem {row : ClientTraffic} (stored : row ∈ db.clientTraffics.rows) :
    clientCounters db row.email = row.counters := by
  unfold clientCounters
  rw [find?_key_of_mem db.clientTraffics.valid stored]
  rfl

theorem clientCounters_of_absent {email : String}
    (absent : email ∉ db.clientTraffics.rows.map (·.email)) : clientCounters db email = 0 := by
  have notFound : db.clientTraffics.rows.find? (·.email = email) = none := by
    refine List.find?_eq_none.mpr fun row stored same => absent ?_
    exact List.mem_map.mpr ⟨row, stored, by simpa using same⟩
  unfold clientCounters
  rw [notFound]
  rfl

/-- A row in a database whose rows were counted. -/
theorem counters_of_counted {row : ClientTraffic}
    (ledger : counted.clientLedger = (db.clientLedger ++
      (missingTraffics library.toLower (knownTraffics db clientTraffics) clientTraffics).map
        ClientTraffic.entry).map (ClientEntry.grow (creditedAmount faults clientTraffics)))
    (stored : row ∈ counted.clientTraffics.rows) :
    HasRow library clientTraffics db row.email ∧ row.counters =
      clientCounters db row.email + creditedAmount faults clientTraffics row.email := by
  have isEntry : row.entry ∈ counted.clientLedger := List.mem_map_of_mem stored
  rw [ledger] at isEntry
  obtain ⟨entry, member, grown⟩ := List.mem_map.mp isEntry
  obtain ⟨same, counters⟩ := ClientEntry.mk.inj grown
  rw [← counters, ← same]
  rcases List.mem_append.mp member with isStored | isMissing
  · obtain ⟨before, inTable, rfl⟩ := List.mem_map.mp isStored
    have sameCounters := clientCounters_of_mem inTable
    exact ⟨.inl (List.mem_map_of_mem inTable),
      congrArg (· + creditedAmount faults clientTraffics before.email) sameCounters.symm⟩
  · obtain ⟨created, inMissing, rfl⟩ := List.mem_map.mp isMissing
    have isNew := clientCounters_of_absent fun isStored =>
      (List.nodup_append.mp (List.map_append ▸ created_nodup)).2.2 _ isStored _
        (List.mem_map_of_mem inMissing) rfl
    obtain ⟨⟨traffic, _, rfl⟩, _⟩ := mem_missingTraffics inMissing
    exact ⟨.inr (List.mem_map_of_mem inMissing),
      congrArg (· + creditedAmount faults clientTraffics _) isNew.symm⟩

theorem hasRow_iff_of_counted
    (ledger : counted.clientLedger = (db.clientLedger ++
      (missingTraffics library.toLower (knownTraffics db clientTraffics) clientTraffics).map
        ClientTraffic.entry).map (ClientEntry.grow (creditedAmount faults clientTraffics)))
    (email : String) : email ∈ counted.clientTraffics.rows.map (·.email) ↔
      HasRow library clientTraffics db email := by
  have emails : counted.clientTraffics.rows.map (·.email) =
      db.clientTraffics.rows.map (·.email) ++
        (missingTraffics library.toLower (knownTraffics db clientTraffics) clientTraffics).map
          (·.email) := by
    have sameEmails := congrArg (List.map ClientEntry.email) ledger
    unfold Database.clientLedger at sameEmails
    rw [List.map_map, List.map_map, List.map_append, List.map_map, List.map_map] at sameEmails
    exact sameEmails
  rw [emails, List.mem_append]
  rfl

/-! ## The phases after the counting -/

theorem disableInvalidClients_ledgers (faults : TrafficSite → Bool) (running : Bool) (now : Int)
    (db : Database) :
    (disableInvalidClients faults running now db).2.inboundLedger = db.inboundLedger ∧
      (disableInvalidClients faults running now db).2.clientLedger = db.clientLedger := by
  unfold disableInvalidClients
  split
  · exact ⟨rfl, rfl⟩
  · split
    · exact ⟨rfl, rfl⟩
    · refine ⟨rfl, ?_⟩
      unfold Database.clientLedger Database.mapTraffics
      rw [List.map_map]
      rfl

theorem disableInvalidInbounds_done (now : Int) (db : Database)
    (reads : running = true → faults .invalidInbounds = false)
    (updates : faults .disableInbounds = false) :
    ∃ next, disableInvalidInbounds faults running now db = (.done, next) ∧
      next.inboundLedger = db.inboundLedger ∧ next.clientTraffics = db.clientTraffics := by
  have passes : ¬ (running = true ∧ faults .invalidInbounds = true) :=
    fun fails => nomatch (reads fails.1).symm.trans fails.2
  unfold disableInvalidInbounds
  rw [if_neg passes, updates]
  refine ⟨_, rfl, ?_, rfl⟩
  unfold Database.inboundLedger Database.mapInbounds
  rw [List.map_map]
  rfl

theorem disableInvalidInbounds_failed (now : Int) (db : Database)
    (fails : ¬ ((running = true → faults .invalidInbounds = false) ∧
      faults .disableInbounds = false)) :
    disableInvalidInbounds faults running now db = (.failed, db) := by
  unfold disableInvalidInbounds
  by_cases reads : running = true ∧ faults .invalidInbounds = true
  · rw [if_pos reads]
  · rw [if_neg reads]
    have updates : faults .disableInbounds = true := by
      refine Bool.eq_true_of_not_eq_false fun succeeds => fails ⟨fun isRunning => ?_, succeeds⟩
      exact Bool.eq_false_iff.mpr fun readFails => reads ⟨isRunning, readFails⟩
    rw [updates]
    rfl

theorem settleTraffic_panics (running : Bool) (db : Database)
    (panics : RenewalPanics faults times.renew counted) :
    (settleTraffic faults running times db counted).outcome = .panics := by
  unfold settleTraffic
  rw [autoRenewClients_panicked panics]
  dsimp only
  unfold committing
  split
  · rfl
  · rfl

/-- What is stored when the last phase and the commit succeed. -/
theorem settleTraffic_commits (db : Database)
    (lists : ¬ RenewalPanics faults times.renew counted)
    (commits : LastPhaseCommits faults running) :
    ∃ next renewal, settleTraffic faults running times db counted =
        ⟨.returnsNil, true, next, renewal⟩ ∧
      next.inboundLedger = counted.inboundLedger ∧
      next.clientTraffics.rows.map (·.email) = counted.clientTraffics.rows.map (·.email) ∧
      (∀ row ∈ next.clientTraffics.rows, row.email ∉ renewal.inRows →
        ∃ before ∈ counted.clientTraffics.rows, before.email = row.email ∧
          before.counters = row.counters) ∧
      (∀ email, email ∈ renewal.inRows ↔ Renewed faults times.renew counted email) ∧
      (renewal.inSettings = renewal.inRows ↔ ¬ RenewalTorn faults times.renew counted) := by
  obtain ⟨ending, renewedDb, renewal, ran, notPanicked, ledger, emails, untouched, isRenewed, torn⟩ :=
    autoRenewClients_ends lists
  obtain ⟨reads, updates, commit⟩ := commits
  have disabled := disableInvalidClients_ledgers faults running times.disableClients renewedDb
  obtain ⟨next, ranLast, nextLedger, nextTraffics⟩ := disableInvalidInbounds_done
    times.disableInbounds (disableInvalidClients faults running times.disableClients renewedDb).2
    reads updates
  have sameClients : next.clientLedger = renewedDb.clientLedger := by
    rw [← disabled.2]
    unfold Database.clientLedger
    rw [nextTraffics]
  refine ⟨next, renewal, ?_, nextLedger.trans (disabled.1.trans ledger), ?_, ?_, isRenewed, torn⟩
  · unfold settleTraffic
    rw [ran]
    cases ending with
    | panicked => exact absurd rfl notPanicked
    | done =>
      dsimp only
      rw [ranLast]
      dsimp only
      unfold committing
      rw [commit]
      rfl
    | failed =>
      dsimp only
      rw [ranLast]
      dsimp only
      unfold committing
      rw [commit]
      rfl
  · rw [← emails]
    have sameEmails := congrArg (List.map ClientEntry.email) sameClients
    unfold Database.clientLedger at sameEmails
    rw [List.map_map, List.map_map] at sameEmails
    exact sameEmails
  · intro row stored notRenewed
    have isEntry : row.entry ∈ renewedDb.clientLedger := by
      rw [← sameClients]
      exact List.mem_map_of_mem stored
    obtain ⟨before, inRenewed, same⟩ := List.mem_map.mp isEntry
    obtain ⟨sameEmail, sameCounters⟩ := ClientEntry.mk.inj same
    refine ⟨before, untouched before inRenewed ?_, sameEmail, sameCounters⟩
    rw [sameEmail]
    exact notRenewed

/-- Where the last phase or the commit fails, nil is returned all the same. -/
theorem settleTraffic_drops (db : Database)
    (lists : ¬ RenewalPanics faults times.renew counted)
    (drops : ¬ LastPhaseCommits faults running) :
    (settleTraffic faults running times db counted).outcome = .returnsNil ∧
      (settleTraffic faults running times db counted).committed = false := by
  obtain ⟨ending, renewedDb, renewal, ran, notPanicked, _⟩ := autoRenewClients_ends lists
  have notCommitted (next : Database) (commit : faults .commit = true) :
      committing faults .returnsNil db next renewal = rolledBack .returnsNil db := by
    unfold committing
    rw [commit]
    rfl
  unfold settleTraffic
  rw [ran]
  by_cases lasts : (running = true → faults .invalidInbounds = false) ∧
      faults .disableInbounds = false
  · -- the last phase is done, so the commit is what fails
    have commit : faults .commit = true := Bool.eq_true_of_not_eq_false fun commits =>
      drops ⟨lasts.1, lasts.2, commits⟩
    obtain ⟨next, ranLast, _⟩ := disableInvalidInbounds_done times.disableInbounds
      (disableInvalidClients faults running times.disableClients renewedDb).2 lasts.1 lasts.2
    cases ending with
    | panicked => exact absurd rfl notPanicked
    | done | failed =>
      dsimp only
      rw [ranLast]
      dsimp only
      rw [notCommitted next commit]
      exact ⟨rfl, rfl⟩
  · have ranLast := disableInvalidInbounds_failed times.disableInbounds
      (disableInvalidClients faults running times.disableClients renewedDb).2 lasts
    cases ending with
    | panicked => exact absurd rfl notPanicked
    | done | failed =>
      dsimp only
      rw [ranLast]
      exact ⟨rfl, rfl⟩

/-- After the counting: nothing is lost exactly where the rest commits, and what was counted and
    renewed was so in full. -/
theorem settleTraffic_iff
    (inbounds : counted.inboundLedger =
      db.inboundLedger.map (InboundEntry.grow (inboundAmount inboundTraffics)))
    (clients : counted.clientLedger = (db.clientLedger ++
      (missingTraffics library.toLower (knownTraffics db clientTraffics) clientTraffics).map
        ClientTraffic.entry).map (ClientEntry.grow (creditedAmount faults clientTraffics))) :
    AllOrNothing db inboundTraffics clientTraffics (settleTraffic faults running times db counted) ↔
      ¬ RenewalPanics faults times.renew counted ∧ LastPhaseCommits faults running ∧
        (∀ email, HasRow library clientTraffics db email →
          ¬ Renewed faults times.renew counted email →
          creditedAmount faults clientTraffics email = clientAmount clientTraffics email) ∧
        ¬ RenewalTorn faults times.renew counted := by
  by_cases panics : RenewalPanics faults times.renew counted
  · have isPanic := settleTraffic_panics running db panics
    refine iff_of_false ?_ fun holds => holds.1 panics
    rintro (⟨outcome, _⟩ | ⟨outcome, _⟩)
    · exact nomatch isPanic.symm.trans outcome
    · exact nomatch isPanic.symm.trans outcome
  by_cases commits : LastPhaseCommits faults running
  · obtain ⟨next, renewal, settled, nextInbounds, emails, untouched, isRenewed, torn⟩ :=
      settleTraffic_commits db panics commits
    have hasRow (email : String) : email ∈ next.clientTraffics.rows.map (·.email) ↔
        HasRow library clientTraffics db email := by
      rw [emails]
      exact hasRow_iff_of_counted clients email
    have counters : ∀ row ∈ next.clientTraffics.rows, row.email ∉ renewal.inRows →
        row.counters = clientCounters db row.email + creditedAmount faults clientTraffics row.email := by
      intro row stored notRenewed
      obtain ⟨before, inCounted, sameEmail, sameCounters⟩ := untouched row stored notRenewed
      rw [← sameCounters, ← sameEmail]
      exact (counters_of_counted clients inCounted).2
    rw [settled]
    constructor
    · rintro (⟨outcome, _⟩ | ⟨_, _, _, ⟨_, grown⟩, whole⟩)
      · cases outcome
      · refine ⟨panics, commits, fun email isRow notRenewed => ?_, torn.mp whole⟩
        obtain ⟨row, stored, rfl⟩ := List.mem_map.mp ((hasRow email).mpr isRow)
        have untouchedRow : row.email ∉ renewal.inRows := fun member =>
          notRenewed ((isRenewed _).mp member)
        exact add_left_cancel ((counters row stored untouchedRow).symm.trans
          (grown row stored untouchedRow))
    · rintro ⟨_, _, everything, whole⟩
      refine .inr ⟨rfl, rfl, inboundsGrown_of_ledger (nextInbounds.trans inbounds),
        ⟨fun row stored => ?_, fun row stored notRenewed => ?_⟩, torn.mpr whole⟩
      · exact (hasRow _).mpr (.inl (List.mem_map_of_mem stored))
      · rw [counters row stored notRenewed]
        congr 1
        exact everything _ ((hasRow _).mp (List.mem_map_of_mem stored))
          fun renewed => notRenewed ((isRenewed _).mpr renewed)
  · obtain ⟨isNil, notCommitted⟩ := settleTraffic_drops db panics commits
    refine iff_of_false ?_ fun holds => commits holds.2.1
    rintro (⟨outcome, _⟩ | ⟨_, committed, _⟩)
    · exact nomatch isNil.symm.trans outcome
    · exact nomatch notCommitted.symm.trans committed

/-! ## The call -/

end Accounted

/-! ## Traffic that is lost -/

def meteredInbound : Inbound where
  id := 1
  port := 443
  protocol := ⟨"vless"⟩
  settings := .clients [{ email := "a", enable := true }]
  tag := "inbound-443"

def meteredDatabase : Database where
  inbounds := ⟨[meteredInbound], by decide⟩
  clientTraffics := ⟨[{ inboundID := 1, enable := true, email := "a" }], by decide⟩
  clientIps := ⟨[], uniqueIps_nil⟩

def reportedTraffics : List ClientTraffic :=
  [{ inboundID := 1, enable := true, email := "a", up := 5, down := 7 }]

/-- The inbounds over their limit cannot be disabled: everything is rolled back, and nil is
    returned. -/
def rolledBackCall : Accounting :=
  addTraffic (· = .disableInbounds) canonical true ⟨0, 0, 0, 0, 0⟩ [⟨true, "inbound-443", 5, 7⟩]
    reportedTraffics meteredDatabase

end VkTurn.Panel
