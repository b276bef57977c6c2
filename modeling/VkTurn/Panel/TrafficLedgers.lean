import Mathlib.Algebra.Group.Prod
import Mathlib.Algebra.BigOperators.Group.List.Basic
import VkTurn.Panel.Traffic

/-! # What each phase of `AddTraffic` does to the counters

The counters of a table are its ledger.  Every phase maps the entries of a ledger, and all but the
renewal do so without looking at anything but the entry's key.
-/

namespace VkTurn.Panel

open VkTurn.Store

/-- Up, down and all time. -/
abbrev Amount := Int × Int × Int

def Traffic.amount (traffic : Traffic) : Amount :=
  (traffic.up, traffic.down, traffic.up + traffic.down)

def ClientTraffic.amount (traffic : ClientTraffic) : Amount :=
  (traffic.up, traffic.down, traffic.up + traffic.down)

def Inbound.counters (inbound : Inbound) : Amount := (inbound.up, inbound.down, inbound.allTime)

def ClientTraffic.counters (row : ClientTraffic) : Amount := (row.up, row.down, row.allTime)

def inboundAmount (traffics : List Traffic) (tag : String) : Amount :=
  ((traffics.filter fun traffic => traffic.isInbound ∧ traffic.tag = tag).map Traffic.amount).sum

def clientAmount (traffics : List ClientTraffic) (email : String) : Amount :=
  ((traffics.filter (·.email = email)).map ClientTraffic.amount).sum

/-- What `addClientTraffic` adds to a row: the first of the amounts. -/
def firstAmount (traffics : List ClientTraffic) (email : String) : Amount :=
  ((traffics.find? (·.email = email)).map ClientTraffic.amount).getD 0

structure InboundEntry where
  id : Int
  tag : String
  counters : Amount

structure ClientEntry where
  email : String
  counters : Amount

def Inbound.entry (inbound : Inbound) : InboundEntry := ⟨inbound.id, inbound.tag, inbound.counters⟩

def ClientTraffic.entry (row : ClientTraffic) : ClientEntry := ⟨row.email, row.counters⟩

def InboundEntry.grow (amount : String → Amount) (entry : InboundEntry) : InboundEntry :=
  { entry with counters := entry.counters + amount entry.tag }

def ClientEntry.grow (amount : String → Amount) (entry : ClientEntry) : ClientEntry :=
  { entry with counters := entry.counters + amount entry.email }

namespace Database

def inboundLedger (db : Database) : List InboundEntry := db.inbounds.rows.map Inbound.entry

def clientLedger (db : Database) : List ClientEntry := db.clientTraffics.rows.map ClientTraffic.entry

end Database

section Ledgers

variable {db next : Database} {row : ClientTraffic} {rows : List ClientTraffic}
  {faults : TrafficSite → Bool}

theorem inboundLedger_mapInbounds {update : Inbound → Inbound}
    {sameKeys : ∀ inbound, (update inbound).id = inbound.id ∧ (update inbound).tag = inbound.tag}
    {change : InboundEntry → InboundEntry}
    (changes : ∀ inbound, (update inbound).entry = change inbound.entry) :
    (db.mapInbounds update sameKeys).inboundLedger = db.inboundLedger.map change := by
  unfold Database.inboundLedger Database.mapInbounds
  rw [List.map_map, List.map_map]
  exact List.map_congr_left fun inbound _ => changes inbound

theorem inboundLedger_saveSettings {inbounds : List Inbound} :
    (db.saveSettings inbounds).inboundLedger = db.inboundLedger := by
  unfold Database.saveSettings Database.mapInbounds Database.inboundLedger
  rw [List.map_map]
  rfl

/-- Rows that are saved with new counters. -/
theorem clientLedger_saveTraffics {amount : String → Amount}
    (saved : ∀ row ∈ db.clientTraffics.rows, ∀ other ∈ rows, other.email = row.email →
      other.counters = row.counters + amount row.email)
    (unsaved : ∀ row ∈ db.clientTraffics.rows, (∀ other ∈ rows, other.email ≠ row.email) →
      amount row.email = 0) :
    (db.saveTraffics rows).clientLedger = db.clientLedger.map (ClientEntry.grow amount) := by
  unfold Database.clientLedger Database.saveTraffics Database.mapTraffics
  rw [List.map_map, List.map_map]
  refine List.map_congr_left fun row member => ?_
  dsimp only [Function.comp_apply]
  unfold ClientTraffic.entry ClientEntry.grow
  cases isFound : rows.find? (·.email = row.email) with
  | none =>
    have absent : ∀ other ∈ rows, other.email ≠ row.email := by
      intro other inRows
      simpa using List.find?_eq_none.mp isFound other inRows
    simp [unsaved row member absent]
  | some other =>
    have same : other.email = row.email := by simpa using List.find?_some isFound
    have grown := saved row member other (List.mem_of_find?_eq_some isFound) same
    simp [same, grown]

/-! ## Inbounds -/

theorem countInbound_entry (traffic : Traffic) (inbound : Inbound) :
    (countInbound traffic inbound).entry =
      inbound.entry.grow fun tag => if tag = traffic.tag then traffic.amount else 0 := by
  unfold countInbound Inbound.entry InboundEntry.grow Inbound.counters Traffic.amount
  by_cases same : inbound.tag = traffic.tag
  · simp [same]
  · simp [same]

theorem grow_grow {first second : String → Amount} {entry : InboundEntry} :
    (entry.grow first).grow second = entry.grow fun tag => first tag + second tag := by
  unfold InboundEntry.grow
  simp [add_assoc]

/-- The loop over the traffic of inbounds, in a batch numbered from `start`. -/
theorem addInboundTraffic_loop (db : Database) {traffics : List Traffic} {start : Nat}
    (succeeds : ∀ entry ∈ traffics.zipIdx start, entry.1.isInbound = true →
      faults (.inbound entry.2) = false) :
    ∃ next, ((traffics.zipIdx start).filter (·.1.isInbound)).foldlM (fun db entry =>
        attempt (faults (.inbound entry.2)) <|
          .ok (db.mapInbounds (countInbound entry.1) (countInbound_keys entry.1))) db = .ok next ∧
      next.inboundLedger = db.inboundLedger.map (InboundEntry.grow (inboundAmount traffics)) ∧
      next.inbounds.rows.map (fun inbound => (inbound.id, inbound.settings)) =
        db.inbounds.rows.map (fun inbound => (inbound.id, inbound.settings)) ∧
      next.clientTraffics = db.clientTraffics := by
  induction traffics generalizing db start with
  | nil =>
    refine ⟨db, rfl, ?_, rfl, rfl⟩
    have unchanged : InboundEntry.grow (inboundAmount []) = id := by
      funext entry
      simp [InboundEntry.grow, inboundAmount]
    rw [unchanged, List.map_id]
  | cons traffic rest inductionHypothesis =>
    rw [List.zipIdx_cons] at succeeds ⊢
    have restSucceeds := fun entry inRest => succeeds entry (List.mem_cons_of_mem _ inRest)
    rw [List.filter_cons]
    by_cases counts : traffic.isInbound = true
    · rw [if_pos counts, List.foldlM_cons, succeeds _ List.mem_cons_self counts]
      obtain ⟨next, ran, ledger, settings, traffics⟩ := inductionHypothesis
        (db.mapInbounds (countInbound traffic) (countInbound_keys traffic)) restSucceeds
      refine ⟨next, ran, ?_, ?_, traffics⟩
      · rw [ledger, inboundLedger_mapInbounds (countInbound_entry traffic), List.map_map]
        refine List.map_congr_left fun entry _ => ?_
        dsimp only [Function.comp_apply]
        rw [grow_grow]
        congr 1
        funext tag
        unfold inboundAmount
        by_cases same : tag = traffic.tag
        · simp [counts, same]
        · simp [counts, same, Ne.symm same]
      · rw [settings]
        unfold Database.mapInbounds
        rw [List.map_map]
        refine List.map_congr_left fun inbound _ => ?_
        dsimp only [Function.comp_apply]
        unfold countInbound
        split
        · rfl
        · rfl
    · rw [if_neg counts]
      obtain ⟨next, ran, ledger, kept⟩ := inductionHypothesis db restSucceeds
      refine ⟨next, ran, ?_, kept⟩
      rw [ledger]
      refine List.map_congr_left fun entry _ => ?_
      congr 1
      funext tag
      simp [inboundAmount, counts]

end Ledgers

/-! ## New rows -/

section NewRows

variable {toLower : String → String} {db next : Database} {known traffics rows : List ClientTraffic}
  {faults : TrafficSite → Bool}

theorem mem_missingTraffics {row : ClientTraffic}
    (member : row ∈ missingTraffics toLower known traffics) :
    (∃ traffic ∈ traffics, row = missingTraffic traffic) ∧
      ∀ other ∈ known, toLower other.email ≠ toLower row.email := by
  induction traffics generalizing known with
  | nil => cases member
  | cons traffic rest inductionHypothesis =>
    unfold missingTraffics at member
    split at member
    · obtain ⟨⟨other, inRest, isMissing⟩, differs⟩ := inductionHypothesis member
      exact ⟨⟨other, List.mem_cons_of_mem _ inRest, isMissing⟩, differs⟩
    · rename_i isNew
      rcases List.mem_cons.mp member with rfl | inRest
      · refine ⟨⟨traffic, List.mem_cons_self, rfl⟩, fun other inKnown same => isNew (.inl ?_)⟩
        exact List.any_eq_true.mpr ⟨other, inKnown, decide_eq_true same⟩
      · obtain ⟨⟨other, inRest, isMissing⟩, differs⟩ := inductionHypothesis inRest
        exact ⟨⟨other, List.mem_cons_of_mem _ inRest, isMissing⟩,
          fun other inKnown => differs other (List.mem_append_left _ inKnown)⟩

theorem missingTraffics_nodup : ((missingTraffics toLower known traffics).map (·.email)).Nodup := by
  induction traffics generalizing known with
  | nil => exact List.nodup_nil
  | cons traffic rest inductionHypothesis =>
    unfold missingTraffics
    split
    · exact inductionHypothesis
    · refine List.nodup_cons.mpr ⟨fun member => ?_, inductionHypothesis⟩
      obtain ⟨row, inMissing, same⟩ := List.mem_map.mp member
      have differs := (mem_missingTraffics inMissing).2 (missingTraffic traffic) (by simp)
      exact differs (congrArg toLower same.symm)

/-- No new row has the email of a stored one. -/
theorem created_nodup : ((db.clientTraffics.rows ++
    missingTraffics toLower (knownTraffics db traffics) traffics).map (·.email)).Nodup := by
  rw [List.map_append, List.nodup_append]
  refine ⟨db.clientTraffics.valid, missingTraffics_nodup, ?_⟩
  rintro email isStored _ isMissing rfl
  obtain ⟨stored, inTable, rfl⟩ := List.mem_map.mp isStored
  obtain ⟨row, inMissing, same⟩ := List.mem_map.mp isMissing
  obtain ⟨⟨traffic, inBatch, rfl⟩, differs⟩ := mem_missingTraffics inMissing
  refine differs stored (List.mem_filter.mpr ⟨inTable, ?_⟩) (congrArg toLower same.symm)
  exact List.any_eq_true.mpr ⟨traffic, inBatch, decide_eq_true same⟩

theorem createTraffics_of_fresh (db : Database)
    (fresh : ((db.clientTraffics.rows ++ rows).map (·.email)).Nodup)
    (succeeds : ∀ row ∈ rows, faults (.create row.email) = false) :
    ∃ next, createTraffics faults db rows = .ok next ∧ next.inbounds = db.inbounds ∧
      next.clientTraffics.rows = db.clientTraffics.rows ++ rows := by
  induction rows generalizing db with
  | nil => exact ⟨db, rfl, rfl, (List.append_nil _).symm⟩
  | cons row rest inductionHypothesis =>
    have append : db.clientTraffics.rows ++ row :: rest =
        (db.clientTraffics.rows ++ [row]) ++ rest := by simp
    rw [append] at fresh ⊢
    have firstValid : UniqueTraffics (db.clientTraffics.rows ++ [row]) := by
      rw [List.map_append] at fresh
      exact (List.nodup_append.mp fresh).1
    obtain ⟨next, ran, sameInbounds, isTable⟩ := inductionHypothesis
      { db with clientTraffics := ⟨_, firstValid⟩ } fresh
      fun row inRest => succeeds row (List.mem_cons_of_mem _ inRest)
    refine ⟨next, ?_, sameInbounds, isTable⟩
    have created : db.createTraffic row =
        .ok { db with clientTraffics := ⟨_, firstValid⟩ } := by
      unfold Database.createTraffic
      rw [Table.write_of_valid firstValid]
      rfl
    unfold createTraffics at ran ⊢
    rw [List.foldlM_cons, succeeds row List.mem_cons_self, created]
    exact ran

theorem createTraffics_of_fault (db : Database) {row : ClientTraffic} (member : row ∈ rows)
    (fails : faults (.create row.email) = true) :
    ∃ message, createTraffics faults db rows = .error message := by
  cases ran : createTraffics faults db rows with
  | error message => exact ⟨message, rfl⟩
  | ok next =>
    obtain ⟨before, after, rfl⟩ := List.append_of_mem member
    unfold createTraffics at ran
    rw [List.foldlM_append] at ran
    obtain ⟨middle, _, rest⟩ := bind_eq_ok.mp ran
    rw [List.foldlM_cons, fails] at rest
    cases rest

end NewRows

/-! ## Passes over clients -/

namespace ClientPass

variable {pass : ClientPass} {Record : Type} {fields : ClientFields Record}
  {visited next : Visited}

section Keeps

variable (holds : Visited → Prop)
  (keeps : ∀ visited row expiryTime, row ∈ visited.rows → holds visited →
  holds (pass.found visited row expiryTime))

include keeps

theorem visit_keeps {client after : Record} (held : holds visited)
    (ran : pass.visit fields visited client = some (next, after)) : holds next := by
  unfold visit at ran
  split at ran
  · cases ran
    exact held
  · rename_i row isFound
    obtain ⟨expiryTime, _, same⟩ := Option.map_eq_some_iff.mp ran
    cases same
    exact keeps _ _ _ (List.mem_of_find?_eq_some isFound) held

theorem visitAll_keeps {clients after : List Record} (held : holds visited)
    (ran : pass.visitAll fields visited clients = some (next, after)) : holds next := by
  induction clients generalizing visited after with
  | nil =>
    cases ran
    exact held
  | cons client rest inductionHypothesis =>
    obtain ⟨⟨middle, first⟩, visitedFirst, ran⟩ := Option.bind_eq_some_iff.mp ran
    obtain ⟨⟨last, others⟩, visitedRest, same⟩ := Option.bind_eq_some_iff.mp ran
    cases same
    exact inductionHypothesis (visit_keeps holds keeps held visitedFirst) visitedRest

theorem visitSettings_keeps {settings after : Settings} (held : holds visited)
    (ran : pass.visitSettings visited settings = some (next, after)) : holds next := by
  unfold visitSettings at ran
  split at ran
  · split at ran
    · obtain ⟨_, _, same⟩ := Option.map_eq_some_iff.mp ran
      cases same
      exact held
    · obtain ⟨⟨last, clients⟩, visitedAll, same⟩ := Option.map_eq_some_iff.mp ran
      cases same
      exact visitAll_keeps holds keeps held visitedAll
  · split at ran
    · cases ran
      exact held
    · obtain ⟨⟨last, clients⟩, visitedAll, same⟩ := Option.map_eq_some_iff.mp ran
      cases same
      exact visitAll_keeps holds keeps held visitedAll
  · obtain ⟨_, _, same⟩ := Option.map_eq_some_iff.mp ran
    cases same
    exact held
  · obtain ⟨_, _, same⟩ := Option.map_eq_some_iff.mp ran
    cases same
    exact held

/-- What is kept when a client's row is found, a whole pass keeps. -/
theorem visitInbounds_keeps {inbounds after : List Inbound} (held : holds visited)
    (ran : pass.visitInbounds visited inbounds = some (next, after)) : holds next := by
  induction inbounds generalizing visited after with
  | nil =>
    cases ran
    exact held
  | cons inbound rest inductionHypothesis =>
    obtain ⟨⟨middle, settings⟩, visitedFirst, ran⟩ := Option.bind_eq_some_iff.mp ran
    obtain ⟨⟨last, others⟩, visitedRest, same⟩ := Option.bind_eq_some_iff.mp ran
    cases same
    exact inductionHypothesis (visitSettings_keeps holds keeps held visitedFirst) visitedRest

end Keeps

/-- A column that the pass does not write. -/
theorem found_map {Column : Type} {column : ClientTraffic → Column}
    (same : ∀ expiryTime row, column (pass.update expiryTime row) = column row)
    (visited : Visited) (row : ClientTraffic) (expiryTime : Int) :
    (pass.found visited row expiryTime).rows.map column = visited.rows.map column := by
  unfold found
  rw [List.map_map]
  refine List.map_congr_left fun other _ => ?_
  dsimp only [Function.comp_apply]
  split
  · exact same _ _
  · rfl

theorem visitInbounds_map {Column : Type} (column : ClientTraffic → Column)
    (same : ∀ expiryTime row, column (pass.update expiryTime row) = column row)
    {inbounds after : List Inbound}
    (ran : pass.visitInbounds visited inbounds = some (next, after)) :
    next.rows.map column = visited.rows.map column :=
  visitInbounds_keeps (fun current =>
      current.rows.map column = visited.rows.map column)
    (fun _ _ _ _ held => (found_map same _ _ _).trans held) rfl ran

/-- A row that was not found is left as it was. -/
theorem visitInbounds_untouched {inbounds after : List Inbound} {rows : List ClientTraffic}
    (ran : pass.visitInbounds { rows } inbounds = some (next, after)) :
    ∀ row ∈ next.rows, row.email ∉ next.emails → row ∈ rows := by
  refine visitInbounds_keeps (fun current =>
    ∀ row ∈ current.rows, row.email ∉ current.emails → row ∈ rows) ?_ (fun _ member _ => member) ran
  intro current row expiryTime _ held other member untouched
  obtain ⟨before, inRows, rfl⟩ := List.mem_map.mp member
  by_cases same : before.email = row.email
  · rw [if_pos same, pass.sameEmail, same] at untouched
    exact absurd (List.mem_append_right _ (List.mem_singleton.mpr rfl)) untouched
  · rw [if_neg same] at untouched ⊢
    exact held before inRows fun touched => untouched (List.mem_append_left _ touched)

/-- Whether a pass panics depends on the settings alone. -/
theorem visitInbounds_eq_none_congr (visited : Visited) {inbounds others : List Inbound}
    (same : inbounds.map (·.settings) = others.map (·.settings)) :
    pass.visitInbounds visited inbounds = none ↔ pass.visitInbounds visited others = none := by
  induction inbounds generalizing visited others with
  | nil =>
    cases List.map_eq_nil_iff.mp same.symm
    exact Iff.rfl
  | cons inbound rest inductionHypothesis =>
    obtain ⟨other, otherRest, rfl, sameFirst, sameRest⟩ := List.map_eq_cons_iff.mp same.symm
    unfold visitInbounds
    rw [sameFirst]
    cases pass.visitSettings visited inbound.settings with
    | none => exact Iff.rfl
    | some first =>
      have rests := inductionHypothesis first.1 sameRest.symm
      dsimp only [Option.bind_eq_bind, Option.bind_some]
      simp only [Option.bind_eq_none_iff, Option.pure_def, reduceCtorEq, imp_false]
      rw [← Option.eq_none_iff_forall_ne_some, ← Option.eq_none_iff_forall_ne_some]
      exact rests

end ClientPass

/-! ## Counting clients -/

section Counting

variable {faults : TrafficSite → Bool} {now : Int} {db : Database}
  {rows traffics : List ClientTraffic}

/-- Some client's period starts, and reading its expiry time from the settings panics. -/
def AdjustPanics (now : Int) (db : Database) (rows : List ClientTraffic) : Prop :=
  (startPass now).visitInbounds { rows } (inboundsOf db (rows.filter (·.expiryTime < 0))) = none

theorem adjustTraffics_failed (now : Int) (db : Database)
    (starting : ∃ row ∈ rows, row.expiryTime < 0)
    (fails : faults .adjustedInbounds = true) :
    adjustTraffics faults now db rows = (.failed, db, rows) := by
  obtain ⟨row, member, isNegative⟩ := starting
  have isStarting : rows.filter (·.expiryTime < 0) ≠ [] :=
    List.ne_nil_of_mem (List.mem_filter.mpr ⟨member, decide_eq_true isNegative⟩)
  unfold adjustTraffics
  simp [isStarting, fails]

theorem adjustTraffics_panicked (now : Int) (db : Database)
    (starting : ∃ row ∈ rows, row.expiryTime < 0)
    (succeeds : faults .adjustedInbounds = false) (panics : AdjustPanics now db rows) :
    adjustTraffics faults now db rows = (.panicked, db, rows) := by
  obtain ⟨row, member, isNegative⟩ := starting
  have isStarting : rows.filter (·.expiryTime < 0) ≠ [] :=
    List.ne_nil_of_mem (List.mem_filter.mpr ⟨member, decide_eq_true isNegative⟩)
  unfold AdjustPanics at panics
  unfold adjustTraffics
  simp [isStarting, succeeds, panics]

/-- The rows in memory keep their counters. -/
theorem adjustTraffics_done (now : Int) (db : Database) (rows : List ClientTraffic)
    (ready : (∃ row ∈ rows, row.expiryTime < 0) →
      faults .adjustedInbounds = false ∧ ¬ AdjustPanics now db rows) :
    ∃ next after, adjustTraffics faults now db rows = (.done, next, after) ∧
      next.inboundLedger = db.inboundLedger ∧ next.clientTraffics = db.clientTraffics ∧
      after.map ClientTraffic.entry = rows.map ClientTraffic.entry := by
  unfold adjustTraffics
  by_cases nobody : rows.filter (·.expiryTime < 0) = []
  · exact ⟨db, rows, by simp [nobody], rfl, rfl, rfl⟩
  · obtain ⟨row, isStarting⟩ := List.exists_mem_of_ne_nil _ nobody
    obtain ⟨member, isNegative⟩ := List.mem_filter.mp isStarting
    obtain ⟨succeeds, passes⟩ := ready ⟨row, member, by simpa using isNegative⟩
    unfold AdjustPanics at passes
    obtain ⟨⟨visited, inbounds⟩, ran⟩ := Option.ne_none_iff_exists'.mp passes
    have sameEntries := ClientPass.visitInbounds_map ClientTraffic.entry (fun _ _ => rfl) ran
    cases faults .saveAdjusted with
    | true =>
      exact ⟨db, visited.rows, by simp [nobody, succeeds, ran], rfl, rfl, sameEntries⟩
    | false =>
      exact ⟨db.saveSettings inbounds, visited.rows, by simp [nobody, succeeds, ran],
        inboundLedger_saveSettings, rfl, sameEntries⟩

theorem countClient_email {online : Int} {row : ClientTraffic} :
    (countClient online traffics row).email = row.email := by
  unfold countClient
  split
  · rfl
  · rfl

theorem countClient_counters {online : Int} {row : ClientTraffic} :
    (countClient online traffics row).counters = row.counters + firstAmount traffics row.email := by
  unfold countClient firstAmount
  split
  · rename_i isFound
    rw [isFound]
    simp
  · rename_i traffic isFound
    rw [isFound]
    rfl

theorem firstAmount_of_absent {email : String} (absent : ∀ traffic ∈ traffics, traffic.email ≠ email) :
    firstAmount traffics email = 0 := by
  have notFound : traffics.find? (·.email = email) = none :=
    List.find?_eq_none.mpr fun traffic member => by simpa using absent traffic member
  unfold firstAmount
  rw [notFound]
  rfl

/-- The rows a batch is added to: those it finds, and those it creates. -/
def countedRows (library : Library) (db : Database) (traffics : List ClientTraffic) :
    List ClientTraffic :=
  knownTraffics db traffics ++
    missingTraffics library.toLower (knownTraffics db traffics) traffics

/-- What a row gets, which is nothing where its save fails. -/
def creditedAmount (faults : TrafficSite → Bool) (traffics : List ClientTraffic) (email : String) :
    Amount :=
  if faults .save then 0 else firstAmount traffics email

/-- One of the reads or of the creations before anything is counted fails. -/
def ClientsRefused (faults : TrafficSite → Bool) (library : Library) (db : Database)
    (traffics : List ClientTraffic) : Prop :=
  traffics ≠ [] ∧ (faults .find = true ∨
    (∃ row ∈ missingTraffics library.toLower (knownTraffics db traffics) traffics,
      faults (.create row.email) = true) ∨
    ((∃ row ∈ countedRows library db traffics, row.expiryTime < 0) ∧
      faults .adjustedInbounds = true))

/-- There is a row to count, and no process, or no expiry time to start from. -/
def CountingPanics (library : Library) (running : Bool) (times : TrafficTimes) (db : Database)
    (traffics : List ClientTraffic) : Prop :=
  countedRows library db traffics ≠ [] ∧ (running = false ∨
    ((∃ row ∈ countedRows library db traffics, row.expiryTime < 0) ∧
      AdjustPanics times.adjust db (countedRows library db traffics)))

variable {library : Library} {running : Bool} {times : TrafficTimes}

theorem addClientTraffic_failed (running : Bool) (times : TrafficTimes)
    (refused : ClientsRefused faults library db traffics) :
    ∃ next, addClientTraffic faults library running times traffics db = (.failed, next) := by
  obtain ⟨notEmpty, fails⟩ := refused
  unfold addClientTraffic
  rw [if_neg notEmpty]
  cases findFails : faults .find with
  | true => exact ⟨db, rfl⟩
  | false =>
    rw [if_neg Bool.false_ne_true]
    by_cases creates : ∃ row ∈ missingTraffics library.toLower (knownTraffics db traffics) traffics,
        faults (.create row.email) = true
    · obtain ⟨row, member, createFails⟩ := creates
      obtain ⟨message, ran⟩ := createTraffics_of_fault db member createFails
      exact ⟨db, by simp only [ran]⟩
    · push Not at creates
      obtain found | created | ⟨starting, adjustFails⟩ := fails
      · exact nomatch findFails.symm.trans found
      · obtain ⟨row, member, createFails⟩ := created
        exact absurd createFails (creates row member)
      · obtain ⟨middle, ran, _, _⟩ := createTraffics_of_fresh db created_nodup
          fun row member => Bool.eq_false_iff.mpr (creates row member)
        have adjusted := adjustTraffics_failed times.adjust middle starting
          adjustFails
        obtain ⟨row, member, _⟩ := starting
        unfold countedRows at adjusted member
        exact ⟨middle, by simp only [ran, if_neg (List.ne_nil_of_mem member), adjusted]⟩

section Passed

variable (passed : ¬ ClientsRefused faults library db traffics)

include passed

/-- A batch that is not refused gets its rows. -/
theorem createTraffics_of_passed (notEmpty : traffics ≠ []) : faults .find = false ∧
    ∃ next, createTraffics faults db
        (missingTraffics library.toLower (knownTraffics db traffics) traffics) = .ok next ∧
      next.inbounds = db.inbounds ∧ next.clientTraffics.rows = db.clientTraffics.rows ++
        missingTraffics library.toLower (knownTraffics db traffics) traffics := by
  unfold ClientsRefused at passed
  push Not at passed
  obtain ⟨finds, creates, _⟩ := passed notEmpty
  exact ⟨Bool.eq_false_iff.mpr finds, createTraffics_of_fresh db created_nodup
    fun row member => Bool.eq_false_iff.mpr (creates row member)⟩

theorem adjusts_of_passed (notEmpty : traffics ≠ [])
    (starting : ∃ row ∈ countedRows library db traffics, row.expiryTime < 0) :
    faults .adjustedInbounds = false := by
  unfold ClientsRefused at passed
  push Not at passed
  exact Bool.eq_false_iff.mpr ((passed notEmpty).2.2 starting)

theorem addClientTraffic_panicked (panics : CountingPanics library running times db traffics) :
    ∃ next, addClientTraffic faults library running times traffics db = (.panicked, next) := by
  obtain ⟨rows, panics⟩ := panics
  have notEmpty : traffics ≠ [] := by
    rintro rfl
    exact rows (by simp [countedRows, knownTraffics, missingTraffics])
  obtain ⟨finds, middle, ran, sameInbounds, _⟩ := createTraffics_of_passed passed notEmpty
  have sameRows : AdjustPanics times.adjust middle (countedRows library db traffics) ↔
      AdjustPanics times.adjust db (countedRows library db traffics) := by
    unfold AdjustPanics inboundsOf
    rw [sameInbounds]
  unfold addClientTraffic
  rw [if_neg notEmpty, finds, if_neg Bool.false_ne_true]
  simp only [ran]
  unfold countedRows at rows
  rw [if_neg rows]
  by_cases adjusting : (∃ row ∈ countedRows library db traffics, row.expiryTime < 0) ∧
      AdjustPanics times.adjust db (countedRows library db traffics)
  · have adjusted := adjustTraffics_panicked times.adjust middle adjusting.1
      (adjusts_of_passed passed notEmpty adjusting.1) (sameRows.mpr adjusting.2)
    unfold countedRows at adjusted
    exact ⟨middle, by simp only [adjusted]⟩
  · have stopped : running = false := panics.resolve_right adjusting
    obtain ⟨next, after, adjusted, _⟩ := adjustTraffics_done times.adjust middle
      (countedRows library db traffics) fun starting => ⟨adjusts_of_passed passed notEmpty starting,
        fun panics => adjusting ⟨starting, sameRows.mp panics⟩⟩
    unfold countedRows at adjusted
    exact ⟨next, by simp [adjusted, stopped]⟩

end Passed

theorem map_grow_of_zero {amount : String → Amount} {ledger : List ClientEntry}
    (isZero : ∀ entry ∈ ledger, amount entry.email = 0) :
    ledger.map (ClientEntry.grow amount) = ledger := by
  conv_rhs => rw [← List.map_id ledger]
  refine List.map_congr_left fun entry member => ?_
  simp [ClientEntry.grow, isZero entry member]

/-- A row that the batch names is among those it finds. -/
theorem firstAmount_of_unknown {row : ClientTraffic} (stored : row ∈ db.clientTraffics.rows)
    (unknown : row ∉ knownTraffics db traffics) : firstAmount traffics row.email = 0 := by
  refine firstAmount_of_absent fun traffic inBatch same => unknown ?_
  exact List.mem_filter.mpr ⟨stored, List.any_eq_true.mpr ⟨traffic, inBatch, decide_eq_true same⟩⟩

/-- Saving the counted rows in memory adds to every row its first amount. -/
theorem clientLedger_counted {middle : Database} {after : List ClientTraffic} {online : Int}
    (isTable : middle.clientTraffics.rows = db.clientTraffics.rows ++
      missingTraffics library.toLower (knownTraffics db traffics) traffics)
    (sameEntries : after.map ClientTraffic.entry =
      (countedRows library db traffics).map ClientTraffic.entry) :
    (middle.saveTraffics (after.map (countClient online traffics))).clientLedger =
      middle.clientLedger.map (ClientEntry.grow (firstAmount traffics)) := by
  have inTable : ∀ row ∈ countedRows library db traffics, row ∈ middle.clientTraffics.rows := by
    intro row member
    rw [isTable]
    rcases List.mem_append.mp member with isKnown | isMissing
    · exact List.mem_append_left _ (List.mem_filter.mp isKnown).1
    · exact List.mem_append_right _ isMissing
  refine clientLedger_saveTraffics (fun row stored other saved same => ?_) fun row stored absent => ?_
  · obtain ⟨before, inMemory, rfl⟩ := List.mem_map.mp saved
    rw [countClient_email] at same
    have sameEntry : before.entry ∈ (countedRows library db traffics).map ClientTraffic.entry := by
      rw [← sameEntries]
      exact List.mem_map_of_mem inMemory
    obtain ⟨counted, isCounted, entries⟩ := List.mem_map.mp sameEntry
    obtain ⟨emails, counters⟩ := ClientEntry.mk.inj entries
    have isRow : counted = row :=
      List.inj_on_of_nodup_map middle.clientTraffics.valid (inTable counted isCounted) stored
        (emails.trans same)
    rw [countClient_counters, ← counters, same, isRow]
  · rw [isTable] at stored
    have notCounted : row ∉ countedRows library db traffics := by
      intro isCounted
      have sameEntry : row.entry ∈ after.map ClientTraffic.entry := by
        rw [sameEntries]
        exact List.mem_map_of_mem isCounted
      obtain ⟨before, inMemory, entries⟩ := List.mem_map.mp sameEntry
      refine absent _ (List.mem_map_of_mem inMemory) ?_
      rw [countClient_email]
      exact (ClientEntry.mk.inj entries).1
    rcases List.mem_append.mp stored with isStored | isMissing
    · exact firstAmount_of_unknown isStored fun isKnown =>
        notCounted (List.mem_append_left _ isKnown)
    · exact absurd (List.mem_append_right _ isMissing) notCounted

theorem addClientTraffic_done (passed : ¬ ClientsRefused faults library db traffics)
    (counts : ¬ CountingPanics library running times db traffics) :
    ∃ next, addClientTraffic faults library running times traffics db = (.done, next) ∧
      next.inboundLedger = db.inboundLedger ∧
      next.clientLedger = (db.clientLedger ++
        (missingTraffics library.toLower (knownTraffics db traffics) traffics).map
          ClientTraffic.entry).map (ClientEntry.grow (creditedAmount faults traffics)) := by
  by_cases empty : traffics = []
  · subst empty
    refine ⟨db, rfl, rfl, ?_⟩
    rw [map_grow_of_zero fun entry _ => ?_]
    · exact (List.append_nil _).symm
    · unfold creditedAmount
      split
      · rfl
      · rfl
  · obtain ⟨finds, middle, ran, sameInbounds, isTable⟩ := createTraffics_of_passed passed empty
    have sameLedger : middle.inboundLedger = db.inboundLedger := by
      unfold Database.inboundLedger
      rw [sameInbounds]
    have isLedger : middle.clientLedger = db.clientLedger ++
        (missingTraffics library.toLower (knownTraffics db traffics) traffics).map
          ClientTraffic.entry := by
      unfold Database.clientLedger
      rw [isTable, List.map_append]
    rw [← isLedger]
    unfold addClientTraffic
    rw [if_neg empty, finds, if_neg Bool.false_ne_true]
    simp only [ran]
    unfold CountingPanics at counts
    push Not at counts
    by_cases nobody : countedRows library db traffics = []
    · unfold countedRows at nobody
      rw [if_pos nobody]
      refine ⟨middle, rfl, sameLedger, (map_grow_of_zero fun entry member => ?_).symm⟩
      obtain ⟨row, stored, rfl⟩ := List.mem_map.mp member
      obtain ⟨noKnown, noMissing⟩ := List.append_eq_nil_iff.mp nobody
      rw [isTable, noMissing, List.append_nil] at stored
      unfold creditedAmount
      split
      · rfl
      · exact firstAmount_of_unknown stored (by simp [noKnown])
    · obtain ⟨runs, passes⟩ := counts nobody
      obtain ⟨next, after, adjusted, nextLedger, nextTraffics, sameEntries⟩ :=
        adjustTraffics_done times.adjust middle (countedRows library db traffics) fun starting =>
            ⟨adjusts_of_passed passed empty starting, by
              unfold AdjustPanics inboundsOf
              rw [sameInbounds]
              exact passes starting⟩
      have nextIsTable : next.clientTraffics.rows = db.clientTraffics.rows ++
          missingTraffics library.toLower (knownTraffics db traffics) traffics := by
        rw [nextTraffics, isTable]
      have nextClients : next.clientLedger = middle.clientLedger := by
        unfold Database.clientLedger
        rw [nextTraffics]
      unfold countedRows at nobody adjusted
      have isRunning : running = true := Bool.eq_true_of_not_eq_false runs
      rw [if_neg nobody]
      simp only [adjusted, isRunning, not_true_eq_false, if_false]
      unfold creditedAmount
      cases faults .save with
      | true =>
        refine ⟨next, rfl, nextLedger.trans sameLedger, ?_⟩
        rw [nextClients]
        exact (map_grow_of_zero fun _ _ => rfl).symm
      | false =>
        refine ⟨_, rfl, nextLedger.trans sameLedger, ?_⟩
        rw [clientLedger_counted nextIsTable sameEntries, nextClients]
        rfl

end Counting

end VkTurn.Panel
