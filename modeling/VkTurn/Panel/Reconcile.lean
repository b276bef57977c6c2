import Mathlib.Data.List.Nodup
import VkTurn.Panel.ProxyRuntime

/-! # Reconciling the processes with the inbounds

`EnsureRunning` stops what is not desired and starts what is missing.  It drops the entry of a
process also when `Stop` has failed, and so does `stopAllLocked`; such a process runs on, and
the service cannot stop it any more.
-/

namespace VkTurn.Panel

open VkTurn.Store VkTurn.Transition

namespace ProxyRuntime

/-- The tracked processes are those of the desired inbounds, each running with the desired key. -/
structure AsDesired (runtime : ProxyRuntime) (desired : List (Int × Spec)) : Prop where
  tracked : ∀ inboundID,
    inboundID ∈ runtime.processes.map Prod.fst ↔ inboundID ∈ desired.map Prod.fst
  single : (runtime.processes.map Prod.fst).Nodup
  current : ∀ entry ∈ runtime.processes, ∃ spec process,
    desired.lookup entry.1 = some spec ∧ runtime.started entry.2 = some process ∧
      process.running = true ∧ process.spec.key = spec.key

structure Reconciled (runtime : ProxyRuntime) : Prop where
  /-- When `EnsureRunning` is about to return nil, and not because of a manual stop. -/
  asDesired : ∀ ensuring, runtime.ensuring = some ensuring → ensuring.succeeds = true →
    runtime.AsDesired ensuring.desired
  noOrphan : ∀ handle, runtime.running handle = true → runtime.tracks handle = true

/-- The map has one entry for each inbound and for each process, and no process that runs is
    missing from it. -/
structure Tidy (runtime : ProxyRuntime) : Prop where
  ids : (runtime.processes.map Prod.fst).Nodup
  handles : (runtime.processes.map Prod.snd).Nodup
  known : ∀ entry ∈ runtime.processes, (runtime.started entry.2).isSome = true
  noOrphan : ∀ handle, runtime.running handle = true → runtime.tracks handle = true

/-- Any state in which no `EnsureRunning` is under way. -/
structure Rests (runtime : ProxyRuntime) : Prop where
  tidy : runtime.Tidy
  free : runtime.ensuring = none

end ProxyRuntime

/-- No process that runs outlives its `Stop`. -/
def StopsSucceed (runtime : ProxyRuntime) : RuntimeLabel → Prop
  | .stopAll _ _ survives | .restartAll _ _ survives | .shutdownForRestart _ survives
  | .replaceBinary _ _ survives => runtime.stopAllFails survives = false
  | .reap inboundID survives => ∀ ensuring handle, runtime.ensuring = some ensuring →
      runtime.processes.lookup inboundID = some handle →
      runtime.upToDate ensuring.desired inboundID handle = false →
      runtime.running handle = true → survives = false
  | _ => True

/-- Stops succeed, and no tracked process exits by itself while `EnsureRunning` is under way,
    unless its turn to be checked is still to come. -/
def Undisturbed (runtime : ProxyRuntime) (label : RuntimeLabel) : Prop :=
  StopsSucceed runtime label ∧
  ∀ handle, label = .exits handle → ∀ ensuring, runtime.ensuring = some ensuring →
    ∀ entry ∈ runtime.processes, entry.2 = handle →
      ∃ pending, ensuring.stage = .reaping pending ∧ entry.1 ∈ pending

namespace ProxyRuntime

variable {runtime next : ProxyRuntime} {desired : List (Int × Spec)} {inboundID : Int}

/-! ## No orphans -/

/-- Only the map and the processes matter. -/
theorem Tidy.congr (tidy : runtime.Tidy) (sameMap : next.processes = runtime.processes)
    (sameStarted : next.started = runtime.started) : next.Tidy := by
  obtain ⟨ids, handles, known, noOrphan⟩ := tidy
  unfold running tracks at noOrphan
  rw [← sameMap, ← sameStarted] at *
  exact ⟨ids, handles, known, noOrphan⟩

theorem Tidy.exit (tidy : runtime.Tidy) {gone : Nat → Bool} : (runtime.exit gone).Tidy where
  ids := tidy.ids
  handles := tidy.handles
  known entry isEntry := by
    simp only [ProxyRuntime.exit, Option.isSome_map]
    exact tidy.known entry isEntry
  noOrphan handle isRunning := by
    rw [running_exit, Bool.and_eq_true] at isRunning
    exact tidy.noOrphan handle isRunning.1

/-- Nothing runs after all tracked processes have been stopped. -/
theorem Tidy.running_stopAllLocked (tidy : runtime.Tidy) {survives : Nat → Bool}
    (succeeds : runtime.stopAllFails survives = false) (handle : Nat) :
    (runtime.stopAllLocked survives).running handle = false := by
  have halted : (runtime.stopAllLocked survives).running handle =
      (runtime.running handle && !(runtime.tracks handle && !survives handle)) :=
    running_exit runtime (fun handle => runtime.tracks handle && !survives handle) handle
  rw [halted]
  cases isRunning : runtime.running handle with
  | false => rfl
  | true =>
    obtain ⟨entry, isEntry, rfl⟩ := tracks_iff.mp (tidy.noOrphan handle isRunning)
    simp only [stopAllFails, List.any_eq_false, Bool.and_eq_true, not_and,
      Bool.not_eq_true] at succeeds
    simp [tidy.noOrphan _ isRunning, succeeds entry isEntry isRunning]

theorem Tidy.stopAllLocked (tidy : runtime.Tidy) {survives : Nat → Bool}
    (succeeds : runtime.stopAllFails survives = false) :
    (runtime.stopAllLocked survives).Tidy where
  ids := List.nodup_nil
  handles := List.nodup_nil
  known _ isEntry := nomatch isEntry
  noOrphan handle isRunning := by
    rw [tidy.running_stopAllLocked succeeds] at isRunning
    cases isRunning

/-- Two entries for one process are the same. -/
theorem Tidy.sameEntry (tidy : runtime.Tidy) {first second : Int × Nat}
    (isFirst : first ∈ runtime.processes) (isSecond : second ∈ runtime.processes)
    (sameHandle : first.2 = second.2) : first = second :=
  List.inj_on_of_nodup_map tidy.handles isFirst isSecond sameHandle

theorem Tidy.sameHandle (tidy : runtime.Tidy) {first second : Int × Nat}
    (isFirst : first ∈ runtime.processes) (isSecond : second ∈ runtime.processes)
    (sameID : first.1 = second.1) : first = second :=
  List.inj_on_of_nodup_map tidy.ids isFirst isSecond sameID

theorem Tidy.reap (tidy : runtime.Tidy) {survives : Bool}
    (succeeds : ∀ handle, runtime.processes.lookup inboundID = some handle →
      runtime.upToDate desired inboundID handle = false → runtime.running handle = true →
      survives = false) :
    (runtime.reap desired inboundID survives).Tidy := by
  unfold ProxyRuntime.reap
  split
  · exact tidy
  · rename_i handle isTracked
    split
    · exact tidy
    · rename_i stale
      have sublist : (runtime.processes.filter fun entry => entry.1 ≠ inboundID).Sublist
          runtime.processes := List.filter_sublist
      refine ⟨tidy.ids.sublist (sublist.map _), tidy.handles.sublist (sublist.map _), ?_, ?_⟩
      · intro entry isEntry
        have known := tidy.known entry (sublist.subset isEntry)
        simpa [ProxyRuntime.exit] using known
      · intro other isRunning
        have halted : (runtime.running other && !(decide (other = handle) && !survives)) = true :=
          (running_exit runtime (fun other => decide (other = handle) && !survives)
            other).symm.trans isRunning
        rw [Bool.and_eq_true] at halted
        obtain ⟨wasRunning, notStopped⟩ := halted
        obtain ⟨entry, isEntry, rfl⟩ := tracks_iff.mp (tidy.noOrphan other wasRunning)
        refine tracks_iff.mpr ⟨entry, List.mem_filter.mpr ⟨isEntry, ?_⟩, rfl⟩
        refine decide_eq_true fun sameID => ?_
        -- the entry of the process that was stopped
        have same := tidy.sameHandle isEntry (mem_of_lookup isTracked) sameID
        subst same
        have stopped := succeeds handle isTracked (by simpa using stale) wasRunning
        simp [stopped] at notStopped

/-- The loop body touches the map and the processes only. -/
theorem reap_eq (runtime : ProxyRuntime) (desired : List (Int × Spec)) (inboundID : Int)
    (survives : Bool) : ∃ started processes,
      runtime.reap desired inboundID survives = { runtime with started, processes } := by
  unfold reap
  split
  · exact ⟨_, _, rfl⟩
  · split
    · exact ⟨_, _, rfl⟩
    · exact ⟨_, _, rfl⟩

theorem Tidy.launch (tidy : runtime.Tidy) {handle : Nat} {spec : Spec}
    (untracked : runtime.processes.lookup inboundID = none)
    (fresh : runtime.started handle = none) : (runtime.launch inboundID handle spec).Tidy := by
  have unused : ∀ entry ∈ runtime.processes, entry.2 ≠ handle := by
    intro entry isEntry same
    have isKnown := tidy.known entry isEntry
    rw [same, fresh] at isKnown
    cases isKnown
  refine ⟨?_, ?_, ?_, ?_⟩
  · exact List.nodup_cons.mpr ⟨not_mem_keys_of_lookup untracked, tidy.ids⟩
  · refine List.nodup_cons.mpr ⟨fun member => ?_, tidy.handles⟩
    obtain ⟨entry, isEntry, same⟩ := List.mem_map.mp member
    exact unused entry isEntry same
  · intro entry isEntry
    simp only [ProxyRuntime.launch, Function.update_apply]
    split
    · rfl
    · rename_i other
      obtain rfl | isOld := List.mem_cons.mp isEntry
      · exact absurd rfl other
      · exact tidy.known entry isOld
  · intro other isRunning
    by_cases same : other = handle
    · exact tracks_iff.mpr ⟨(inboundID, handle), List.mem_cons_self, same.symm⟩
    · have wasRunning : runtime.running other = true := by
        simpa [running, ProxyRuntime.launch, Function.update_apply, same] using isRunning
      obtain ⟨entry, isEntry, isOther⟩ := tracks_iff.mp (tidy.noOrphan other wasRunning)
      exact tracks_iff.mpr ⟨entry, List.mem_cons_of_mem _ isEntry, isOther⟩

/-- Loading the flag changes nothing else, and nothing when it was loaded. -/
theorem ensureManualStopLoadedLocked_eq (runtime : ProxyRuntime) (fails : Bool) : ∃ manualStop,
    runtime.ensureManualStopLoadedLocked fails =
      { runtime with manualStopLoaded := true, manualStop } ∧
      (runtime.manualStopLoaded = true → manualStop = runtime.manualStop) := by
  unfold ensureManualStopLoadedLocked
  split
  · rename_i isLoaded
    refine ⟨runtime.manualStop, ?_, fun _ => rfl⟩
    rw [← isLoaded]
  · rename_i notLoaded
    exact ⟨_, rfl, fun isLoaded => absurd isLoaded notLoaded⟩

/-- `EnsureRunning` returns at once, or begins with no manual stop in force. -/
theorem ensureRunning_eq (runtime : ProxyRuntime) (call : Nat) (loadFails : Bool)
    (query : Option InboundQuery) : ∃ manualStop,
      (runtime.manualStopLoaded = true → manualStop = runtime.manualStop) ∧
      (ensureRunning runtime call loadFails query =
          { runtime with manualStopLoaded := true, manualStop }.setCall call .returned ∨
        manualStop = false ∧ ∃ desired,
          ensureRunning runtime call loadFails query =
            { { runtime with manualStopLoaded := true, manualStop }.setCall call .ensuring with
              ensuring := some ⟨call, desired, .reaping (runtime.processes.map Prod.fst)⟩ }) := by
  obtain ⟨manualStop, loaded, kept⟩ := runtime.ensureManualStopLoadedLocked_eq loadFails
  refine ⟨manualStop, kept, ?_⟩
  unfold ensureRunning
  rw [loaded]
  cases manualStop with
  | true => exact .inl rfl
  | false =>
    cases query with
    | none => exact .inl rfl
    | some query => exact .inr ⟨rfl, query.desired, rfl⟩

theorem accepts_free {call : Nat} (accepted : runtime.accepts call = true) :
    runtime.ensuring = none ∧ runtime.calls call = none := by
  simpa [accepts] using accepted

end ProxyRuntime

section Steps

variable {runtime next : ProxyRuntime} {label : RuntimeLabel}

theorem RuntimeStep.tidy (step : RuntimeStep runtime label next) (tidy : runtime.Tidy)
    (succeeds : StopsSucceed runtime label) : next.Tidy := by
  cases step with
  | @stopAll call persistFails survives accepted =>
    have asked : (runtime.request true persistFails).Tidy := tidy.congr rfl rfl
    exact (asked.stopAllLocked succeeds).congr rfl rfl
  | startAll accepted => exact tidy.congr rfl rfl
  | @restartAll call persistFails survives accepted =>
    have asked : (runtime.request false persistFails).Tidy := tidy.congr rfl rfl
    exact (asked.stopAllLocked succeeds).congr rfl rfl
  | shutdownForRestart accepted => exact (tidy.stopAllLocked succeeds).congr rfl rfl
  | @replaceBinary call loadFails survives accepted =>
    obtain ⟨manualStop, loaded, _⟩ := runtime.ensureManualStopLoadedLocked_eq loadFails
    have stopping : ProxyRuntime.Tidy
        { runtime with manualStopLoaded := true, manualStop := true } := tidy.congr rfl rfl
    unfold Panel.replaceBinary
    rw [loaded]
    exact (stopping.stopAllLocked succeeds).congr rfl rfl
  | replaced _ _ => exact tidy.congr rfl rfl
  | @ensureRunning call loadFails query _ _ =>
    obtain ⟨manualStop, _, returns | ⟨_, desired, begins⟩⟩ :=
      runtime.ensureRunning_eq call loadFails query
    · rw [returns]
      exact tidy.congr rfl rfl
    · rw [begins]
      exact tidy.congr rfl rfl
  | reap isEnsuring _ =>
    exact (tidy.reap fun handle => succeeds _ handle isEnsuring).congr rfl rfl
  | ensureBinary _ _ => exact tidy.congr rfl rfl
  | skips _ _ _ => exact tidy.congr rfl rfl
  | startFails _ _ => exact tidy.congr rfl rfl
  | starts _ _ untracked _ fresh => exact (tidy.launch untracked fresh).congr rfl rfl
  | ensureReturns _ => exact tidy.congr rfl rfl
  | exits => exact tidy.exit

/-! ## Progress of the reconciliation -/

/-- What the loops of `EnsureRunning` have done so far. -/
def ProxyRuntime.Progress (runtime : ProxyRuntime) (ensuring : Ensuring) : Prop :=
  match ensuring.stage with
  | .reaping pending => ∀ entry ∈ runtime.processes,
      entry.1 ∈ pending ∨ runtime.upToDate ensuring.desired entry.1 entry.2 = true
  | .starting pending failed =>
      (∀ entry ∈ runtime.processes,
        runtime.upToDate ensuring.desired entry.1 entry.2 = true) ∧
      (failed = false → ∀ inboundID ∈ ensuring.desired.map Prod.fst,
        inboundID ∈ pending ∨ inboundID ∈ runtime.processes.map Prod.fst)

structure ReconcileInv (runtime : ProxyRuntime) : Prop where
  tidy : runtime.Tidy
  progress : ∀ ensuring, runtime.ensuring = some ensuring → runtime.Progress ensuring

theorem ReconcileInv.reconciled (inv : ReconcileInv runtime) : runtime.Reconciled where
  noOrphan := inv.tidy.noOrphan
  asDesired ensuring isEnsuring succeeds := by
    have progress := inv.progress ensuring isEnsuring
    -- both ways to succeed leave every tracked process up to date
    obtain ⟨current, complete⟩ : (∀ entry ∈ runtime.processes,
        runtime.upToDate ensuring.desired entry.1 entry.2 = true) ∧
        ∀ inboundID ∈ ensuring.desired.map Prod.fst,
          inboundID ∈ runtime.processes.map Prod.fst := by
      unfold Ensuring.succeeds at succeeds
      unfold ProxyRuntime.Progress at progress
      cases stage : ensuring.stage with
      | reaping pending =>
        simp only [stage, Bool.and_eq_true, List.isEmpty_iff] at succeeds progress
        obtain ⟨rfl, nothing⟩ := succeeds
        refine ⟨fun entry isEntry => ?_, by simp [nothing]⟩
        exact (progress entry isEntry).resolve_left (List.not_mem_nil)
      | starting pending failed =>
        simp only [stage, Bool.and_eq_true, List.isEmpty_iff, Bool.not_eq_true'] at succeeds progress
        obtain ⟨rfl, noErrors⟩ := succeeds
        refine ⟨progress.1, fun inboundID isDesired => ?_⟩
        exact (progress.2 noErrors inboundID isDesired).resolve_left (List.not_mem_nil)
    refine ⟨fun inboundID => ⟨fun isTracked => ?_, complete inboundID⟩, inv.tidy.ids, ?_⟩
    · obtain ⟨entry, isEntry, rfl⟩ := List.mem_map.mp isTracked
      obtain ⟨_, _, isDesired, _⟩ := ProxyRuntime.upToDate_iff.mp (current entry isEntry)
      exact mem_keys_of_lookup isDesired
    · exact fun entry isEntry => ProxyRuntime.upToDate_iff.mp (current entry isEntry)

/-- What the loop body leaves is up to date, or an entry of another inbound as it was. -/
theorem ProxyRuntime.Tidy.mem_reap (tidy : runtime.Tidy) {desired : List (Int × Spec)}
    {inboundID : Int} {survives : Bool} {entry : Int × Nat}
    (isEntry : entry ∈ (runtime.reap desired inboundID survives).processes) :
    entry ∈ runtime.processes ∧
      ((runtime.reap desired inboundID survives).upToDate desired entry.1 entry.2 = true ∨
        entry.1 ≠ inboundID ∧
        (runtime.reap desired inboundID survives).upToDate desired entry.1 entry.2 =
          runtime.upToDate desired entry.1 entry.2) := by
  cases isTracked : runtime.processes.lookup inboundID with
  | none =>
    have same : runtime.reap desired inboundID survives = runtime := by
      simp only [ProxyRuntime.reap, isTracked]
    rw [same] at isEntry ⊢
    refine ⟨isEntry, .inr ⟨fun sameID => not_mem_keys_of_lookup isTracked ?_, rfl⟩⟩
    exact sameID ▸ List.mem_map_of_mem (f := Prod.fst) isEntry
  | some handle =>
    cases current : runtime.upToDate desired inboundID handle with
    | true =>
      have same : runtime.reap desired inboundID survives = runtime := by
        simp only [ProxyRuntime.reap, isTracked, current, if_true]
      rw [same] at isEntry ⊢
      refine ⟨isEntry, ?_⟩
      by_cases sameID : entry.1 = inboundID
      · obtain rfl := tidy.sameHandle isEntry (mem_of_lookup isTracked) sameID
        exact .inl current
      · exact .inr ⟨sameID, rfl⟩
    | false =>
      have dropped : runtime.reap desired inboundID survives =
          { runtime.exit fun other => other = handle && !survives with
            processes := runtime.processes.filter fun entry => entry.1 ≠ inboundID } := by
        simp [ProxyRuntime.reap, isTracked, current]
      rw [dropped] at isEntry ⊢
      obtain ⟨wasEntry, isOther⟩ := List.mem_filter.mp isEntry
      have isOther := of_decide_eq_true isOther
      -- its process is not the one that is stopped
      have differs : entry.2 ≠ handle := fun sameHandle =>
        isOther (congrArg Prod.fst
          (tidy.sameEntry wasEntry (mem_of_lookup isTracked) sameHandle))
      have same : (runtime.exit fun other => other = handle && !survives).upToDate desired
          entry.1 entry.2 = runtime.upToDate desired entry.1 entry.2 :=
        ProxyRuntime.upToDate_exit (by simp [differs])
      exact ⟨wasEntry, .inr ⟨isOther, same⟩⟩

theorem ProxyRuntime.Progress.reap {ensuring : Ensuring} {pending : List Int} {inboundID : Int}
    {survives : Bool} (progress : runtime.Progress ensuring) (tidy : runtime.Tidy)
    (stage : ensuring.stage = .reaping pending) :
    ((runtime.reap ensuring.desired inboundID survives).setStage ensuring
      (.reaping (pending.filter (· ≠ inboundID)))).Progress
        { ensuring with stage := .reaping (pending.filter (· ≠ inboundID)) } := by
  simp only [ProxyRuntime.Progress, stage] at progress
  intro entry isEntry
  obtain ⟨wasEntry, current | ⟨isOther, same⟩⟩ := tidy.mem_reap isEntry
  · exact .inr current
  · obtain isPending | current := progress entry wasEntry
    · exact .inl (List.mem_filter.mpr ⟨isPending, decide_eq_true isOther⟩)
    · exact .inr (same.trans current)

/-- The process of a desired inbound that was not tracked. -/
theorem ProxyRuntime.Progress.launch {ensuring : Ensuring} {pending : List Int} {failed : Bool}
    {inboundID : Int} {handle : Nat} {spec : Spec} (progress : runtime.Progress ensuring)
    (stage : ensuring.stage = .starting pending failed)
    (isDesired : ensuring.desired.lookup inboundID = some spec)
    (fresh : runtime.started handle = none) :
    ((runtime.launch inboundID handle spec).setStage ensuring
      (.starting (pending.filter (· ≠ inboundID)) failed)).Progress
        { ensuring with stage := .starting (pending.filter (· ≠ inboundID)) failed } := by
  simp only [ProxyRuntime.Progress, stage] at progress
  obtain ⟨current, complete⟩ := progress
  refine ⟨fun entry isEntry => ?_, fun noErrors other isOther => ?_⟩
  · obtain rfl | wasEntry := List.mem_cons.mp isEntry
    · refine ProxyRuntime.upToDate_iff.mpr ⟨spec, ⟨spec, true⟩, isDesired, ?_, rfl, rfl⟩
      exact Function.update_self ..
    · obtain ⟨wanted, process, lookup, isStarted, rest⟩ :=
        ProxyRuntime.upToDate_iff.mp (current entry wasEntry)
      refine ProxyRuntime.upToDate_iff.mpr ⟨wanted, process, lookup, ?_, rest⟩
      have differs : entry.2 ≠ handle := by
        intro same
        rw [same, fresh] at isStarted
        cases isStarted
      exact (Function.update_of_ne differs ..).trans isStarted
  · by_cases same : other = inboundID
    · exact .inr (same ▸ List.mem_cons_self)
    · obtain isPending | isTracked := complete noErrors other isOther
      · exact .inl (List.mem_filter.mpr ⟨isPending, decide_eq_true same⟩)
      · exact .inr (List.mem_cons_of_mem _ isTracked)

/-- A process that exits was not yet checked. -/
theorem ProxyRuntime.Progress.exit {ensuring : Ensuring} {handle : Nat}
    (progress : runtime.Progress ensuring)
    (unchecked : ∀ entry ∈ runtime.processes, entry.2 = handle →
      ∃ pending, ensuring.stage = .reaping pending ∧ entry.1 ∈ pending) :
    (runtime.exit (· = handle)).Progress ensuring := by
  have kept (entry : Int × Nat) (differs : entry.2 ≠ handle) :
      (runtime.exit (· = handle)).upToDate ensuring.desired entry.1 entry.2 =
        runtime.upToDate ensuring.desired entry.1 entry.2 :=
    ProxyRuntime.upToDate_exit (decide_eq_false differs)
  unfold ProxyRuntime.Progress at progress ⊢
  cases stage : ensuring.stage with
  | reaping pending =>
    simp only [stage] at progress ⊢
    intro entry isEntry
    by_cases same : entry.2 = handle
    · obtain ⟨_, isStage, isPending⟩ := unchecked entry isEntry same
      cases stage.symm.trans isStage
      exact .inl isPending
    · rw [kept entry same]
      exact progress entry isEntry
  | starting pending failed =>
    simp only [stage] at progress ⊢
    refine ⟨fun entry isEntry => ?_, progress.2⟩
    have differs : entry.2 ≠ handle := by
      intro same
      obtain ⟨_, isStage, _⟩ := unchecked entry isEntry same
      cases stage.symm.trans isStage
    rw [kept entry differs]
    exact progress.1 entry isEntry

theorem ReconcileInv.step (inv : ReconcileInv runtime) (undisturbed : Undisturbed runtime label)
    (step : RuntimeStep runtime label next) : ReconcileInv next := by
  have tidy := step.tidy inv.tidy undisturbed.1
  -- the mutex is free, and stays so
  have stays (same : next.ensuring = runtime.ensuring) (free : runtime.ensuring = none) :
      ReconcileInv next :=
    ⟨tidy, fun ensuring isEnsuring => nomatch (isEnsuring.symm.trans same).trans free⟩
  -- the next state of the `EnsureRunning` that holds the mutex
  have moves {ensuring : Ensuring} {stage : EnsureStage}
      (same : next.ensuring = some { ensuring with stage })
      (progress : next.Progress { ensuring with stage }) : ReconcileInv next := by
    refine ⟨tidy, fun other isEnsuring => ?_⟩
    obtain rfl := Option.some.inj (same.symm.trans isEnsuring)
    exact progress
  cases step with
  | stopAll accepted => exact stays rfl (ProxyRuntime.accepts_free accepted).1
  | startAll accepted => exact stays rfl (ProxyRuntime.accepts_free accepted).1
  | restartAll accepted => exact stays rfl (ProxyRuntime.accepts_free accepted).1
  | shutdownForRestart accepted => exact stays rfl (ProxyRuntime.accepts_free accepted).1
  | @replaceBinary call loadFails survives accepted =>
    obtain ⟨manualStop, loaded, _⟩ := runtime.ensureManualStopLoadedLocked_eq loadFails
    refine stays ?_ (ProxyRuntime.accepts_free accepted).1
    unfold replaceBinary
    rw [loaded]
    rfl
  | replaced free _ => exact stays rfl free
  | @ensureRunning call loadFails query free _ =>
    obtain ⟨manualStop, _, returns | ⟨_, desired, begins⟩⟩ :=
      runtime.ensureRunning_eq call loadFails query
    · exact stays (by rw [returns]; rfl) free
    · refine ⟨tidy, fun ensuring isEnsuring => ?_⟩
      rw [begins] at isEnsuring ⊢
      obtain rfl := Option.some.inj isEnsuring
      exact fun entry isEntry => .inl (List.mem_map_of_mem isEntry)
  | reap isEnsuring stage =>
    exact moves rfl ((inv.progress _ isEnsuring).reap inv.tidy stage)
  | @ensureBinary ensuring isEnsuring stage =>
    refine moves rfl ⟨fun entry isEntry => ?_, fun _ inboundID isDesired => .inl isDesired⟩
    have progress := inv.progress _ isEnsuring
    simp only [ProxyRuntime.Progress, stage] at progress
    exact (progress entry isEntry).resolve_left List.not_mem_nil
  | @skips ensuring pending failed fails inboundID handle other isEnsuring stage isTracked =>
    have progress := inv.progress _ isEnsuring
    simp only [ProxyRuntime.Progress, stage] at progress
    refine moves rfl ⟨progress.1, fun noErrors wanted isDesired => ?_⟩
    by_cases same : wanted = inboundID
    · rw [same]
      exact .inr (mem_keys_of_lookup isTracked)
    · refine (progress.2 noErrors wanted isDesired).imp_left fun isPending => ?_
      exact List.mem_filter.mpr ⟨isPending, decide_eq_true same⟩
  | startFails isEnsuring stage =>
    have progress := inv.progress _ isEnsuring
    simp only [ProxyRuntime.Progress, stage] at progress
    exact moves rfl ⟨progress.1, fun noErrors => nomatch noErrors⟩
  | starts isEnsuring stage _ isDesired fresh =>
    exact moves rfl ((inv.progress _ isEnsuring).launch stage isDesired fresh)
  | ensureReturns _ => exact ⟨tidy, fun _ isEnsuring => nomatch isEnsuring⟩
  | exits =>
    refine ⟨tidy, fun ensuring isEnsuring => ?_⟩
    exact (inv.progress _ isEnsuring).exit (undisturbed.2 _ rfl ensuring isEnsuring)

end Steps

/-- As long as stops succeed and no process exits behind the back of `EnsureRunning`, it leaves
    exactly the desired processes running when it returns nil; and every process that runs is
    tracked. -/
theorem processes_reconciled {runtime : ProxyRuntime}
    (reached : proxyRuntime.ReachableWhile Undisturbed ProxyRuntime.Rests runtime) :
    runtime.Reconciled := by
  refine ReconcileInv.reconciled (reached.invariant ?_ ?_)
  · intro runtime rests
    refine ⟨rests.tidy, fun ensuring isEnsuring => ?_⟩
    cases isEnsuring.symm.trans rests.free
  · intro runtime next label inv undisturbed stepped
    exact inv.step undisturbed (step_inv stepped)

/-! ## A process that does not stop -/

def emptyQuery : InboundQuery where
  clock := ⟨0, "client"⟩
  db := noInbounds
  targetFails _ := false
where
  noInbounds : Database :=
    ⟨⟨[], uniqueInbounds_nil⟩, ⟨[], uniqueTraffics_nil⟩, ⟨[], uniqueIps_nil⟩⟩

def servedSpec : Spec :=
  { id := 1, remark := "", listen := "0.0.0.0:56000", connect := "192.0.2.1:51820"
    sessionMode := "auto" }

/-- The server of one inbound runs, as the panel has recorded. -/
def oneServer : ProxyRuntime where
  processes := [(1, 0)]
  started := Function.update (fun _ => none) 0 (some ⟨servedSpec, true⟩)
  manualStopLoaded := true

theorem oneServer_rests : oneServer.Rests where
  free := rfl
  tidy := by
    refine ⟨by decide, by decide, by decide, fun handle isRunning => ?_⟩
    by_cases same : handle = 0
    · subst same
      decide
    · simp [ProxyRuntime.running, oneServer, same] at isRunning

/-- The inbound is deleted, and its server stops when asked to. -/
theorem processes_reconciled_deleted :
    ∃ runtime, proxyRuntime.run oneServer
        [.ensureRunning 0 false (some emptyQuery), .reap 1 false] = some runtime ∧
      runtime.Reconciled := by
  have begins : proxyRuntime.ReachableWhile Undisturbed ProxyRuntime.Rests
      (ensureRunning oneServer 0 false (some emptyQuery)) :=
    .step (.start oneServer_rests)
      (show Undisturbed _ (.ensureRunning 0 false (some emptyQuery)) from
        ⟨trivial, fun _ isExit => nomatch isExit⟩) rfl
  exact ⟨_, rfl, processes_reconciled (.step begins
    (show Undisturbed _ (.reap 1 false) from
      ⟨fun _ _ _ _ _ _ => rfl, fun _ isExit => nomatch isExit⟩) rfl)⟩

/-- The inbound is deleted, and its server survives SIGKILL: it runs on, and is forgotten. -/
theorem stubborn_server_orphaned :
    ∃ runtime, proxyRuntime.Reachable ProxyRuntime.Rests runtime ∧ ¬ runtime.Reconciled := by
  obtain ⟨runtime, ran, runs, forgotten⟩ : ∃ runtime, proxyRuntime.run oneServer
      [.ensureRunning 0 false (some emptyQuery), .reap 1 true] = some runtime ∧
        runtime.running 0 = true ∧ runtime.tracks 0 = false := ⟨_, rfl, rfl, rfl⟩
  refine ⟨runtime, Machine.Reachable.run (.start oneServer_rests) ran, fun reconciled => ?_⟩
  cases forgotten.symm.trans (reconciled.noOrphan 0 runs)

end VkTurn.Panel
