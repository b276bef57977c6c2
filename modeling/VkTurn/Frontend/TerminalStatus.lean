import Mathlib.Tactic.Common
import VkTurn.Frontend.RouteContract

/-! # The last status of a route

`unregister` disposes the runner that has just reached a terminal status, and `dispose` calls
`stop`, which sets STOPPING; the collectors are then cancelled, so that nothing sets a terminal
status again and the watch publishes STOPPING.  The published status settles when the exit is
handled between the two, or when the runner never had a process host.
-/

namespace VkTurn.Frontend

open VkTurn.Transition

/-! ## What a runner still has to report -/

def ProcessHost.Reports (host : ProcessHost) : Prop :=
  host.awaited = true ∨ 0 < host.forcing ∨ host.exits ≠ []

namespace VkTurnRunner

/-- An exit of the process is to come, or has not been handled yet. -/
def Reports (runner : VkTurnRunner) : Prop :=
  (∃ host, runner.host = some host ∧ host.Reports) ∨ runner.handlingExit ≠ none

/-- Unless an exit is still to be handled, the status is terminal. -/
def Honest (runner : VkTurnRunner) : Prop :=
  runner.Reports ∨ runner.status.isRunning = false

def ProcessEnded (runner : VkTurnRunner) : Prop :=
  ∀ host, runner.host = some host → host.process ≠ .running

/-- Nothing changes the status any more. -/
structure Retired (runner : VkTurnRunner) : Prop where
  terminal : runner.status.isRunning = false
  cancelled : runner.cancelled = true
  lines : ∀ isStderr, runner.handlingLine isStderr = none
  exit : runner.handlingExit = none

end VkTurnRunner

/-- The process has ended, its collectors have handled everything, and the watch has collected
    the last status. -/
structure Entry.Quiet (entry : Entry VkTurnRunner) : Prop where
  ended : entry.runner.ProcessEnded
  handled : entry.runner.cancelled = true ∨ ¬ entry.runner.Reports
  collected : entry.seen = some entry.runner.status
  returned : entry.unregistering = false

structure TerminalSettles (state : RouteSupervisor VkTurnRunner) : Prop where
  /-- Without a start, a route with no entry whose processes have ended stays such a route. -/
  unregistered : ∀ routeId status, state.entries routeId = none →
    (∀ position entry, state.started position = some entry → entry.routeId = routeId →
      entry.runner.ProcessEnded) →
    state.statuses routeId = some status → status.isRunning = false
  stoppedAll : (∀ position entry, state.started position = some entry → entry.Quiet) →
    ∀ routeId status, state.statuses routeId = some status → status.isRunning = false

/-- The condition on a step, besides the one of the contract. -/
def StatusInTime (state : RouteSupervisor VkTurnRunner) :
    SupervisorLabel VkTurnStart RunnerEvent → Prop
  | .start _ how => ∀ early, how.outcome = .spawned early → .handleExit ∉ early
  | .stop routeId => ∀ position entry, state.entries routeId = some position →
    state.started position = some entry → entry.runner.host = none ∨ entry.runner.Reports
  | .stopAll => ∀ routeId position entry, state.entries routeId = some position →
    state.started position = some entry → entry.runner.host = none ∨ entry.runner.Reports
  | .react position (.handleLine isStderr) => ∀ entry event,
    state.started position = some entry → state.entries entry.routeId = some position →
    entry.runner.handlingLine isStderr = some event → entry.runner.Reports ∨
      (entry.runner.status.consume entry.runner.effectiveStreams event).isRunning = false
  | .disposed => ∀ removal entry, state.disposing = some removal →
    state.started removal.removed = some entry → entry.runner.status.isRunning = false ∧
      (∀ isStderr, entry.runner.handlingLine isStderr = none) ∧ entry.runner.handlingExit = none
  | _ => True

def SettlesInTime (state : RouteSupervisor VkTurnRunner)
    (label : SupervisorLabel VkTurnStart RunnerEvent) : Prop :=
  CallbacksInTime vkTurnRunner state label ∧ StatusInTime state label

/-! ## Steps of a runner -/

section Runner

variable {runner next : VkTurnRunner} {event : RunnerEvent}

theorem RouteStatus.exited_terminal (current : RouteStatus) (exit : Exit) :
    (current.exited exit).isRunning = false := by
  simp only [RouteStatus.exited, RouteStatus.isRunning]
  split <;> simp

/-- The events of the host leave the rest of the runner alone, and what the host reports is
    still reported. -/
theorem withHost_eq_some {change : ProcessHost → Option ProcessHost}
    (changed : runner.withHost change = some next) :
    ∃ host changedHost, runner.host = some host ∧ change host = some changedHost ∧
      next = { runner with host := some changedHost } := by
  obtain ⟨host, isHost, changed⟩ := Option.bind_eq_some_iff.mp changed
  obtain ⟨changedHost, isChange, rfl⟩ := Option.map_eq_some_iff.mp changed
  exact ⟨host, changedHost, isHost, isChange, rfl⟩

/-- What an event other than the handling of a line or an exit does. -/
theorem react_host (reacted : runner.react event = some next)
    (notLine : ∀ isStderr, event ≠ .handleLine isStderr) (notExit : event ≠ .handleExit) :
    next.status = runner.status ∧ next.cancelled = runner.cancelled ∧
      (runner.Reports → next.Reports) ∧
      (runner.cancelled = true → next.handlingLine = runner.handlingLine ∧
        next.handlingExit = runner.handlingExit) := by
  cases event with
  | takeLine isStderr event =>
    simp only [VkTurnRunner.react, VkTurnRunner.takeLine] at reacted
    split at reacted
    · cases reacted
    · split at reacted
      · cases reacted
      · rename_i free
        cases reacted
        exact ⟨rfl, rfl, id, fun cancelled => absurd (.inr (.inl cancelled)) free⟩
  | handleLine isStderr => exact absurd rfl (notLine isStderr)
  | takeExit =>
    simp only [VkTurnRunner.react, VkTurnRunner.takeExit] at reacted
    split at reacted
    · cases reacted
    · split at reacted
      · cases reacted
      · split at reacted
        · cases reacted
        · rename_i free
          cases reacted
          exact ⟨rfl, rfl, fun _ => .inr nofun, fun cancelled => absurd (.inl cancelled) free⟩
  | handleExit => exact absurd rfl notExit
  | exit code =>
    obtain ⟨host, changed, isHost, isChange, rfl⟩ := withHost_eq_some reacted
    refine ⟨rfl, rfl, ?_, fun _ => ⟨rfl, rfl⟩⟩
    rintro (⟨_, present, reports⟩ | handling)
    · cases isHost.symm.trans present
      split at isChange
      · cases isChange
        exact .inl ⟨_, rfl, reports⟩
      · cases isChange
    · exact .inr handling
  | emitExit =>
    obtain ⟨host, changed, isHost, isChange, rfl⟩ := withHost_eq_some reacted
    refine ⟨rfl, rfl, fun _ => .inl ⟨changed, rfl, ?_⟩, fun _ => ⟨rfl, rfl⟩⟩
    split at isChange
    · split at isChange
      · cases isChange
        exact .inr (.inr (by simp))
      · cases isChange
    · cases isChange
  | graceOver =>
    obtain ⟨host, changed, isHost, isChange, rfl⟩ := withHost_eq_some reacted
    refine ⟨rfl, rfl, fun _ => .inl ⟨changed, rfl, ?_⟩, fun _ => ⟨rfl, rfl⟩⟩
    split at isChange
    · cases isChange
      exact .inr (.inl (by simp))
    · cases isChange
  | emitForcedExit =>
    obtain ⟨host, changed, isHost, isChange, rfl⟩ := withHost_eq_some reacted
    refine ⟨rfl, rfl, fun _ => .inl ⟨changed, rfl, ?_⟩, fun _ => ⟨rfl, rfl⟩⟩
    split at isChange
    · split at isChange
      · cases isChange
        exact .inr (.inr (by simp))
      · cases isChange
    · cases isChange

/-- A runner stays honest, unless a line sets a running status after the last exit. -/
theorem VkTurnRunner.Honest.react (honest : runner.Honest) (reacted : runner.react event = some next)
    (inTime : ∀ isStderr line, event = .handleLine isStderr →
      runner.handlingLine isStderr = some line → runner.Reports ∨
        (runner.status.consume runner.effectiveStreams line).isRunning = false) :
    next.Honest ∧ next.cancelled = runner.cancelled := by
  cases event with
  | handleLine isStderr =>
    obtain ⟨line, isLine, rfl⟩ := Option.map_eq_some_iff.mp reacted
    exact ⟨inTime isStderr line rfl isLine, rfl⟩
  | handleExit =>
    obtain ⟨exit, _, rfl⟩ := Option.map_eq_some_iff.mp reacted
    exact ⟨.inr (RouteStatus.exited_terminal _ exit), rfl⟩
  | _ =>
    obtain ⟨status, cancelled, reports, _⟩ := react_host reacted nofun nofun
    exact ⟨honest.imp reports (status ▸ ·), cancelled⟩

theorem VkTurnRunner.Retired.react (retired : runner.Retired)
    (reacted : runner.react event = some next) : next.Retired := by
  cases event with
  | handleLine isStderr =>
    obtain ⟨line, isLine, _⟩ := Option.map_eq_some_iff.mp reacted
    cases (retired.lines isStderr).symm.trans isLine
  | handleExit =>
    obtain ⟨exit, isExit, _⟩ := Option.map_eq_some_iff.mp reacted
    cases retired.exit.symm.trans isExit
  | _ =>
    obtain ⟨status, cancelled, _, handling⟩ := react_host reacted nofun nofun
    obtain ⟨lines, exit⟩ := handling retired.cancelled
    exact ⟨status ▸ retired.terminal, cancelled.trans retired.cancelled, lines ▸ retired.lines,
      exit.trans retired.exit⟩

theorem VkTurnRunner.Honest.stop (honest : runner.Honest)
    (inTime : runner.host = none ∨ runner.Reports) :
    runner.stop.Honest ∧ runner.stop.cancelled = runner.cancelled := by
  simp only [VkTurnRunner.stop]
  split
  · exact ⟨honest, rfl⟩
  · rename_i host isHost
    refine ⟨.inl ?_, rfl⟩
    rcases inTime with noHost | ⟨_, present, reports⟩ | handling
    · cases isHost.symm.trans noHost
    · cases isHost.symm.trans present
      refine .inl ⟨_, rfl, ?_⟩
      split
      · exact reports
      · exact reports
    · exact .inr handling

theorem reports_foldlM {early : List RunnerEvent} (unhandled : .handleExit ∉ early)
    (reports : runner.Reports) (fresh : runner.cancelled = false)
    (ran : early.foldlM VkTurnRunner.react runner = some next) :
    next.Reports ∧ next.cancelled = false := by
  induction early generalizing runner with
  | nil =>
    cases ran
    exact ⟨reports, fresh⟩
  | cons event rest inductionHypothesis =>
    obtain ⟨middle, reacted, ranRest⟩ := Option.bind_eq_some_iff.mp ran
    obtain ⟨notHere, notLater⟩ := not_or.mp (List.mem_cons.not.mp unhandled)
    by_cases isLine : ∃ isStderr, event = .handleLine isStderr
    · obtain ⟨isStderr, rfl⟩ := isLine
      have kept : middle.Reports ∧ middle.cancelled = false := by
        obtain ⟨line, _, rfl⟩ := Option.map_eq_some_iff.mp reacted
        exact ⟨reports, fresh⟩
      exact inductionHypothesis notLater kept.1 kept.2 ranRest
    · obtain ⟨_, cancelled, keeps, _⟩ := react_host reacted
        (fun isStderr same => isLine ⟨isStderr, same⟩) (Ne.symm notHere)
      exact inductionHypothesis notLater (keeps reports) (cancelled.trans fresh) ranRest

theorem start_honest {routeId : String} {how : VkTurnStart}
    (started : VkTurnRunner.start routeId how = some next)
    (inTime : ∀ early, how.outcome = .spawned early → .handleExit ∉ early) :
    next.Honest ∧ next.cancelled = false := by
  simp only [VkTurnRunner.start] at started
  split at started
  · cases started
    exact ⟨.inr rfl, rfl⟩
  · cases started
    exact ⟨.inr rfl, rfl⟩
  · rename_i early isSpawned
    obtain ⟨runner, ran, rfl⟩ := Option.map_eq_some_iff.mp started
    obtain ⟨reports, fresh⟩ := reports_foldlM (inTime early isSpawned)
      (.inl ⟨_, rfl, .inl rfl⟩) rfl ran
    exact ⟨.inl reports, fresh⟩

end Runner

/-! ## The invariant -/

/-- What is known of one entry, given the map of the entries, the removal under way and the
    published statuses. -/
structure EntrySettles (state : RouteSupervisor VkTurnRunner) (position : Nat)
    (entry : Entry VkTurnRunner) : Prop where
  /-- An entry that was removed and disposed. -/
  retired : state.entries entry.routeId ≠ some position →
    state.disposing.map Removal.removed ≠ some position → entry.runner.Retired
  honest : state.entries entry.routeId = some position →
    entry.runner.Honest ∧ entry.runner.cancelled = false
  /-- Its watch is about to remove it. -/
  collected : state.entries entry.routeId = some position → entry.unregistering = true →
    ∀ status, state.statuses entry.routeId = some status → status.isRunning = false
  seen : state.entries entry.routeId = some position → ∀ status, entry.seen = some status →
    status.isRunning = false → entry.unregistering = true

structure TerminalInv (state : RouteSupervisor VkTurnRunner) : Prop where
  contract : ContractInv vkTurnRunner state
  each : ∀ position entry, state.started position = some entry → EntrySettles state position entry
  /-- The entry that is being disposed waits for it in its own `unregister`. -/
  disposing : ∀ removal, state.disposing = some removal → removal.caller = removal.removed ∧
    ∃ entry, state.started removal.removed = some entry ∧ state.entries entry.routeId = none ∧
      entry.unregistering = true
  published : ∀ routeId status, state.entries routeId = none →
    state.statuses routeId = some status → status.isRunning = false

section Steps

variable {state next : RouteSupervisor VkTurnRunner} {position : Nat}
  {entry changed : Entry VkTurnRunner} {routeId : String}

theorem TerminalInv.settles (inv : TerminalInv state) : TerminalSettles state where
  unregistered routeId status absent _ published := inv.published routeId status absent published
  stoppedAll quiet := by
    intro routeId status published
    cases registered : state.entries routeId with
    | none => exact inv.published routeId status registered published
    | some position =>
      obtain ⟨entry, present, rfl⟩ := inv.contract.entries routeId position registered
      obtain ⟨_, honest, _, seen⟩ := inv.each position entry present
      obtain ⟨_, handled, isSeen, returned⟩ := quiet position entry present
      obtain ⟨reports | terminal, fresh⟩ := honest registered
      · rcases handled with cancelled | silent
        · cases fresh.symm.trans cancelled
        · exact absurd reports silent
      · cases returned.symm.trans (seen registered _ isSeen terminal)

theorem empty_terminalInv : TerminalInv (RouteSupervisor.empty VkTurnRunner) where
  contract := empty_contractInv
  each := by simp [RouteSupervisor.empty]
  disposing := by simp [RouteSupervisor.empty]
  published := by simp [RouteSupervisor.empty]

/-- An entry whose watch is free has a terminal status, unless it is registered. -/
theorem TerminalInv.terminal (inv : TerminalInv state) (present : state.started position = some entry)
    (unregistered : state.entries entry.routeId ≠ some position)
    (returned : entry.unregistering = false) : entry.runner.status.isRunning = false := by
  apply ((inv.each position entry present).retired unregistered _).terminal
  intro isDisposed
  obtain ⟨removal, isRemoval, same⟩ := Option.map_eq_some_iff.mp isDisposed
  obtain ⟨_, other, isOther, _, unregistering⟩ := inv.disposing removal isRemoval
  rw [same, present] at isOther
  cases isOther
  cases returned.symm.trans unregistering

/-- A step that changes one entry and nothing else. -/
theorem TerminalInv.setEntry (inv : TerminalInv state)
    (contract : ContractInv vkTurnRunner (state.setEntry position changed))
    (present : state.started position = some entry)
    (settles : EntrySettles state position changed) (sameRoute : changed.routeId = entry.routeId)
    (sameWatch : state.disposing = none ∨ changed.unregistering = entry.unregistering) :
    TerminalInv (state.setEntry position changed) where
  contract := contract
  each := by
    intro other stored isStored
    simp only [RouteSupervisor.setEntry, Function.update_apply] at isStored
    split at isStored
    · rename_i same
      cases isStored
      obtain ⟨retired, honest, collected, seen⟩ := same ▸ settles
      exact ⟨retired, honest, collected, seen⟩
    · obtain ⟨retired, honest, collected, seen⟩ := inv.each other stored isStored
      exact ⟨retired, honest, collected, seen⟩
  disposing := by
    intro removal isRemoval
    obtain ⟨isOwn, old, isOld, absent, unregistering⟩ := inv.disposing removal isRemoval
    refine ⟨isOwn, ?_⟩
    by_cases same : removal.removed = position
    · rw [same, present] at isOld
      cases isOld
      refine ⟨changed, by simp [RouteSupervisor.setEntry, same],
        by simp [RouteSupervisor.setEntry, sameRoute, absent], ?_⟩
      rcases sameWatch with unlocked | sameWatch
      · cases unlocked.symm.trans isRemoval
      · exact sameWatch.trans unregistering
    · exact ⟨old, by simp [RouteSupervisor.setEntry, same, isOld], absent, unregistering⟩
  published := inv.published

/-- A registered entry whose runner changes. -/
theorem EntrySettles.setRunner (settles : EntrySettles state position entry)
    (registered : state.entries entry.routeId = some position) {runner : VkTurnRunner}
    (honest : runner.Honest ∧ runner.cancelled = entry.runner.cancelled) :
    EntrySettles state position (entry.setRunner vkTurnRunner runner) where
  retired unregistered := absurd registered unregistered
  honest _ := ⟨honest.1, honest.2.trans (settles.honest registered).2⟩
  collected := settles.collected
  seen := settles.seen

theorem EntrySettles.stop (settles : EntrySettles state position entry)
    (registered : state.entries entry.routeId = some position)
    (inTime : entry.runner.host = none ∨ entry.runner.Reports) :
    EntrySettles state position (entry.stop vkTurnRunner) := by
  have changed := settles.setRunner registered ((settles.honest registered).1.stop inTime)
  exact ⟨changed.retired, changed.honest, changed.collected, changed.seen⟩

theorem start_terminal (inv : TerminalInv state) (unlocked : state.disposing = none)
    {how : VkTurnStart} (inTime : SettlesInTime state (.start routeId how))
    (started : state.start vkTurnRunner routeId how = some next) : TerminalInv next := by
  have contract := start_inv inv.contract inTime.1 started
  simp only [RouteSupervisor.start] at started
  split at started
  · cases started
    exact inv
  · rename_i absent
    obtain ⟨new, isNew, rfl⟩ := Option.map_eq_some_iff.mp started
    refine ⟨contract, ?_, ?_, ?_⟩
    · intro position entry present
      simp only [RouteSupervisor.setEntry, Function.update_apply] at present
      split at present
      · rename_i isLast
        cases present
        refine ⟨fun unregistered => ?_, fun _ => start_honest isNew inTime.2,
          fun _ unregistering => ?_, fun _ _ isSeen => ?_⟩
        · simp [isLast] at unregistered
        · cases unregistering
        · cases isSeen
      · rename_i notLast
        obtain ⟨retired, honest, collected, seen⟩ := inv.each position entry present
        by_cases sameRoute : entry.routeId = routeId
        · -- the earlier entries of the route were removed before
          subst sameRoute
          have unregistered : Function.update state.entries entry.routeId (some state.next)
              entry.routeId ≠ some position := by
            simp [Ne.symm notLast]
          exact ⟨fun _ => retired (by simp [absent]),
            fun registered => absurd registered unregistered,
            fun registered => absurd registered unregistered,
            fun registered => absurd registered unregistered⟩
        · have kept : Function.update state.entries routeId (some state.next) entry.routeId =
              state.entries entry.routeId := Function.update_of_ne sameRoute _ _
          exact ⟨fun unregistered => retired fun same => unregistered (kept.trans same),
            fun registered => honest (kept.symm.trans registered),
            fun registered => collected (kept.symm.trans registered),
            fun registered => seen (kept.symm.trans registered)⟩
    · intro removal isRemoval
      cases unlocked.symm.trans isRemoval
    · intro other status unregistered published
      simp only [Function.update_apply] at unregistered
      split at unregistered
      · cases unregistered
      · exact inv.published other status unregistered published

theorem stop_terminal (inv : TerminalInv state)
    (inTime : StatusInTime state (.stop routeId)) :
    TerminalInv (state.stop vkTurnRunner routeId) := by
  simp only [RouteSupervisor.stop]
  split
  · exact inv
  · rename_i position registered
    split
    · exact inv
    · rename_i entry present
      obtain ⟨_, isSame, isRoute⟩ := inv.contract.entries routeId position registered
      cases present.symm.trans isSame
      exact inv.setEntry (inv.contract.stopEntry present) present
        ((inv.each position entry present).stop (isRoute ▸ registered)
          (inTime position entry registered present)) rfl (.inr rfl)

theorem stopAll_terminal (inv : TerminalInv state) (unlocked : state.disposing = none)
    (inTime : StatusInTime state .stopAll) : TerminalInv (state.stopAll vkTurnRunner) where
  contract := stopAll_inv inv.contract
  each := by
    intro position stored isStored
    obtain ⟨entry, present, rfl⟩ := Option.map_eq_some_iff.mp isStored
    have settles := inv.each position entry present
    split
    · rename_i registered
      have stopped := settles.stop registered (inTime _ position entry registered present)
      exact ⟨stopped.retired, stopped.honest, stopped.collected, stopped.seen⟩
    · exact ⟨settles.retired, settles.honest, settles.collected, settles.seen⟩
  disposing removal isRemoval := nomatch unlocked.symm.trans isRemoval
  published := inv.published

theorem react_terminal (inv : TerminalInv state) {event : RunnerEvent}
    (inTime : StatusInTime state (.react position event))
    (reacted : state.react vkTurnRunner position event = some next) : TerminalInv next := by
  have contract := react_inv inv.contract reacted
  obtain ⟨entry, present, reacted⟩ := Option.bind_eq_some_iff.mp reacted
  obtain ⟨runner, isReaction, rfl⟩ := Option.map_eq_some_iff.mp reacted
  have settles := inv.each position entry present
  refine inv.setEntry contract present ?_ rfl (.inr rfl)
  by_cases registered : state.entries entry.routeId = some position
  · apply settles.setRunner registered
    apply (settles.honest registered).1.react isReaction
    rintro isStderr line rfl isLine
    exact inTime entry line present registered isLine
  · exact ⟨fun unregistered elsewhere => (settles.retired unregistered elsewhere).react isReaction,
      fun isRegistered => absurd isRegistered registered,
      fun isRegistered => absurd isRegistered registered,
      fun isRegistered => absurd isRegistered registered⟩

theorem collect_terminal (inv : TerminalInv state)
    (inTime : SettlesInTime state (.collect position))
    (collected : state.collect vkTurnRunner position = some next) : TerminalInv next := by
  have contract := collect_inv inv.contract inTime.1 collected
  simp only [RouteSupervisor.collect] at collected
  split at collected
  · cases collected
  · rename_i entry present
    split at collected
    · cases collected
    · rename_i free
      cases collected
      have returned : entry.unregistering = false := by simpa using (not_or.mp free).1
      -- an entry that is not registered publishes a terminal status
      have terminal : state.entries entry.routeId ≠ some position →
          entry.runner.status.isRunning = false :=
        fun unregistered => inv.terminal present unregistered returned
      refine ⟨contract, ?_, ?_, ?_⟩
      · intro other stored isStored
        simp only [RouteSupervisor.setEntry, Function.update_apply] at isStored
        split at isStored
        · rename_i same
          subst same
          cases isStored
          obtain ⟨retired, honest, _, _⟩ := inv.each other entry present
          refine ⟨retired, honest, ?_, ?_⟩
          · intro _ unregistering status published
            simp only [Function.update_self] at published
            cases published
            simpa using unregistering
          · intro _ status isSeen isTerminal
            cases isSeen
            simpa using isTerminal
        · rename_i isOther
          obtain ⟨retired, honest, collected, seen⟩ := inv.each other stored isStored
          refine ⟨retired, honest, ?_, seen⟩
          intro registered unregistering status published
          by_cases sameRoute : stored.routeId = entry.routeId
          · simp only [sameRoute, Function.update_self] at published
            cases published
            apply terminal
            intro isRegistered
            have same := Option.some.inj (isRegistered.symm.trans (sameRoute ▸ registered))
            exact isOther same.symm
          · simp only [Function.update_of_ne sameRoute] at published
            exact collected registered unregistering status published
      · intro removal isRemoval
        obtain ⟨isOwn, old, isOld, absent, unregistering⟩ := inv.disposing removal isRemoval
        have isOther : removal.removed ≠ position := by
          rintro same
          rw [same, present] at isOld
          cases isOld
          cases returned.symm.trans unregistering
        exact ⟨isOwn, old, by simp [RouteSupervisor.setEntry, isOther, isOld], absent,
          unregistering⟩
      · intro routeId status absent published
        by_cases sameRoute : routeId = entry.routeId
        · subst sameRoute
          simp only [Function.update_self] at published
          cases published
          apply terminal
          intro isRegistered
          cases absent.symm.trans isRegistered
        · simp only [Function.update_of_ne sameRoute] at published
          exact inv.published routeId status absent published

theorem unregister_terminal (inv : TerminalInv state) (unlocked : state.disposing = none)
    (unregistered : state.unregister vkTurnRunner position = some next) : TerminalInv next := by
  have contract := unregister_inv inv.contract unregistered
  simp only [RouteSupervisor.unregister] at unregistered
  split at unregistered
  · cases unregistered
  · rename_i entry present
    split at unregistered
    · rename_i unregistering
      split at unregistered
      · rename_i absent
        cases unregistered
        have settles := inv.each position entry present
        have notRegistered : state.entries entry.routeId ≠ some position :=
          fun isRegistered => Option.some_ne_none _ (isRegistered.symm.trans absent)
        have unregisteredOk : EntrySettles state position { entry with unregistering := false } :=
          ⟨settles.retired, settles.honest, fun isRegistered => absurd isRegistered notRegistered,
            fun isRegistered => absurd isRegistered notRegistered⟩
        exact inv.setEntry contract present unregisteredOk rfl (.inl unlocked)
      · rename_i registered isRegistered
        obtain ⟨removed, isRemoved, rfl⟩ := Option.map_eq_some_iff.mp unregistered
        obtain ⟨_, own | gone⟩ := (inv.contract.each position entry present).caller unregistering
        · cases isRegistered.symm.trans own
          cases present.symm.trans isRemoved
          refine ⟨contract, ?_, ?_, ?_⟩
          · intro other stored isStored
            simp only [RouteSupervisor.setEntry, Function.update_apply] at isStored
            split at isStored
            · rename_i same
              cases isStored
              have removed : Function.update state.entries entry.routeId none entry.routeId ≠
                  some other := by
                simp
              exact ⟨fun _ elsewhere => absurd (congrArg some same.symm) elsewhere,
                fun isRegistered => absurd isRegistered removed,
                fun isRegistered => absurd isRegistered removed,
                fun isRegistered => absurd isRegistered removed⟩
            · rename_i isOther
              obtain ⟨retired, honest, collected, seen⟩ := inv.each other stored isStored
              by_cases sameRoute : stored.routeId = entry.routeId
              · have removed : Function.update state.entries entry.routeId none stored.routeId ≠
                    some other := by
                  simp [sameRoute]
                refine ⟨fun _ _ => retired ?_ (by simp [unlocked]),
                  fun isRegistered => absurd isRegistered removed,
                  fun isRegistered => absurd isRegistered removed,
                  fun isRegistered => absurd isRegistered removed⟩
                rw [sameRoute, isRegistered]
                exact fun same => isOther (Option.some.inj same).symm
              · have kept : Function.update state.entries entry.routeId none stored.routeId =
                    state.entries stored.routeId := Function.update_of_ne sameRoute _ _
                exact ⟨fun unregistered _ =>
                    retired (fun same => unregistered (kept.trans same)) (by simp [unlocked]),
                  fun registered => honest (kept.symm.trans registered),
                  fun registered => collected (kept.symm.trans registered),
                  fun registered => seen (kept.symm.trans registered)⟩
          · intro removal isRemoval
            cases isRemoval
            exact ⟨rfl, entry.stop vkTurnRunner, by simp [RouteSupervisor.setEntry],
              by simp [Entry.stop, Entry.setRunner], unregistering⟩
          · intro routeId status absent published
            by_cases sameRoute : routeId = entry.routeId
            · subst sameRoute
              exact (inv.each position entry present).collected isRegistered unregistering status
                published
            · simp only [Function.update_of_ne sameRoute] at absent
              exact inv.published routeId status absent published
        · cases isRegistered.symm.trans gone
    · cases unregistered

theorem disposed_terminal (inv : TerminalInv state) {removal : Removal}
    (isRemoval : state.disposing = some removal) (inTime : StatusInTime state .disposed) :
    TerminalInv { (state.cancelRunner vkTurnRunner removal.removed).returnTo removal.caller with
      disposing := none } := by
  have contract := disposed_inv inv.contract removal
  obtain ⟨isOwn, entry, present, absent, _⟩ := inv.disposing removal isRemoval
  obtain ⟨terminal, lines, exit⟩ := inTime removal entry isRemoval present
  have started : ((state.cancelRunner vkTurnRunner removal.removed).returnTo removal.caller).started =
      Function.update state.started removal.removed (some
        { entry.setRunner vkTurnRunner entry.runner.cancel with unregistering := false }) := by
    simp [RouteSupervisor.cancelRunner, present, RouteSupervisor.returnTo, isOwn,
      RouteSupervisor.setEntry, vkTurnRunner]
  have frame : ((state.cancelRunner vkTurnRunner removal.removed).returnTo removal.caller).entries =
        state.entries ∧
      ((state.cancelRunner vkTurnRunner removal.removed).returnTo removal.caller).statuses =
        state.statuses := by
    simp [RouteSupervisor.cancelRunner, present, RouteSupervisor.returnTo, isOwn,
      RouteSupervisor.setEntry]
  have notRegistered (position : Nat) : state.entries entry.routeId ≠ some position :=
    fun isRegistered => Option.some_ne_none _ (isRegistered.symm.trans absent)
  refine ⟨⟨contract.fresh, contract.entries, contract.each, contract.removals⟩, ?_,
    fun _ isNone => absurd isNone.symm (Option.some_ne_none _), ?_⟩
  · intro other stored isStored
    simp only [started, Function.update_apply] at isStored
    split at isStored
    · cases isStored
      refine ⟨fun _ _ => ⟨terminal, rfl, lines, exit⟩, ?_,
        fun _ unregistering => absurd unregistering Bool.false_ne_true, ?_⟩
      · simp only [frame.1]
        exact fun isRegistered => absurd isRegistered (notRegistered _)
      · simp only [frame.1]
        exact fun isRegistered => absurd isRegistered (notRegistered _)
    · rename_i isOther
      obtain ⟨retired, honest, collected, seen⟩ := inv.each other stored isStored
      have elsewhere : state.disposing.map Removal.removed ≠ some other := by
        simp [isRemoval, Ne.symm isOther]
      refine ⟨?_, ?_, ?_, ?_⟩ <;> simp only [frame.1, frame.2]
      · exact fun unregistered _ => retired unregistered elsewhere
      · exact honest
      · exact collected
      · exact seen
  · simp only [frame.1, frame.2]
    exact inv.published

theorem supervisorStep_terminal (inv : TerminalInv state)
    {label : SupervisorLabel VkTurnStart RunnerEvent} (inTime : SettlesInTime state label)
    (stepped : supervisorStep vkTurnRunner state label = some next) : TerminalInv next := by
  have unlockedOf : ∀ {result : Option (RouteSupervisor VkTurnRunner)},
      (if state.disposing.isSome then none else result) = some next →
        state.disposing = none ∧ result = some next := by
    intro result isNext
    split at isNext
    · cases isNext
    · rename_i unlocked
      exact ⟨by simpa using unlocked, isNext⟩
  cases label with
  | start routeId how =>
    obtain ⟨unlocked, started⟩ := unlockedOf stepped
    exact start_terminal inv unlocked inTime started
  | stop routeId =>
    obtain ⟨_, isNext⟩ := unlockedOf stepped
    cases isNext
    exact stop_terminal inv inTime.2
  | stopAll =>
    obtain ⟨unlocked, isNext⟩ := unlockedOf stepped
    cases isNext
    exact stopAll_terminal inv unlocked inTime.2
  | react position event => exact react_terminal inv inTime.2 stepped
  | collect position => exact collect_terminal inv inTime stepped
  | unregister caller =>
    obtain ⟨unlocked, unregistered⟩ := unlockedOf stepped
    exact unregister_terminal inv unlocked unregistered
  | disposed =>
    obtain ⟨removal, isRemoval, rfl⟩ := Option.map_eq_some_iff.mp stepped
    exact disposed_terminal inv isRemoval inTime.2

end Steps

def exitsByItself : List (SupervisorLabel VkTurnStart RunnerEvent) :=
  [.start "r" spawn, .react 0 (.exit 0), .react 0 .emitExit, .react 0 .takeExit,
    .react 0 .handleExit, .collect 0, .unregister 0, .disposed, .collect 0]

end VkTurn.Frontend
