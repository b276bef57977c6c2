import Mathlib.Tactic.Common
import VkTurn.Frontend.VkTurnRunner

/-! # What the supervisor keeps of its routes

At most one runner of a route is live, and it is the registered one.  `unregister` removes the
entry under a route id, not the entry whose watch called it; the two are the same as long as no
watch collects a terminal status while a later entry of its route is registered, and no route is
started while an `unregister` of an earlier entry of it is under way.
-/

namespace VkTurn.Frontend

open VkTurn.Transition

section Contract

variable {State Start Event : Type} (runner : Runner State Start Event)

/-- Neither stopped, nor has it had a terminal status. -/
def Entry.Live (entry : Entry State) : Prop := entry.stopped = false ∧ entry.ended = false

structure KeepsContract (state : RouteSupervisor State) : Prop where
  atMostOne : ∀ first second entry other, state.started first = some entry →
    state.started second = some other → entry.routeId = other.routeId → entry.Live → other.Live →
    first = second
  registered : ∀ position entry, state.started position = some entry → entry.Live →
    state.entries entry.routeId = some position
  /-- An entry is removed by its own watch, after a terminal status of its own runner. -/
  removals : ∀ removal ∈ state.removals, removal.caller = removal.removed ∧
    ∃ entry, state.started removal.removed = some entry ∧ entry.ended = true

/-- The condition on a step. -/
def CallbacksInTime (state : RouteSupervisor State) :
    SupervisorLabel Start Event → Prop
  | .collect position => ∀ entry, state.started position = some entry →
    (entry.status runner).isRunning = false →
      state.entries entry.routeId = some position ∨ state.entries entry.routeId = none
  | .start routeId _ => state.entries routeId = none →
    ∀ position entry, state.started position = some entry → entry.routeId = routeId →
      entry.unregistering = false
  | _ => True

/-! ## The invariant -/

/-- What is known of one entry, given whether it is registered. -/
structure EntryOk (entries : String → Option Nat) (position : Nat) (entry : Entry State) :
    Prop where
  ended : (entry.status runner).isRunning = false → entry.ended = true
  live : entry.Live → entries entry.routeId = some position
  /-- The `unregister` it may be in is about itself. -/
  caller : entry.unregistering = true → entry.ended = true ∧
    (entries entry.routeId = some position ∨ entries entry.routeId = none)

structure ContractInv (state : RouteSupervisor State) : Prop where
  fresh : ∀ position, state.next ≤ position → state.started position = none
  entries : ∀ routeId position, state.entries routeId = some position →
    ∃ entry, state.started position = some entry ∧ entry.routeId = routeId
  each : ∀ position entry, state.started position = some entry →
    EntryOk runner state.entries position entry
  removals : ∀ removal ∈ state.removals, removal.caller = removal.removed ∧
    ∃ entry, state.started removal.removed = some entry ∧ entry.ended = true

variable {runner} {state next : RouteSupervisor State} {position : Nat} {entry changed : Entry State}
  {routeId : String}

theorem ContractInv.keepsContract (inv : ContractInv runner state) : KeepsContract state where
  atMostOne first second entry other isFirst isSecond sameRoute live otherLive := by
    have here := (inv.each first entry isFirst).live live
    have there := (inv.each second other isSecond).live otherLive
    rw [sameRoute, there] at here
    exact (Option.some.inj here).symm
  registered position entry present := (inv.each position entry present).live
  removals := inv.removals

theorem empty_contractInv : ContractInv runner (RouteSupervisor.empty State) := by
  constructor <;> simp [RouteSupervisor.empty]

/-- A change of an entry that keeps its route and forgets nothing. -/
theorem ContractInv.setEntry (inv : ContractInv runner state)
    (present : state.started position = some entry)
    (isOk : EntryOk runner state.entries position changed)
    (sameRoute : changed.routeId = entry.routeId)
    (keepsEnd : entry.ended = true → changed.ended = true) :
    ContractInv runner (state.setEntry position changed) := by
  have known : position < state.next := by
    by_contra isPast
    simp [inv.fresh position (Nat.le_of_not_lt isPast)] at present
  refine ⟨?_, ?_, ?_, ?_⟩
  · intro other isFresh
    have away : other ≠ position := by
      simp only [RouteSupervisor.setEntry] at isFresh
      omega
    simpa [RouteSupervisor.setEntry, away] using inv.fresh other isFresh
  · intro routeId other registered
    obtain ⟨old, isOld, isRoute⟩ := inv.entries routeId other registered
    by_cases same : other = position
    · subst same
      cases present.symm.trans isOld
      exact ⟨changed, by simp [RouteSupervisor.setEntry], sameRoute.trans isRoute⟩
    · exact ⟨old, by simp [RouteSupervisor.setEntry, same, isOld], isRoute⟩
  · intro other stored isStored
    simp only [RouteSupervisor.setEntry, Function.update_apply] at isStored
    split at isStored
    · rename_i same
      cases isStored
      exact same ▸ isOk
    · exact inv.each other stored isStored
  · intro removal member
    obtain ⟨isOwn, old, isOld, ended⟩ := inv.removals removal member
    refine ⟨isOwn, ?_⟩
    by_cases same : removal.removed = position
    · rw [same, present] at isOld
      cases isOld
      exact ⟨changed, by simp [RouteSupervisor.setEntry, same], keepsEnd ended⟩
    · exact ⟨old, by simp [RouteSupervisor.setEntry, same, isOld], ended⟩

/-- A step of the runner. -/
theorem EntryOk.setRunner {entries : String → Option Nat}
    (isOk : EntryOk runner entries position entry) (changed : State) :
    EntryOk runner entries position (entry.setRunner runner changed) where
  ended terminal := by
    have isTerminal : (runner.status changed).isRunning = false := terminal
    simp [Entry.setRunner, isTerminal]
  live isLive := by
    obtain ⟨notStopped, notEnded⟩ := isLive
    simp only [Entry.setRunner, Bool.or_eq_false_iff] at notEnded
    exact isOk.live ⟨notStopped, notEnded.1⟩
  caller unregistering := by
    obtain ⟨ended, registered⟩ := isOk.caller unregistering
    exact ⟨by simp [Entry.setRunner, ended], registered⟩

theorem EntryOk.stop {entries : String → Option Nat}
    (isOk : EntryOk runner entries position entry) :
    EntryOk runner entries position (entry.stop runner) :=
  have changed := isOk.setRunner (runner.stop entry.runner)
  ⟨changed.ended, fun isLive => (nomatch isLive.1), changed.caller⟩

theorem Entry.setRunner_ended (changed : State) (ended : entry.ended = true) :
    (entry.setRunner runner changed).ended = true := by
  simp [Entry.setRunner, ended]

/-- The removal of an entry that is stopped. -/
theorem ContractInv.removed (inv : ContractInv runner state) (routeId : String)
    (notLive : ∀ position entry, state.started position = some entry → entry.routeId = routeId →
      ¬ entry.Live) :
    ContractInv runner { state with entries := Function.update state.entries routeId none } := by
  refine ⟨inv.fresh, ?_, ?_, inv.removals⟩
  · intro other position registered
    simp only [Function.update_apply] at registered
    split at registered
    · cases registered
    · exact inv.entries other position registered
  · intro position entry present
    obtain ⟨ended, live, caller⟩ := inv.each position entry present
    refine ⟨ended, fun isLive => ?_, fun unregistering => ⟨(caller unregistering).1, ?_⟩⟩
    · have away : entry.routeId ≠ routeId := fun same =>
        notLive position entry present same isLive
      simpa [away] using live isLive
    · by_cases same : entry.routeId = routeId
      · simp [same]
      · simpa [same] using (caller unregistering).2

/-! ## One lemma for each step -/

theorem start_inv (inv : ContractInv runner state) {how : Start}
    (inTime : CallbacksInTime runner state (.start routeId how : SupervisorLabel Start Event))
    (started : state.start runner routeId how = some next) : ContractInv runner next := by
  simp only [RouteSupervisor.start] at started
  split at started
  · cases started
    exact inv
  · rename_i absent
    obtain ⟨new, _, rfl⟩ := Option.map_eq_some_iff.mp started
    have quiet := inTime absent
    refine ⟨?_, ?_, ?_, ?_⟩
    · intro position isFresh
      have away : position ≠ state.next := by
        simp only at isFresh
        omega
      simpa [RouteSupervisor.setEntry, away] using inv.fresh position (by simp only at isFresh; omega)
    · intro other position registered
      simp only [Function.update_apply] at registered
      split at registered
      · rename_i same
        cases registered
        exact ⟨_, by simp [RouteSupervisor.setEntry]; rfl, same.symm⟩
      · obtain ⟨old, isOld, isRoute⟩ := inv.entries other position registered
        have away : position ≠ state.next := by
          rintro rfl
          simp [inv.fresh _ (Nat.le_refl _)] at isOld
        exact ⟨old, by simp [RouteSupervisor.setEntry, away, isOld], isRoute⟩
    · intro position entry present
      simp only [RouteSupervisor.setEntry, Function.update_apply] at present
      split at present
      · rename_i isNew
        cases present
        refine ⟨fun terminal => ?_, fun _ => by simp [isNew], nofun⟩
        have isTerminal : (runner.status new).isRunning = false := terminal
        simp [isTerminal]
      · obtain ⟨ended, live, caller⟩ := inv.each position entry present
        refine ⟨ended, fun isLive => ?_, fun unregistering => ?_⟩
        · have registered := live isLive
          have away : entry.routeId ≠ routeId := by
            rintro rfl
            cases absent.symm.trans registered
          simpa [away] using registered
        · -- no call of an entry of this route was under way
          have away : entry.routeId ≠ routeId := by
            intro same
            cases (quiet position entry present same).symm.trans unregistering
          simpa [away] using caller unregistering
    · intro removal member
      obtain ⟨isOwn, entry, present, ended⟩ := inv.removals removal member
      have away : removal.removed ≠ state.next := by
        intro same
        simp [same, inv.fresh _ (Nat.le_refl _)] at present
      exact ⟨isOwn, entry, by simp [RouteSupervisor.setEntry, away, present], ended⟩

theorem ContractInv.stopEntry (inv : ContractInv runner state)
    (present : state.started position = some entry) :
    ContractInv runner (state.setEntry position (entry.stop runner)) :=
  inv.setEntry present (inv.each position entry present).stop rfl (Entry.setRunner_ended _)

theorem stop_inv (inv : ContractInv runner state) (routeId : String) :
    ContractInv runner (state.stop runner routeId) := by
  simp only [RouteSupervisor.stop]
  split
  · exact inv
  · split
    · exact inv
    · rename_i present
      exact inv.stopEntry present

theorem stopAll_inv (inv : ContractInv runner state) : ContractInv runner (state.stopAll runner) := by
  refine ⟨?_, ?_, ?_, ?_⟩
  · intro position isFresh
    simp [RouteSupervisor.stopAll, inv.fresh position isFresh]
  · intro routeId position registered
    obtain ⟨entry, present, isRoute⟩ := inv.entries routeId position registered
    refine ⟨_, congrArg (Option.map _) present, ?_⟩
    simp only
    split <;> exact isRoute
  · intro position stored isStored
    obtain ⟨entry, present, rfl⟩ := Option.map_eq_some_iff.mp isStored
    have isOk := inv.each position entry present
    split
    · exact isOk.stop
    · exact isOk
  · intro removal member
    obtain ⟨isOwn, entry, present, ended⟩ := inv.removals removal member
    refine ⟨isOwn, _, congrArg (Option.map _) present, ?_⟩
    simp only
    split
    · exact Entry.setRunner_ended _ ended
    · exact ended

theorem react_inv (inv : ContractInv runner state) {event : Event}
    (reacted : state.react runner position event = some next) : ContractInv runner next := by
  obtain ⟨entry, present, reacted⟩ := Option.bind_eq_some_iff.mp reacted
  obtain ⟨changed, _, rfl⟩ := Option.map_eq_some_iff.mp reacted
  exact inv.setEntry present ((inv.each position entry present).setRunner changed) rfl
    (Entry.setRunner_ended _)

theorem collect_inv (inv : ContractInv runner state)
    (inTime : CallbacksInTime runner state (.collect position : SupervisorLabel Start Event))
    (collected : state.collect runner position = some next) : ContractInv runner next := by
  simp only [RouteSupervisor.collect] at collected
  split at collected
  · cases collected
  · rename_i entry present
    split at collected
    · cases collected
    · cases collected
      obtain ⟨ended, live, _⟩ := inv.each position entry present
      have collectedOk : EntryOk runner state.entries position
          { entry with
            seen := some (entry.status runner)
            unregistering := !(entry.status runner).isRunning } := by
        refine ⟨ended, live, fun unregistering => ?_⟩
        have terminal : (entry.status runner).isRunning = false := by simpa using unregistering
        exact ⟨ended terminal, inTime entry present terminal⟩
      have changed := inv.setEntry present collectedOk rfl id
      exact ⟨changed.fresh, changed.entries, changed.each, changed.removals⟩

theorem unregister_inv (inv : ContractInv runner state)
    (unregistered : state.unregister runner position = some next) : ContractInv runner next := by
  simp only [RouteSupervisor.unregister] at unregistered
  split at unregistered
  · cases unregistered
  · rename_i entry present
    split at unregistered
    · rename_i unregistering
      have isOk := inv.each position entry present
      split at unregistered
      · cases unregistered
        exact inv.setEntry present ⟨isOk.ended, isOk.live, nofun⟩ rfl id
      · rename_i registered isRegistered
        obtain ⟨removed, isRemoved, rfl⟩ := Option.map_eq_some_iff.mp unregistered
        obtain ⟨ended, own | gone⟩ := isOk.caller unregistering
        · cases isRegistered.symm.trans own
          cases present.symm.trans isRemoved
          have stopped := (inv.stopEntry present).removed entry.routeId (by
            intro other stored isStored sameRoute isLive
            -- a live entry of the route would be the one that is stopped here
            have here := ((inv.stopEntry present).each other stored isStored).live isLive
            have isHere : other = position :=
              Option.some.inj (here.symm.trans (sameRoute ▸ isRegistered))
            subst isHere
            simp only [RouteSupervisor.setEntry, Function.update_self] at isStored
            cases isStored
            exact nomatch isLive.1)
          refine ⟨stopped.fresh, stopped.entries, stopped.each, ?_⟩
          intro removal member
          rcases List.mem_append.mp member with old | isNew
          · exact stopped.removals removal old
          · cases List.mem_singleton.mp isNew
            exact ⟨rfl, entry.stop runner, by simp [RouteSupervisor.setEntry],
              Entry.setRunner_ended _ ended⟩
        · cases isRegistered.symm.trans gone
    · cases unregistered

theorem disposed_inv (inv : ContractInv runner state) (removal : Removal) :
    ContractInv runner ((state.cancelRunner runner removal.removed).returnTo removal.caller) := by
  have cancelled : ContractInv runner (state.cancelRunner runner removal.removed) := by
    simp only [RouteSupervisor.cancelRunner]
    split
    · exact inv
    · rename_i entry present
      exact inv.setEntry present ((inv.each _ entry present).setRunner _) rfl
        (Entry.setRunner_ended _)
  simp only [RouteSupervisor.returnTo]
  split
  · exact cancelled
  · rename_i entry present
    have isOk := cancelled.each _ entry present
    exact cancelled.setEntry present ⟨isOk.ended, isOk.live, nofun⟩ rfl id

theorem supervisorStep_inv (inv : ContractInv runner state) {label : SupervisorLabel Start Event}
    (inTime : CallbacksInTime runner state label)
    (stepped : supervisorStep runner state label = some next) : ContractInv runner next := by
  cases label with
  | start routeId how =>
    simp only [supervisorStep] at stepped
    split at stepped
    · cases stepped
    · exact start_inv inv inTime stepped
  | stop routeId =>
    simp only [supervisorStep] at stepped
    split at stepped
    · cases stepped
    · cases stepped
      exact stop_inv inv routeId
  | stopAll =>
    simp only [supervisorStep] at stepped
    split at stepped
    · cases stepped
    · cases stepped
      exact stopAll_inv inv
  | react position event => exact react_inv inv stepped
  | collect position => exact collect_inv inv inTime stepped
  | unregister caller =>
    simp only [supervisorStep] at stepped
    split at stepped
    · cases stepped
    · exact unregister_inv inv stepped
  | disposed =>
    obtain ⟨removal, _, rfl⟩ := Option.map_eq_some_iff.mp stepped
    have ended := disposed_inv inv removal
    exact ⟨ended.fresh, ended.entries, ended.each, ended.removals⟩

end Contract

/-- The contract holds in every state of a run whose callbacks are all in time, whatever the
    runners are. -/
theorem supervisor_keeps_contract {State Start Event : Type} (runner : Runner State Start Event)
    (state : RouteSupervisor State)
    (reached : (supervisor runner).ReachableWhile (CallbacksInTime runner)
      (· = RouteSupervisor.empty State) state) : KeepsContract state := by
  have inv : ContractInv runner state := by
    apply reached.invariant
    · rintro _ rfl
      exact empty_contractInv
    · intro state next label inv inTime stepped
      exact supervisorStep_inv inv inTime stepped
  exact inv.keepsContract

/-! ## A late callback -/

def spawn : VkTurnStart := ⟨"vk", 1, .spawned []⟩

theorem supervisor_keeps_contract_start : ∃ state,
    (supervisor vkTurnRunner).run (RouteSupervisor.empty VkTurnRunner)
      [.start "r" spawn, .collect 0, .stop "r"] = some state ∧ KeepsContract state := by
  have started := Transition.Machine.ReachableWhile.step
    (.start rfl : (supervisor vkTurnRunner).ReachableWhile (CallbacksInTime vkTurnRunner)
      (· = RouteSupervisor.empty VkTurnRunner) _)
    (show CallbacksInTime vkTurnRunner _ (.start "r" spawn) from fun _ _ _ => nofun) rfl
  have collected := started.step
    (show CallbacksInTime vkTurnRunner _ (.collect 0) from fun entry present _ => by
      cases present
      exact .inl rfl) rfl
  have stopped := collected.step (show CallbacksInTime vkTurnRunner _ (.stop "r") from trivial) rfl
  exact ⟨_, rfl, supervisor_keeps_contract vkTurnRunner _ stopped⟩

/-- The user cancels the captcha, the process ends while the runner is disposed, and the route is
    started again before the watch has seen that. -/
def restartBeforeCollect : List (SupervisorLabel VkTurnStart RunnerEvent) :=
  [.start "r" spawn, .react 0 (.takeLine false (.captchaPrompt "cancelled" "" "")),
    .react 0 (.handleLine false), .collect 0, .unregister 0, .react 0 (.exit 0), .react 0 .emitExit,
    .react 0 .takeExit, .react 0 .handleExit, .disposed, .start "r" spawn, .collect 0,
    .unregister 0]

theorem late_callback_removes_new_entry :
    ¬ ∀ state, (supervisor vkTurnRunner).Reachable (· = RouteSupervisor.empty VkTurnRunner) state →
      KeepsContract state := by
  intro claimed
  have run : ∃ state,
      (supervisor vkTurnRunner).run (RouteSupervisor.empty VkTurnRunner) restartBeforeCollect =
        some state ∧ state.removals = [⟨0, 0⟩, ⟨1, 0⟩] := ⟨_, rfl, rfl⟩
  obtain ⟨state, ran, removals⟩ := run
  have contract := claimed state (.run (.start rfl) ran)
  have isOwn := (contract.removals ⟨1, 0⟩ (by simp [removals])).1
  cases isOwn

end VkTurn.Frontend
