import Mathlib.Tactic.Common
import VkTurn.Daemon.Manager

/-! # Which processes the daemon signals

A route stays listed after its child has exited and its watch goroutine has collected it, and
also when an `Up` that stopped it fails.  `stopLocked` signals its pid again in both cases, and
the pid may lead another group by then.
-/

namespace VkTurn.Daemon

open VkTurn.Transition

/-- The command was started for the route. -/
def StartedFor (cmds : List Cmd) (ref : CmdRef) (id : String) : Prop :=
  cmds[ref]?.map Cmd.routeId = some id

/-- The group was led by a child of the route that had not been waited for. -/
def SignalSent.ReachesOwnChild (cmds : List Cmd) (sent : SignalSent) : Prop :=
  sent.leader.map Leader.owner = some (some sent.cmd) ∧ StartedFor cmds sent.cmd sent.routeId

def SignalsOwnChildren (state : Manager) : Prop :=
  ∀ sent ∈ state.signals, sent.ReachesOwnChild state.cmds

/-- The route that a step signals. -/
def Manager.signalled (state : Manager) : Label → Option Route
  | .up spec =>
    if state.lock.isSome ∨ spec.id = "" then none else state.route? spec.id
  | .down id => if state.lock.isSome then none else state.route? id
  | .stopNext id => if state.lock = some .draining then state.route? id else none
  | .timeout =>
    match state.lock with
    | some (.stopping _ route false) => some route
    | _ => none
  | _ => none

/-- No `Wait` has collected the child of the route that the step signals. -/
def SignalsUncollected (state : Manager) (label : Label) : Prop :=
  ∀ route, state.signalled label = some route → state.isWaited route.cmd = false

/-! ## The invariant -/

/-- The uncollected children of the manager lead the groups of their own pids. -/
def OwnsPids (processes : ProcessTable (Option CmdRef)) (cmds : List Cmd) : Prop :=
  ∀ pid ref, processes.ownerAt pid = some (some ref) ↔
    ∃ cmd, cmds[ref]? = some cmd ∧ cmd.pid = pid ∧ cmd.waited = false

structure ManagerInv (state : Manager) : Prop where
  owns : OwnsPids state.processes state.cmds
  listed : ∀ route ∈ state.routes, StartedFor state.cmds route.cmd route.spec.id
  stopping : ∀ call route killed, state.lock = some (.stopping call route killed) →
    StartedFor state.cmds route.cmd route.spec.id
  sent : ∀ sent ∈ state.signals, StartedFor state.cmds sent.cmd sent.routeId

section Commands

variable {processes next : ProcessTable (Option CmdRef)} {cmds : List Cmd} {cmd : Cmd}
  {ref other : CmdRef} {pid : Nat} {id : String}

theorem StartedFor.append (started : StartedFor cmds ref id) (more : List Cmd) :
    StartedFor (cmds ++ more) ref id := by
  obtain ⟨cmd, present, isFor⟩ := Option.map_eq_some_iff.mp started
  have inRange : ref < cmds.length := (List.getElem?_eq_some_iff.mp present).1
  rw [StartedFor, List.getElem?_append_left inRange]
  exact started

theorem StartedFor.set (started : StartedFor cmds ref id) (present : cmds[other]? = some cmd)
    {changed : Cmd} (sameRoute : changed.routeId = cmd.routeId) :
    StartedFor (cmds.set other changed) ref id := by
  have inRange := (List.getElem?_eq_some_iff.mp present).1
  rw [StartedFor, List.getElem?_set]
  split
  · rename_i same
    subst same
    rw [StartedFor, present] at started
    simpa [inRange, sameRoute] using started
  · exact started

theorem OwnsPids.exit (owns : OwnsPids processes cmds)
    (exited : processes.exit pid = some next) : OwnsPids next cmds := by
  rw [OwnsPids, ProcessTable.ownerAt_exit exited]
  exact owns

theorem OwnsPids.spawn (owns : OwnsPids processes cmds)
    (spawned : processes.spawn pid (some cmds.length) = some next) :
    OwnsPids next (cmds ++ [⟨pid, id, false, false⟩]) := by
  obtain ⟨owners, free⟩ := ProcessTable.ownerAt_spawn spawned
  intro position ref
  rw [owners, Function.update_apply]
  by_cases isNew : ref = cmds.length
  · subst isNew
    -- the new command has its pid, and no earlier process was listed under it
    have unowned : processes.ownerAt position ≠ some (some cmds.length) := by
      intro owned
      obtain ⟨cmd, present, _⟩ := (owns _ _).mp owned
      simp at present
    by_cases isPid : position = pid
    · simp [isPid]
    · simp [isPid, unowned, Ne.symm isPid]
  · have old : (cmds ++ [⟨pid, id, false, false⟩])[ref]? = cmds[ref]? := by
      rcases Nat.lt_or_gt_of_ne isNew with isOld | isPast
      · exact List.getElem?_append_left isOld
      · have past : cmds.length + 1 ≤ ref := isPast
        rw [List.getElem?_eq_none (by simp; omega), List.getElem?_eq_none (by omega)]
    rw [old]
    split
    · rename_i isPid
      subst isPid
      have unowned := (owns position ref).not.mp (by simp [free])
      simpa [Ne.symm isNew] using unowned
    · exact owns position ref

theorem OwnsPids.foreignSpawn (owns : OwnsPids processes cmds)
    (spawned : processes.spawn pid none = some next) : OwnsPids next cmds := by
  obtain ⟨owners, free⟩ := ProcessTable.ownerAt_spawn spawned
  intro position ref
  rw [owners, Function.update_apply]
  split
  · rename_i isPid
    subst isPid
    have unowned := (owns position ref).not.mp (by simp [free])
    simpa using unowned
  · exact owns position ref

theorem OwnsPids.foreignCollect (owns : OwnsPids processes cmds)
    (isForeign : processes.ownerAt pid = some none)
    (collected : processes.collect pid = some next) : OwnsPids next cmds := by
  intro position ref
  rw [ProcessTable.ownerAt_collect collected, Function.update_apply]
  split
  · rename_i isPid
    subst isPid
    have unowned := (owns position ref).not.mp (by simp [isForeign])
    simpa using unowned
  · exact owns position ref

theorem OwnsPids.collect (owns : OwnsPids processes cmds) (present : cmds[ref]? = some cmd)
    (unwaited : cmd.waited = false) (collected : processes.collect cmd.pid = some next) :
    OwnsPids next (cmds.set ref { cmd with waited := true }) := by
  have owned : processes.ownerAt cmd.pid = some (some ref) :=
    (owns _ _).mpr ⟨cmd, present, rfl, unwaited⟩
  have inRange := (List.getElem?_eq_some_iff.mp present).1
  intro position other
  rw [ProcessTable.ownerAt_collect collected, Function.update_apply, List.getElem?_set]
  by_cases isRef : ref = other
  · subst isRef
    have unowned : position ≠ cmd.pid → processes.ownerAt position ≠ some (some ref) := by
      intro away isOwned
      obtain ⟨_, present', isPid, _⟩ := (owns _ _).mp isOwned
      cases present.symm.trans present'
      exact away isPid.symm
    by_cases isPid : position = cmd.pid
    · simp [isPid, inRange]
    · simp [isPid, inRange, unowned isPid]
  · rw [if_neg isRef]
    split
    · rename_i isPid
      subst isPid
      -- the pid belonged to the collected command alone
      have unowned := (owns cmd.pid other).not.mp (by simp [owned, isRef])
      simpa using unowned
    · exact owns position other

theorem OwnsPids.watched (owns : OwnsPids processes cmds) (present : cmds[ref]? = some cmd) :
    OwnsPids processes (cmds.set ref { cmd with watched := true }) := by
  have inRange := (List.getElem?_eq_some_iff.mp present).1
  intro position other
  rw [owns position other, List.getElem?_set]
  split
  · rename_i isRef
    subst isRef
    -- `split` has used the bound on `ref` for the inner test
    simp only [present, Option.some.injEq, exists_eq_left']
  · rfl

end Commands

section Steps

variable {state next : Manager} {route : Route} {call : Call} {ref : CmdRef} {id : String}

/-- A step that starts and collects nothing keeps the invariant when the routes it lists, stops
    and signals are known. -/
theorem ManagerInv.frame (cmds : next.cmds = state.cmds)
    (owns : OwnsPids next.processes state.cmds)
    (listed : ∀ route ∈ next.routes, StartedFor state.cmds route.cmd route.spec.id)
    (stopping : ∀ call route killed, next.lock = some (.stopping call route killed) →
      StartedFor state.cmds route.cmd route.spec.id)
    (sent : ∀ sent ∈ next.signals, StartedFor state.cmds sent.cmd sent.routeId) :
    ManagerInv next := by
  refine ⟨?_, ?_, ?_, ?_⟩ <;> rw [cmds]
  · exact owns
  · exact listed
  · exact stopping
  · exact sent

theorem route?_mem (present : state.route? id = some route) :
    route ∈ state.routes ∧ route.spec.id = id :=
  ⟨List.mem_of_find?_eq_some present, by simpa using List.find?_some present⟩

theorem ManagerInv.lock (inv : ManagerInv state) {holding : Option Holding}
    (notStopping : ∀ call route killed, holding ≠ some (.stopping call route killed)) :
    ManagerInv { state with lock := holding } :=
  ManagerInv.frame rfl inv.owns inv.listed (fun _ _ _ held => absurd held (notStopping _ _ _)) inv.sent

theorem ManagerInv.delete (inv : ManagerInv state) (id : String) : ManagerInv (state.delete id) :=
  ManagerInv.frame rfl inv.owns (fun route member => inv.listed route (List.mem_filter.mp member).1)
    inv.stopping inv.sent

theorem ManagerInv.setRoute (inv : ManagerInv state) (ref : CmdRef) (routeState : RouteState)
    (message : Option String) : ManagerInv (state.setRoute ref routeState message) := by
  refine .frame rfl inv.owns ?_ inv.stopping inv.sent
  intro route member
  obtain ⟨old, isOld, rfl⟩ := List.mem_map.mp member
  have known := inv.listed old isOld
  split
  · exact known
  · exact known

/-- What a signal to a known route adds to the record. -/
theorem kill_eq (started : StartedFor state.cmds route.cmd route.spec.id) (signal : Signal) :
    ∃ cmd, state.cmds[route.cmd]? = some cmd ∧ state.kill signal route =
      { state with
        signals := state.signals ++
          [⟨signal, route.spec.id, route.cmd, cmd.pid, state.processes cmd.pid⟩] } := by
  obtain ⟨cmd, present, _⟩ := Option.map_eq_some_iff.mp started
  refine ⟨cmd, present, ?_⟩
  simp only [Manager.kill, present]

theorem ManagerInv.kill (inv : ManagerInv state)
    (started : StartedFor state.cmds route.cmd route.spec.id) (signal : Signal) (call : Call)
    (killed : Bool) :
    ManagerInv { state.kill signal route with lock := some (.stopping call route killed) } := by
  obtain ⟨cmd, _, isKill⟩ := kill_eq started signal
  rw [isKill]
  refine .frame rfl inv.owns inv.listed ?_ ?_
  · intro _ _ _ held
    cases held
    exact started
  · intro sent member
    rcases List.mem_append.mp member with old | isNew
    · exact inv.sent sent old
    · cases List.mem_singleton.mp isNew
      exact started

theorem ManagerInv.stopLocked (inv : ManagerInv state) (call : Call)
    (present : state.route? id = some route) : ManagerInv (state.stopLocked call route) :=
  inv.kill (inv.listed route (route?_mem present).1) .term call false

theorem ManagerInv.afterStop (inv : ManagerInv state) (route : Route) (call : Call) :
    ManagerInv (state.afterStop route call) := by
  cases call with
  | up spec => exact inv.lock (by simp)
  | down id => exact (inv.delete id).lock (by simp)
  | stopAll => exact (inv.delete route.spec.id).lock (by simp)

theorem ManagerInv.launch (inv : ManagerInv state) {spec : Spec} {wgBin : String}
    {outcome : Launch} (launched : state.launch spec wgBin outcome = some (.ok next)) :
    ManagerInv next ∧ next.signals = state.signals := by
  simp only [Manager.launch] at launched
  split at launched
  · cases launched
  · split at launched <;> cases launched
  · cases launched
  · rename_i pid _
    obtain ⟨processes, spawned, isNext⟩ := Option.map_eq_some_iff.mp launched
    cases isNext
    refine ⟨⟨inv.owns.spawn spawned, ?_, ?_, ?_⟩, rfl⟩
    · intro route member
      rcases List.mem_cons.mp member with rfl | old
      · have isLast : (state.cmds ++ [⟨pid, spec.id, false, false⟩])[state.cmds.length]? =
            some ⟨pid, spec.id, false, false⟩ := List.getElem?_concat_length
        exact congrArg (Option.map Cmd.routeId) isLast
      · exact (inv.listed route (List.mem_filter.mp old).1).append _
    · intro _ _ _ held
      cases held
    · intro sent member
      exact (inv.sent sent member).append _

/-- The commands change in one flag, and nothing else that the invariant reads does. -/
theorem ManagerInv.setCmd (inv : ManagerInv state) {cmd changed : Cmd}
    {processes : ProcessTable (Option CmdRef)} (present : state.cmds[ref]? = some cmd)
    (owns : OwnsPids processes (state.cmds.set ref changed))
    (sameRoute : changed.routeId = cmd.routeId) :
    ManagerInv { state with processes := processes, cmds := state.cmds.set ref changed } :=
  ⟨owns, fun route member => (inv.listed route member).set present sameRoute,
    fun call route killed held => (inv.stopping call route killed held).set present sameRoute,
    fun sent member => (inv.sent sent member).set present sameRoute⟩

theorem ManagerInv.collect (inv : ManagerInv state) (collected : state.collect ref = some next) :
    ManagerInv next ∧ next.signals = state.signals := by
  simp only [Manager.collect] at collected
  split at collected
  · cases collected
  · rename_i cmd present
    split at collected
    · cases collected
    · rename_i unwaited
      obtain ⟨processes, isCollected, rfl⟩ := Option.map_eq_some_iff.mp collected
      have owns := inv.owns.collect present (by simpa using unwaited) isCollected
      exact ⟨inv.setCmd present owns rfl, rfl⟩

theorem ManagerInv.watch (inv : ManagerInv state) {err : Option String}
    (watched : state.watch ref err = some next) :
    ManagerInv next ∧ next.signals = state.signals := by
  simp only [Manager.watch] at watched
  split at watched
  · cases watched
  · rename_i cmd present
    split at watched
    · have ended : ManagerInv
          { state with cmds := state.cmds.set ref { cmd with watched := true } } :=
        inv.setCmd present (inv.owns.watched present) rfl
      split at watched
      · cases watched
        exact ⟨ended.setRoute .., rfl⟩
      · cases watched
        exact ⟨ended.setRoute .., rfl⟩
    · cases watched

/-- One step: the invariant, and the one signal that the step may send. -/
theorem daemonStep_inv (inv : ManagerInv state) {label : Label}
    (stepped : daemonStep state label = some next) :
    ManagerInv next ∧
      match state.signalled label with
      | none => next.signals = state.signals
      | some route => ∃ signal, next.signals = (state.kill signal route).signals ∧
          StartedFor state.cmds route.cmd route.spec.id := by
  cases label with
  | up spec =>
    simp only [daemonStep, Manager.signalled] at stepped ⊢
    split at stepped
    · cases stepped
    · rename_i unlocked
      split at stepped
      · rename_i isEmpty
        cases stepped
        simp [isEmpty, inv]
      · rename_i named
        simp only [unlocked, named, false_or, if_false, Bool.false_eq_true]
        split at stepped
        · rename_i existing present
          cases stepped
          rw [present]
          exact ⟨inv.stopLocked _ present, .term, rfl, inv.listed _ (route?_mem present).1⟩
        · rename_i absent
          cases stepped
          rw [absent]
          exact ⟨inv.lock (by simp), rfl⟩
  | down id =>
    simp only [daemonStep, Manager.signalled] at stepped ⊢
    split at stepped
    · cases stepped
    · rename_i unlocked
      rw [if_neg unlocked]
      split at stepped
      · rename_i route present
        cases stepped
        rw [present]
        exact ⟨inv.stopLocked _ present, .term, rfl, inv.listed _ (route?_mem present).1⟩
      · rename_i absent
        cases stepped
        rw [absent]
        exact ⟨inv, rfl⟩
  | stopAll =>
    simp only [daemonStep] at stepped
    split at stepped
    · cases stepped
    · cases stepped
      exact ⟨inv.lock (by simp), rfl⟩
  | stopNext id =>
    simp only [daemonStep, Manager.signalled] at stepped ⊢
    split at stepped
    · rename_i isDraining
      obtain ⟨route, present, rfl⟩ := Option.map_eq_some_iff.mp stepped
      rw [if_pos isDraining, present]
      exact ⟨inv.stopLocked _ present, .term, rfl, inv.listed _ (route?_mem present).1⟩
    · cases stepped
  | stoppedAll =>
    simp only [daemonStep] at stepped
    split at stepped
    · cases stepped
      exact ⟨inv.lock (by simp), rfl⟩
    · cases stepped
  | timeout =>
    simp only [daemonStep, Manager.signalled] at stepped ⊢
    split at stepped
    · rename_i call route held
      cases stepped
      have started := inv.stopping _ _ _ held
      simp only [held]
      exact ⟨inv.kill started .kill call true, .kill, rfl, started⟩
    · cases stepped
  | done =>
    simp only [daemonStep] at stepped
    split at stepped
    · rename_i call route killed held
      split at stepped
      · cases stepped
        refine ⟨(inv.setRoute ..).afterStop route call, ?_⟩
        cases call <;> rfl
      · cases stepped
    · cases stepped
  | launch wgBin outcome =>
    simp only [daemonStep] at stepped
    split at stepped
    · obtain ⟨result, launched, isNext⟩ := Option.map_eq_some_iff.mp stepped
      cases result with
      | ok started =>
        cases isNext
        exact inv.launch launched
      | error err =>
        cases isNext
        exact ⟨inv.lock (by simp), rfl⟩
    · cases stepped
  | exit ref =>
    simp only [daemonStep] at stepped
    split at stepped
    · cases stepped
    · split at stepped
      · cases stepped
      · obtain ⟨processes, exited, rfl⟩ := Option.map_eq_some_iff.mp stepped
        exact ⟨.frame rfl (inv.owns.exit exited) inv.listed inv.stopping inv.sent, rfl⟩
  | collect ref => exact inv.collect stepped
  | watched ref err => exact inv.watch stepped
  | foreignSpawn pid =>
    obtain ⟨processes, spawned, rfl⟩ := Option.map_eq_some_iff.mp stepped
    exact ⟨.frame rfl (inv.owns.foreignSpawn spawned) inv.listed inv.stopping inv.sent, rfl⟩
  | foreignExit pid =>
    simp only [daemonStep, Manager.foreign] at stepped
    split at stepped
    · obtain ⟨processes, exited, rfl⟩ := Option.map_eq_some_iff.mp stepped
      exact ⟨.frame rfl (inv.owns.exit exited) inv.listed inv.stopping inv.sent, rfl⟩
    · cases stepped
  | foreignCollect pid =>
    simp only [daemonStep, Manager.foreign] at stepped
    split at stepped
    · rename_i isForeign
      obtain ⟨processes, collected, rfl⟩ := Option.map_eq_some_iff.mp stepped
      have owns := inv.owns.foreignCollect isForeign collected
      exact ⟨.frame rfl owns inv.listed inv.stopping inv.sent, rfl⟩
    · cases stepped

theorem newManager_inv (isNew : NewManager state) : ManagerInv state := by
  obtain ⟨routes, cmds, lock, signals, unowned⟩ := isNew
  refine ⟨fun pid ref => ?_, ?_, ?_, ?_⟩
  · simp [unowned, cmds]
  · simp [routes]
  · simp [lock]
  · simp [signals]

theorem reachable_inv (reached : daemon.Reachable NewManager state) : ManagerInv state :=
  reached.invariant (fun _ isNew => newManager_inv isNew)
    fun _ _ _ inv _ stepped => (daemonStep_inv inv stepped).1

/-- While the invariant holds, whom a signal reached can be read from the record alone. -/
theorem ManagerInv.signalsOwnChildren_iff (inv : ManagerInv state) :
    SignalsOwnChildren state ↔
      ∀ sent ∈ state.signals, sent.leader.map Leader.owner = some (some sent.cmd) :=
  forall₂_congr fun sent member => and_iff_left (inv.sent sent member)

/-- The invariant decides whom the next signal reaches: an uncollected child still leads the
    group of its pid, and a collected one leads none. -/
theorem ManagerInv.signal_iff (inv : ManagerInv state) {cmd : Cmd}
    (present : state.cmds[ref]? = some cmd) :
    state.processes.ownerAt cmd.pid = some (some ref) ↔ state.isWaited ref = false := by
  rw [inv.owns cmd.pid ref]
  simp [present, Manager.isWaited]

/-- A step keeps the law exactly when it signals no collected child. -/
theorem daemonStep_signals (inv : ManagerInv state) {label : Label}
    (stepped : daemonStep state label = some next) :
    SignalsOwnChildren next ↔ SignalsOwnChildren state ∧ SignalsUncollected state label := by
  obtain ⟨nextInv, sends⟩ := daemonStep_inv inv stepped
  rw [inv.signalsOwnChildren_iff, nextInv.signalsOwnChildren_iff, SignalsUncollected]
  cases isSignalled : state.signalled label with
  | none =>
    rw [isSignalled] at sends
    simp [sends]
  | some route =>
    rw [isSignalled] at sends
    obtain ⟨signal, signals, started⟩ := sends
    obtain ⟨cmd, present, isKill⟩ := kill_eq started signal
    have reaches := inv.signal_iff present
    rw [ProcessTable.ownerAt] at reaches
    rw [signals, isKill]
    simp only [List.forall_mem_append, List.forall_mem_singleton, reaches, Option.some.injEq,
      forall_eq']

end Steps

/-- The signals of `stopLocked` all reach an uncollected child of the route it stops exactly in
    the runs that signal no route whose child has been collected. -/
theorem signals_own_children_iff (state : Manager) :
    daemon.ReachableWhile SignalsUncollected NewManager state ↔
      daemon.Reachable NewManager state ∧ SignalsOwnChildren state := by
  apply Machine.reachableWhile_iff
  · intro state isNew
    simp [SignalsOwnChildren, isNew.2.2.2.1]
  · intro state next label reached stepped
    exact daemonStep_signals (reachable_inv reached) stepped

/-! ## A pid that was given to another route -/

def freshDaemon : Manager where
  singboxBin := ""
  vkturnBin := "/usr/bin/vkturn-client"
  routes := []
  cmds := []
  processes := fun _ => none
  lock := none
  signals := []

/-- The client of route a ends by itself, that of route b gets its pid, and a is stopped. -/
def reusedPid : List Label :=
  [.up ⟨"a", "vkturn-client"⟩, .launch "" (.started 100), .exit 0, .collect 0, .watched 0 none,
    .up ⟨"b", "vkturn-client"⟩, .launch "" (.started 100), .down "a"]

theorem reused_pid_signalled :
    ¬ ∀ state, daemon.Reachable NewManager state → SignalsOwnChildren state := by
  intro claimed
  have run : ∃ state, daemon.run freshDaemon reusedPid = some state ∧
      state.signals = [⟨.term, "a", 0, 100, some ⟨some 1, false⟩⟩] := ⟨_, rfl, rfl⟩
  obtain ⟨state, ran, signals⟩ := run
  have isNew : NewManager freshDaemon := by
    simp [NewManager, freshDaemon, ProcessTable.ownerAt]
  have reached : daemon.Reachable NewManager state := .run (.start isNew) ran
  have own := claimed state reached ⟨.term, "a", 0, 100, some ⟨some 1, false⟩⟩ (by simp [signals])
  simp [SignalSent.ReachesOwnChild] at own

end VkTurn.Daemon
