import VkTurn.Daemon.Signals
import VkTurn.Text.Split

/-! # What a failed Up leaves behind

`Up` stops the runner that has its id before it looks at the kind of the new one, stages its
config and starts it.  While it holds the lock no other call runs, but children exit, `Wait`
collects them, and the system gives their pids away.
-/

namespace VkTurn.Daemon

open VkTurn.Text VkTurn.Transition

/-! ## Staged files -/

/-- The elements of a rooted path that `filepath.Join` has cleaned. -/
def cleanElements (path : String) : List String :=
  (splitOn '/' path).foldl (fun elements element =>
    if element = "" ∨ element = "." then elements
    else if element = ".." then elements.dropLast
    else elements ++ [element]) []

def stageDir : String := "/var/lib/vkturn"

def ifaceName (id : String) : String :=
  let cleanSlug := id.toList.filter fun char =>
    ('a' ≤ char ∧ char ≤ 'z') ∨ ('A' ≤ char ∧ char ≤ 'Z') ∨ ('0' ≤ char ∧ char ≤ '9')
  "vk" ++ if cleanSlug = [] then "vk" else String.ofList (cleanSlug.take 12)

/-- The config file of a route, if there is one. -/
def cfgPath (spec : Spec) : Option (List String) :=
  if spec.kind = "sing-box" then
    some (cleanElements (stageDir ++ "/singbox-" ++ spec.id ++ ".json"))
  else if spec.kind = "wireguard" then
    some (cleanElements (stageDir ++ "/" ++ ifaceName spec.id ++ ".conf"))
  else none

/-- The file that a failed `Up` has changed; a write that fails may have truncated it. -/
def Manager.written (state : Manager) (spec : Spec) (wgBin : String) (outcome : Launch)
    (truncated : Bool) : Option (List String) :=
  match state.prepare spec wgBin, outcome with
  | .ok true, .startFails _ => cfgPath spec
  | .ok true, .stageFails _ => if truncated then cfgPath spec else none
  | _, _ => none

/-! ## A call that fails -/

def Label.isLaunch : Label → Bool
  | .launch _ _ => true
  | _ => false

/-- The states of the manager after `Up` has begun and before it launches. -/
def UpWaits (begun waiting : Manager) : Prop :=
  daemon.ReachableWhile (fun _ label => label.isLaunch = false) (· = begun) waiting

/-- `Up` is called in the first state and returns an error in the second one, and it has changed
    the given file. -/
inductive UpFails (spec : Spec) : Manager → Manager → Option (List String) → Prop
  | emptyId {before : Manager} : before.lock = none → spec.id = "" → UpFails spec before before none
  | launch {before begun waiting : Manager} {wgBin : String} {outcome : Launch} {err : UpError}
      (truncated : Bool) : spec.id ≠ "" → daemonStep before (.up spec) = some begun →
      UpWaits begun waiting → waiting.lock = some (.starting spec) →
      waiting.launch spec wgBin outcome = some (.error err) →
      UpFails spec before waiting.release (waiting.written spec wgBin outcome truncated)

/-- What the call has sent. -/
def newSignals (before after : Manager) : List SignalSent :=
  after.signals.drop before.signals.length

def SignalSent.reaches (sent : SignalSent) (route : Route) : Prop :=
  sent.leader.map Leader.owner = some (some route.cmd)

structure UpAtomic (spec : Spec) (before after : Manager) (written : Option (List String)) :
    Prop where
  /-- A route that was running under the id is still running, and listed with the same state. -/
  keeps : ∀ route, before.route? spec.id = some route → route.state = .running →
    after.route? spec.id = some route ∧ ∀ sent ∈ newSignals before after, ¬ sent.reaches route
  others : ∀ id, id ≠ spec.id → after.route? id = before.route? id
  signals : ∀ sent ∈ newSignals before after, ∀ other ∈ before.routes, other.spec.id ≠ spec.id →
    ¬ sent.reaches other
  files : ∀ path, written = some path → ∀ other ∈ before.routes, other.spec.id ≠ spec.id →
    cfgPath other.spec ≠ some path

/-- The route listed under the id is not running, and no other one has got its pid. -/
def NothingRuns (spec : Spec) (before : Manager) : Prop :=
  ∀ route, before.route? spec.id = some route → route.state ≠ .running ∧
    ∀ cmd, before.cmds[route.cmd]? = some cmd → ∀ other ∈ before.routes,
      other.spec.id ≠ spec.id → before.processes.ownerAt cmd.pid ≠ some (some other.cmd)

/-- If the call gets as far as to write a file, no other route has that file. -/
def WritesOwnFile (spec : Spec) (before : Manager) (written : Option (List String)) : Prop :=
  written.isSome → ∀ other ∈ before.routes, other.spec.id ≠ spec.id →
    cfgPath other.spec ≠ cfgPath spec

/-! ## While Up holds the lock -/

/-- The routes when the existing one has been stopped. -/
def stoppedRoutes (before : Manager) : Option Route → List Route
  | none => before.routes
  | some existing => (before.setRoute existing.cmd .stopped none).routes

/-- One signal of the call: what it reaches has led the group since before the call. -/
structure SentTo (before : Manager) (existing : Option Route) (sent : SignalSent) : Prop where
  route : ∃ route cmd, existing = some route ∧ before.cmds[route.cmd]? = some cmd ∧
    ∀ ref, sent.leader.map Leader.owner = some (some ref) →
      before.processes.ownerAt cmd.pid = some (some ref)

structure UpHolds (spec : Spec) (before : Manager) (existing : Option Route) (state : Manager) :
    Prop where
  owners : ∀ pid ref, state.processes.ownerAt pid = some (some ref) →
    before.processes.ownerAt pid = some (some ref)
  pids : ∀ ref : Nat, state.cmds[ref]?.map Cmd.pid = before.cmds[ref]?.map Cmd.pid
  signals : ∃ sent, state.signals = before.signals ++ sent ∧
    (∀ signal ∈ sent, SentTo before existing signal) ∧
    ∀ route cmd, existing = some route → before.cmds[route.cmd]? = some cmd →
      ∃ signal ∈ sent, signal.leader = before.processes cmd.pid
  phase : (state.lock = some (.starting spec) ∧ state.routes = stoppedRoutes before existing) ∨
    ∃ route killed, existing = some route ∧ state.lock = some (.stopping (.up spec) route killed) ∧
      state.routes = before.routes

section Holding

variable {spec : Spec} {before state next : Manager} {existing : Option Route} {route : Route}
  {label : Label} {signal : Signal}

/-- Steps of processes, which leave the routes, the lock and the signals. -/
theorem UpHolds.frame (holds : UpHolds spec before existing state)
    (owners : ∀ pid ref, next.processes.ownerAt pid = some (some ref) →
      state.processes.ownerAt pid = some (some ref))
    (pids : ∀ ref : Nat, next.cmds[ref]?.map Cmd.pid = state.cmds[ref]?.map Cmd.pid)
    (signals : next.signals = state.signals) (lock : next.lock = state.lock)
    (routes : next.routes = state.routes) : UpHolds spec before existing next where
  owners pid ref owned := holds.owners pid ref (owners pid ref owned)
  pids ref := (pids ref).trans (holds.pids ref)
  signals := by
    rw [signals]
    exact holds.signals
  phase := by
    rw [lock, routes]
    exact holds.phase

theorem pids_set {cmds : List Cmd} {ref : CmdRef} {cmd changed : Cmd}
    (present : cmds[ref]? = some cmd) (samePid : changed.pid = cmd.pid) (other : Nat) :
    (cmds.set ref changed)[other]?.map Cmd.pid = cmds[other]?.map Cmd.pid := by
  have inRange := (List.getElem?_eq_some_iff.mp present).1
  rw [List.getElem?_set]
  split
  · rename_i same
    rw [← same, present]
    simp [samePid]
  · rfl

/-- A command of the manager after some steps is the one it was before. -/
theorem UpHolds.cmd (holds : UpHolds spec before existing state)
    (known : ∀ route, existing = some route → StartedFor before.cmds route.cmd route.spec.id)
    (isExisting : existing = some route) :
    ∃ cmd now, before.cmds[route.cmd]? = some cmd ∧ state.cmds[route.cmd]? = some now ∧
      now.pid = cmd.pid := by
  obtain ⟨cmd, present, _⟩ := Option.map_eq_some_iff.mp (known route isExisting)
  have samePid := holds.pids route.cmd
  rw [present] at samePid
  obtain ⟨now, presentNow, isPid⟩ := Option.map_eq_some_iff.mp samePid
  exact ⟨cmd, now, present, presentNow, isPid⟩

theorem UpHolds.kill (holds : UpHolds spec before existing state)
    (known : ∀ route, existing = some route → StartedFor before.cmds route.cmd route.spec.id)
    (isExisting : existing = some route)
    (held : state.lock = some (.stopping (.up spec) route false)) :
    UpHolds spec before existing { state.kill .kill route with
      lock := some (.stopping (.up spec) route true) } := by
  obtain ⟨cmd, now, present, presentNow, samePid⟩ := holds.cmd known isExisting
  obtain ⟨sent, signals, toRoute, term⟩ := holds.signals
  have routes : state.routes = before.routes := by
    rcases holds.phase with ⟨isStarting, _⟩ | ⟨_, _, _, _, same⟩
    · rw [held] at isStarting
      cases isStarting
    · exact same
  simp only [Manager.kill, presentNow]
  let new : SignalSent :=
    ⟨.kill, route.spec.id, route.cmd, now.pid, state.processes now.pid⟩
  refine ⟨holds.owners, holds.pids, ⟨sent ++ [new], ?_, ?_, ?_⟩, .inr ⟨route, true, isExisting, rfl,
    routes⟩⟩
  · rw [signals, List.append_assoc]
  · intro signal member
    rcases List.mem_append.mp member with isOld | isNew
    · exact toRoute signal isOld
    · cases List.mem_singleton.mp isNew
      refine ⟨route, cmd, isExisting, present, fun ref reaches => ?_⟩
      rw [← samePid]
      exact holds.owners now.pid ref reaches
  · intro other otherCmd isOther otherPresent
    obtain ⟨signal, member, leader⟩ := term other otherCmd isOther otherPresent
    exact ⟨signal, List.mem_append_left _ member, leader⟩

theorem UpHolds.done (holds : UpHolds spec before existing state) {call : Call} {killed : Bool}
    (held : state.lock = some (.stopping call route killed)) :
    UpHolds spec before existing
      ((state.setRoute route.cmd .stopped none).afterStop route call) := by
  rcases holds.phase with ⟨isStarting, _⟩ | ⟨stopped, otherKilled, isExisting, isStopping, routes⟩
  · rw [held] at isStarting
    cases isStarting
  · rw [held] at isStopping
    cases isStopping
    refine ⟨holds.owners, holds.pids, holds.signals, .inl ⟨rfl, ?_⟩⟩
    rw [isExisting]
    simp only [Manager.afterStop, Manager.setRoute, stoppedRoutes, routes]

theorem owners_foreign {processes after : ProcessTable (Option CmdRef)} {pid : Nat}
    (spawned : processes.spawn pid none = some after) (other : Nat) (ref : CmdRef)
    (owned : after.ownerAt other = some (some ref)) :
    processes.ownerAt other = some (some ref) := by
  rw [(ProcessTable.ownerAt_spawn spawned).1, Function.update_apply] at owned
  split at owned
  · cases owned
  · exact owned

theorem owners_collect {processes after : ProcessTable (Option CmdRef)} {pid : Nat}
    (collected : processes.collect pid = some after) (other : Nat) (ref : CmdRef)
    (owned : after.ownerAt other = some (some ref)) :
    processes.ownerAt other = some (some ref) := by
  rw [ProcessTable.ownerAt_collect collected, Function.update_apply] at owned
  split at owned
  · cases owned
  · exact owned

theorem owners_exit {processes after : ProcessTable (Option CmdRef)} {pid : Nat}
    (exited : processes.exit pid = some after) (other : Nat) (ref : CmdRef)
    (owned : after.ownerAt other = some (some ref)) :
    processes.ownerAt other = some (some ref) := by
  rwa [ProcessTable.ownerAt_exit exited] at owned

theorem UpHolds.isLocked (holds : UpHolds spec before existing state) :
    state.lock.isSome = true ∧ state.lock ≠ some .draining := by
  rcases holds.phase with ⟨isStarting, _⟩ | ⟨_, _, _, isStopping, _⟩
  · simp [isStarting]
  · simp [isStopping]

/-- The call goes on with its stop, processes come and go, and no other call begins. -/
theorem UpHolds.step (holds : UpHolds spec before existing state)
    (known : ∀ route, existing = some route → StartedFor before.cmds route.cmd route.spec.id)
    (notLaunch : label.isLaunch = false) (stepped : daemonStep state label = some next) :
    UpHolds spec before existing next := by
  obtain ⟨isLocked, notDraining⟩ := holds.isLocked
  cases label with
  | up spec => simp [daemonStep, isLocked] at stepped
  | down id => simp [daemonStep, isLocked] at stepped
  | stopAll => simp [daemonStep, isLocked] at stepped
  | stopNext id => simp [daemonStep, notDraining] at stepped
  | stoppedAll => simp [daemonStep, notDraining] at stepped
  | launch wgBin outcome => cases notLaunch
  | timeout =>
    simp only [daemonStep] at stepped
    split at stepped
    · rename_i call route held
      cases stepped
      rcases holds.phase with ⟨isStarting, _⟩ | ⟨stopped, killed, isExisting, isStopping, _⟩
      · rw [held] at isStarting
        cases isStarting
      · have same := held.symm.trans isStopping
        cases same
        exact holds.kill known isExisting held
    · cases stepped
  | done =>
    simp only [daemonStep] at stepped
    split at stepped
    · rename_i call route killed held
      split at stepped
      · cases stepped
        exact holds.done held
      · cases stepped
    · cases stepped
  | exit ref =>
    simp only [daemonStep] at stepped
    split at stepped
    · cases stepped
    · split at stepped
      · cases stepped
      · obtain ⟨processes, exited, rfl⟩ := Option.map_eq_some_iff.mp stepped
        exact holds.frame (owners_exit exited) (fun _ => rfl) rfl rfl rfl
  | collect ref =>
    simp only [daemonStep, Manager.collect] at stepped
    split at stepped
    · cases stepped
    · rename_i cmd present
      split at stepped
      · cases stepped
      · obtain ⟨processes, collected, rfl⟩ := Option.map_eq_some_iff.mp stepped
        exact holds.frame (owners_collect collected) (pids_set present rfl) rfl rfl rfl
  | watched ref err =>
    simp only [daemonStep, Manager.watch] at stepped
    split at stepped
    · cases stepped
    · split at stepped
      · rename_i isFree
        rw [isFree.2.2] at isLocked
        cases isLocked
      · cases stepped
  | foreignSpawn pid =>
    simp only [daemonStep] at stepped
    obtain ⟨processes, spawned, rfl⟩ := Option.map_eq_some_iff.mp stepped
    exact holds.frame (owners_foreign spawned) (fun _ => rfl) rfl rfl rfl
  | foreignExit pid =>
    simp only [daemonStep, Manager.foreign] at stepped
    split at stepped
    · obtain ⟨processes, exited, rfl⟩ := Option.map_eq_some_iff.mp stepped
      exact holds.frame (owners_exit exited) (fun _ => rfl) rfl rfl rfl
    · cases stepped
  | foreignCollect pid =>
    simp only [daemonStep, Manager.foreign] at stepped
    split at stepped
    · obtain ⟨processes, collected, rfl⟩ := Option.map_eq_some_iff.mp stepped
      exact holds.frame (owners_collect collected) (fun _ => rfl) rfl rfl rfl
    · cases stepped

/-- What `Up` does first. -/
theorem upHolds_begun (inv : ManagerInv before) (named : spec.id ≠ "")
    (stepped : daemonStep before (.up spec) = some next) :
    UpHolds spec before (before.route? spec.id) next := by
  simp only [daemonStep] at stepped
  split at stepped
  · cases stepped
  · split at stepped
    · rename_i existing present
      cases stepped
      rw [present]
      obtain ⟨cmd, isCmd, isKill⟩ := kill_eq (inv.listed existing (route?_mem present).1) .term
      simp only [Manager.stopLocked, isKill]
      refine ⟨fun _ _ owned => owned, fun _ => rfl, ⟨[_], rfl, ?_, ?_⟩,
        .inr ⟨existing, false, rfl, rfl, rfl⟩⟩
      · intro signal member
        cases List.mem_singleton.mp member
        exact ⟨existing, cmd, rfl, isCmd, fun _ reaches => reaches⟩
      · intro route other isRoute isOther
        cases isRoute
        rw [isCmd] at isOther
        cases isOther
        exact ⟨_, List.mem_singleton_self _, rfl⟩
    · rename_i absent
      cases stepped
      rw [absent]
      exact ⟨fun _ _ owned => owned, fun _ => rfl, ⟨[], (List.append_nil _).symm,
        fun _ member => absurd member List.not_mem_nil,
        fun _ _ isNone => absurd isNone.symm (Option.some_ne_none _)⟩, .inl ⟨rfl, rfl⟩⟩

theorem upHolds_waiting (inv : ManagerInv before) (named : spec.id ≠ "") {begun waiting : Manager}
    (stepped : daemonStep before (.up spec) = some begun) (waits : UpWaits begun waiting) :
    UpHolds spec before (before.route? spec.id) waiting := by
  have known (route : Route) (isExisting : before.route? spec.id = some route) :
      StartedFor before.cmds route.cmd route.spec.id :=
    inv.listed route (route?_mem isExisting).1
  refine waits.invariant (fun state isBegun => ?_) fun _ _ _ holds notLaunch stepped =>
    holds.step known notLaunch stepped
  rw [isBegun]
  exact upHolds_begun inv named stepped

/-! ## When a failed Up is atomic -/

theorem route?_setRoute (ref : CmdRef) (routeState : RouteState) (id : String) :
    (before.setRoute ref routeState none).route? id =
      (before.route? id).map fun route =>
        if route.cmd = ref then { route with state := routeState } else route := by
  have sameID (route : Route) :
      (if route.cmd = ref then { route with state := routeState } else route).spec =
        route.spec := by
    split
    · rfl
    · rfl
  simp only [Manager.route?, Manager.setRoute, Option.getD_none, List.find?_map]
  congr 2
  funext route
  simp only [Function.comp_apply, sameID]

/-- Commands of different routes are different. -/
theorem cmd_ne_of_id_ne (inv : ManagerInv before) {other : Route}
    (present : route ∈ before.routes) (otherPresent : other ∈ before.routes)
    (differs : other.spec.id ≠ route.spec.id) : other.cmd ≠ route.cmd := by
  intro same
  have started := inv.listed route present
  have otherStarted := inv.listed other otherPresent
  rw [StartedFor, same, started] at otherStarted
  exact differs (Option.some.inj otherStarted).symm

theorem signal_of_new {after : Manager} {sent : List SignalSent} {signal : SignalSent}
    (signals : after.signals = before.signals ++ sent) :
    signal ∈ newSignals before after ↔ signal ∈ sent := by
  rw [newSignals, signals, List.drop_left]

theorem written_eq_some {wgBin : String} {outcome : Launch} {truncated : Bool}
    {path : List String} (written : state.written spec wgBin outcome truncated = some path) :
    cfgPath spec = some path := by
  simp only [Manager.written] at written
  split at written
  · exact written
  · split at written
    · exact written
    · cases written
  · cases written

theorem upAtomic_of_emptyId : UpAtomic spec before before none where
  keeps route present _ := by
    refine ⟨present, fun sent member => ?_⟩
    simp [newSignals] at member
  others _ _ := rfl
  signals sent member := by simp [newSignals] at member
  files _ isWritten := by cases isWritten

/-- What the waiting call leaves when it returns an error. -/
theorem upAtomic_iff_of_waiting (inv : ManagerInv before) {waiting : Manager}
    {written : Option (List String)}
    (holds : UpHolds spec before (before.route? spec.id) waiting)
    (isStarting : waiting.lock = some (.starting spec))
    (isWritten : ∀ path, written = some path → cfgPath spec = some path) :
    UpAtomic spec before waiting.release written ↔
      NothingRuns spec before ∧ WritesOwnFile spec before written := by
  have routes : waiting.routes = stoppedRoutes before (before.route? spec.id) := by
    rcases holds.phase with ⟨_, same⟩ | ⟨_, _, _, isStopping, _⟩
    · exact same
    · rw [isStarting] at isStopping
      cases isStopping
  have routeAfter (id : String) : waiting.release.route? id =
      (stoppedRoutes before (before.route? spec.id)).find? (·.spec.id = id) :=
    congrArg (List.find? _) routes
  obtain ⟨sent, signals, toRoute, term⟩ := holds.signals
  have isNew (signal : SignalSent) :
      signal ∈ newSignals before waiting.release ↔ signal ∈ sent := signal_of_new signals
  constructor
  · intro atomic
    refine ⟨fun route present =>
        ⟨fun isRunning => ?_, fun cmd isCmd other member differs owned => ?_⟩,
      fun isSome other member differs same => ?_⟩
    · -- the call has stopped it
      obtain ⟨kept, _⟩ := atomic.keeps route present isRunning
      have stopped : waiting.release.route? spec.id =
          (before.setRoute route.cmd .stopped none).route? spec.id := by
        rw [routeAfter, present]
        rfl
      rw [stopped, route?_setRoute, present] at kept
      simp only [Option.map_some, if_true, Option.some.injEq] at kept
      rw [← kept] at isRunning
      cases isRunning
    · obtain ⟨signal, isSent, leader⟩ := term route cmd present isCmd
      refine atomic.signals signal ((isNew signal).mpr isSent) other member differs ?_
      rw [SignalSent.reaches, leader]
      exact owned
    · obtain ⟨path, isPath⟩ := Option.isSome_iff_exists.mp isSome
      exact atomic.files path isPath other member differs (same.trans (isWritten path isPath))
  · rintro ⟨nothingRuns, ownFile⟩
    constructor
    case keeps =>
      intro route present isRunning
      exact absurd isRunning (nothingRuns route present).1
    case others =>
      intro id differs
      cases present : before.route? spec.id with
      | none =>
        rw [routeAfter, present]
        rfl
      | some existing =>
        have stopped : waiting.release.route? id =
            (before.setRoute existing.cmd .stopped none).route? id := by
          rw [routeAfter, present]
          rfl
        rw [stopped, route?_setRoute]
        cases isOther : before.route? id with
        | none => rfl
        | some other =>
          obtain ⟨existingListed, isExisting⟩ := route?_mem present
          obtain ⟨otherListed, isId⟩ := route?_mem isOther
          have otherCmd : other.cmd ≠ existing.cmd :=
            cmd_ne_of_id_ne inv existingListed otherListed (by rwa [isId, isExisting])
          simp [otherCmd]
    case signals =>
      intro signal member other otherListed differs reaches
      obtain ⟨route, cmd, isRoute, isCmd, owner⟩ :=
        (toRoute signal ((isNew signal).mp member)).route
      exact (nothingRuns route isRoute).2 cmd isCmd other otherListed differs
        (owner other.cmd reaches)
    case files =>
      intro path isPath other member differs same
      exact ownFile (by simp [isPath]) other member differs
        (same.trans (isWritten path isPath).symm)

/-- A failed `Up` is atomic if and only if it had an empty id, or there was nothing to stop and
    nothing of another route to hit. -/
theorem up_atomic_iff {after : Manager} {written : Option (List String)}
    (reached : daemon.Reachable NewManager before) (failed : UpFails spec before after written) :
    UpAtomic spec before after written ↔
      spec.id = "" ∨ (NothingRuns spec before ∧ WritesOwnFile spec before written) := by
  have inv := reachable_inv reached
  cases failed with
  | emptyId _ isEmpty => exact ⟨fun _ => .inl isEmpty, fun _ => upAtomic_of_emptyId⟩
  | launch truncated named stepped waits isStarting _ =>
    rw [upAtomic_iff_of_waiting inv (upHolds_waiting inv named stepped waits) isStarting
      fun _ => written_eq_some]
    simp [named]

end Holding

/-! ## A failed Up for a running route -/

theorem freshDaemon_isNew : NewManager freshDaemon := by
  simp [NewManager, freshDaemon, ProcessTable.ownerAt]

/-- The binary does not start, and there was no route before. -/
theorem up_atomic_first : ∃ after, UpFails ⟨"a", "vkturn-client"⟩ freshDaemon after none ∧
    UpAtomic ⟨"a", "vkturn-client"⟩ freshDaemon after none := by
  obtain ⟨begun, stepped, isStarting, fails, noFile⟩ : ∃ begun,
      daemonStep freshDaemon (.up ⟨"a", "vkturn-client"⟩) = some begun ∧
        begun.lock = some (.starting ⟨"a", "vkturn-client"⟩) ∧
        begun.launch ⟨"a", "vkturn-client"⟩ "" (.startFails "not found") =
          some (.error (.start "not found")) ∧
        begun.written ⟨"a", "vkturn-client"⟩ "" (.startFails "not found") false = none :=
    ⟨_, rfl, rfl, rfl, rfl⟩
  have failed : UpFails ⟨"a", "vkturn-client"⟩ freshDaemon begun.release none := by
    rw [← noFile]
    exact .launch false (by decide) stepped (.start rfl) isStarting fails
  refine ⟨_, failed, (up_atomic_iff (.start freshDaemon_isNew) failed).mpr (.inr ⟨?_, nofun⟩)⟩
  intro route present
  cases present

/-- A running route is asked to become one of a kind that does not exist. -/
theorem failed_up_stops_route : ¬ ∀ spec before after written, daemon.Reachable NewManager before →
    UpFails spec before after written → UpAtomic spec before after written := by
  intro always
  obtain ⟨before, ran, route, listed, isRunning, begun, stepped, exited, exits, collected, collects,
      waiting, finishes, isStarting, fails, isStopped⟩ : ∃ before,
      daemon.run freshDaemon [.up ⟨"a", "vkturn-client"⟩, .launch "" (.started 100)] =
          some before ∧
        ∃ route, before.route? "a" = some route ∧ route.state = .running ∧
        ∃ begun, daemonStep before (.up ⟨"a", "proxy"⟩) = some begun ∧
        ∃ exited, daemonStep begun (.exit 0) = some exited ∧
        ∃ collected, daemonStep exited (.collect 0) = some collected ∧
        ∃ waiting, daemonStep collected .done = some waiting ∧
        waiting.lock = some (.starting ⟨"a", "proxy"⟩) ∧
        waiting.launch ⟨"a", "proxy"⟩ "" (.started 101) =
          some (.error (.unsupportedKind "proxy")) ∧
        (waiting.release.route? "a").map Route.state = some .stopped :=
    ⟨_, rfl, _, rfl, rfl, _, rfl, _, rfl, _, rfl, _, rfl, rfl, rfl, rfl⟩
  have reached : daemon.Reachable NewManager before := .run (.start freshDaemon_isNew) ran
  have waits : UpWaits begun waiting := by
    have exit : UpWaits begun exited :=
      .step (.start rfl) (show Label.isLaunch (.exit 0) = false from rfl) exits
    have collect : UpWaits begun collected :=
      .step exit (show Label.isLaunch (.collect 0) = false from rfl) collects
    exact .step collect (show Label.isLaunch .done = false from rfl) finishes
  have failed := UpFails.launch false (by decide) stepped waits isStarting fails
  obtain ⟨kept, _⟩ := (always _ _ _ _ reached failed).keeps route listed isRunning
  rw [kept] at isStopped
  simp [isRunning] at isStopped

end VkTurn.Daemon
