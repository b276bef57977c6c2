import VkTurn.Transition.Machine
import VkTurn.Transition.ProcessTable

/-! # The daemon's route manager

`Up`, `Down` and `StopAll` run under `Manager.mu`, which they keep while `stopLocked` waits for
a child.  Children exit by themselves, and the `Wait` of a route's watch goroutine or of
`stopLocked` collects them without the lock; watch takes the lock only afterwards.  The runs of
`daemon` are the interleavings of these steps with each other and with other processes of the
system, which get the pids that are free.
-/

namespace VkTurn.Daemon

open VkTurn.Transition

structure Spec where
  id : String
  kind : String
  deriving DecidableEq

/-- An `*exec.Cmd` that was started, named by its position in `Manager.cmds`. -/
abbrev CmdRef := Nat

structure Cmd where
  pid : Nat
  /-- Ghost: the route it was started for. -/
  routeId : String
  /-- A `Wait` has collected the process. -/
  waited : Bool := false
  /-- The route's watch goroutine has ended. -/
  watched : Bool := false
  deriving DecidableEq

inductive RouteState where
  | idle
  | starting
  | running
  | error
  | stopped
  deriving DecidableEq

/-- A listed route; its command was started before it was listed. -/
structure Route where
  spec : Spec
  cmd : CmdRef
  state : RouteState
  message : String := ""
  deriving DecidableEq

inductive Call where
  | up (spec : Spec)
  | down (id : String)
  | stopAll
  deriving DecidableEq

/-- Where the call that holds `Manager.mu` stands. -/
inductive Holding where
  /-- In the `select` of `stopLocked`; `killed` once the timer has fired. -/
  | stopping (call : Call) (route : Route) (killed : Bool)
  /-- `Up` has stopped the previous runner. -/
  | starting (spec : Spec)
  /-- The loop of `StopAll`. -/
  | draining
  deriving DecidableEq

inductive Signal where
  | term
  | kill
  deriving DecidableEq

/-- One `syscall.Kill(-pid, …)` of `stopLocked`. -/
structure SignalSent where
  signal : Signal
  routeId : String
  cmd : CmdRef
  pid : Nat
  /-- The uncollected process that led the group; the owner is `none` for a foreign one. -/
  leader : Option (Leader (Option CmdRef))
  deriving DecidableEq

structure Manager where
  singboxBin : String
  vkturnBin : String
  routes : List Route
  cmds : List Cmd
  processes : ProcessTable (Option CmdRef)
  lock : Option Holding
  signals : List SignalSent

/-- `NewManager`, on a system where other processes may be running. -/
def NewManager (state : Manager) : Prop :=
  state.routes = [] ∧ state.cmds = [] ∧ state.lock = none ∧ state.signals = [] ∧
    ∀ pid cmd, state.processes.ownerAt pid ≠ some (some cmd)

inductive UpError where
  | emptyId
  | singboxNotFound
  | vkturnNotFound
  | quickNotFound
  | unsupportedKind (kind : String)
  | stageConfig (err : String)
  | start (err : String)
  deriving DecidableEq

/-- What the system makes of the start of a child. -/
inductive Launch where
  /-- `os.WriteFile` fails. -/
  | stageFails (err : String)
  /-- `cmd.Start` fails. -/
  | startFails (err : String)
  | started (pid : Nat)
  deriving DecidableEq

inductive Label where
  | up (spec : Spec)
  | down (id : String)
  | stopAll
  /-- The next route of the loop in `StopAll`. -/
  | stopNext (id : String)
  | stoppedAll
  /-- The five seconds of `stopLocked` are over. -/
  | timeout
  /-- `done` is closed. -/
  | done
  /-- The rest of `Up`, with what `findBinary` returns for awg-quick or wg-quick. -/
  | launch (wgBin : String) (outcome : Launch)
  | exit (cmd : CmdRef)
  /-- `wait4` returns in watch or in the goroutine of `stopLocked`. -/
  | collect (cmd : CmdRef)
  /-- The locked part of watch, with the error of its `Wait`. -/
  | watched (cmd : CmdRef) (err : Option String)
  | foreignSpawn (pid : Nat)
  | foreignExit (pid : Nat)
  | foreignCollect (pid : Nat)
  deriving DecidableEq

namespace Manager

def route? (state : Manager) (id : String) : Option Route :=
  state.routes.find? (·.spec.id = id)

/-- `m.routes[spec.ID] = r`. -/
def put (state : Manager) (route : Route) : Manager :=
  { state with routes := route :: state.routes.filter (·.spec.id ≠ route.spec.id) }

def delete (state : Manager) (id : String) : Manager :=
  { state with routes := state.routes.filter (·.spec.id ≠ id) }

/-- Updates the route that a pointer to it names, when it is still listed. -/
def setRoute (state : Manager) (cmd : CmdRef) (routeState : RouteState) (message : Option String) :
    Manager :=
  { state with
    routes := state.routes.map fun route =>
      if route.cmd = cmd then
        { route with state := routeState, message := message.getD route.message }
      else route }

def release (state : Manager) : Manager :=
  { state with lock := none }

def kill (state : Manager) (signal : Signal) (route : Route) : Manager :=
  match state.cmds[route.cmd]? with
  | none => state
  | some cmd =>
    { state with
      signals := state.signals ++
        [⟨signal, route.spec.id, route.cmd, cmd.pid, state.processes cmd.pid⟩] }

/-- `stopLocked`, up to its `select`. -/
def stopLocked (state : Manager) (call : Call) (route : Route) : Manager :=
  { state.kill .term route with lock := some (.stopping call route false) }

/-- What the caller of `stopLocked` does next. -/
def afterStop (state : Manager) (route : Route) : Call → Manager
  | .up spec => { state with lock := some (.starting spec) }
  | .down id => (state.delete id).release
  | .stopAll => { state.delete route.spec.id with lock := some .draining }

/-- The checks of `Up` before it starts the command, and whether it stages a file. -/
def prepare (state : Manager) (spec : Spec) (wgBin : String) : Except UpError Bool :=
  if spec.kind = "sing-box" then
    if state.singboxBin = "" then .error .singboxNotFound else .ok true
  else if spec.kind = "vkturn-client" then
    if state.vkturnBin = "" then .error .vkturnNotFound else .ok false
  else if spec.kind = "wireguard" then
    if wgBin = "" then .error .quickNotFound else .ok true
  else .error (.unsupportedKind spec.kind)

/-- `Up` from the new route on. -/
def launch (state : Manager) (spec : Spec) (wgBin : String) (outcome : Launch) :
    Option (Except UpError Manager) :=
  match state.prepare spec wgBin, outcome with
  | .error err, _ => some (.error err)
  | .ok stages, .stageFails err => if stages then some (.error (.stageConfig err)) else none
  | .ok _, .startFails err => some (.error (.start err))
  | .ok _, .started pid =>
    (state.processes.spawn pid (some state.cmds.length)).map fun processes =>
      let route : Route := ⟨spec, state.cmds.length, .running, ""⟩
      let cmds := state.cmds ++ [⟨pid, spec.id, false, false⟩]
      .ok ({ state with processes := processes, cmds := cmds }.put route).release

def isWaited (state : Manager) (cmd : CmdRef) : Bool :=
  state.cmds[cmd]?.any Cmd.waited

/-- `wait4` collects the process of a command. -/
def collect (state : Manager) (ref : CmdRef) : Option Manager :=
  match state.cmds[ref]? with
  | none => none
  | some cmd =>
    if cmd.waited then none
    else
      (state.processes.collect cmd.pid).map fun processes =>
        { state with
          processes := processes
          cmds := state.cmds.set ref { cmd with waited := true } }

/-- The route states that watch sets. -/
def watch (state : Manager) (ref : CmdRef) (err : Option String) : Option Manager :=
  match state.cmds[ref]? with
  | none => none
  | some cmd =>
    if cmd.waited ∧ ¬ cmd.watched ∧ state.lock = none then
      let state := { state with cmds := state.cmds.set ref { cmd with watched := true } }
      match err with
      | some err => some (state.setRoute ref .error (some err))
      | none => some (state.setRoute ref .stopped none)
    else none

/-- A step of a process that the manager did not start. -/
def foreign (state : Manager) (pid : Nat)
    (next : ProcessTable (Option CmdRef) → Nat → Option (ProcessTable (Option CmdRef))) :
    Option Manager :=
  if state.processes.ownerAt pid = some none then
    (next state.processes pid).map fun processes => { state with processes := processes }
  else none

end Manager

open Manager in
def daemonStep (state : Manager) : Label → Option Manager
  | .up spec =>
    if state.lock.isSome then none
    else if spec.id = "" then some state
    else
      match state.route? spec.id with
      | some existing => some (state.stopLocked (.up spec) existing)
      | none => some { state with lock := some (.starting spec) }
  | .down id =>
    if state.lock.isSome then none
    else
      match state.route? id with
      | some route => some (state.stopLocked (.down id) route)
      | none => some state
  | .stopAll =>
    if state.lock.isSome then none else some { state with lock := some .draining }
  | .stopNext id =>
    if state.lock = some .draining then
      (state.route? id).map fun route => state.stopLocked .stopAll route
    else none
  | .stoppedAll =>
    if state.lock = some .draining ∧ state.routes = [] then some state.release else none
  | .timeout =>
    match state.lock with
    | some (.stopping call route false) =>
      some { state.kill .kill route with lock := some (.stopping call route true) }
    | _ => none
  | .done =>
    match state.lock with
    | some (.stopping call route _) =>
      if state.isWaited route.cmd then
        some ((state.setRoute route.cmd .stopped none).afterStop route call)
      else none
    | _ => none
  | .launch wgBin outcome =>
    match state.lock with
    | some (.starting spec) =>
      (state.launch spec wgBin outcome).map fun
        | .ok next => next
        -- the error return leaves a route that was stopped before listed
        | .error _ => state.release
    | _ => none
  | .exit ref =>
    match state.cmds[ref]? with
    | none => none
    | some cmd =>
      if cmd.waited then none
      else (state.processes.exit cmd.pid).map fun processes => { state with processes := processes }
  | .collect ref => state.collect ref
  | .watched ref err => state.watch ref err
  | .foreignSpawn pid =>
    (state.processes.spawn pid none).map fun processes => { state with processes := processes }
  | .foreignExit pid => state.foreign pid ProcessTable.exit
  | .foreignCollect pid => state.foreign pid ProcessTable.collect

def daemon : Machine Manager Label := ⟨daemonStep⟩

end VkTurn.Daemon
