import Mathlib.Logic.Function.Basic
import VkTurn.Frontend.RouteStatus
import VkTurn.Transition.Machine

/-! # The system VPN of the desktop

`DesktopVkTurnVpnRunner` runs the vk-turn client and, once it is connected, has the daemon raise a
WireGuard tunnel over it.  `start`, `stop` and `dispose` are called one at a time.  Beside the
caller run the collector of the client's status, the collector of the tunnel's status, and the
coroutines that `maybeScheduleWg` launches; each launch makes one `DaemonRouteRunner` and is named
by its position in the order of the launches.

The client appears by what it publishes, on its own threads.
-/

namespace VkTurn.Frontend

open VkTurn.Transition

structure DesktopRoute where
  id : String
  label : String
  effectiveStreams : Int
  deriving DecidableEq

/-- `VkTurnRunner`, as far as it is seen from outside. -/
structure VkClient where
  status : RouteStatus := { routeId := "", routeLabel := "" }
  /-- A process host was made. -/
  hosted : Bool := false
  running : Bool := false
  /-- Exits of processes that are not published yet. -/
  exits : Nat := 0
  deriving DecidableEq

inductive LaunchPhase where
  | scheduled
  /-- `wg = runner`. -/
  | installed
  /-- The runner knows its `daemonRouteId`. -/
  | identified
  | connected
  /-- The daemon has raised the tunnel and has not replied yet. -/
  | raised
  | returned
  | ended
  deriving DecidableEq

/-- A coroutine of `maybeScheduleWg` with its `DaemonRouteRunner`. -/
structure Launch where
  routeId : String
  phase : LaunchPhase := .scheduled
  daemonRouteId : Option String := none
  state : RouteState := .idle
  /-- The daemon's logs and states reach the runner. -/
  subscribed : Bool := false
  disposed : Bool := false
  deriving DecidableEq

/-- A `teardownWg` under way, before or after `wg?.dispose()`. -/
structure Teardown where
  disposed : Bool := false
  resetArm : Bool
  deriving DecidableEq

inductive DesktopThread where
  | caller
  | vkJob (generation : Nat)
  | wgJob (launch : Nat)
  | launch (launch : Nat)
  deriving DecidableEq

inductive DesktopCall where
  | start (route : DesktopRoute)
  | stop
  | dispose
  deriving DecidableEq

/-- The next statement of the call, after the `teardownWg` it begins with. -/
inductive CallPhase where
  | idle
  | stopVk (call : DesktopCall)
  | activate (route : DesktopRoute)
  | spawn (route : DesktopRoute)
  | spawned
  | rebuild
  | cancelScope
  deriving DecidableEq

inductive VkSpawn where
  | binaryNotFound
  | fails (message : String)
  | spawned
  deriving DecidableEq

structure DesktopVpn where
  call : CallPhase := .idle
  vk : VkClient := {}
  activeRoute : Option DesktopRoute := none
  /-- `vkJob` is not cancelled. -/
  collecting : Bool := false
  /-- How many collectors of the client's status there were. -/
  generation : Nat := 0
  /-- What the current one collected last. -/
  seen : Option RouteStatus := none
  wg : Option Nat := none
  wgJob : Option Nat := none
  wgArmScheduled : Bool := false
  launches : Nat → Option Launch := fun _ => none
  next : Nat := 0
  tearing : List (DesktopThread × Teardown) := []
  /-- The scope of the coroutines is cancelled. -/
  cancelled : Bool := false
  /-- The daemon's routes that are up. -/
  tunnel : String → Bool := fun _ => false

inductive DesktopLabel where
  | call (call : DesktopCall)
  | stopVk
  | activate
  | spawn (outcome : VkSpawn)
  | started
  | rebuild
  | cancelScope
  /-- The client publishes a status for what its process has written. -/
  | vkStatus (status : RouteStatus)
  | vkExit
  | vkExitStatus (status : RouteStatus)
  /-- The collector of the client's status. -/
  | collect
  /-- The collector of the tunnel's status; it may do so at any time. -/
  | watch
  /-- The next half of the thread's `teardownWg`; `downOk` is the daemon's answer, if it is asked. -/
  | teardown (thread : DesktopThread) (downOk : Bool)
  | install (launch : Nat)
  | identify (launch : Nat)
  | connect (launch : Nat) (ok : Bool)
  | up (launch : Nat) (ok : Bool)
  | reply (launch : Nat)
  | finish (launch : Nat)
  | wgStatus (launch : Nat) (state : RouteState)
  /-- The daemon's child ends by itself. -/
  | tunnelEnds (daemonRouteId : String)

/-- The states in which `rebuildStatus` takes the tunnel down. -/
def RouteStatus.isDown (status : RouteStatus) : Bool :=
  status.state = .idle ∨ status.state = .error ∨ status.state = .lockout

def VkClient.stop (vk : VkClient) : VkClient :=
  if vk.hosted then { vk with status := { vk.status with state := .stopping } } else vk

/-- `VkTurnRunner.start` of a client that is not running, up to the start of the process. -/
def VkClient.start (vk : VkClient) (route : DesktopRoute) (outcome : VkSpawn) : VkClient :=
  let initial : RouteStatus :=
    { routeId := route.id, routeLabel := route.label, state := .starting
      totalStreams := route.effectiveStreams }
  match outcome with
  | .binaryNotFound =>
    { vk with status :=
        { initial with state := .error, message := "vk-turn-proxy бинарник не найден" } }
  | .fails message =>
    { vk with
      status := { initial with state := .error, message := "Не удалось запустить: " ++ message }
      hosted := true }
  | .spawned => { vk with status := initial, hosted := true, running := true }

namespace DesktopVpn

variable (vpn : DesktopVpn)

def Busy (thread : DesktopThread) : Prop := thread ∈ vpn.tearing.map Prod.fst

instance (thread : DesktopThread) : Decidable (vpn.Busy thread) :=
  inferInstanceAs (Decidable (thread ∈ vpn.tearing.map Prod.fst))

def setLaunch (launch : Nat) (changed : Launch) : DesktopVpn :=
  { vpn with launches := Function.update vpn.launches launch (some changed) }

def beginTeardown (thread : DesktopThread) (resetArm : Bool) : DesktopVpn :=
  { vpn with tearing := (thread, { resetArm := resetArm }) :: vpn.tearing }

/-- `rebuildStatus`, as far as it reacts; `some resetArm` when it tears the tunnel down. -/
def rebuildTeardown : Option Bool :=
  match vpn.activeRoute with
  | none => none
  | some _ =>
    if vpn.vk.status.isDown then some true
    else
      match vpn.wg.bind vpn.launches with
      | none => none
      | some launch => if launch.state = .error then some false else none

def rebuildStatus (thread : DesktopThread) : DesktopVpn :=
  match vpn.rebuildTeardown with
  | none => vpn
  | some resetArm => vpn.beginTeardown thread resetArm

def maybeScheduleWg : DesktopVpn :=
  match vpn.activeRoute with
  | none => vpn
  | some route =>
    if vpn.vk.status.state = .connected ∧ vpn.wg = none ∧ vpn.wgArmScheduled = false then
      { vpn.setLaunch vpn.next { routeId := route.id } with
        next := vpn.next + 1, wgArmScheduled := true }
    else vpn

def collect : Option DesktopVpn :=
  if vpn.collecting ∧ ¬ vpn.Busy (.vkJob vpn.generation) ∧ vpn.seen ≠ some vpn.vk.status then
    some (({ vpn with seen := some vpn.vk.status }.maybeScheduleWg).rebuildStatus
      (.vkJob vpn.generation))
  else none

def watch : Option DesktopVpn :=
  match vpn.wgJob with
  | none => none
  | some launch =>
    if vpn.cancelled ∨ vpn.Busy (.wgJob launch) then none
    else some (vpn.rebuildStatus (.wgJob launch))

/-- `wg?.dispose()`; a runner that does not know its route id yet does not ask the daemon. -/
def disposeWg (downOk : Bool) : DesktopVpn :=
  match vpn.wg with
  | none => vpn
  | some position =>
    match vpn.launches position with
    | none => vpn
    | some launch =>
      match launch.daemonRouteId with
      | none => vpn.setLaunch position { launch with disposed := true }
      | some daemonRouteId =>
        { vpn.setLaunch position { launch with state := .idle, disposed := true } with
          tunnel :=
            if downOk then Function.update vpn.tunnel daemonRouteId false else vpn.tunnel }

def teardown (thread : DesktopThread) (downOk : Bool) : Option DesktopVpn :=
  match vpn.tearing.find? (·.1 = thread) with
  | none => none
  | some (_, { disposed := false, .. }) =>
    some { vpn.disposeWg downOk with
      wgJob := none
      tearing := vpn.tearing.map fun entry =>
        if entry.1 = thread then (thread, { entry.2 with disposed := true }) else entry }
  | some (_, { disposed := true, resetArm }) =>
    some { vpn with
      wg := none
      wgArmScheduled := vpn.wgArmScheduled && !resetArm
      tearing := vpn.tearing.filter (·.1 ≠ thread) }

/-! ## The coroutines -/

/-- A step of a launch in the given phase. -/
def onLaunch (position : Nat) (phase : LaunchPhase) (change : Launch → Option DesktopVpn) :
    Option DesktopVpn :=
  match vpn.launches position with
  | none => none
  | some launch => if launch.phase = phase then change launch else none

def install (position : Nat) : Option DesktopVpn :=
  vpn.onLaunch position .scheduled fun launch =>
    if vpn.cancelled then none
    else
      some { vpn.setLaunch position { launch with phase := .installed } with wg := some position }

def identify (position : Nat) : Option DesktopVpn :=
  vpn.onLaunch position .installed fun launch =>
    let launch := { launch with
      phase := .identified
      daemonRouteId := some (launch.routeId ++ "-vk-wg-tun")
      state := .starting }
    some { vpn.setLaunch position launch with wgJob := some position }

def connect (position : Nat) (ok : Bool) : Option DesktopVpn :=
  vpn.onLaunch position .identified fun launch =>
    let launch :=
      if ok then { launch with phase := .connected }
      else { launch with phase := .returned, state := .error }
    some (vpn.setLaunch position launch)

/-- The daemon answers `up`. -/
def up (position : Nat) (ok : Bool) : Option DesktopVpn :=
  vpn.onLaunch position .connected fun launch =>
    launch.daemonRouteId.map fun daemonRouteId =>
      if ok then
        { vpn.setLaunch position { launch with phase := .raised } with
          tunnel := Function.update vpn.tunnel daemonRouteId true }
      else vpn.setLaunch position { launch with phase := .returned, state := .error }

def reply (position : Nat) : Option DesktopVpn :=
  vpn.onLaunch position .raised fun launch =>
    some (vpn.setLaunch position
      { launch with phase := .returned, state := .connecting, subscribed := true })

def finish (position : Nat) : Option DesktopVpn :=
  vpn.onLaunch position .returned fun launch =>
    if vpn.Busy (.launch position) then none
    else
      some ((vpn.setLaunch position { launch with phase := .ended }).rebuildStatus
        (.launch position))

def wgStatus (position : Nat) (state : RouteState) : Option DesktopVpn :=
  match vpn.launches position with
  | none => none
  | some launch =>
    if launch.subscribed then some (vpn.setLaunch position { launch with state := state })
    else none

/-! ## The calls -/

def begin (call : DesktopCall) : Option DesktopVpn :=
  if vpn.call = .idle ∧ ¬ vpn.Busy .caller then
    let keeps : Bool := vpn.collecting ∧ call = .stop
    some ({ vpn with call := .stopVk call, collecting := keeps }.beginTeardown .caller true)
  else none

/-- The statements of a call after its teardown. -/
def advance (label : DesktopLabel) : Option DesktopVpn :=
  if vpn.Busy .caller then none
  else
    match vpn.call, label with
    | .stopVk call, .stopVk =>
      let call : CallPhase :=
        match call with
        | .start route => .activate route
        | .stop => .rebuild
        | .dispose => .cancelScope
      some { vpn with vk := vpn.vk.stop, call := call }
    | .activate route, .activate =>
      some { vpn with
        activeRoute := some route, collecting := !vpn.cancelled
        generation := vpn.generation + 1, seen := none, call := .spawn route }
    | .spawn route, .spawn outcome =>
      if vpn.vk.running then some { vpn with call := .rebuild }
      else
        some { vpn with
          vk := vpn.vk.start route outcome
          call := if outcome = .spawned then .spawned else .rebuild }
    | .spawned, .started =>
      let vk := { vpn.vk with status := { vpn.vk.status with state := .connecting } }
      some { vpn with vk := vk, call := .rebuild }
    | .rebuild, .rebuild => some ({ vpn with call := .idle }.rebuildStatus .caller)
    | .cancelScope, .cancelScope => some { vpn with cancelled := true, call := .idle }
    | _, _ => none

/-! ## The client -/

def vkStatus (status : RouteStatus) : Option DesktopVpn :=
  if vpn.vk.hosted then some { vpn with vk := { vpn.vk with status := status } } else none

def vkExit : Option DesktopVpn :=
  if vpn.vk.running then
    some { vpn with vk := { vpn.vk with running := false, exits := vpn.vk.exits + 1 } }
  else none

def vkExitStatus (status : RouteStatus) : Option DesktopVpn :=
  if 0 < vpn.vk.exits ∧ (status.state = .idle ∨ status.state = .error) then
    some { vpn with vk := { vpn.vk with exits := vpn.vk.exits - 1, status := status } }
  else none

end DesktopVpn

def desktopStep (vpn : DesktopVpn) : DesktopLabel → Option DesktopVpn
  | .call call => vpn.begin call
  | .vkStatus status => vpn.vkStatus status
  | .vkExit => vpn.vkExit
  | .vkExitStatus status => vpn.vkExitStatus status
  | .collect => vpn.collect
  | .watch => vpn.watch
  | .teardown thread downOk => vpn.teardown thread downOk
  | .install position => vpn.install position
  | .identify position => vpn.identify position
  | .connect position ok => vpn.connect position ok
  | .up position ok => vpn.up position ok
  | .reply position => vpn.reply position
  | .finish position => vpn.finish position
  | .wgStatus position state => vpn.wgStatus position state
  | .tunnelEnds daemonRouteId =>
    some { vpn with tunnel := Function.update vpn.tunnel daemonRouteId false }
  | label => vpn.advance label

def desktopVpn : Machine DesktopVpn DesktopLabel := ⟨desktopStep⟩

end VkTurn.Frontend
