import Mathlib.Algebra.Ring.Int.Defs
import VkTurn.Frontend.RouteSupervisor
import VkTurn.Launcher.ProxyArgs

/-! # The runner of one vk-turn-proxy client

Three collectors follow the process: one for each output stream and one for its exits.  Each
takes an event and then handles it, so that an event taken before the collectors are cancelled
is still handled afterwards.
-/

namespace VkTurn.Frontend

open VkTurn.Launcher

/-- What `ProxyEvents.parse` makes of an output line. -/
inductive ProxyEvent where
  | caps (version : Int) (capabilities : List String)
  | statusPhase (phase : String)
  | lockout (seconds : Int)
  | captchaPrompt (state url userAgent : String)
  | telemetry (sessionMode : String) (activeStreams connectedStreams : Int)
      (streams : List StreamTelemetry)
  | raw
  | unknown
  deriving DecidableEq

structure Exit where
  code : Int
  killed : Bool
  deriving DecidableEq

inductive ProcessState where
  | absent
  | running
  | exited (code : Int)
  deriving DecidableEq

structure ProcessHost where
  process : ProcessState := .absent
  wasKilled : Bool := false
  /-- The coroutine that emits the exit of the process has not done so yet. -/
  awaited : Bool := false
  /-- Calls of `stop` that wait for the grace period. -/
  stopping : Nat := 0
  /-- Calls of `stop` that have destroyed the process forcibly. -/
  forcing : Nat := 0
  /-- `exits`, as far as the collector has not taken them. -/
  exits : List Exit := []
  deriving DecidableEq

structure VkTurnRunner where
  status : RouteStatus
  /-- `effectiveStreams` of the route. -/
  effectiveStreams : Int
  host : Option ProcessHost
  cancelled : Bool := false
  /-- The line of stdout (`false`) or stderr that its collector is handling. -/
  handlingLine : Bool → Option ProxyEvent := fun _ => none
  handlingExit : Option Exit := none

inductive RunnerEvent where
  | takeLine (isStderr : Bool) (event : ProxyEvent)
  | handleLine (isStderr : Bool)
  | takeExit
  | handleExit
  /-- The process exits. -/
  | exit (code : Int)
  | emitExit
  /-- `waitFor` of a `stop` times out. -/
  | graceOver
  | emitForcedExit
  deriving DecidableEq

inductive SpawnOutcome where
  | binaryNotFound
  | fails (message : String)
  /-- The process runs; the given events come before `start` sets its last status. -/
  | spawned (early : List RunnerEvent)
  deriving DecidableEq

structure VkTurnStart where
  routeLabel : String
  effectiveStreams : Int
  outcome : SpawnOutcome
  deriving DecidableEq

/-! ## Handling of events -/

def RouteStatus.applyPhase (current : RouteStatus) (phase : String) : RouteStatus :=
  let nextState : RouteState :=
    if phase = "auth_ready" ∨ phase = "turn_ready" then .connecting
    else if phase = "dtls_ready" ∨ phase = "ok" ∨ phase = "dtls_alive" then .connected
    else current.state
  { current with
    state := nextState, message := if nextState = .connected then "" else current.message }

def RouteStatus.applyCaptcha (current : RouteStatus) (state url userAgent : String) :
    RouteStatus :=
  if state = "required" ∨ state = "prompt" then
    { current with
      state := .captcha
      captchaUrl := some (if url = "" then "http://localhost:8765" else url)
      captchaUserAgent := if isNotBlank userAgent then some userAgent else none
      message := "Нужно решить капчу" }
  else if state = "solved" ∨ state = "done" ∨ state = "cleared" then
    { current with captchaUrl := none, captchaUserAgent := none }
  else if state = "cancelled" ∨ state = "aborted" then
    { current with state := .error, captchaUrl := none, message := "Капча отменена" }
  else current

def RouteStatus.consume (current : RouteStatus) (effectiveStreams : Int) :
    ProxyEvent → RouteStatus
  | .caps version capabilities =>
    { current with capsVersion := version, capabilities := capabilities }
  | .statusPhase phase => current.applyPhase phase
  | .lockout seconds =>
    { current with
      state := .lockout
      lockoutSecondsRemaining := seconds
      message := "Captcha cooldown: " ++ toString seconds ++ "s" }
  | .captchaPrompt state url userAgent => current.applyCaptcha state url userAgent
  | .telemetry sessionMode activeStreams connectedStreams streams =>
    { current with
      sessionMode := if sessionMode = "" then current.sessionMode else sessionMode
      activeStreams := activeStreams
      connectedStreams := connectedStreams
      streams := streams
      totalStreams := max current.totalStreams (max activeStreams effectiveStreams)
      outBytes := (streams.map StreamTelemetry.outBytes).sum
      inBytes := (streams.map StreamTelemetry.inBytes).sum }
  | .raw | .unknown => current

def RouteStatus.exited (current : RouteStatus) (exit : Exit) : RouteStatus :=
  let isError : Bool := !exit.killed && exit.code ≠ 0
  { current with
    state := if isError then .error else .idle
    message := if isError then "Процесс завершён (exit=" ++ toString exit.code ++ ")" else "" }

namespace VkTurnRunner

/-! ## The life of a runner -/

def setLine (runner : VkTurnRunner) (isStderr : Bool) (event : Option ProxyEvent) : VkTurnRunner :=
  { runner with handlingLine := Function.update runner.handlingLine isStderr event }

/-- A collector takes an event when it is neither busy nor cancelled. -/
def takeLine (runner : VkTurnRunner) (isStderr : Bool) (event : ProxyEvent) :
    Option VkTurnRunner :=
  match runner.host with
  | none => none
  | some host =>
    if host.process = .absent ∨ runner.cancelled ∨ (runner.handlingLine isStderr).isSome then none
    else some (runner.setLine isStderr (some event))

def handleLine (runner : VkTurnRunner) (isStderr : Bool) : Option VkTurnRunner :=
  (runner.handlingLine isStderr).map fun event =>
    { runner.setLine isStderr none with
      status := runner.status.consume runner.effectiveStreams event }

def takeExit (runner : VkTurnRunner) : Option VkTurnRunner :=
  match runner.host with
  | none => none
  | some host =>
    match host.exits with
    | [] => none
    | exit :: rest =>
      if runner.cancelled ∨ runner.handlingExit.isSome then none
      else
        let host := { host with exits := rest }
        some { runner with host := some host, handlingExit := some exit }

def handleExit (runner : VkTurnRunner) : Option VkTurnRunner :=
  runner.handlingExit.map fun exit =>
    { runner with status := runner.status.exited exit, handlingExit := none }

def withHost (runner : VkTurnRunner) (change : ProcessHost → Option ProcessHost) :
    Option VkTurnRunner :=
  runner.host.bind fun host => (change host).map fun host => { runner with host := some host }

def react (runner : VkTurnRunner) : RunnerEvent → Option VkTurnRunner
  | .takeLine isStderr event => runner.takeLine isStderr event
  | .handleLine isStderr => runner.handleLine isStderr
  | .takeExit => runner.takeExit
  | .handleExit => runner.handleExit
  | .exit code => runner.withHost fun host =>
    if host.process = .running then some { host with process := .exited code } else none
  | .emitExit => runner.withHost fun host =>
    match host.process with
    | .exited code =>
      if host.awaited then
        let killed : Bool := code ≠ 0 ∧ host.wasKilled
        some { host with awaited := false, exits := host.exits ++ [⟨code, killed⟩] }
      else none
    | _ => none
  | .graceOver => runner.withHost fun host =>
    if host.process = .running ∧ 0 < host.stopping then
      some { host with stopping := host.stopping - 1, forcing := host.forcing + 1 }
    else none
  | .emitForcedExit => runner.withHost fun host =>
    match host.process with
    | .exited code =>
      if 0 < host.forcing then
        some { host with forcing := host.forcing - 1, exits := host.exits ++ [⟨code, true⟩] }
      else none
    | _ => none

def start (routeId : String) (how : VkTurnStart) : Option VkTurnRunner :=
  let initial : RouteStatus :=
    { routeId := routeId, routeLabel := how.routeLabel, state := .starting,
      totalStreams := how.effectiveStreams }
  match how.outcome with
  | .binaryNotFound =>
    let status := { initial with state := .error, message := "vk-turn-proxy бинарник не найден" }
    some { status := status, effectiveStreams := how.effectiveStreams, host := none }
  | .fails message =>
    let status := { initial with state := .error, message := "Не удалось запустить: " ++ message }
    some { status := status, effectiveStreams := how.effectiveStreams, host := some {} }
  | .spawned early =>
    let host : ProcessHost := { process := .running, awaited := true }
    let spawned : VkTurnRunner :=
      { status := initial, effectiveStreams := how.effectiveStreams, host := some host }
    (early.foldlM react spawned).map fun runner =>
      { runner with status := { runner.status with state := .connecting } }

def stop (runner : VkTurnRunner) : VkTurnRunner :=
  match runner.host with
  | none => runner
  | some host =>
    let stopped :=
      if host.process = .absent then host
      else { host with wasKilled := true, stopping := host.stopping + 1 }
    { runner with status := { runner.status with state := .stopping }, host := some stopped }

def cancel (runner : VkTurnRunner) : VkTurnRunner := { runner with cancelled := true }

end VkTurnRunner

def vkTurnRunner : Runner VkTurnRunner VkTurnStart RunnerEvent where
  start := VkTurnRunner.start
  status := VkTurnRunner.status
  stop := VkTurnRunner.stop
  cancel := VkTurnRunner.cancel
  react := VkTurnRunner.react

end VkTurn.Frontend
