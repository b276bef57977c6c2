import Mathlib.Logic.Function.Basic
import VkTurn.Panel.DesiredSpecs
import VkTurn.Transition.Machine

/-! # The service that runs the servers

`VKTurnProxyService` keeps the processes of the VK TURN inbounds.  Every section under its mutex
is one step, except `EnsureRunning`: it reads the database, waits for processes and may download
the server while it holds the mutex, and processes exit meanwhile, so it takes one step for each
process.  Between the sections of one call any other call can run.
-/

namespace VkTurn.Panel

open VkTurn.Transition

/-- `Spec.Key`. -/
def Spec.key (spec : Spec) : String :=
  String.intercalate "\x00" [toString spec.id, spec.listen, spec.connect, spec.sessionMode,
    spec.wbStreamRoomID, spec.wbStreamDisplayName, spec.wbStreamE2ESecret]

/-- A child process that was started; it runs until it has been waited for. -/
structure ServerProcess where
  spec : Spec
  running : Bool := true

inductive RuntimeCall where
  /-- On the way to `EnsureRunning`, or in it. -/
  | ensuring
  /-- `UpdateBinary` or `UploadCustomBinary`, while it replaces the file. -/
  | replacing (previousManualStop : Bool)
  | returned
  deriving DecidableEq

inductive EnsureStage where
  | reaping (pending : List Int)
  | starting (pending : List Int) (failed : Bool)
  deriving DecidableEq

/-- The `EnsureRunning` that holds the mutex. -/
structure Ensuring where
  caller : Nat
  desired : List (Int × Spec)
  stage : EnsureStage

structure ProxyRuntime where
  /-- The map of the service, from the ids of inbounds to handles of processes. -/
  processes : List (Int × Nat) := []
  /-- Every process that was ever started, by its handle. -/
  started : Nat → Option ServerProcess := fun _ => none
  manualStop : Bool := false
  manualStopLoaded : Bool := false
  /-- The setting that keeps `manualStop` over restarts of the panel. -/
  stored : Bool := false
  calls : Nat → Option RuntimeCall := fun _ => none
  ensuring : Option Ensuring := none
  /-- What the user asked for last, where `true` is a stop.  The code does not keep it. -/
  requested : Option Bool := none

/-- What `loadDesiredSpecs` reads. -/
structure InboundQuery where
  clock : Clock
  db : Database
  targetFails : Int → Bool

def InboundQuery.desired (query : InboundQuery) : List (Int × Spec) :=
  loadDesiredSpecs query.clock query.db query.targetFails

/-- The `EnsureRunning` has nothing left to do, and no error to return. -/
def Ensuring.succeeds (ensuring : Ensuring) : Bool :=
  match ensuring.stage with
  | .reaping pending => pending.isEmpty && ensuring.desired.isEmpty
  | .starting pending failed => pending.isEmpty && !failed

namespace ProxyRuntime

def running (runtime : ProxyRuntime) (handle : Nat) : Bool :=
  (runtime.started handle).any ServerProcess.running

def tracks (runtime : ProxyRuntime) (handle : Nat) : Bool :=
  runtime.processes.any fun entry => entry.2 = handle

/-- The inbound is desired, and its process runs with the desired key. -/
def upToDate (runtime : ProxyRuntime) (desired : List (Int × Spec)) (inboundID : Int)
    (handle : Nat) : Bool :=
  match desired.lookup inboundID, runtime.started handle with
  | some spec, some process => process.running && process.spec.key = spec.key
  | _, _ => false

def exit (runtime : ProxyRuntime) (gone : Nat → Bool) : ProxyRuntime :=
  { runtime with
    started := fun handle => (runtime.started handle).map fun process =>
      { process with running := process.running && !gone handle } }

def setCall (runtime : ProxyRuntime) (call : Nat) (state : RuntimeCall) : ProxyRuntime :=
  { runtime with calls := Function.update runtime.calls call (some state) }

def ensureManualStopLoadedLocked (runtime : ProxyRuntime) (fails : Bool) : ProxyRuntime :=
  if runtime.manualStopLoaded then runtime
  else
    { runtime with
      manualStopLoaded := true
      manualStop := if fails then runtime.manualStop else runtime.stored }

def persistManualStopLocked (runtime : ProxyRuntime) (value fails : Bool) : ProxyRuntime :=
  { runtime with
    manualStop := value
    manualStopLoaded := true
    stored := if fails then runtime.stored else value }

/-- A request of the user reaches the service. -/
def request (runtime : ProxyRuntime) (wanted fails : Bool) : ProxyRuntime :=
  { runtime.persistManualStopLocked wanted fails with requested := some wanted }

/-- `stopAllLocked`; the processes in `survives` do not exit after SIGKILL. -/
def stopAllLocked (runtime : ProxyRuntime) (survives : Nat → Bool) : ProxyRuntime :=
  { runtime.exit fun handle => runtime.tracks handle && !survives handle with processes := [] }

def stopAllFails (runtime : ProxyRuntime) (survives : Nat → Bool) : Bool :=
  runtime.processes.any fun entry => runtime.running entry.2 && survives entry.2

/-- The body of the loop of `EnsureRunning` over the processes. -/
def reap (runtime : ProxyRuntime) (desired : List (Int × Spec)) (inboundID : Int)
    (survives : Bool) : ProxyRuntime :=
  match runtime.processes.lookup inboundID with
  | none => runtime
  | some handle =>
    if runtime.upToDate desired inboundID handle then runtime
    else
      -- the entry goes also when `Stop` has failed
      { runtime.exit fun other => other = handle && !survives with
        processes := runtime.processes.filter fun entry => entry.1 ≠ inboundID }

/-- `Start` of a new process. -/
def launch (runtime : ProxyRuntime) (inboundID : Int) (handle : Nat) (spec : Spec) :
    ProxyRuntime :=
  { runtime with
    started := Function.update runtime.started handle (some ⟨spec, true⟩)
    processes := (inboundID, handle) :: runtime.processes }

def ensureReturns (runtime : ProxyRuntime) (caller : Nat) : ProxyRuntime :=
  { runtime.setCall caller .returned with ensuring := none }

def setStage (runtime : ProxyRuntime) (ensuring : Ensuring) (stage : EnsureStage) :
    ProxyRuntime :=
  { runtime with ensuring := some { ensuring with stage } }

end ProxyRuntime

inductive RuntimeLabel where
  | stopAll (call : Nat) (persistFails : Bool) (survives : Nat → Bool)
  | startAll (call : Nat) (persistFails : Bool)
  | restartAll (call : Nat) (persistFails : Bool) (survives : Nat → Bool)
  | shutdownForRestart (call : Nat) (survives : Nat → Bool)
  /-- `UpdateBinary` or `UploadCustomBinary` up to the download or the upload. -/
  | replaceBinary (call : Nat) (loadFails : Bool) (survives : Nat → Bool)
  /-- The file is replaced, or that has failed. -/
  | replaced (call : Nat) (persistFails : Bool)
  /-- `EnsureRunning` takes the mutex, for one of the other calls or for the cron job; the query
      for the inbounds fails when there is no `query`. -/
  | ensureRunning (call : Nat) (loadFails : Bool) (query : Option InboundQuery)
  | reap (inboundID : Int) (survives : Bool)
  | ensureBinary (fails : Bool)
  | startProcess (inboundID : Int) (handle : Nat) (fails : Bool)
  | ensureReturns
  | exits (handle : Nat)

section Machine

variable (runtime : ProxyRuntime)

/-- A call for which the mutex is free and the number is new. -/
def ProxyRuntime.accepts (call : Nat) : Bool :=
  runtime.ensuring.isNone && (runtime.calls call).isNone

def restartAll (call : Nat) (persistFails : Bool) (survives : Nat → Bool) : ProxyRuntime :=
  let requested := runtime.request false persistFails
  (requested.stopAllLocked survives).setCall call
    (if requested.stopAllFails survives then .returned else .ensuring)

def replaceBinary (call : Nat) (loadFails : Bool) (survives : Nat → Bool) : ProxyRuntime :=
  let loaded := runtime.ensureManualStopLoadedLocked loadFails
  -- not persisted, and left so when a process does not stop
  let stopping := { loaded with manualStop := true }
  (stopping.stopAllLocked survives).setCall call
    (if stopping.stopAllFails survives then .returned else .replacing loaded.manualStop)

def replaced (call : Nat) (previousManualStop persistFails : Bool) : ProxyRuntime :=
  (runtime.persistManualStopLocked previousManualStop persistFails).setCall call
    (if previousManualStop then .returned else .ensuring)

/-- `EnsureRunning` up to its first loop. -/
def ensureRunning (call : Nat) (loadFails : Bool) (query : Option InboundQuery) : ProxyRuntime :=
  let loaded := runtime.ensureManualStopLoadedLocked loadFails
  if loaded.manualStop then loaded.setCall call .returned
  else match query with
    | none => loaded.setCall call .returned
    | some query =>
      { loaded.setCall call .ensuring with
        ensuring := some {
          caller := call
          desired := query.desired
          stage := .reaping (loaded.processes.map Prod.fst) } }

/-- The body of the loop of `EnsureRunning` over the desired inbounds. -/
def startProcess (ensuring : Ensuring) (pending : List Int) (failed : Bool) (inboundID : Int)
    (handle : Nat) (fails : Bool) : Option ProxyRuntime :=
  let others := pending.filter (· ≠ inboundID)
  match runtime.processes.lookup inboundID, ensuring.desired.lookup inboundID with
  | some _, _ => some (runtime.setStage ensuring (.starting others failed))
  | none, none => none
  | none, some spec =>
    if fails then some (runtime.setStage ensuring (.starting others true))
    else if (runtime.started handle).isNone then
      some ((runtime.launch inboundID handle spec).setStage ensuring (.starting others failed))
    else none

def ensureStep (ensuring : Ensuring) : RuntimeLabel → Option ProxyRuntime
  | .reap inboundID survives =>
    match ensuring.stage with
    | .reaping pending =>
      if inboundID ∈ pending then
        some ((runtime.reap ensuring.desired inboundID survives).setStage ensuring
          (.reaping (pending.filter (· ≠ inboundID))))
      else none
    | .starting _ _ => none
  | .ensureBinary fails =>
    match ensuring.stage with
    | .reaping pending =>
      if pending = [] ∧ ensuring.desired.isEmpty = false then
        if fails then some (runtime.ensureReturns ensuring.caller)
        else some (runtime.setStage ensuring (.starting (ensuring.desired.map Prod.fst) false))
      else none
    | .starting _ _ => none
  | .startProcess inboundID handle fails =>
    match ensuring.stage with
    | .reaping _ => none
    | .starting pending failed =>
      if inboundID ∈ pending then
        startProcess runtime ensuring pending failed inboundID handle fails
      else none
  | .ensureReturns =>
    match ensuring.stage with
    | .reaping pending =>
      if pending = [] ∧ ensuring.desired.isEmpty then
        some (runtime.ensureReturns ensuring.caller)
      else none
    | .starting pending _ =>
      if pending = [] then some (runtime.ensureReturns ensuring.caller) else none
  | _ => none

def proxyRuntime : Machine ProxyRuntime RuntimeLabel where
  step runtime label :=
    match label with
    | .stopAll call persistFails survives =>
      if runtime.accepts call then
        some (((runtime.request true persistFails).stopAllLocked survives).setCall call .returned)
      else none
    | .startAll call persistFails =>
      if runtime.accepts call then
        some ((runtime.request false persistFails).setCall call .ensuring)
      else none
    | .restartAll call persistFails survives =>
      if runtime.accepts call then some (restartAll runtime call persistFails survives) else none
    | .shutdownForRestart call survives =>
      if runtime.accepts call then
        some ((runtime.stopAllLocked survives).setCall call .returned)
      else none
    | .replaceBinary call loadFails survives =>
      if runtime.accepts call then some (replaceBinary runtime call loadFails survives) else none
    | .replaced call persistFails =>
      match runtime.ensuring, runtime.calls call with
      | none, some (.replacing previousManualStop) =>
        some (replaced runtime call previousManualStop persistFails)
      | _, _ => none
    | .ensureRunning call loadFails query =>
      if runtime.accepts call || runtime.ensuring.isNone &&
          runtime.calls call = some .ensuring then
        some (ensureRunning runtime call loadFails query)
      else none
    | .exits handle =>
      if runtime.running handle then some (runtime.exit (· = handle)) else none
    | label => runtime.ensuring.bind (ensureStep runtime · label)

end Machine

/-! ## What a step can do -/

/-- The steps of the service, one constructor for each way through a section. -/
inductive RuntimeStep (runtime : ProxyRuntime) : RuntimeLabel → ProxyRuntime → Prop
  | stopAll {call : Nat} {persistFails : Bool} {survives : Nat → Bool} :
      runtime.accepts call →
      RuntimeStep runtime (.stopAll call persistFails survives)
        (((runtime.request true persistFails).stopAllLocked survives).setCall call .returned)
  | startAll {call : Nat} {persistFails : Bool} :
      runtime.accepts call →
      RuntimeStep runtime (.startAll call persistFails)
        ((runtime.request false persistFails).setCall call .ensuring)
  | restartAll {call : Nat} {persistFails : Bool} {survives : Nat → Bool} :
      runtime.accepts call →
      RuntimeStep runtime (.restartAll call persistFails survives)
        (restartAll runtime call persistFails survives)
  | shutdownForRestart {call : Nat} {survives : Nat → Bool} :
      runtime.accepts call →
      RuntimeStep runtime (.shutdownForRestart call survives)
        ((runtime.stopAllLocked survives).setCall call .returned)
  | replaceBinary {call : Nat} {loadFails : Bool} {survives : Nat → Bool} :
      runtime.accepts call →
      RuntimeStep runtime (.replaceBinary call loadFails survives)
        (replaceBinary runtime call loadFails survives)
  | replaced {call : Nat} {previousManualStop persistFails : Bool} :
      runtime.ensuring = none → runtime.calls call = some (.replacing previousManualStop) →
      RuntimeStep runtime (.replaced call persistFails)
        (replaced runtime call previousManualStop persistFails)
  | ensureRunning {call : Nat} {loadFails : Bool} {query : Option InboundQuery} :
      runtime.ensuring = none →
      (runtime.calls call = none ∨ runtime.calls call = some .ensuring) →
      RuntimeStep runtime (.ensureRunning call loadFails query)
        (ensureRunning runtime call loadFails query)
  | reap {ensuring : Ensuring} {pending : List Int} {inboundID : Int} {survives : Bool} :
      runtime.ensuring = some ensuring → ensuring.stage = .reaping pending →
      RuntimeStep runtime (.reap inboundID survives)
        ((runtime.reap ensuring.desired inboundID survives).setStage ensuring
          (.reaping (pending.filter (· ≠ inboundID))))
  | ensureBinary {ensuring : Ensuring} :
      runtime.ensuring = some ensuring → ensuring.stage = .reaping [] →
      RuntimeStep runtime (.ensureBinary false)
        (runtime.setStage ensuring (.starting (ensuring.desired.map Prod.fst) false))
  | skips {ensuring : Ensuring} {pending : List Int} {failed fails : Bool} {inboundID : Int}
      {handle other : Nat} :
      runtime.ensuring = some ensuring → ensuring.stage = .starting pending failed →
      runtime.processes.lookup inboundID = some other →
      RuntimeStep runtime (.startProcess inboundID handle fails)
        (runtime.setStage ensuring (.starting (pending.filter (· ≠ inboundID)) failed))
  | startFails {ensuring : Ensuring} {pending : List Int} {failed : Bool} {inboundID : Int}
      {handle : Nat} :
      runtime.ensuring = some ensuring → ensuring.stage = .starting pending failed →
      RuntimeStep runtime (.startProcess inboundID handle true)
        (runtime.setStage ensuring (.starting (pending.filter (· ≠ inboundID)) true))
  | starts {ensuring : Ensuring} {pending : List Int} {failed : Bool} {inboundID : Int}
      {handle : Nat} {spec : Spec} :
      runtime.ensuring = some ensuring → ensuring.stage = .starting pending failed →
      runtime.processes.lookup inboundID = none →
      ensuring.desired.lookup inboundID = some spec → runtime.started handle = none →
      RuntimeStep runtime (.startProcess inboundID handle false)
        ((runtime.launch inboundID handle spec).setStage ensuring
          (.starting (pending.filter (· ≠ inboundID)) failed))
  | ensureReturns {ensuring : Ensuring} {label : RuntimeLabel} :
      runtime.ensuring = some ensuring →
      RuntimeStep runtime label (runtime.ensureReturns ensuring.caller)
  | exits {handle : Nat} :
      RuntimeStep runtime (.exits handle) (runtime.exit (· = handle))

theorem ensureStep_inv {runtime next : ProxyRuntime} {ensuring : Ensuring} {label : RuntimeLabel}
    (isEnsuring : runtime.ensuring = some ensuring)
    (stepped : ensureStep runtime ensuring label = some next) : RuntimeStep runtime label next := by
  cases label with
  | reap inboundID survives =>
    cases stage : ensuring.stage with
    | starting pending failed => simp [ensureStep, stage] at stepped
    | reaping pending =>
      simp only [ensureStep, stage] at stepped
      split at stepped
      · cases stepped
        exact .reap isEnsuring stage
      · cases stepped
  | ensureBinary fails =>
    cases stage : ensuring.stage with
    | starting pending failed => simp [ensureStep, stage] at stepped
    | reaping pending =>
      simp only [ensureStep, stage] at stepped
      split at stepped
      · rename_i ready
        obtain ⟨rfl, _⟩ := ready
        cases fails with
        | true =>
          cases stepped
          exact .ensureReturns isEnsuring
        | false =>
          cases stepped
          exact .ensureBinary isEnsuring stage
      · cases stepped
  | startProcess inboundID handle fails =>
    cases stage : ensuring.stage with
    | reaping pending => simp [ensureStep, stage] at stepped
    | starting pending failed =>
      simp only [ensureStep, stage] at stepped
      split at stepped
      · unfold startProcess at stepped
        dsimp only at stepped
        split at stepped
        · rename_i isTracked
          cases stepped
          exact .skips isEnsuring stage isTracked
        · cases stepped
        · rename_i untracked wanted
          cases fails with
          | true =>
            cases stepped
            exact .startFails isEnsuring stage
          | false =>
            simp only [Bool.false_eq_true, if_false] at stepped
            split at stepped
            · rename_i fresh
              cases stepped
              exact .starts isEnsuring stage untracked wanted (Option.isNone_iff_eq_none.mp fresh)
            · cases stepped
      · cases stepped
  | ensureReturns =>
    simp only [ensureStep] at stepped
    split at stepped <;> split at stepped
    all_goals
      cases stepped
      try exact .ensureReturns isEnsuring
  | _ => cases stepped

theorem step_inv {runtime next : ProxyRuntime} {label : RuntimeLabel}
    (stepped : proxyRuntime.step runtime label = some next) : RuntimeStep runtime label next := by
  -- a label of the `EnsureRunning` that holds the mutex
  have held (label : RuntimeLabel)
      (stepped : runtime.ensuring.bind (ensureStep runtime · label) = some next) :
      RuntimeStep runtime label next := by
    obtain ⟨ensuring, isEnsuring, stepped⟩ := Option.bind_eq_some_iff.mp stepped
    exact ensureStep_inv isEnsuring stepped
  cases label with
  | stopAll call persistFails survives =>
    obtain ⟨accepted, ⟨⟩⟩ := Option.ite_none_right_eq_some.mp stepped
    exact .stopAll accepted
  | startAll call persistFails =>
    obtain ⟨accepted, ⟨⟩⟩ := Option.ite_none_right_eq_some.mp stepped
    exact .startAll accepted
  | restartAll call persistFails survives =>
    obtain ⟨accepted, ⟨⟩⟩ := Option.ite_none_right_eq_some.mp stepped
    exact .restartAll accepted
  | shutdownForRestart call survives =>
    obtain ⟨accepted, ⟨⟩⟩ := Option.ite_none_right_eq_some.mp stepped
    exact .shutdownForRestart accepted
  | replaceBinary call loadFails survives =>
    obtain ⟨accepted, ⟨⟩⟩ := Option.ite_none_right_eq_some.mp stepped
    exact .replaceBinary accepted
  | replaced call persistFails =>
    simp only [proxyRuntime] at stepped
    split at stepped
    · rename_i free isReplacing
      cases stepped
      exact .replaced free isReplacing
    · cases stepped
  | ensureRunning call loadFails query =>
    simp only [proxyRuntime] at stepped
    split at stepped
    · rename_i accepted
      cases stepped
      simp only [ProxyRuntime.accepts, Bool.or_eq_true, Bool.and_eq_true,
        Option.isNone_iff_eq_none, decide_eq_true_eq] at accepted
      obtain ⟨free, isNew⟩ | ⟨free, isEnsuring⟩ := accepted
      · exact .ensureRunning free (.inl isNew)
      · exact .ensureRunning free (.inr isEnsuring)
    · cases stepped
  | exits handle =>
    obtain ⟨_, ⟨⟩⟩ := Option.ite_none_right_eq_some.mp stepped
    exact .exits
  | reap inboundID survives => exact held _ stepped
  | ensureBinary fails => exact held _ stepped
  | startProcess inboundID handle fails => exact held _ stepped
  | ensureReturns => exact held _ stepped

/-! ## Which processes run -/

namespace ProxyRuntime

variable {runtime : ProxyRuntime} {handle : Nat} {desired : List (Int × Spec)} {inboundID : Int}

@[simp] theorem running_exit (runtime : ProxyRuntime) (gone : Nat → Bool) (handle : Nat) :
    (runtime.exit gone).running handle = (runtime.running handle && !gone handle) := by
  simp only [running, exit]
  cases runtime.started handle <;> rfl

theorem tracks_iff : runtime.tracks handle = true ↔
    ∃ entry ∈ runtime.processes, entry.2 = handle := by
  simp [tracks]

theorem upToDate_iff : runtime.upToDate desired inboundID handle = true ↔
    ∃ spec process, desired.lookup inboundID = some spec ∧ runtime.started handle = some process ∧
      process.running = true ∧ process.spec.key = spec.key := by
  unfold upToDate
  cases desired.lookup inboundID <;> cases runtime.started handle <;> simp

theorem upToDate_exit {gone : Nat → Bool} (stays : gone handle = false) :
    (runtime.exit gone).upToDate desired inboundID handle =
      runtime.upToDate desired inboundID handle := by
  simp only [upToDate, exit]
  cases desired.lookup inboundID <;> cases runtime.started handle <;> simp [stays]

end ProxyRuntime

end VkTurn.Panel
