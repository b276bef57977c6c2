import VkTurn.Panel.XrayConfig
import VkTurn.Transition.Machine

/-! # Restarts of Xray

A change of what is stored sets `isNeedXrayRestart`; a job that runs every half minute clears the
flag and calls `RestartXray(false)`, which holds the lock, builds the configuration and looks at the
flag once more.  Where the flag is still clear, the comparison of configurations decides alone.

In between, other calls change what is stored, and edit the users of the running process.
-/

namespace VkTurn.Panel

open VkTurn.Transition

/-! ## The state -/

/-- The process of Xray: the configuration it was started with, and the users it has by now. -/
structure XrayProcess (Users : Type) where
  config : Config
  users : Users

/-- What `GetXrayConfig` reads: the template, and the rows of the inbounds. -/
structure Stored (Rows : Type) where
  template : String
  rows : Rows

/-- How `GetXrayConfig` makes a configuration of them. -/
structure ConfigSource (Rows : Type) where
  decode : String → Except String Config
  render : Rows → Except String (List InboundConfig)

def ConfigSource.build {Rows : Type} (source : ConfigSource Rows) (stored : Stored Rows) :
    Except String Config := do
  let config ← source.decode stored.template
  let inbounds ← source.render stored.rows
  return { config with inboundConfigs := config.inboundConfigs ++ inbounds }

/-- Where a call of `RestartXray` is. -/
inductive RestartPhase where
  | locked
  | decoded (config : Config)
  | accounted (config : Config)
  | built (config : Config)
  | stopped (config : Config)
  deriving DecidableEq

/-- The call of `RestartXray` that has the lock.  As long as nothing is stored after it got the
    lock, it is fresh. -/
structure RestartCall where
  isForce : Bool
  phase : RestartPhase
  fresh : Bool
  deriving DecidableEq

structure RestartState (Rows Users : Type) where
  stored : Stored Rows
  isNeedXrayRestart : Bool
  process : Option (XrayProcess Users)
  /-- The calls that wait for the lock, by their `isForce`. -/
  waiting : List Bool
  holder : Option RestartCall
  /-- A fresh call has ended without an error, and nothing has changed since. -/
  settled : Bool

/-! ## The steps -/

inductive RestartLabel (Rows Users : Type) where
  /-- Another call changes what is stored. -/
  | store (stored : Stored Rows)
  /-- Another call edits the users of the process. -/
  | edit (users : Users)
  | exit
  | setToNeedRestart
  /-- The job: `IsNeedRestartAndSetFalse`. -/
  | job
  /-- Another caller of `RestartXray`. -/
  | call (isForce : Bool)
  | lock (isForce : Bool)
  | decode (fails : Bool)
  /-- `AddTraffic(nil, nil)`, which renews and disables clients. -/
  | account (rows : Rows) (users : Users)
  | render (fails : Bool)
  | decide
  | start (fails : Bool)

variable {Rows Users : Type} (source : ConfigSource Rows) (usersOf : Config → Users)

namespace RestartState

variable (state : RestartState Rows Users)

def advance (call : RestartCall) (phase : RestartPhase) : RestartState Rows Users :=
  { state with holder := some { call with phase } }

/-- The call returns an error. -/
def failed : RestartState Rows Users := { state with holder := none }

/-- The call returns nil. -/
def ended (call : RestartCall) : RestartState Rows Users :=
  { state with holder := none, settled := call.fresh }

def edited (users : Users) : Option (XrayProcess Users) :=
  state.process.map fun process => { process with users }

/-- `IsXrayRunning() && !isForce && p.GetConfig().Equals(xrayConfig) && !isNeedXrayRestart.Load()` -/
def keepsProcess (call : RestartCall) (config : Config) : Bool :=
  match state.process with
  | none => false
  | some process => ¬ call.isForce && process.config.equals config && ¬ state.isNeedXrayRestart

def next : RestartLabel Rows Users → Option (RestartState Rows Users)
  | .store stored => some { state with
      stored
      holder := state.holder.map fun call => { call with fresh := false }
      settled := false }
  | .edit users => some { state with process := state.edited users, settled := false }
  | .exit => some { state with process := none, settled := false }
  | .setToNeedRestart => some { state with isNeedXrayRestart := true }
  | .job =>
    if state.isNeedXrayRestart then
      some { state with isNeedXrayRestart := false, waiting := state.waiting ++ [false] }
    else some state
  | .call isForce => some { state with waiting := state.waiting ++ [isForce] }
  | .lock isForce =>
    if state.holder = none ∧ isForce ∈ state.waiting then
      some { state with
        waiting := state.waiting.erase isForce
        holder := some { isForce, phase := .locked, fresh := true } }
    else none
  | .decode fails => do
    let call ← state.holder
    match call.phase with
    | .locked =>
      match source.decode state.stored.template with
      | .error _ => some state.failed
      | .ok config => if fails then some state.failed else some (state.advance call (.decoded config))
    | _ => none
  | .account rows users => do
    let call ← state.holder
    match call.phase with
    | .decoded config => some { state.advance call (.accounted config) with
        stored := { state.stored with rows }
        process := state.edited users
        settled := false }
    | _ => none
  | .render fails => do
    let call ← state.holder
    match call.phase with
    | .accounted config =>
      match source.render state.stored.rows with
      | .error _ => some state.failed
      | .ok inbounds =>
        if fails then some state.failed
        else some (state.advance call
          (.built { config with inboundConfigs := config.inboundConfigs ++ inbounds }))
    | _ => none
  | .decide => do
    let call ← state.holder
    match call.phase with
    | .built config =>
      if state.keepsProcess call config then some (state.ended call)
      else some { state.advance call (.stopped config) with process := none, settled := false }
    | _ => none
  | .start fails => do
    let call ← state.holder
    match call.phase with
    | .stopped config =>
      if fails then some state.failed
      else some { state.ended call with process := some { config, users := usersOf config } }
    | _ => none

end RestartState

def xrayRestarts : Machine (RestartState Rows Users) (RestartLabel Rows Users) where
  step state label := state.next source usersOf label

/-! ## What a restart is for -/

/-- The process was started with what is stored, and has the users of that. -/
def RestartState.InSync (state : RestartState Rows Users) : Prop :=
  ∃ config, source.build state.stored = .ok config ∧
    state.process = some { config, users := usersOf config }

/-- Nothing is promised of the process, and no call of `RestartXray` has the lock. -/
def RestartState.Unsettled (state : RestartState Rows Users) : Prop :=
  state.settled = false ∧ state.holder = none

/-- Where a call that is not forced finds the flag clear and the configurations equal, there is
    nothing that the comparison does not see. -/
def SeesEverything (state : RestartState Rows Users) (label : RestartLabel Rows Users) : Prop :=
  match label with
  | .decide => ∀ call config process, state.holder = some call → call.phase = .built config →
      state.process = some process → call.isForce = false →
      process.config.equals config = true → state.isNeedXrayRestart = false →
      process.config.observatory = config.observatory ∧
        process.config.burstObservatory = config.burstObservatory ∧
        process.users = usersOf config
  | _ => True

section Restarts

variable {source : ConfigSource Rows} {usersOf : Config → Users}
  {state next : RestartState Rows Users} {label : RestartLabel Rows Users} {call : RestartCall}

/-! ## What a call has read -/

/-- What a fresh call has built so far agrees with what is stored. -/
def RestartPhase.Agrees (source : ConfigSource Rows) (stored : Stored Rows) : RestartPhase → Prop
  | .locked => True
  | .decoded config => source.decode stored.template = .ok config
  | .accounted config => source.decode stored.template = .ok config
  | .built config => source.build stored = .ok config
  | .stopped config => source.build stored = .ok config

structure RestartInv (source : ConfigSource Rows) (usersOf : Config → Users)
    (state : RestartState Rows Users) : Prop where
  synced : state.settled = true → state.InSync source usersOf
  fresh : ∀ call, state.holder = some call → call.fresh = true →
    call.phase.Agrees source state.stored

theorem RestartState.Unsettled.inv (unsettled : state.Unsettled) :
    RestartInv source usersOf state where
  synced settled := nomatch unsettled.1.symm.trans settled
  fresh _ held := nomatch unsettled.2.symm.trans held

/-- A step that leaves the process and what is stored alone, and settles nothing. -/
theorem RestartInv.frame (inv : RestartInv source usersOf state)
    (sameStored : next.stored = state.stored) (sameProcess : next.process = state.process)
    (unsettles : next.settled = true → state.settled = true)
    (fresh : ∀ call, next.holder = some call → call.fresh = true →
      call.phase.Agrees source state.stored) : RestartInv source usersOf next where
  synced settled := by
    unfold RestartState.InSync
    rw [sameStored, sameProcess]
    exact inv.synced (unsettles settled)
  fresh call held isFresh := sameStored ▸ fresh call held isFresh

theorem RestartInv.failed (inv : RestartInv source usersOf state) :
    RestartInv source usersOf state.failed :=
  inv.frame rfl rfl id nofun

theorem RestartInv.advance (inv : RestartInv source usersOf state) {phase : RestartPhase}
    (agrees : call.fresh = true → phase.Agrees source state.stored) :
    RestartInv source usersOf (state.advance call phase) := by
  refine inv.frame rfl rfl id fun other held isFresh => ?_
  cases held
  exact agrees isFresh

theorem RestartInv.ended (inSync : call.fresh = true → state.InSync source usersOf) :
    RestartInv source usersOf (state.ended call) where
  synced := inSync
  fresh _ held := nomatch held

/-- A process that is kept is the one that a restart would start. -/
theorem kept_process {config : Config} (held : state.holder = some call)
    (isBuilt : call.phase = .built config) (sees : SeesEverything usersOf state .decide)
    (keeps : state.keepsProcess call config = true) :
    state.process = some { config, users := usersOf config } := by
  unfold RestartState.keepsProcess at keeps
  cases running : state.process with
  | none =>
    rw [running] at keeps
    cases keeps
  | some process =>
    rw [running] at keeps
    simp only [Bool.and_eq_true, decide_eq_true_eq, Bool.not_eq_true] at keeps
    obtain ⟨⟨notForced, same⟩, isClear⟩ := keeps
    obtain ⟨observatory, burstObservatory, users⟩ :=
      sees call config process held isBuilt running notForced same isClear
    have sameConfig : process.config = config := by
      rw [← Config.equals_iff.mp same, ← observatory, ← burstObservatory]
    rw [← sameConfig] at users ⊢
    rw [← users]

/-! ## Steps -/

theorem RestartInv.decode (inv : RestartInv source usersOf state) {fails : Bool}
    (stepped : state.next source usersOf (.decode fails) = some next) :
    RestartInv source usersOf next := by
  obtain ⟨call, held, stepped⟩ := Option.bind_eq_some_iff.mp stepped
  split at stepped
  · split at stepped
    · cases stepped
      exact inv.failed
    · rename_i decoded
      split at stepped
      · cases stepped
        exact inv.failed
      · cases stepped
        exact inv.advance fun _ => decoded
  · cases stepped

theorem RestartInv.account (inv : RestartInv source usersOf state) {rows : Rows} {users : Users}
    (stepped : state.next source usersOf (.account rows users) = some next) :
    RestartInv source usersOf next := by
  obtain ⟨call, held, stepped⟩ := Option.bind_eq_some_iff.mp stepped
  split at stepped
  · rename_i config isDecoded
    cases stepped
    refine ⟨nofun, fun other isHeld isFresh => ?_⟩
    cases isHeld
    -- the template is the one that was decoded, only the rows have changed
    have agrees := inv.fresh call held isFresh
    rw [isDecoded] at agrees
    exact agrees
  · cases stepped

theorem RestartInv.render (inv : RestartInv source usersOf state) {fails : Bool}
    (stepped : state.next source usersOf (.render fails) = some next) :
    RestartInv source usersOf next := by
  obtain ⟨call, held, stepped⟩ := Option.bind_eq_some_iff.mp stepped
  split at stepped
  · rename_i config isAccounted
    split at stepped
    · cases stepped
      exact inv.failed
    · rename_i inbounds rendered
      split at stepped
      · cases stepped
        exact inv.failed
      · cases stepped
        refine inv.advance fun isFresh => ?_
        have decoded : source.decode state.stored.template = .ok config := by
          have agrees := inv.fresh call held isFresh
          rw [isAccounted] at agrees
          exact agrees
        unfold RestartPhase.Agrees ConfigSource.build
        rw [decoded, rendered]
        rfl
  · cases stepped

theorem RestartInv.decide (inv : RestartInv source usersOf state)
    (sees : SeesEverything usersOf state .decide)
    (stepped : state.next source usersOf .decide = some next) :
    RestartInv source usersOf next := by
  obtain ⟨call, held, stepped⟩ := Option.bind_eq_some_iff.mp stepped
  split at stepped
  · rename_i config isBuilt
    have agrees (isFresh : call.fresh = true) : source.build state.stored = .ok config := by
      have agrees := inv.fresh call held isFresh
      rw [isBuilt] at agrees
      exact agrees
    split at stepped
    · rename_i keeps
      cases stepped
      exact RestartInv.ended fun isFresh =>
        ⟨config, agrees isFresh, kept_process held isBuilt sees keeps⟩
    · cases stepped
      refine ⟨nofun, fun other isHeld isFresh => ?_⟩
      cases isHeld
      exact agrees isFresh
  · cases stepped

theorem RestartInv.start (inv : RestartInv source usersOf state) {fails : Bool}
    (stepped : state.next source usersOf (.start fails) = some next) :
    RestartInv source usersOf next := by
  obtain ⟨call, held, stepped⟩ := Option.bind_eq_some_iff.mp stepped
  split at stepped
  · rename_i config isStopped
    split at stepped
    · cases stepped
      exact inv.failed
    · cases stepped
      refine ⟨fun isFresh => ⟨config, ?_, rfl⟩, nofun⟩
      have agrees := inv.fresh call held isFresh
      rw [isStopped] at agrees
      exact agrees
  · cases stepped

theorem RestartInv.step (inv : RestartInv source usersOf state)
    (sees : SeesEverything usersOf state label)
    (stepped : (xrayRestarts source usersOf).step state label = some next) :
    RestartInv source usersOf next := by
  cases label with
  | store stored =>
    cases stepped
    refine ⟨nofun, fun call held isFresh => ?_⟩
    obtain ⟨_, _, rfl⟩ := Option.map_eq_some_iff.mp held
    cases isFresh
  | edit users =>
    cases stepped
    exact ⟨nofun, inv.fresh⟩
  | exit =>
    cases stepped
    exact ⟨nofun, inv.fresh⟩
  | setToNeedRestart =>
    cases stepped
    exact inv.frame rfl rfl id inv.fresh
  | job =>
    unfold xrayRestarts RestartState.next at stepped
    dsimp only at stepped
    split at stepped
    · cases stepped
      exact inv.frame rfl rfl id inv.fresh
    · cases stepped
      exact inv
  | call isForce =>
    cases stepped
    exact inv.frame rfl rfl id inv.fresh
  | lock isForce =>
    unfold xrayRestarts RestartState.next at stepped
    dsimp only at stepped
    split at stepped
    · cases stepped
      refine inv.frame rfl rfl id fun call held _ => ?_
      cases held
      trivial
    · cases stepped
  | decode fails => exact inv.decode stepped
  | account rows users => exact inv.account stepped
  | render fails => exact inv.render stepped
  | decide => exact inv.decide sees stepped
  | start fails => exact inv.start stepped

/-- Where a fresh call decides on a comparison that does not see everything, the request is lost. -/
theorem unseen_lost (inv : RestartInv source usersOf state)
    (isFresh : ∀ call, state.holder = some call → call.fresh = true)
    (unseen : ¬ SeesEverything usersOf state .decide)
    (stepped : (xrayRestarts source usersOf).step state .decide = some next) :
    next.settled = true ∧ ¬ next.InSync source usersOf := by
  unfold SeesEverything at unseen
  push Not at unseen
  obtain ⟨call, config, process, held, isBuilt, running, notForced, same, isClear, differs⟩ := unseen
  have keeps : state.keepsProcess call config = true := by
    unfold RestartState.keepsProcess
    simp [running, notForced, same, isClear]
  obtain ⟨other, isHeld, stepped⟩ := Option.bind_eq_some_iff.mp stepped
  cases held.symm.trans isHeld
  rw [isBuilt] at stepped
  dsimp only at stepped
  rw [if_pos keeps] at stepped
  cases stepped
  refine ⟨isFresh call held, ?_⟩
  rintro ⟨stored, built, isStored⟩
  have agrees := inv.fresh call held (isFresh call held)
  rw [isBuilt] at agrees
  cases agrees.symm.trans built
  cases running.symm.trans isStored
  exact differs rfl rfl rfl

/-! ## A request is served -/

/-- Nothing changes but through `RestartXray`, which returns no error. -/
def NothingElse (source : ConfigSource Rows) (state : RestartState Rows Users)
    (label : RestartLabel Rows Users) : Prop :=
  match label with
  | .store _ => False
  | .edit _ => False
  | .exit => False
  | .decode fails => fails = false ∧ ∃ config, source.decode state.stored.template = .ok config
  | .render fails => fails = false ∧ ∃ inbounds, source.render state.stored.rows = .ok inbounds
  | .start fails => fails = false
  | _ => True

/-- A request is waiting, or a call that began after it is under way, or has ended. -/
def RestartState.Serves (state : RestartState Rows Users) : Prop :=
  state.isNeedXrayRestart = true ∨ state.waiting ≠ [] ∨
    (∃ call, state.holder = some call ∧ call.fresh = true) ∨
    (state.holder = none ∧ state.settled = true)

theorem RestartState.Serves.congr (serves : state.Serves) (held : state.holder = some call)
    (sameFlag : next.isNeedXrayRestart = state.isNeedXrayRestart)
    (sameWaiting : next.waiting = state.waiting)
    (goesOn : call.fresh = true → (∃ call, next.holder = some call ∧ call.fresh = true) ∨
      (next.holder = none ∧ next.settled = true)) : next.Serves := by
  unfold RestartState.Serves
  rw [sameFlag, sameWaiting]
  obtain requested | waiting | ⟨other, isHeld, isFresh⟩ | ⟨free, _⟩ := serves
  · exact .inl requested
  · exact .inr (.inl waiting)
  · cases held.symm.trans isHeld
    exact .inr (.inr (goesOn isFresh))
  · exact nomatch held.symm.trans free

theorem RestartState.Serves.step (serves : state.Serves) (undisturbed : NothingElse source state label)
    (stepped : (xrayRestarts source usersOf).step state label = some next) : next.Serves := by
  cases label with
  | store stored => exact undisturbed.elim
  | edit users => exact undisturbed.elim
  | exit => exact undisturbed.elim
  | setToNeedRestart =>
    cases stepped
    exact .inl rfl
  | job =>
    unfold xrayRestarts RestartState.next at stepped
    dsimp only at stepped
    split at stepped
    · cases stepped
      exact .inr (.inl (by simp))
    · cases stepped
      exact serves
  | call isForce =>
    cases stepped
    exact .inr (.inl (by simp))
  | lock isForce =>
    unfold xrayRestarts RestartState.next at stepped
    dsimp only at stepped
    split at stepped
    · cases stepped
      exact .inr (.inr (.inl ⟨_, rfl, rfl⟩))
    · cases stepped
  | decode fails =>
    obtain ⟨succeeds, config, decoded⟩ := undisturbed
    obtain ⟨call, held, stepped⟩ := Option.bind_eq_some_iff.mp stepped
    rw [decoded, succeeds] at stepped
    split at stepped
    · cases stepped
      exact serves.congr held rfl rfl fun isFresh => .inl ⟨_, rfl, isFresh⟩
    · cases stepped
  | account rows users =>
    obtain ⟨call, held, stepped⟩ := Option.bind_eq_some_iff.mp stepped
    split at stepped
    · cases stepped
      exact serves.congr held rfl rfl fun isFresh => .inl ⟨_, rfl, isFresh⟩
    · cases stepped
  | render fails =>
    obtain ⟨succeeds, inbounds, rendered⟩ := undisturbed
    obtain ⟨call, held, stepped⟩ := Option.bind_eq_some_iff.mp stepped
    rw [rendered, succeeds] at stepped
    split at stepped
    · cases stepped
      exact serves.congr held rfl rfl fun isFresh => .inl ⟨_, rfl, isFresh⟩
    · cases stepped
  | decide =>
    obtain ⟨call, held, stepped⟩ := Option.bind_eq_some_iff.mp stepped
    split at stepped
    · split at stepped
      · cases stepped
        exact serves.congr held rfl rfl fun isFresh => .inr ⟨rfl, isFresh⟩
      · cases stepped
        exact serves.congr held rfl rfl fun isFresh => .inl ⟨_, rfl, isFresh⟩
    · cases stepped
  | start fails =>
    have succeeds : fails = false := undisturbed
    obtain ⟨call, held, stepped⟩ := Option.bind_eq_some_iff.mp stepped
    rw [succeeds] at stepped
    split at stepped
    · cases stepped
      exact serves.congr held rfl rfl fun isFresh => .inr ⟨rfl, isFresh⟩
    · cases stepped

/-- Once every request has been taken up and every call has returned, the state is settled. -/
theorem request_served
    (served : (xrayRestarts source usersOf).ReachableWhile (NothingElse source)
      (fun requested => requested.isNeedXrayRestart = true) state)
    (taken : state.isNeedXrayRestart = false) (nobody : state.waiting = [])
    (free : state.holder = none) : state.settled = true := by
  have serves : state.Serves :=
    served.invariant (fun _ requested => .inl requested) fun _ _ _ serves => serves.step
  obtain requested | waiting | ⟨call, held, _⟩ | ⟨_, settled⟩ := serves
  · exact nomatch taken.symm.trans requested
  · exact absurd nobody waiting
  · exact nomatch free.symm.trans held
  · exact settled

end Restarts

/-! ## A request that is lost -/

/-- Templates that are the text of the observatory, and rows that are inbounds. -/
def observed : ConfigSource (List InboundConfig) where
  decode template := .ok { observatory := template }
  render rows := .ok rows

def runningOn (template : String) : RestartState (List InboundConfig) (List InboundConfig) where
  stored := { template, rows := [] }
  isNeedXrayRestart := false
  process := some { config := { observatory := template }, users := [] }
  waiting := []
  holder := none
  settled := false

/-- The job takes up a request, and no other call of `RestartXray` gets in between. -/
def jobLabels : List (RestartLabel (List InboundConfig) (List InboundConfig)) :=
  [.job, .lock false, .decode false, .account [] [], .render false, .decide]

end VkTurn.Panel
