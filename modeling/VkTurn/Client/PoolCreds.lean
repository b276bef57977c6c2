import Mathlib.Logic.Function.Basic
import VkTurn.Client.GroupCreds

/-! # A pool of credentials

`poolCredsDynamic`.  A call serves an entry of the pool, fills an empty pool itself, or waits for
the call that does; where the pool is smaller than it should be, a goroutine adds to it.  A step is
what one of them does while it holds `state.mu`.  Clock readings, the sizes that `targetPoolSize`
gives and what `f` returns are arguments of the steps.
-/

namespace VkTurn.Client

open VkTurn.Transition

def backgroundPoolRetryCooldown : Duration := 2 * minute
def credsRefreshSlackDuration : Duration := 2 * minute
def credsFallbackLifetime : Duration := 10 * minute

namespace TurnCred

variable (cred : TurnCred)

def effectiveLifetime : Duration :=
  if 0 < cred.lifetime then cred.lifetime else credsFallbackLifetime

def expired (now : Time) : Bool :=
  cred.bornAt + (cred.effectiveLifetime - credsRefreshSlackDuration) < now

/-- The test of `appendIfNewLocked`. -/
def sameIdentity (existing : TurnCred) : Bool :=
  existing.user = cred.user ∧ existing.pass = cred.pass ∧ existing.addr = cred.addr

end TurnCred

/-- What `f` returns where it does not fail. -/
structure FetchedIdentity where
  user : String
  pass : String
  addr : String
  lifetime : Duration
  deriving DecidableEq

def FetchedIdentity.cred (fetched : FetchedIdentity) (now : Time) : TurnCred :=
  { user := fetched.user, pass := fetched.pass, addr := fetched.addr, bornAt := now,
    lifetime := fetched.lifetime }

structure PoolState where
  pool : List TurnCred := []
  idx : Nat := 0
  foregroundFillRunning : Bool := false
  backgroundFillRunning : Bool := false
  backgroundRetryAfter : Option Time := none
  deriving DecidableEq

/-- The argument is what `targetPoolSize` returns, if there is one. -/
def desiredPoolSize : Option Int → Nat
  | none => 1
  | some target => (max 1 target).toNat

namespace PoolState

variable (state : PoolState)

def setPool (pool : List TurnCred) : PoolState :=
  { state with pool := pool, idx := if pool = [] then 0 else state.idx % pool.length }

def expireIfNeeded (now : Time) : PoolState :=
  let filtered := state.pool.filter fun cred => ¬ cred.expired now
  if filtered.length < state.pool.length then state.setPool filtered else state

def trimPoolToDesired (target : Option Int) : PoolState :=
  if state.pool.length ≤ desiredPoolSize target then state
  else state.setPool (state.pool.take (desiredPoolSize target))

def appendIfNew (cred : TurnCred) : PoolState :=
  if state.pool.any cred.sameIdentity then state
  else { state with pool := state.pool ++ [cred] }

/-- Both parts that begin a locked section. -/
def refresh (now : Time) (target : Option Int) : PoolState :=
  (state.expireIfNeeded now).trimPoolToDesired target

def current? : Option TurnCred := state.pool[state.idx % state.pool.length]?

/-- What a successful fill does to the pool. -/
def register (cred : TurnCred) (trimTarget : Option Int) : PoolState :=
  { state.appendIfNew cred with backgroundRetryAfter := none }.trimPoolToDesired trimTarget

end PoolState

/-- Where a call of the returned function stands. -/
inductive PoolCall where
  | idle
  /-- Before the lock at the head of the loop. -/
  | entered
  /-- In `state.cond.Wait`. -/
  | waiting (desiredSize : Nat)
  /-- After a broadcast, before it has the lock again. -/
  | woken (desiredSize : Nat)
  /-- In `f(link, true)`. -/
  | filling (desiredSize : Nat)
  /-- `startBackgroundFill` comes next. -/
  | growing (user pass addr : String)
  | returned (result : Except String (String × String × String))
  deriving DecidableEq

/-- The goroutine of `startBackgroundFill`. -/
inductive BackgroundFill where
  | notStarted
  /-- In `f(link, false)`. -/
  | fetching
  /-- Before the deferred function. -/
  | fetched
  | ended
  deriving DecidableEq

def PoolCall.isFilling : PoolCall → Bool
  | .filling _ => true
  | _ => false

def PoolCall.isWaiting : PoolCall → Bool
  | .waiting _ => true
  | _ => false

/-- What `state.cond.Broadcast` makes of a call. -/
def PoolCall.wake : PoolCall → PoolCall
  | .waiting desiredSize => .woken desiredSize
  | call => call

def BackgroundFill.isRunning : BackgroundFill → Bool
  | .fetching | .fetched => true
  | _ => false

structure PoolThreads where
  state : PoolState := {}
  calls : Nat → PoolCall := fun _ => .idle
  fills : Nat → BackgroundFill := fun _ => .notStarted

inductive PoolLabel where
  | call (call : Nat)
  | check (call : Nat) (now : Time) (trimTarget desiredTarget : Option Int)
  | recheck (call : Nat)
  | fillReturns (call : Nat) (outcome : Except String FetchedIdentity) (now : Time)
      (desiredTarget trimTarget : Option Int)
  /-- `fill` is the goroutine, if one is started. -/
  | startBackgroundFill (call fill : Nat) (now : Time) (trimTarget desiredTarget : Option Int)
      (retryNow : Time)
  | fetchReturns (fill : Nat) (outcome : Except String FetchedIdentity) (now : Time)
      (trimTarget : Option Int)
  | fillEnds (fill : Nat)
  deriving DecidableEq

namespace PoolThreads

variable (threads : PoolThreads)

def setCall (call : Nat) (phase : PoolCall) : PoolThreads :=
  { threads with calls := Function.update threads.calls call phase }

def setFill (fill : Nat) (phase : BackgroundFill) : PoolThreads :=
  { threads with fills := Function.update threads.fills fill phase }

def broadcast : PoolThreads := { threads with calls := fun call => (threads.calls call).wake }

/-- The end of a call that has its credentials. -/
def finish (call : Nat) (cred : TurnCred) (currentSize desiredSize : Nat) : PoolThreads :=
  threads.setCall call
    (if currentSize < desiredSize then .growing cred.user cred.pass cred.addr
    else .returned (.ok (cred.user, cred.pass, cred.addr)))

/-- The call takes the current entry of the pool. -/
def serve (call : Nat) (cred : TurnCred) (desiredSize : Nat) : PoolThreads :=
  { threads with state := { threads.state with idx := threads.state.idx + 1 } }.finish call cred
    threads.state.pool.length desiredSize

def check (call : Nat) (now : Time) (trimTarget desiredTarget : Option Int) : PoolThreads :=
  let refreshed := { threads with state := threads.state.refresh now trimTarget }
  let desiredSize := desiredPoolSize desiredTarget
  match refreshed.state.current? with
  | some cred => refreshed.serve call cred desiredSize
  | none =>
    if refreshed.state.foregroundFillRunning then refreshed.setCall call (.waiting desiredSize)
    else { refreshed.setCall call (.filling desiredSize) with
      state := { refreshed.state with foregroundFillRunning := true } }

def recheck (call desiredSize : Nat) : PoolThreads :=
  match threads.state.current? with
  | some cred => threads.serve call cred desiredSize
  | none =>
    if threads.state.foregroundFillRunning then threads.setCall call (.waiting desiredSize)
    else threads.setCall call .entered

def fillReturns (call desiredSize : Nat) (outcome : Except String FetchedIdentity) (now : Time)
    (desiredTarget trimTarget : Option Int) : PoolThreads :=
  let state := { threads.state with foregroundFillRunning := false }
  match outcome with
  | .ok fetched =>
    let cred := fetched.cred now
    let registered := state.register cred trimTarget
    { threads.broadcast with state := { registered with idx := registered.idx + 1 } }.finish call
      cred (state.appendIfNew cred).pool.length (desiredPoolSize desiredTarget)
  | .error err =>
    let failed := { threads.broadcast with state := state }
    match state.current? with
    | some cred => failed.serve call cred desiredSize
    | none => failed.setCall call (.returned (.error err))

def startBackgroundFill (call fill : Nat) (creds : String × String × String) (now : Time)
    (trimTarget desiredTarget : Option Int) (retryNow : Time) : PoolThreads :=
  let state := threads.state.refresh now trimTarget
  let refreshed := { threads with state := state }.setCall call (.returned (.ok creds))
  if state.backgroundFillRunning ∨ state.pool.length = 0 ∨
      state.pool.length ≥ desiredPoolSize desiredTarget then refreshed
  else if state.backgroundRetryAfter.any (retryNow < ·) then refreshed
  else { refreshed.setFill fill .fetching with state := { state with backgroundFillRunning := true } }

def fetchReturns (fill : Nat) (outcome : Except String FetchedIdentity) (now : Time)
    (trimTarget : Option Int) : PoolThreads :=
  let state :=
    match outcome with
    | .ok fetched => threads.state.register (fetched.cred now) trimTarget
    | .error _ =>
      { threads.state with backgroundRetryAfter := some (now + backgroundPoolRetryCooldown) }
  { threads.setFill fill .fetched with state := state }

def step : PoolLabel → Option PoolThreads
  | .call call =>
    match threads.calls call with
    | .idle => some (threads.setCall call .entered)
    | _ => none
  | .check call now trimTarget desiredTarget =>
    match threads.calls call with
    | .entered => some (threads.check call now trimTarget desiredTarget)
    | _ => none
  | .recheck call =>
    match threads.calls call with
    | .woken desiredSize => some (threads.recheck call desiredSize)
    | _ => none
  | .fillReturns call outcome now desiredTarget trimTarget =>
    match threads.calls call with
    | .filling desiredSize =>
      some (threads.fillReturns call desiredSize outcome now desiredTarget trimTarget)
    | _ => none
  | .startBackgroundFill call fill now trimTarget desiredTarget retryNow =>
    match threads.calls call, threads.fills fill with
    | .growing user pass addr, .notStarted =>
      some (threads.startBackgroundFill call fill (user, pass, addr) now trimTarget desiredTarget
        retryNow)
    | _, _ => none
  | .fetchReturns fill outcome now trimTarget =>
    match threads.fills fill with
    | .fetching => some (threads.fetchReturns fill outcome now trimTarget)
    | _ => none
  | .fillEnds fill =>
    match threads.fills fill with
    | .fetched => some { threads.setFill fill .ended with
        state := { threads.state with backgroundFillRunning := false } }
    | _ => none

end PoolThreads

def poolThreads : Machine PoolThreads PoolLabel := ⟨PoolThreads.step⟩

/-- `poolCredsDynamic` has returned. -/
def NewPool (threads : PoolThreads) : Prop := threads = {}

end VkTurn.Client
