import Mathlib.Logic.Function.Basic
import VkTurn.Client.GroupCreds

/-! # Credential calls as threads

`GroupCreds` runs each call to its end.  Here `acquire`, `runPrefetch` and `ReportWorkerError`
are threads that hold `credGroup.mu` only where the source does: a fetch runs without it and
takes any time, and a report invalidates one group after the other.  The runs of `credsThreads`
are the interleavings of these threads.
-/

namespace VkTurn.Client

open VkTurn.Transition

/-- Where a call of `fetchForGroup` stands. -/
inductive FetchStage where
  | entering
  /-- Before `PickPrimary` of the attempt. -/
  | choosing (preferIdx attempt : Nat)
  /-- Inside `fetch`; `begun` invalidations had been begun before. -/
  | primary (preferIdx attempt position begun : Nat)
  /-- After the loop. -/
  | choosingSecondary
  | secondary (begun : Nat)
  /-- It returned credentials of the link. -/
  | fetched (cred : TurnCred) (ref : LinkRef) (begun : Nat)
  | exhausted
  deriving DecidableEq

inductive FetchPurpose where
  | acquire
  | prefetch
  deriving DecidableEq

inductive CredsThread where
  | fetching (purpose : FetchPurpose) (group : Nat) (stage : FetchStage)
  /-- The deferred function of `runPrefetch`. -/
  | prefetchEnds (group : Nat)
  /-- `ReportWorkerError` has read `assignedIdx` of the group. -/
  | reporting (group position : Nat) (kind : LinkErrorKind)
  | marking (ref : LinkRef) (kind : LinkErrorKind)
  /-- `MarkWorkerError` returned. -/
  | checking (ref : LinkRef)
  /-- In the loop of `invalidateGroupsBoundTo`, before the lock of group `next`. -/
  | invalidating (ref : LinkRef) (pass next : Nat)
  deriving DecidableEq

/-- A group that the loop of the given invalidation of the link has passed. -/
structure Visit where
  url : String
  pass : Nat
  group : Nat
  deriving DecidableEq

/-- An invalidation of the link that has run to its end. -/
structure Invalidation where
  url : String
  pass : Nat
  deriving DecidableEq

structure CredsThreads where
  manager : GroupedCredsManager
  /-- `credGroup.refreshing`. -/
  refreshing : Nat → Bool
  threads : Nat → Option CredsThread
  /-- Ghost: how many invalidations had been begun when the fetch of the group's credentials
      began. -/
  begun : Nat → Nat
  /-- Ghost: how many invalidations have been begun. -/
  passes : Nat
  /-- Ghost. -/
  visits : List Visit
  /-- Ghost. -/
  invalidated : List Invalidation

inductive CredsAction where
  /-- One round of the loop of `acquire`, up to its unlock. -/
  | acquire (workerID : Int) (now : Time)
  /-- `fetchForGroup` reads `assignedIdx`. -/
  | prefer
  | pick (now : Time)
  | fetchReturns (outcome : Except String TurnCred) (now : Time)
  /-- The locked part after `fetchForGroup`. -/
  | store (now : Time)
  | prefetchEnds
  | report (workerID : Int) (err : Option String)
  /-- The report reads `cred.isSecondaryLink`. -/
  | chooseLink
  | markWorkerError (now : Time)
  | checkAlive (now : Time)
  | invalidateNext
  /-- A tick of `decayLoop`. -/
  | decay

/-- A step of a thread; the first step of a call names a thread that is not in use. -/
structure CredsLabel where
  thread : Nat
  action : CredsAction

/-- The link that a fetch under way goes through, and when it began. -/
def FetchStage.under? : FetchStage → Option (LinkRef × Nat)
  | .primary _ _ position begun => some (.primary position, begun)
  | .secondary begun => some (.secondary, begun)
  | _ => none

/-- What comes after a failed fetch. -/
def FetchStage.failed : FetchStage → FetchStage
  | .primary preferIdx attempt _ _ => .choosing preferIdx (attempt + 1)
  | _ => .exhausted

/-- The `isSecondaryLink` that `fetchForGroup` sets. -/
def LinkRef.isSecondary : LinkRef → Bool
  | .primary _ => false
  | .secondary => true

namespace CredsThreads

def setThread (state : CredsThreads) (thread : Nat) (now : Option CredsThread) : CredsThreads :=
  { state with threads := Function.update state.threads thread now }

def setStage (state : CredsThreads) (thread : Nat) (purpose : FetchPurpose) (group : Nat)
    (stage : FetchStage) : CredsThreads :=
  state.setThread thread (some (.fetching purpose group stage))

def setGroup (state : CredsThreads) (idx : Nat) (group : CredGroup) : CredsThreads :=
  { state with manager := state.manager.setGroup idx group }

def setTracker (state : CredsThreads) (tracker : LinkHealthTracker) : CredsThreads :=
  { state with manager := { state.manager with tracker := tracker } }

/-- `acquire` returns, waits (not enabled), or goes on to fetch. -/
def acquire (state : CredsThreads) (thread : Nat) (workerID : Int) (now : Time) :
    Option CredsThreads :=
  let idx := state.manager.groupForWorker workerID
  match state.manager.groups[idx]? with
  | none => none
  | some group =>
    if group.valid ∧ ¬ group.expired now then
      if group.shouldPrefetch now then
        some ((state.setGroup idx { group with prefetching := true }).setStage thread .prefetch idx
          .entering)
      else some state
    else if state.refreshing idx then none
    else if group.retryAfter.any (now < ·) then some state
    else
      some ({ state with refreshing := Function.update state.refreshing idx true }.setStage thread
        .acquire idx .entering)

def prefer (state : CredsThreads) (thread : Nat) (purpose : FetchPurpose) (idx : Nat) :
    Option CredsThreads :=
  (state.manager.groups[idx]?).map fun group =>
    let primaryCount := state.manager.tracker.primary.length
    state.setStage thread purpose idx
      (.choosing ((max group.assignedIdx 0).toNat % primaryCount) 0)

/-- The next link to fetch through. -/
def pick (state : CredsThreads) (now : Time) : FetchStage → Option FetchStage
  | .choosing preferIdx attempt =>
    let tracker := state.manager.tracker
    let primaryCount := tracker.primary.length
    if attempt < primaryCount then
      match tracker.pickPrimary now ((preferIdx + attempt) % primaryCount) with
      | none => some .choosingSecondary
      | some position => some (.primary preferIdx attempt position state.passes)
    else some .choosingSecondary
  | .choosingSecondary =>
    match state.manager.tracker.secondary with
    | none => some .exhausted
    | some link =>
      if link.isAlive (unixMilli now) then some (.secondary state.passes) else some .exhausted
  | _ => none

def fetchReturns (state : CredsThreads) (thread : Nat) (purpose : FetchPurpose) (idx : Nat)
    (stage : FetchStage) (outcome : Except String TurnCred) (now : Time) : Option CredsThreads :=
  match stage.under? with
  | none => none
  | some (ref, begun) =>
    let tracker := state.manager.tracker
    match outcome with
    | .error _ =>
      some ((state.setTracker (tracker.markFetchFailure ref now)).setStage thread purpose idx
        stage.failed)
    | .ok cred =>
      (tracker.link? ref).map fun link =>
        let cred := (FetchAttempt.mk now outcome now).cred cred link.url ref.isSecondary
        (state.setTracker (tracker.markFetchSuccess ref now)).setStage thread purpose idx
          (.fetched cred ref begun)

/-- The thread leaves `fetchForGroup`. -/
def endFetch (state : CredsThreads) (thread idx : Nat) : FetchPurpose → CredsThreads
  | .acquire =>
    { state with refreshing := Function.update state.refreshing idx false }.setThread thread none
  | .prefetch => state.setThread thread (some (.prefetchEnds idx))

/-- What `acquire` and `runPrefetch` do with the result of `fetchForGroup`. -/
def store (state : CredsThreads) (thread : Nat) (purpose : FetchPurpose) (idx : Nat)
    (stage : FetchStage) (now : Time) : Option CredsThreads :=
  let ended := state.endFetch thread idx purpose
  match state.manager.groups[idx]?, stage, purpose with
  | some group, .fetched cred ref begun, _ =>
    (state.manager.tracker.link? ref).map fun link =>
      { ended.setGroup idx (group.store cred link.indexHint now) with
        begun := Function.update ended.begun idx begun }
  | some group, .exhausted, .acquire =>
    some (ended.setGroup idx
      { group with
        lastRefreshErr := some (GroupedCredsManager.allLinksExhausted group)
        retryAfter := some (now + groupRetryCooldown) })
  | some _, .exhausted, .prefetch => some ended
  | _, _, _ => none

/-- `ReportWorkerError` up to the read of the link at `assignedIdx`. -/
def report (state : CredsThreads) (thread : Nat) (workerID : Int) (err : Option String) :
    Option CredsThreads :=
  let idx := state.manager.groupForWorker workerID
  if classifyLinkError err = .none then some state
  else
    (state.manager.groups[idx]?).map fun group =>
      let primaryCount : Int := state.manager.tracker.primary.length
      if ¬ group.valid ∨ group.assignedIdx < 0 ∨ group.assignedIdx ≥ primaryCount then state
      else
        state.setThread thread
          (some (.reporting idx group.assignedIdx.toNat (classifyLinkError err)))

def chooseLink (state : CredsThreads) (thread idx position : Nat) (kind : LinkErrorKind) :
    Option CredsThreads :=
  (state.manager.groups[idx]?).map fun group =>
    let ref : LinkRef :=
      if group.cred.isSecondaryLink ∧ state.manager.tracker.secondary.isSome then .secondary
      else .primary position
    state.setThread thread (some (.marking ref kind))

def checkAlive (state : CredsThreads) (thread : Nat) (ref : LinkRef) (now : Time) :
    Option CredsThreads :=
  (state.manager.tracker.link? ref).map fun link =>
    if link.isAlive (unixMilli now) then state.setThread thread none
    else
      { state.setThread thread (some (.invalidating ref state.passes 0)) with
        passes := state.passes + 1 }

/-- One round of the loop of `invalidateGroupsBoundTo`, or its end. -/
def invalidateNext (state : CredsThreads) (thread : Nat) (ref : LinkRef) (pass next : Nat) :
    Option CredsThreads :=
  (state.manager.tracker.link? ref).map fun link =>
    match state.manager.groups[next]? with
    | none =>
      { state.setThread thread none with
        invalidated := state.invalidated ++ [⟨link.url, pass⟩] }
    | some group =>
      let group := if group.isBoundTo link then { group with valid := false } else group
      { (state.setGroup next group).setThread thread (some (.invalidating ref pass (next + 1))) with
        visits := state.visits ++ [⟨link.url, pass, next⟩] }

end CredsThreads

open CredsThreads in
def credsThreadsStep (state : CredsThreads) (label : CredsLabel) : Option CredsThreads :=
  match label.action, state.threads label.thread with
  | .acquire workerID now, none => state.acquire label.thread workerID now
  | .prefer, some (.fetching purpose idx .entering) => state.prefer label.thread purpose idx
  | .pick now, some (.fetching purpose idx stage) =>
    (state.pick now stage).map (state.setStage label.thread purpose idx)
  | .fetchReturns outcome now, some (.fetching purpose idx stage) =>
    state.fetchReturns label.thread purpose idx stage outcome now
  | .store now, some (.fetching purpose idx stage) =>
    state.store label.thread purpose idx stage now
  | .prefetchEnds, some (.prefetchEnds idx) =>
    (state.manager.groups[idx]?).map fun group =>
      (state.setGroup idx { group with prefetching := false }).setThread label.thread none
  | .report workerID err, none => state.report label.thread workerID err
  | .chooseLink, some (.reporting idx position kind) =>
    state.chooseLink label.thread idx position kind
  | .markWorkerError now, some (.marking ref kind) =>
    some ((state.setTracker (state.manager.tracker.markWorkerError ref kind now)).setThread
      label.thread (some (.checking ref)))
  | .checkAlive now, some (.checking ref) => state.checkAlive label.thread ref now
  | .invalidateNext, some (.invalidating ref pass next) =>
    state.invalidateNext label.thread ref pass next
  | .decay, none => some (state.setTracker state.manager.tracker.decayCounters)
  | _, _ => none

def credsThreads : Machine CredsThreads CredsLabel := ⟨credsThreadsStep⟩

/-- A client right after its start: no call under way. -/
def CredsThreads.StartedFrom (primary : List String) (secondary : String) (state : CredsThreads) :
    Prop :=
  CreatedFrom primary secondary state.manager ∧ (∀ idx, state.refreshing idx = false) ∧
    (∀ thread, state.threads thread = none) ∧ state.visits = [] ∧ state.invalidated = []

end VkTurn.Client
