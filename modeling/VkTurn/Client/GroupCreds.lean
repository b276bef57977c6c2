import VkTurn.Client.LinkHealth
import VkTurn.Transition.Machine

/-! # Credentials of stream groups

Streams are put into groups; each group shares credentials, fetched through one of the links.
The calls below are the ones that streams make; each runs to its end before the next one starts.
Fetch results and clock readings are arguments of the call.
-/

namespace VkTurn.Client

open VkTurn.Transition

def groupRefreshSlackDuration : Duration := 2 * minute
def groupFallbackLifetime : Duration := 10 * minute
def groupProactiveRefreshFactor : Int := 4
def groupProactiveRefreshDiv : Int := 5
def groupRetryCooldown : Duration := 90 * second

structure TurnCred where
  user : String
  pass : String
  addr : String
  bornAt : Time := 0
  lifetime : Duration := 0
  isSecondaryLink : Bool := false
  /-- Ghost: the url the fetch was made with. -/
  fetchedFrom : String := ""
  deriving DecidableEq

structure CredGroup where
  id : Nat
  assignedIdx : Int
  cred : TurnCred := ⟨"", "", "", 0, 0, false, ""⟩
  valid : Bool := false
  bornAt : Time := 0
  lifetime : Duration := 0
  lastRefreshErr : Option String := none
  prefetching : Bool := false
  retryAfter : Option Time := none
  deriving DecidableEq

structure GroupedCredsManager where
  groups : List CredGroup
  groupSize : Nat
  tracker : LinkHealthTracker
  deriving DecidableEq

def newGroupedCredsManager (numGroups groupSize : Int) (tracker : LinkHealthTracker) :
    GroupedCredsManager where
  groups := (List.range (max numGroups 1).toNat).map fun i =>
    { id := i, assignedIdx := i % tracker.primary.length }
  groupSize := (max groupSize 1).toNat
  tracker := tracker

/-! ## Fetching -/

/-- One `fetch` with the clock readings around it. -/
structure FetchAttempt where
  pickedAt : Time
  outcome : Except String TurnCred
  markedAt : Time

structure FetchOracle where
  attempts : Nat → FetchAttempt
  secondary : FetchAttempt

/-- What the caller of `fetch` makes of its result. -/
def FetchAttempt.cred (attempt : FetchAttempt) (cred : TurnCred) (url : String)
    (isSecondaryLink : Bool) : TurnCred :=
  { cred with
    bornAt := attempt.markedAt, isSecondaryLink := isSecondaryLink, fetchedFrom := url }

/-- The loop over the primary links, from the given attempt on. -/
def fetchPrimary (preferIdx : Nat) (oracle : FetchOracle) :
    Nat → Nat → LinkHealthTracker → LinkHealthTracker × Option (TurnCred × LinkRef)
  | 0, _, tracker => (tracker, none)
  | remaining + 1, attempt, tracker =>
    let now := oracle.attempts attempt
    match tracker.pickPrimary now.pickedAt ((preferIdx + attempt) % tracker.primary.length) with
    | none => (tracker, none)
    | some position =>
      match tracker.primary[position]? with
      | none => (tracker, none)
      | some link =>
        match now.outcome with
        | .ok cred =>
          (tracker.markFetchSuccess (.primary position) now.markedAt,
            some (now.cred cred link.url false, .primary position))
        | .error _ =>
          fetchPrimary preferIdx oracle remaining (attempt + 1)
            (tracker.markFetchFailure (.primary position) now.markedAt)

def fetchSecondary (oracle : FetchOracle) (tracker : LinkHealthTracker) :
    LinkHealthTracker × Option (TurnCred × LinkRef) :=
  let now := oracle.secondary
  match tracker.secondary with
  | none => (tracker, none)
  | some link =>
    if ¬ link.isAlive (unixMilli now.pickedAt) then (tracker, none)
    else
      match now.outcome with
      | .ok cred =>
        (tracker.markFetchSuccess .secondary now.markedAt,
          some (now.cred cred link.url true, .secondary))
      | .error _ => (tracker.markFetchFailure .secondary now.markedAt, none)

/-- The links that were tried are marked, whether the fetch succeeds or not. -/
def fetchForGroup (tracker : LinkHealthTracker) (assignedIdx : Int) (oracle : FetchOracle) :
    LinkHealthTracker × Option (TurnCred × LinkRef) :=
  let primaryCount := tracker.primary.length
  let preferIdx := (max assignedIdx 0).toNat % primaryCount
  match fetchPrimary preferIdx oracle primaryCount 0 tracker with
  | (tracker, some fetched) => (tracker, some fetched)
  | (tracker, none) => fetchSecondary oracle tracker

/-! ## Calls -/

namespace CredGroup

def effectiveLifetime (group : CredGroup) : Duration :=
  if group.lifetime > 0 then group.lifetime else groupFallbackLifetime

def expired (group : CredGroup) (now : Time) : Bool :=
  ¬ group.valid ∨ group.bornAt + (group.effectiveLifetime - groupRefreshSlackDuration) < now

def shouldPrefetch (group : CredGroup) (now : Time) : Bool :=
  group.valid ∧ ¬ group.prefetching ∧
    group.bornAt +
      Int.tdiv (group.effectiveLifetime * groupProactiveRefreshFactor) groupProactiveRefreshDiv < now

/-- What a successful fetch stores. -/
def store (group : CredGroup) (cred : TurnCred) (indexHint : Int) (now : Time) : CredGroup :=
  { group with
    cred := cred
    bornAt := now
    lifetime := cred.lifetime
    valid := true
    assignedIdx := indexHint
    lastRefreshErr := none
    retryAfter := none }

/-- The test of `invalidateGroupsBoundTo`. -/
def isBoundTo (group : CredGroup) (link : LinkHealth) : Bool :=
  if link.isSecondary then group.cred.isSecondaryLink else group.assignedIdx = link.indexHint

end CredGroup

namespace GroupedCredsManager

def groupForWorker (manager : GroupedCredsManager) (workerID : Int) : Nat :=
  (max workerID 0).toNat / manager.groupSize % manager.groups.length

def setGroup (manager : GroupedCredsManager) (idx : Nat) (group : CredGroup) :
    GroupedCredsManager :=
  { manager with groups := manager.groups.set idx group }

structure AcquireOracle where
  checkedAt : Time
  fetch : FetchOracle
  storedAt : Time

/-- A fetch for the group at `idx`, and what it stores on success. -/
def refresh (manager : GroupedCredsManager) (idx : Nat) (group : CredGroup) (oracle : FetchOracle)
    (storedAt : Time) : GroupedCredsManager × Option TurnCred :=
  match fetchForGroup manager.tracker group.assignedIdx oracle with
  | (tracker, some (cred, ref)) =>
    match tracker.link? ref with
    | none => ({ manager with tracker := tracker }, none)
    | some link =>
      ({ manager with tracker := tracker }.setGroup idx
        (group.store cred link.indexHint storedAt), some cred)
  | (tracker, none) => ({ manager with tracker := tracker }, none)

def allLinksExhausted (group : CredGroup) : String :=
  "group " ++ toString group.id ++ ": all VK links exhausted"

/-- `acquire`; no refresh of the group is under way when the call starts. -/
def acquire (manager : GroupedCredsManager) (idx : Nat) (oracle : AcquireOracle) :
    GroupedCredsManager × Except String TurnCred :=
  match manager.groups[idx]? with
  | none => (manager, .error "no group")
  | some group =>
    if group.valid ∧ ¬ group.expired oracle.checkedAt then
      let prefetching := group.prefetching || group.shouldPrefetch oracle.checkedAt
      (manager.setGroup idx { group with prefetching := prefetching }, .ok group.cred)
    else if group.retryAfter.any (oracle.checkedAt < ·) then
      (manager, .error (group.lastRefreshErr.getD "creds fetch backoff active"))
    else
      match manager.refresh idx group oracle.fetch oracle.storedAt with
      | (manager, some cred) => (manager, .ok cred)
      | (manager, none) =>
        let err := allLinksExhausted group
        (manager.setGroup idx
          { group with
            lastRefreshErr := some err
            retryAfter := some (oracle.storedAt + groupRetryCooldown) }, .error err)

/-- The call that `acquire` started when it set `prefetching`. -/
def runPrefetch (manager : GroupedCredsManager) (idx : Nat) (oracle : FetchOracle)
    (storedAt : Time) : Option GroupedCredsManager :=
  match manager.groups[idx]? with
  | none => none
  | some group =>
    if group.prefetching then
      let group := { group with prefetching := false }
      some ((manager.setGroup idx group).refresh idx group oracle storedAt).1
    else none

def invalidateGroupsBoundTo (manager : GroupedCredsManager) (link : LinkHealth) :
    GroupedCredsManager :=
  { manager with
    groups := manager.groups.map fun group =>
      if group.isBoundTo link then { group with valid := false } else group }

/-- The link a report charges, if it charges one. -/
def charged (manager : GroupedCredsManager) (workerID : Int) (err : Option String) :
    Option LinkRef :=
  if classifyLinkError err = .none then none
  else
    match manager.groups[manager.groupForWorker workerID]? with
    | none => none
    | some group =>
      if ¬ group.valid then none
      else if group.assignedIdx < 0 ∨ group.assignedIdx ≥ manager.tracker.primary.length then none
      else if group.cred.isSecondaryLink ∧ manager.tracker.secondary.isSome then some .secondary
      else some (.primary group.assignedIdx.toNat)

structure ReportClock where
  markedAt : Time
  checkedAt : Time

def reportWorkerError (manager : GroupedCredsManager) (workerID : Int) (err : Option String)
    (clock : ReportClock) : GroupedCredsManager :=
  match manager.charged workerID err with
  | none => manager
  | some ref =>
    let tracker := manager.tracker.markWorkerError ref (classifyLinkError err) clock.markedAt
    let manager := { manager with tracker := tracker }
    match tracker.link? ref with
    | none => manager
    | some link =>
      if link.isAlive (unixMilli clock.checkedAt) then manager
      else manager.invalidateGroupsBoundTo link

end GroupedCredsManager

inductive CredsCall where
  | acquire (workerID : Int) (oracle : GroupedCredsManager.AcquireOracle)
  | prefetch (group : Nat) (oracle : FetchOracle) (storedAt : Time)
  | reportWorkerError (workerID : Int) (err : Option String)
      (clock : GroupedCredsManager.ReportClock)
  /-- The tick of `decayLoop`. -/
  | decay

def credsStep (manager : GroupedCredsManager) : CredsCall → Option GroupedCredsManager
  | .acquire workerID oracle =>
    some (manager.acquire (manager.groupForWorker workerID) oracle).1
  | .prefetch group oracle storedAt => manager.runPrefetch group oracle storedAt
  | .reportWorkerError workerID err clock => some (manager.reportWorkerError workerID err clock)
  | .decay => some { manager with tracker := manager.tracker.decayCounters }

def credsMachine : Machine GroupedCredsManager CredsCall := ⟨credsStep⟩

/-- A manager as the client creates it from the user's links. -/
def CreatedFrom (primary : List String) (secondary : String) (manager : GroupedCredsManager) :
    Prop :=
  ∃ numGroups groupSize tracker, newLinkHealthTracker primary secondary = .ok tracker ∧
    manager = newGroupedCredsManager numGroups groupSize tracker

end VkTurn.Client
