import Mathlib.Logic.Function.Basic
import VkTurn.Client.GroupCreds
import VkTurn.Transition.Exclusive

/-! # Refreshing one group

The calls of `acquire` on a group, with the wait on `g.cond`, and the goroutines of `runPrefetch`.
A step is what one of them does while it holds `g.mu`.  What `fetchForGroup` returns is an argument
of the step; the clock is monotonic, as `time.Now` is for comparisons.
-/

namespace VkTurn.Client

open VkTurn.Transition

/-! ## Threads -/

/-- Where a call of `acquire` stands.  Refreshes are numbered in the order in which they begin. -/
inductive AcquireCall where
  | idle
  | entered
  /-- In `g.cond.Wait`, while the given refresh is under way. -/
  | waiting (refresh : Nat)
  /-- After a broadcast, before it has the lock again. -/
  | woken (refresh : Nat)
  /-- In `fetchForGroup`. -/
  | fetching
  /-- It returned the credentials that were there. -/
  | served (cred : TurnCred)
  | returned (result : Except String TurnCred)
  deriving DecidableEq

inductive PrefetchCall where
  | notStarted
  | fetching
  /-- Before the deferred function. -/
  | fetched
  | ended
  deriving DecidableEq

/-- Ghost: a refresh by `acquire` that failed. -/
structure RefreshFailure where
  refresh : Nat
  err : String
  failedAt : Time
  /-- A prefetch has succeeded since the refresh began. -/
  overtaken : Bool
  /-- A prefetch has succeeded since the refresh failed. -/
  forgiven : Bool
  deriving DecidableEq

structure GroupThreads where
  group : CredGroup
  refreshing : Bool := false
  clock : Time
  calls : Nat → AcquireCall := fun _ => .idle
  prefetches : Nat → PrefetchCall := fun _ => .notStarted
  /-- Ghost: how many refreshes have begun. -/
  refreshes : Nat := 0
  /-- Ghost: a prefetch has succeeded since the last refresh began. -/
  overtaken : Bool := false
  /-- Ghost. -/
  failures : List RefreshFailure := []

inductive GroupLabel where
  | call (call : Nat)
  /-- A round of the loop; `now` is read in `expired`, `later` in the comparison after it.  Where a
      prefetch is started it is the given one. -/
  | check (call : Nat) (now later : Time) (prefetch : Nat)
  | fetchReturns (call : Nat) (outcome : Except String (TurnCred × Int)) (now : Time)
  | prefetchReturns (prefetch : Nat) (outcome : Except String (TurnCred × Int)) (now : Time)
  | prefetchEnds (prefetch : Nat)
  /-- `invalidateGroupsBoundTo` comes to the group. -/
  | invalidate

def AcquireCall.isFetching : AcquireCall → Bool
  | .fetching => true
  | _ => false

/-- What `g.cond.Broadcast` makes of a call. -/
def AcquireCall.wake : AcquireCall → AcquireCall
  | .waiting refresh => .woken refresh
  | call => call

/-- The call is before the lock. -/
def AcquireCall.isReady : AcquireCall → Bool
  | .entered | .woken _ => true
  | _ => false

/-- A prefetch has succeeded. -/
def RefreshFailure.forgive (failure : RefreshFailure) : RefreshFailure :=
  { failure with overtaken := true, forgiven := true }

namespace GroupThreads

variable (threads : GroupThreads)

def setCall (call : Nat) (phase : AcquireCall) : GroupThreads :=
  { threads with calls := Function.update threads.calls call phase }

def setPrefetch (prefetch : Nat) (phase : PrefetchCall) : GroupThreads :=
  { threads with prefetches := Function.update threads.prefetches prefetch phase }

def broadcast : GroupThreads := { threads with calls := fun call => (threads.calls call).wake }

def beginRefresh (call : Nat) : GroupThreads :=
  { threads.setCall call .fetching with
    refreshing := true, refreshes := threads.refreshes + 1, overtaken := false }

/-- The credentials are there; they may be old enough for a prefetch. -/
def serve (call : Nat) (later : Time) (prefetch : Nat) : Option GroupThreads :=
  let served := threads.setCall call (.served threads.group.cred)
  if threads.group.shouldPrefetch later then
    if threads.prefetches prefetch = .notStarted then
      some { served.setPrefetch prefetch .fetching with
        group := { threads.group with prefetching := true } }
    else none
  else some served

def check (call : Nat) (now later : Time) (prefetch : Nat) : Option GroupThreads :=
  let threads := { threads with clock := later }
  if threads.group.valid ∧ ¬ threads.group.expired now then threads.serve call later prefetch
  else if threads.refreshing then some (threads.setCall call (.waiting threads.refreshes))
  else if threads.group.retryAfter.any (later < ·) then
    some (threads.setCall call
      (.returned (.error (threads.group.lastRefreshErr.getD "creds fetch backoff active"))))
  else some (threads.beginRefresh call)

def fetchReturns (call : Nat) (outcome : Except String (TurnCred × Int)) (now : Time) :
    GroupThreads :=
  match outcome with
  | .ok (cred, indexHint) =>
    { threads.broadcast.setCall call (.returned (.ok cred)) with
      clock := now, refreshing := false, group := threads.group.store cred indexHint now }
  | .error err =>
    { threads.broadcast.setCall call (.returned (.error err)) with
      clock := now
      refreshing := false
      group := { threads.group with
        lastRefreshErr := some err, retryAfter := some (now + groupRetryCooldown) }
      failures :=
        { refresh := threads.refreshes, err := err, failedAt := now,
          overtaken := threads.overtaken, forgiven := false } :: threads.failures }

def prefetchReturns (prefetch : Nat) (outcome : Except String (TurnCred × Int)) (now : Time) :
    GroupThreads :=
  match outcome with
  | .ok (cred, indexHint) =>
    { threads.setPrefetch prefetch .fetched with
      clock := now
      group := threads.group.store cred indexHint now
      overtaken := true
      failures := threads.failures.map RefreshFailure.forgive }
  | .error _ => { threads.setPrefetch prefetch .fetched with clock := now }

def step : GroupLabel → Option GroupThreads
  | .call call =>
    match threads.calls call with
    | .idle => some (threads.setCall call .entered)
    | _ => none
  | .check call now later prefetch =>
    if (threads.calls call).isReady ∧ threads.clock ≤ now ∧ now ≤ later then
      threads.check call now later prefetch
    else none
  | .fetchReturns call outcome now =>
    if (threads.calls call).isFetching ∧ threads.clock ≤ now then
      some (threads.fetchReturns call outcome now)
    else none
  | .prefetchReturns prefetch outcome now =>
    if threads.prefetches prefetch = .fetching ∧ threads.clock ≤ now then
      some (threads.prefetchReturns prefetch outcome now)
    else none
  | .prefetchEnds prefetch =>
    match threads.prefetches prefetch with
    | .fetched => some { threads.setPrefetch prefetch .ended with
        group := { threads.group with prefetching := false } }
    | _ => none
  | .invalidate => some { threads.broadcast with group := { threads.group with valid := false } }

end GroupThreads

def groupThreads : Machine GroupThreads GroupLabel := ⟨GroupThreads.step⟩

/-- The group as `newGroupedCredsManager` makes it. -/
def NewGroup (threads : GroupThreads) : Prop :=
  ∃ id assignedIdx clock,
    threads = { group := { id := id, assignedIdx := assignedIdx }, clock := clock }

/-! ## What stands after a failure -/

/-- Callers are turned away with the error of the failure. -/
structure TurnsAway (threads : GroupThreads) (failure : RefreshFailure) : Prop where
  retryAfter : threads.group.retryAfter = some (failure.failedAt + groupRetryCooldown)
  lastRefreshErr : threads.group.lastRefreshErr = some failure.err
  notRefreshing : threads.refreshing = false
  expired : failure.overtaken = false → threads.group.expired threads.clock = true

/-- The back-off is over or lasts. -/
def Settles (threads : GroupThreads) (failure : RefreshFailure) : Prop :=
  failure.failedAt + groupRetryCooldown ≤ threads.clock ∨ TurnsAway threads failure

structure RefreshInv (threads : GroupThreads) : Prop where
  exclusive : Exclusive threads.refreshing fun call => (threads.calls call).isFetching
  settles : ∀ failure ∈ threads.failures, failure.forgiven = false → Settles threads failure
  forgiven : ∀ failure ∈ threads.failures, failure.forgiven = true → failure.overtaken = true
  /-- A refresh begins where there are no credentials, and they come from a prefetch then. -/
  expired : threads.refreshing = true → threads.overtaken = false →
    threads.group.expired threads.clock = true
  lifetime : threads.group.valid = true → threads.group.lifetime = threads.group.cred.lifetime

section Expiry

variable {group : CredGroup} {now later : Time}

theorem expired_mono (isExpired : group.expired now = true) (after : now ≤ later) :
    group.expired later = true := by
  simp only [CredGroup.expired, decide_eq_true_eq] at isExpired ⊢
  rcases isExpired with notValid | isOver
  · exact .inl notValid
  · exact .inr (Int.lt_of_lt_of_le isOver after)

/-- The first test of the loop fails. -/
theorem expired_of_not_served (notServed : ¬ (group.valid ∧ ¬ group.expired now = true)) :
    group.expired now = true := by
  by_contra fresh
  refine notServed ⟨?_, fresh⟩
  by_contra notValid
  exact fresh (by simp [CredGroup.expired, notValid])

end Expiry

/-! ## Steps -/

section Steps

variable {threads next : GroupThreads} {failure : RefreshFailure} {call prefetch : Nat}
  {phase : AcquireCall} {now later : Time} {label : GroupLabel}

theorem Settles.advance (settles : Settles threads failure) (after : threads.clock ≤ later) :
    Settles { threads with clock := later } failure := by
  rcases settles with isOver | turnsAway
  · exact .inl (Int.le_trans isOver after)
  · exact .inr {
      retryAfter := turnsAway.retryAfter
      lastRefreshErr := turnsAway.lastRefreshErr
      notRefreshing := turnsAway.notRefreshing
      expired := fun notOvertaken => expired_mono (turnsAway.expired notOvertaken) after }

theorem RefreshInv.advance (inv : RefreshInv threads) (after : threads.clock ≤ later) :
    RefreshInv { threads with clock := later } where
  exclusive := inv.exclusive
  settles failure member notForgiven := (inv.settles failure member notForgiven).advance after
  forgiven := inv.forgiven
  expired isRefreshing notOvertaken := expired_mono (inv.expired isRefreshing notOvertaken) after
  lifetime := inv.lifetime

/-- A change of the group that leaves the back-off, and does not renew the credentials. -/
theorem RefreshInv.setGroup (inv : RefreshInv threads) (group : CredGroup)
    (retryAfter : group.retryAfter = threads.group.retryAfter)
    (lastRefreshErr : group.lastRefreshErr = threads.group.lastRefreshErr)
    (expired : threads.group.expired threads.clock = true → group.expired threads.clock = true)
    (lifetime : group.valid = true → group.lifetime = group.cred.lifetime) :
    RefreshInv { threads with group := group } where
  exclusive := inv.exclusive
  settles failure member notForgiven := by
    rcases inv.settles failure member notForgiven with isOver | turnsAway
    · exact .inl isOver
    · exact .inr {
        retryAfter := retryAfter.trans turnsAway.retryAfter
        lastRefreshErr := lastRefreshErr.trans turnsAway.lastRefreshErr
        notRefreshing := turnsAway.notRefreshing
        expired := fun notOvertaken => expired (turnsAway.expired notOvertaken) }
  forgiven := inv.forgiven
  expired isRefreshing notOvertaken := expired (inv.expired isRefreshing notOvertaken)
  lifetime := lifetime

/-- Calls other than the one that refreshes go on. -/
theorem RefreshInv.setCalls (inv : RefreshInv threads) (calls : Nat → AcquireCall)
    (same : ∀ other, (calls other).isFetching = (threads.calls other).isFetching) :
    RefreshInv { threads with calls := calls } where
  exclusive := inv.exclusive.frame same
  settles failure member notForgiven := by
    rcases inv.settles failure member notForgiven with isOver | turnsAway
    · exact .inl isOver
    · exact .inr ⟨turnsAway.1, turnsAway.2, turnsAway.3, turnsAway.4⟩
  forgiven := inv.forgiven
  expired := inv.expired
  lifetime := inv.lifetime

theorem RefreshInv.setCall (inv : RefreshInv threads)
    (wasOutside : (threads.calls call).isFetching = false) (isOutside : phase.isFetching = false) :
    RefreshInv (threads.setCall call phase) := by
  refine inv.setCalls _ fun other => ?_
  rw [Function.update_apply]
  split
  · rename_i isCall
    rw [isCall, wasOutside, isOutside]
  · rfl

theorem RefreshInv.setPrefetch (inv : RefreshInv threads) {phase : PrefetchCall} :
    RefreshInv (threads.setPrefetch prefetch phase) where
  exclusive := inv.exclusive
  settles failure member notForgiven := by
    rcases inv.settles failure member notForgiven with isOver | turnsAway
    · exact .inl isOver
    · exact .inr ⟨turnsAway.1, turnsAway.2, turnsAway.3, turnsAway.4⟩
  forgiven := inv.forgiven
  expired := inv.expired
  lifetime := inv.lifetime

theorem isFetching_wake (phase : AcquireCall) : phase.wake.isFetching = phase.isFetching := by
  cases phase <;> rfl

theorem RefreshInv.serve (inv : RefreshInv threads)
    (wasOutside : (threads.calls call).isFetching = false)
    (stepped : threads.serve call later prefetch = some next) : RefreshInv next := by
  have served : RefreshInv (threads.setCall call (.served threads.group.cred)) :=
    inv.setCall wasOutside rfl
  simp only [GroupThreads.serve] at stepped
  split at stepped
  · split at stepped
    · cases stepped
      exact (served.setPrefetch).setGroup _ rfl rfl id inv.lifetime
    · cases stepped
  · cases stepped
    exact served

/-- The guard of the back-off lets a refresh begin. -/
theorem settled_of_guard (settles : Settles threads failure)
    (guard : ¬ threads.group.retryAfter.any (later < ·) = true)
    (after : threads.clock ≤ later) : failure.failedAt + groupRetryCooldown ≤ later := by
  rcases settles with isOver | turnsAway
  · exact Int.le_trans isOver after
  · rw [turnsAway.retryAfter] at guard
    simpa using guard

theorem RefreshInv.beginRefresh (inv : RefreshInv threads) (free : threads.refreshing = false)
    (expired : threads.group.expired threads.clock = true)
    (guard : ¬ threads.group.retryAfter.any (threads.clock < ·) = true) :
    RefreshInv (threads.beginRefresh call) where
  exclusive := by
    refine inv.exclusive.acquire call free ?_ fun other differs => ?_
    · simp [GroupThreads.beginRefresh, GroupThreads.setCall, AcquireCall.isFetching]
    · simp [GroupThreads.beginRefresh, GroupThreads.setCall, Function.update_of_ne differs]
  settles failure member notForgiven :=
    .inl (settled_of_guard (inv.settles failure member notForgiven) guard (Int.le_refl _))
  forgiven := inv.forgiven
  expired := fun _ _ => expired
  lifetime := inv.lifetime

theorem RefreshInv.check (inv : RefreshInv threads)
    (wasOutside : (threads.calls call).isFetching = false) (notBefore : threads.clock ≤ now)
    (after : now ≤ later) (stepped : threads.check call now later prefetch = some next) :
    RefreshInv next := by
  have advanced := inv.advance (Int.le_trans notBefore after)
  simp only [GroupThreads.check] at stepped
  split at stepped
  · exact advanced.serve wasOutside stepped
  · rename_i notServed
    split at stepped
    · cases stepped
      exact advanced.setCall wasOutside rfl
    · rename_i notRefreshing
      split at stepped
      · cases stepped
        exact advanced.setCall wasOutside rfl
      · rename_i guard
        cases stepped
        exact advanced.beginRefresh (Bool.eq_false_iff.mpr notRefreshing)
          (expired_mono (expired_of_not_served notServed) after) guard

/-- While a refresh is under way, no failure turns callers away. -/
theorem RefreshInv.backoff_over (inv : RefreshInv threads) (isRefreshing : threads.refreshing = true)
    (member : failure ∈ threads.failures) (notForgiven : failure.forgiven = false) :
    failure.failedAt + groupRetryCooldown ≤ threads.clock := by
  rcases inv.settles failure member notForgiven with isOver | turnsAway
  · exact isOver
  · rw [turnsAway.notRefreshing] at isRefreshing
    cases isRefreshing

theorem RefreshInv.fetchReturns (inv : RefreshInv threads)
    (isFetching : (threads.calls call).isFetching = true) (notBefore : threads.clock ≤ now)
    {outcome : Except String (TurnCred × Int)} :
    RefreshInv (threads.fetchReturns call outcome now) := by
  have isRefreshing := inv.exclusive.held.mpr ⟨call, isFetching⟩
  have released (result : Except String TurnCred) : Exclusive false fun other =>
      ((threads.broadcast.setCall call (.returned result)).calls other).isFetching := by
    refine inv.exclusive.release call isFetching ?_ fun other differs => ?_
    · simp [GroupThreads.setCall, AcquireCall.isFetching]
    · simp [GroupThreads.setCall, GroupThreads.broadcast, Function.update_of_ne differs,
        isFetching_wake]
  cases outcome with
  | ok stored =>
    exact {
      exclusive := released _
      settles := fun failure member notForgiven => .inl
        (Int.le_trans (inv.backoff_over isRefreshing member notForgiven) notBefore)
      forgiven := inv.forgiven
      expired := nofun
      lifetime := fun _ => rfl }
  | error err =>
    refine ⟨released _, fun failure member notForgiven => ?_, fun failure member isForgiven => ?_,
      nofun, inv.lifetime⟩
    · rcases List.mem_cons.mp member with rfl | isOld
      · -- the refresh that fails now; what it found expired still is, unless a prefetch renewed it
        exact .inr {
          retryAfter := rfl
          lastRefreshErr := rfl
          notRefreshing := rfl
          expired := fun notOvertaken =>
            expired_mono (inv.expired isRefreshing notOvertaken) notBefore }
      · exact .inl (Int.le_trans (inv.backoff_over isRefreshing isOld notForgiven) notBefore)
    · rcases List.mem_cons.mp member with rfl | isOld
      · cases isForgiven
      · exact inv.forgiven failure isOld isForgiven

theorem RefreshInv.prefetchReturns (inv : RefreshInv threads) (notBefore : threads.clock ≤ now)
    {outcome : Except String (TurnCred × Int)} :
    RefreshInv (threads.prefetchReturns prefetch outcome now) := by
  cases outcome with
  | ok stored =>
    refine ⟨inv.exclusive, fun failure member notForgiven => ?_, fun failure member _ => ?_,
      fun _ => nofun, fun _ => rfl⟩
    · obtain ⟨old, _, rfl⟩ := List.mem_map.mp member
      cases notForgiven
    · obtain ⟨old, _, rfl⟩ := List.mem_map.mp member
      rfl
  | error err => exact (inv.advance notBefore).setPrefetch

theorem RefreshInv.step (inv : RefreshInv threads) (stepped : threads.step label = some next) :
    RefreshInv next := by
  cases label with
  | call call =>
    simp only [GroupThreads.step] at stepped
    split at stepped
    · rename_i isIdle
      cases stepped
      exact inv.setCall (by simp [isIdle, AcquireCall.isFetching]) rfl
    · cases stepped
  | check call now later prefetch =>
    simp only [GroupThreads.step] at stepped
    split at stepped
    · rename_i enabled
      obtain ⟨isReady, notBefore, after⟩ := enabled
      refine inv.check ?_ notBefore after stepped
      cases isPhase : threads.calls call <;> simp_all [AcquireCall.isReady, AcquireCall.isFetching]
    · cases stepped
  | fetchReturns call outcome now =>
    simp only [GroupThreads.step] at stepped
    split at stepped
    · rename_i enabled
      cases stepped
      exact inv.fetchReturns enabled.1 enabled.2
    · cases stepped
  | prefetchReturns prefetch outcome now =>
    simp only [GroupThreads.step] at stepped
    split at stepped
    · rename_i enabled
      cases stepped
      exact inv.prefetchReturns enabled.2
    · cases stepped
  | prefetchEnds prefetch =>
    simp only [GroupThreads.step] at stepped
    split at stepped
    · cases stepped
      exact (inv.setPrefetch).setGroup _ rfl rfl id inv.lifetime
    · cases stepped
  | invalidate =>
    simp only [GroupThreads.step, Option.some.injEq] at stepped
    rw [← stepped]
    refine (inv.setCalls _ fun other => isFetching_wake _).setGroup _ rfl rfl (fun _ => ?_) nofun
    simp [CredGroup.expired]

theorem newGroup_inv (isNew : NewGroup threads) : RefreshInv threads := by
  obtain ⟨id, assignedIdx, clock, rfl⟩ := isNew
  exact ⟨.start fun _ => rfl, fun _ member => (nomatch member), fun _ member => (nomatch member),
    nofun, nofun⟩

theorem group_inv (reached : groupThreads.Reachable NewGroup threads) : RefreshInv threads :=
  reached.invariant (fun _ => newGroup_inv) fun _ _ _ inv _ stepped => inv.step stepped

/-! ## The discipline -/

/-- A caller that waited for a refresh that failed takes the lock again. -/
structure WaitedFor (threads : GroupThreads) (call : Nat) (failure : RefreshFailure) : Prop where
  woken : threads.calls call = .woken failure.refresh
  failed : failure ∈ threads.failures

structure RefreshDiscipline (threads : GroupThreads) : Prop where
  oneFetch : ∀ first second, (threads.calls first).isFetching = true →
    (threads.calls second).isFetching = true → first = second
  /-- Within the back-off, where no prefetch has succeeded since the refresh began. -/
  waiters : ∀ call failure now later prefetch next, WaitedFor threads call failure →
    failure.overtaken = false → later < failure.failedAt + groupRetryCooldown →
    threads.step (.check call now later prefetch) = some next →
    next.calls call = .returned (.error failure.err)
  backoff : ∀ call now later prefetch next,
    threads.step (.check call now later prefetch) = some next → next.calls call = .fetching →
    ∀ failure ∈ threads.failures, failure.forgiven = false →
      failure.failedAt + groupRetryCooldown ≤ later
  cache : ∀ call now later prefetch next cred,
    threads.step (.check call now later prefetch) = some next → next.calls call = .served cred →
    cred = threads.group.cred ∧ threads.group.expired now = false ∧
      threads.group.lifetime = cred.lifetime

/-- A round of the loop, with the clock of its second reading. -/
theorem check_of_step (stepped : threads.step (.check call now later prefetch) = some next) :
    threads.clock ≤ now ∧ now ≤ later ∧ threads.check call now later prefetch = some next := by
  simp only [GroupThreads.step] at stepped
  split at stepped
  · rename_i enabled
    exact ⟨enabled.2.1, enabled.2.2, stepped⟩
  · cases stepped

theorem calls_serve (stepped : threads.serve call later prefetch = some next) :
    next.calls call = .served threads.group.cred := by
  simp only [GroupThreads.serve] at stepped
  split at stepped
  · split at stepped
    · cases stepped
      exact Function.update_self ..
    · cases stepped
  · cases stepped
    exact Function.update_self ..

theorem turned_away (inv : RefreshInv threads) (member : failure ∈ threads.failures)
    (notOvertaken : failure.overtaken = false)
    (within : later < failure.failedAt + groupRetryCooldown)
    (stepped : threads.step (.check call now later prefetch) = some next) :
    next.calls call = .returned (.error failure.err) := by
  obtain ⟨notBefore, after, stepped⟩ := check_of_step stepped
  have notForgiven : failure.forgiven = false := by
    refine Bool.eq_false_iff.mpr fun isForgiven => ?_
    rw [inv.forgiven failure member isForgiven] at notOvertaken
    cases notOvertaken
  rcases inv.settles failure member notForgiven with isOver | turnsAway
  · exact absurd (Int.le_trans isOver (Int.le_trans notBefore after)) (Int.not_le.mpr within)
  · have expired : threads.group.expired now = true :=
      expired_mono (turnsAway.expired notOvertaken) notBefore
    have guard : threads.group.retryAfter.any (later < ·) = true := by
      simpa [turnsAway.retryAfter] using within
    simp only [GroupThreads.check, expired, turnsAway.notRefreshing, guard, not_true, and_false,
      if_false, if_true, Bool.false_eq_true, Option.some.injEq] at stepped
    rw [← stepped, turnsAway.lastRefreshErr]
    exact Function.update_self ..

theorem backoff_of_fetching (inv : RefreshInv threads)
    (stepped : threads.step (.check call now later prefetch) = some next)
    (begins : next.calls call = .fetching) (member : failure ∈ threads.failures)
    (notForgiven : failure.forgiven = false) : failure.failedAt + groupRetryCooldown ≤ later := by
  obtain ⟨notBefore, after, stepped⟩ := check_of_step stepped
  simp only [GroupThreads.check] at stepped
  split at stepped
  · rw [calls_serve stepped] at begins
    cases begins
  · split at stepped
    · cases stepped
      simp [GroupThreads.setCall] at begins
    · split at stepped
      · cases stepped
        simp [GroupThreads.setCall] at begins
      · rename_i guard
        exact settled_of_guard (inv.settles failure member notForgiven) guard
          (Int.le_trans notBefore after)

theorem fresh_of_served (inv : RefreshInv threads) {cred : TurnCred}
    (stepped : threads.step (.check call now later prefetch) = some next)
    (served : next.calls call = .served cred) :
    cred = threads.group.cred ∧ threads.group.expired now = false ∧
      threads.group.lifetime = cred.lifetime := by
  obtain ⟨_, _, stepped⟩ := check_of_step stepped
  simp only [GroupThreads.check] at stepped
  split at stepped
  · rename_i isFresh
    rw [calls_serve stepped] at served
    cases served
    exact ⟨rfl, Bool.eq_false_iff.mpr isFresh.2, inv.lifetime isFresh.1⟩
  · split at stepped
    · cases stepped
      simp [GroupThreads.setCall] at served
    · split at stepped
      · cases stepped
        simp [GroupThreads.setCall] at served
      · cases stepped
        simp [GroupThreads.beginRefresh, GroupThreads.setCall] at served

theorem refresh_disciplined (reached : groupThreads.Reachable NewGroup threads) :
    RefreshDiscipline threads := by
  have inv := group_inv reached
  exact {
    oneFetch := inv.exclusive.unique
    waiters := fun _ _ _ _ _ _ waited notOvertaken within stepped =>
      turned_away inv waited.failed notOvertaken within stepped
    backoff := fun _ _ _ _ _ stepped begins _ member notForgiven =>
      backoff_of_fetching inv stepped begins member notForgiven
    cache := fun _ _ _ _ _ _ stepped served => fresh_of_served inv stepped served }

end Steps

/-! ## Two callers and a prefetch -/

def newGroup : GroupThreads := { group := { id := 0, assignedIdx := 0 }, clock := 0 }

/-- The second caller waits for the refresh of the first, which fails. -/
def waitedLabels : List GroupLabel :=
  [.call 0, .check 0 0 0 0, .call 1, .check 1 0 0 0, .fetchReturns 0 (.error "timeout") 0]

theorem refresh_disciplined_waiting : ∃ threads : GroupThreads,
    RefreshDiscipline threads ∧ WaitedFor threads 1 ⟨1, "timeout", 0, false, false⟩ := by
  obtain ⟨threads, ran, woken, failures⟩ : ∃ threads, groupThreads.run newGroup waitedLabels =
      some threads ∧ threads.calls 1 = .woken 1 ∧
        threads.failures = [⟨1, "timeout", 0, false, false⟩] := ⟨_, rfl, rfl, rfl⟩
  have reached : groupThreads.Reachable NewGroup threads :=
    Machine.Reachable.run (.start ⟨0, 0, 0, rfl⟩) ran
  exact ⟨threads, refresh_disciplined reached, woken, by simp [failures]⟩

def someIdentity : TurnCred :=
  { user := "user", pass := "pass", addr := "turn", lifetime := 20 * minute }

/-- Credentials grow old, and a caller waits for a refresh; it fails, and the prefetch succeeds. -/
def overtakenLabels : List GroupLabel :=
  [.call 0, .check 0 0 0 0, .fetchReturns 0 (.ok (someIdentity, 0)) 0,
    .call 1, .check 1 (17 * minute) (17 * minute) 0,
    .call 2, .check 2 (19 * minute) (19 * minute) 1,
    .call 3, .check 3 (19 * minute) (19 * minute) 1,
    .fetchReturns 2 (.error "timeout") (20 * minute),
    .prefetchReturns 0 (.ok (someIdentity, 0)) (20 * minute)]

/-- A caller that waited may get new credentials within the back-off, and where nothing was
    prefetched it may refresh after the back-off. -/
theorem waiter_goes_on :
    (¬ ∀ threads, groupThreads.Reachable NewGroup threads →
      ∀ call failure now later prefetch next, WaitedFor threads call failure →
        later < failure.failedAt + groupRetryCooldown →
        threads.step (.check call now later prefetch) = some next →
        next.calls call = .returned (.error failure.err)) ∧
    ¬ ∀ threads, groupThreads.Reachable NewGroup threads →
      ∀ call failure now later prefetch next, WaitedFor threads call failure →
        failure.overtaken = false → threads.step (.check call now later prefetch) = some next →
        next.calls call = .returned (.error failure.err) := by
  constructor
  · intro always
    obtain ⟨threads, ran, woken, failures, next, stepped, served⟩ : ∃ threads,
        groupThreads.run newGroup overtakenLabels = some threads ∧ threads.calls 3 = .woken 2 ∧
          threads.failures = [⟨2, "timeout", 20 * minute, true, true⟩] ∧
          ∃ next, threads.step (.check 3 (20 * minute) (20 * minute) 1) = some next ∧
            next.calls 3 = .served someIdentity := ⟨_, rfl, rfl, rfl, _, rfl, rfl⟩
    have reached : groupThreads.Reachable NewGroup threads :=
      Machine.Reachable.run (.start ⟨0, 0, 0, rfl⟩) ran
    have failed := always threads reached 3 ⟨2, "timeout", 20 * minute, true, true⟩ _ _ _ next
      ⟨woken, by simp [failures]⟩ (by decide) stepped
    rw [served] at failed
    cases failed
  · intro always
    obtain ⟨threads, ran, woken, failures, next, stepped, fetches⟩ : ∃ threads,
        groupThreads.run newGroup waitedLabels = some threads ∧ threads.calls 1 = .woken 1 ∧
          threads.failures = [⟨1, "timeout", 0, false, false⟩] ∧
          ∃ next, threads.step (.check 1 (2 * minute) (2 * minute) 0) = some next ∧
            next.calls 1 = .fetching := ⟨_, rfl, rfl, rfl, _, rfl, rfl⟩
    have reached : groupThreads.Reachable NewGroup threads :=
      Machine.Reachable.run (.start ⟨0, 0, 0, rfl⟩) ran
    have failed := always threads reached 1 ⟨1, "timeout", 0, false, false⟩ _ _ _ next
      ⟨woken, by simp [failures]⟩ rfl stepped
    rw [fetches] at failed
    cases failed

end VkTurn.Client
