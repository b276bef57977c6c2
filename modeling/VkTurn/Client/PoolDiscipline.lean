import VkTurn.Client.PoolCreds
import VkTurn.Transition.Exclusive

/-! # What the pool keeps

`foregroundFillRunning` is up exactly while a call fills the pool, and a call waits only while it
is, since the end of a fill wakes all that wait.
-/

namespace VkTurn.Client

open VkTurn.Transition

/-! ## Entries -/

def DistinctIdentities (pool : List TurnCred) : Prop :=
  pool.Pairwise fun first second => first.sameIdentity second = false

section Entries

variable {state : PoolState} {cred : TurnCred} {now : Time} {target : Option Int}

theorem TurnCred.sameIdentity_comm (first second : TurnCred) :
    first.sameIdentity second = second.sameIdentity first := by
  unfold TurnCred.sameIdentity
  simp only [decide_eq_decide]
  constructor
  · exact fun ⟨user, pass, addr⟩ => ⟨user.symm, pass.symm, addr.symm⟩
  · exact fun ⟨user, pass, addr⟩ => ⟨user.symm, pass.symm, addr.symm⟩

theorem distinct_expireIfNeeded (distinct : DistinctIdentities state.pool) :
    DistinctIdentities (state.expireIfNeeded now).pool := by
  unfold PoolState.expireIfNeeded
  dsimp only
  split
  · exact distinct.filter _
  · exact distinct

theorem distinct_trimPoolToDesired (distinct : DistinctIdentities state.pool) :
    DistinctIdentities (state.trimPoolToDesired target).pool := by
  unfold PoolState.trimPoolToDesired
  split
  · exact distinct
  · exact distinct.sublist (List.take_sublist _ _)

theorem distinct_refresh (distinct : DistinctIdentities state.pool) :
    DistinctIdentities (state.refresh now target).pool :=
  distinct_trimPoolToDesired (distinct_expireIfNeeded distinct)

theorem distinct_appendIfNew (distinct : DistinctIdentities state.pool) :
    DistinctIdentities (state.appendIfNew cred).pool := by
  unfold PoolState.appendIfNew
  split
  · exact distinct
  · rename_i isNew
    refine List.pairwise_append.mpr ⟨distinct, List.pairwise_singleton _ _, ?_⟩
    intro existing member last isLast
    rw [List.mem_singleton.mp isLast, TurnCred.sameIdentity_comm]
    exact Bool.eq_false_iff.mpr fun same => isNew (List.any_eq_true.mpr ⟨existing, member, same⟩)

theorem distinct_register (distinct : DistinctIdentities state.pool) :
    DistinctIdentities (state.register cred target).pool := by
  have appended : DistinctIdentities (state.appendIfNew cred).pool := distinct_appendIfNew distinct
  exact distinct_trimPoolToDesired (by exact appended)

/-- The flags are not touched by what is done to the entries. -/
theorem flags_refresh :
    (state.refresh now target).foregroundFillRunning = state.foregroundFillRunning ∧
      (state.refresh now target).backgroundFillRunning = state.backgroundFillRunning := by
  unfold PoolState.refresh PoolState.trimPoolToDesired PoolState.expireIfNeeded
  dsimp only
  split
  · split
    · exact ⟨rfl, rfl⟩
    · exact ⟨rfl, rfl⟩
  · split
    · exact ⟨rfl, rfl⟩
    · exact ⟨rfl, rfl⟩

theorem flags_register :
    (state.register cred target).foregroundFillRunning = state.foregroundFillRunning ∧
      (state.register cred target).backgroundFillRunning = state.backgroundFillRunning := by
  unfold PoolState.register PoolState.trimPoolToDesired PoolState.appendIfNew
  dsimp only
  split
  · split
    · exact ⟨rfl, rfl⟩
    · exact ⟨rfl, rfl⟩
  · split
    · exact ⟨rfl, rfl⟩
    · exact ⟨rfl, rfl⟩

theorem current?_eq_none (empty : state.current? = none) : state.pool = [] := by
  unfold PoolState.current? at empty
  by_contra hasEntries
  have small := Nat.mod_lt state.idx (List.length_pos_iff.mpr hasEntries)
  rw [List.getElem?_eq_getElem small] at empty
  cases empty

end Entries

/-! ## The discipline -/

structure PoolInv (threads : PoolThreads) : Prop where
  distinct : DistinctIdentities threads.state.pool
  foreground : Exclusive threads.state.foregroundFillRunning
    fun call => (threads.calls call).isFilling
  background : Exclusive threads.state.backgroundFillRunning
    fun fill => (threads.fills fill).isRunning
  waiters : ∀ call, (threads.calls call).isWaiting = true →
    threads.state.foregroundFillRunning = true

section Steps

variable {threads next : PoolThreads} {call fill : Nat} {phase : PoolCall} {cred : TurnCred}
  {desiredSize currentSize : Nat} {label : PoolLabel} {now : Time}

/-- The call that makes the step was not filling and is not filling after it. -/
theorem PoolInv.setCall (inv : PoolInv threads) (wasOutside : (threads.calls call).isFilling = false)
    (isOutside : phase.isFilling = false)
    (waits : phase.isWaiting = true → threads.state.foregroundFillRunning = true) :
    PoolInv (threads.setCall call phase) := by
  refine ⟨inv.distinct, inv.foreground.frame fun other => ?_, inv.background, fun other => ?_⟩
  · show (Function.update threads.calls call phase other).isFilling = _
    rw [Function.update_apply]
    split
    · rename_i isCall
      rw [isCall, wasOutside, isOutside]
    · rfl
  · show (Function.update threads.calls call phase other).isWaiting = true → _
    rw [Function.update_apply]
    split
    · exact waits
    · exact inv.waiters other

/-- A change of the entries. -/
theorem PoolInv.setState (inv : PoolInv threads) {state : PoolState}
    (distinct : DistinctIdentities state.pool)
    (foreground : state.foregroundFillRunning = threads.state.foregroundFillRunning)
    (background : state.backgroundFillRunning = threads.state.backgroundFillRunning) :
    PoolInv { threads with state := state } where
  distinct := distinct
  foreground := by
    show Exclusive state.foregroundFillRunning _
    rw [foreground]
    exact inv.foreground
  background := by
    show Exclusive state.backgroundFillRunning _
    rw [background]
    exact inv.background
  waiters other isWaiting := foreground.trans (inv.waiters other isWaiting)

theorem PoolInv.finish (inv : PoolInv threads)
    (wasOutside : (threads.calls call).isFilling = false) :
    PoolInv (threads.finish call cred currentSize desiredSize) := by
  unfold PoolThreads.finish
  split
  · exact inv.setCall wasOutside rfl nofun
  · exact inv.setCall wasOutside rfl nofun

theorem PoolInv.serve (inv : PoolInv threads)
    (wasOutside : (threads.calls call).isFilling = false) :
    PoolInv (threads.serve call cred desiredSize) := by
  unfold PoolThreads.serve
  refine PoolInv.finish ?_ wasOutside
  exact inv.setState (by exact inv.distinct) rfl rfl

theorem PoolInv.refresh (inv : PoolInv threads) (now : Time) (target : Option Int) :
    PoolInv { threads with state := threads.state.refresh now target } :=
  inv.setState (distinct_refresh inv.distinct) flags_refresh.1 flags_refresh.2

theorem PoolInv.check (inv : PoolInv threads) (isEntered : threads.calls call = .entered)
    {trimTarget desiredTarget : Option Int} :
    PoolInv (threads.check call now trimTarget desiredTarget) := by
  have wasOutside : (threads.calls call).isFilling = false := by rw [isEntered]; rfl
  have refreshed := inv.refresh now trimTarget
  unfold PoolThreads.check
  dsimp only
  split
  · exact refreshed.serve wasOutside
  · split
    · rename_i isRunning
      exact refreshed.setCall wasOutside rfl fun _ => isRunning
    · rename_i notRunning
      refine ⟨refreshed.distinct, ?_, refreshed.background, fun _ _ => rfl⟩
      refine refreshed.foreground.acquire call (Bool.eq_false_iff.mpr notRunning) ?_ ?_
      · show (Function.update threads.calls call _ call).isFilling = true
        rw [Function.update_self]
        rfl
      · intro other differs
        show (Function.update threads.calls call _ other).isFilling = _
        rw [Function.update_of_ne differs]

theorem PoolInv.recheck (inv : PoolInv threads) (isWoken : threads.calls call = .woken desiredSize) :
    PoolInv (threads.recheck call desiredSize) := by
  have wasOutside : (threads.calls call).isFilling = false := by rw [isWoken]; rfl
  unfold PoolThreads.recheck
  split
  · exact inv.serve wasOutside
  · split
    · rename_i isRunning
      exact inv.setCall wasOutside rfl fun _ => isRunning
    · exact inv.setCall wasOutside rfl nofun

theorem isFilling_wake (phase : PoolCall) : phase.wake.isFilling = phase.isFilling := by
  cases phase <;> rfl

theorem isWaiting_wake (phase : PoolCall) : phase.wake.isWaiting = false := by
  cases phase <;> rfl

/-- The fill of the call is over, and everybody is woken. -/
theorem PoolInv.fillOver (inv : PoolInv threads) (wasFilling : (threads.calls call).isFilling = true)
    (isOutside : phase.isFilling = false) (noWait : phase.isWaiting = false) {state : PoolState}
    (distinct : DistinctIdentities state.pool) (foreground : state.foregroundFillRunning = false)
    (background : state.backgroundFillRunning = threads.state.backgroundFillRunning) :
    PoolInv { threads.broadcast.setCall call phase with state := state } := by
  constructor
  case distinct => exact distinct
  case foreground =>
    dsimp only
    rw [foreground]
    refine inv.foreground.release call wasFilling ?_ fun other differs => ?_
    · show (Function.update threads.broadcast.calls call phase call).isFilling = false
      rw [Function.update_self, isOutside]
    · show (Function.update threads.broadcast.calls call phase other).isFilling = _
      rw [Function.update_of_ne differs]
      exact isFilling_wake _
  case background =>
    dsimp only
    rw [background]
    exact inv.background
  case waiters =>
    intro other isWaiting
    have notWaiting : (Function.update threads.broadcast.calls call phase other).isWaiting =
        false := by
      rw [Function.update_apply]
      split
      · exact noWait
      · exact isWaiting_wake _
    exact nomatch notWaiting.symm.trans isWaiting

theorem PoolInv.fillReturns (inv : PoolInv threads)
    (isFilling : threads.calls call = .filling desiredSize)
    {outcome : Except String FetchedIdentity} {desiredTarget trimTarget : Option Int} :
    PoolInv (threads.fillReturns call desiredSize outcome now desiredTarget trimTarget) := by
  have wasFilling : (threads.calls call).isFilling = true := by rw [isFilling]; rfl
  have distinct : DistinctIdentities
      { threads.state with foregroundFillRunning := false }.pool := inv.distinct
  unfold PoolThreads.fillReturns
  dsimp only
  split
  · unfold PoolThreads.finish
    refine inv.fillOver wasFilling ?_ ?_ ?_ flags_register.1 flags_register.2
    · split
      · rfl
      · rfl
    · split
      · rfl
      · rfl
    · exact distinct_register distinct
  · split
    · unfold PoolThreads.serve PoolThreads.finish
      refine inv.fillOver wasFilling ?_ ?_ inv.distinct rfl rfl
      · split
        · rfl
        · rfl
      · split
        · rfl
        · rfl
    · exact inv.fillOver wasFilling rfl rfl inv.distinct rfl rfl

theorem PoolInv.startBackgroundFill (inv : PoolInv threads) {user pass addr : String}
    (isGrowing : threads.calls call = .growing user pass addr) {creds : String × String × String}
    {trimTarget desiredTarget : Option Int} {retryNow : Time} :
    PoolInv (threads.startBackgroundFill call fill creds now trimTarget desiredTarget
      retryNow) := by
  have wasOutside : (threads.calls call).isFilling = false := by rw [isGrowing]; rfl
  have refreshed : PoolInv ({ threads with
      state := threads.state.refresh now trimTarget }.setCall call (.returned (.ok creds))) :=
    (inv.refresh now trimTarget).setCall wasOutside rfl nofun
  unfold PoolThreads.startBackgroundFill
  dsimp only
  split
  · exact refreshed
  · rename_i mayFill
    split
    · exact refreshed
    · refine ⟨refreshed.distinct, refreshed.foreground, ?_, refreshed.waiters⟩
      refine refreshed.background.acquire fill ?_ ?_ fun other differs => ?_
      · exact Bool.eq_false_iff.mpr fun isRunning => mayFill (.inl isRunning)
      · show (Function.update threads.fills fill .fetching fill).isRunning = true
        rw [Function.update_self]
        rfl
      · show (Function.update threads.fills fill .fetching other).isRunning = _
        rw [Function.update_of_ne differs]
        rfl

theorem PoolInv.fetchReturns (inv : PoolInv threads) (isFetching : threads.fills fill = .fetching)
    {outcome : Except String FetchedIdentity} {trimTarget : Option Int} :
    PoolInv (threads.fetchReturns fill outcome now trimTarget) := by
  have stays : PoolInv (threads.setFill fill .fetched) := by
    refine ⟨inv.distinct, inv.foreground, ?_, inv.waiters⟩
    refine inv.background.stay fill ?_ ?_ fun other differs => ?_
    · show (threads.fills fill).isRunning = true
      rw [isFetching]
      rfl
    · show (Function.update threads.fills fill .fetched fill).isRunning = true
      rw [Function.update_self]
      rfl
    · show (Function.update threads.fills fill .fetched other).isRunning = _
      rw [Function.update_of_ne differs]
  unfold PoolThreads.fetchReturns
  dsimp only
  cases outcome with
  | ok fetched =>
    have registered : DistinctIdentities
        (threads.state.register (fetched.cred now) trimTarget).pool :=
      distinct_register inv.distinct
    exact stays.setState registered flags_register.1 flags_register.2
  | error err => exact stays.setState (by exact inv.distinct) rfl rfl

theorem PoolInv.fillEnds (inv : PoolInv threads) (isFetched : threads.fills fill = .fetched) :
    PoolInv { threads.setFill fill .ended with
      state := { threads.state with backgroundFillRunning := false } } := by
  refine ⟨inv.distinct, inv.foreground, ?_, inv.waiters⟩
  refine inv.background.release fill ?_ ?_ fun other differs => ?_
  · show (threads.fills fill).isRunning = true
    rw [isFetched]
    rfl
  · show (Function.update threads.fills fill .ended fill).isRunning = false
    rw [Function.update_self]
    rfl
  · show (Function.update threads.fills fill .ended other).isRunning = _
    rw [Function.update_of_ne differs]

theorem PoolInv.step (inv : PoolInv threads) (stepped : threads.step label = some next) :
    PoolInv next := by
  unfold PoolThreads.step at stepped
  cases label with
  | call call =>
    dsimp only at stepped
    split at stepped
    · rename_i isIdle
      cases stepped
      exact inv.setCall (by rw [isIdle]; rfl) rfl nofun
    · cases stepped
  | check call now trimTarget desiredTarget =>
    dsimp only at stepped
    split at stepped
    · rename_i isEntered
      cases stepped
      exact inv.check isEntered
    · cases stepped
  | recheck call =>
    dsimp only at stepped
    split at stepped
    · rename_i desiredSize isWoken
      cases stepped
      exact inv.recheck isWoken
    · cases stepped
  | fillReturns call outcome now desiredTarget trimTarget =>
    dsimp only at stepped
    split at stepped
    · rename_i desiredSize isFilling
      cases stepped
      exact inv.fillReturns isFilling
    · cases stepped
  | startBackgroundFill call fill now trimTarget desiredTarget retryNow =>
    dsimp only at stepped
    split at stepped
    · rename_i user pass addr isGrowing _
      cases stepped
      exact inv.startBackgroundFill isGrowing
    · cases stepped
  | fetchReturns fill outcome now trimTarget =>
    dsimp only at stepped
    split at stepped
    · rename_i isFetching
      cases stepped
      exact inv.fetchReturns isFetching
    · cases stepped
  | fillEnds fill =>
    dsimp only at stepped
    split at stepped
    · rename_i isFetched
      cases stepped
      exact inv.fillEnds isFetched
    · cases stepped

theorem newPool_inv (isNew : NewPool threads) : PoolInv threads := by
  rw [show threads = {} from isNew]
  exact ⟨List.Pairwise.nil, .start fun _ => rfl, .start fun _ => rfl, fun _ => nofun⟩

/-! ## Errors -/

/-- The step ends a call with an error. -/
def Fails (threads next : PoolThreads) (call : Nat) : Prop :=
  ∃ err, next.calls call = .returned (.error err) ∧ threads.calls call ≠ .returned (.error err)

/-- The step is the end of the call's own fill, which has failed, and the pool is empty. -/
def OwnFillFailed (threads : PoolThreads) (label : PoolLabel) (call : Nat) : Prop :=
  ∃ err now desiredTarget trimTarget,
    label = .fillReturns call (.error err) now desiredTarget trimTarget ∧
    (threads.calls call).isFilling = true ∧ threads.state.pool = []

/-- No call fails where another one has got the given phase, and nothing else has changed but that
    some calls were woken. -/
theorem not_fails_update {other : Nat}
    (calls : next.calls = Function.update threads.calls other phase ∨
      next.calls = Function.update threads.broadcast.calls other phase)
    (noError : ∀ err, phase ≠ .returned (.error err)) : ¬ Fails threads next call := by
  rintro ⟨err, failed, notFailed⟩
  rcases calls with calls | calls
  · rw [calls, Function.update_apply] at failed
    split at failed
    · exact noError err failed
    · exact notFailed failed
  · rw [calls, Function.update_apply] at failed
    split at failed
    · exact noError err failed
    · refine notFailed ?_
      unfold PoolThreads.broadcast PoolCall.wake at failed
      dsimp only at failed
      split at failed
      · cases failed
      · exact failed

theorem finish_noError (cred : TurnCred) (currentSize desiredSize : Nat) (err : String) :
    (if currentSize < desiredSize then PoolCall.growing cred.user cred.pass cred.addr
      else .returned (.ok (cred.user, cred.pass, cred.addr))) ≠ .returned (.error err) := by
  split
  · exact nofun
  · exact nofun

theorem ownFillFailed_of_fails (stepped : threads.step label = some next)
    (fails : Fails threads next call) : OwnFillFailed threads label call := by
  unfold PoolThreads.step at stepped
  cases label with
  | call other =>
    dsimp only at stepped
    split at stepped
    · cases stepped
      exact absurd fails (not_fails_update (.inl rfl) nofun)
    · cases stepped
  | check other now trimTarget desiredTarget =>
    dsimp only at stepped
    split at stepped
    · cases stepped
      unfold PoolThreads.check at fails
      dsimp only at fails
      split at fails
      · exact absurd fails (not_fails_update (.inl rfl) (finish_noError _ _ _))
      · split at fails
        · exact absurd fails (not_fails_update (.inl rfl) nofun)
        · exact absurd fails (not_fails_update (.inl rfl) nofun)
    · cases stepped
  | recheck other =>
    dsimp only at stepped
    split at stepped
    · cases stepped
      unfold PoolThreads.recheck at fails
      split at fails
      · exact absurd fails (not_fails_update (.inl rfl) (finish_noError _ _ _))
      · split at fails
        · exact absurd fails (not_fails_update (.inl rfl) nofun)
        · exact absurd fails (not_fails_update (.inl rfl) nofun)
    · cases stepped
  | fillReturns other outcome now desiredTarget trimTarget =>
    dsimp only at stepped
    split at stepped
    · rename_i desiredSize isFilling
      cases stepped
      unfold PoolThreads.fillReturns at fails
      dsimp only at fails
      split at fails
      · exact absurd fails (not_fails_update (.inr rfl) (finish_noError _ _ _))
      · rename_i err
        split at fails
        · exact absurd fails (not_fails_update (.inr rfl) (finish_noError _ _ _))
        · rename_i isEmpty
          by_cases isCall : call = other
          · rw [isCall]
            refine ⟨err, now, desiredTarget, trimTarget, rfl, ?_, current?_eq_none isEmpty⟩
            rw [isFilling]
            rfl
          · -- another call keeps its phase or is woken
            have noFailure : ¬ Fails threads (threads.broadcast.setCall other .entered) call :=
              not_fails_update (.inr rfl) nofun
            obtain ⟨otherErr, failed, notFailed⟩ := fails
            refine absurd ⟨otherErr, ?_, notFailed⟩ noFailure
            show Function.update threads.broadcast.calls other _ call = _
            rw [Function.update_of_ne isCall]
            have kept : Function.update threads.broadcast.calls other _ call = _ := failed
            rwa [Function.update_of_ne isCall] at kept
    · cases stepped
  | startBackgroundFill other fill now trimTarget desiredTarget retryNow =>
    dsimp only at stepped
    split at stepped
    · cases stepped
      unfold PoolThreads.startBackgroundFill at fails
      dsimp only at fails
      split at fails
      · exact absurd fails (not_fails_update (.inl rfl) nofun)
      · split at fails
        · exact absurd fails (not_fails_update (.inl rfl) nofun)
        · exact absurd fails (not_fails_update (.inl rfl) nofun)
    · cases stepped
  | fetchReturns fill outcome now trimTarget =>
    dsimp only at stepped
    split at stepped
    · cases stepped
      obtain ⟨err, failed, notFailed⟩ := fails
      exact absurd failed notFailed
    · cases stepped
  | fillEnds fill =>
    dsimp only at stepped
    split at stepped
    · cases stepped
      obtain ⟨err, failed, notFailed⟩ := fails
      exact absurd failed notFailed
    · cases stepped

/-! ## Every run -/

structure PoolDiscipline (threads : PoolThreads) : Prop where
  distinct : DistinctIdentities threads.state.pool
  oneForeground : ∀ first second, (threads.calls first).isFilling = true →
    (threads.calls second).isFilling = true → first = second
  oneBackground : ∀ first second, (threads.fills first).isRunning = true →
    (threads.fills second).isRunning = true → first = second
  waiters : ∀ call, (threads.calls call).isWaiting = true →
    ∃ other, (threads.calls other).isFilling = true
  errors : ∀ label next call, threads.step label = some next → Fails threads next call →
    OwnFillFailed threads label call

theorem pool_disciplined (reached : poolThreads.Reachable NewPool threads) :
    PoolDiscipline threads := by
  have inv : PoolInv threads :=
    reached.invariant (fun _ => newPool_inv) fun _ _ _ inv _ stepped => inv.step stepped
  exact {
    distinct := inv.distinct
    oneForeground := inv.foreground.unique
    oneBackground := inv.background.unique
    waiters := fun call isWaiting => inv.foreground.held.mp (inv.waiters call isWaiting)
    errors := fun _ _ _ stepped fails => ownFillFailed_of_fails stepped fails }

/-- One call fills the pool, and another one waits for it. -/
theorem pool_disciplined_waiting : ∃ threads : PoolThreads,
    PoolDiscipline threads ∧ threads.calls 0 = .filling 2 ∧ threads.calls 1 = .waiting 3 := by
  obtain ⟨threads, ran, isFilling, isWaiting⟩ : ∃ threads, poolThreads.run {}
      [.call 0, .check 0 100 (some 2) (some 2), .call 1, .check 1 101 (some 2) (some 3)] =
        some threads ∧ threads.calls 0 = .filling 2 ∧ threads.calls 1 = .waiting 3 :=
    ⟨_, rfl, rfl, rfl⟩
  have reached : poolThreads.Reachable NewPool threads := Machine.Reachable.run (.start rfl) ran
  exact ⟨threads, pool_disciplined reached, isFilling, isWaiting⟩

end Steps

end VkTurn.Client
