import VkTurn.Panel.Reconcile

/-! # What becomes of a manual stop

While `UpdateBinary` or `UploadCustomBinary` replaces the file, `manualStop` holds processes
back; afterwards it gets the value that it had before.  A request of the user that comes in
between is overwritten, and a process that does not stop leaves the flag set.
-/

namespace VkTurn.Panel

open VkTurn.Transition

namespace ProxyRuntime

/-- All calls have returned. -/
structure Quiet (runtime : ProxyRuntime) : Prop where
  free : runtime.ensuring = none
  returned : ∀ call state, runtime.calls call = some state → state = .returned

/-- What the user asked for last is what the service does. -/
structure Obeys (runtime : ProxyRuntime) : Prop where
  manualStop : ∀ wanted, runtime.requested = some wanted → runtime.manualStop = wanted
  stopped : runtime.requested = some true → ∀ handle, runtime.running handle = false

/-- A service that does as it was asked, with no call under way: a fresh one, for example. -/
structure Settled (runtime : ProxyRuntime) : Prop where
  tidy : runtime.Tidy
  quiet : runtime.Quiet
  obeys : runtime.Obeys
  loaded : ∀ wanted, runtime.requested = some wanted → runtime.manualStopLoaded = true

/-- Every update under way will restore `wanted`. -/
def WillRestore (runtime : ProxyRuntime) (wanted : Bool) : Prop :=
  ∀ call saved, runtime.calls call = some (.replacing saved) → saved = wanted

end ProxyRuntime

/-- Stops succeed; a user who makes a request during an update asks for what the update will
    restore; and an update begins when the flag is what the user asked for last. -/
def UpdatesAgree (runtime : ProxyRuntime) (label : RuntimeLabel) : Prop :=
  StopsSucceed runtime label ∧
  match label with
  | .stopAll _ _ _ => runtime.WillRestore true
  | .startAll _ _ | .restartAll _ _ _ => runtime.WillRestore false
  | .replaceBinary _ _ _ => ∀ wanted, runtime.requested = some wanted →
      runtime.manualStop = wanted
  | _ => True

/-! ## The invariant -/

structure StopInv (runtime : ProxyRuntime) : Prop where
  tidy : runtime.Tidy
  loaded : ∀ wanted, runtime.requested = some wanted → runtime.manualStopLoaded = true
  saved : ∀ wanted, runtime.requested = some wanted → runtime.WillRestore wanted
  /-- An update holds the processes back, whatever it will restore. -/
  held : runtime.requested = some true → runtime.manualStop = true
  settled : (∀ call saved, runtime.calls call ≠ some (.replacing saved)) →
    ∀ wanted, runtime.requested = some wanted → runtime.manualStop = wanted
  ensuring : ∀ ensuring, runtime.ensuring = some ensuring →
    runtime.manualStop = false ∧ runtime.calls ensuring.caller = some .ensuring
  stopped : runtime.requested = some true → ∀ handle, runtime.running handle = false

theorem StopInv.obeys {runtime : ProxyRuntime} (inv : StopInv runtime) (quiet : runtime.Quiet) :
    runtime.Obeys where
  manualStop := by
    refine inv.settled fun call saved isReplacing => ?_
    cases quiet.returned call _ isReplacing
  stopped := inv.stopped

theorem ProxyRuntime.Settled.inv {runtime : ProxyRuntime} (settled : runtime.Settled) :
    StopInv runtime where
  tidy := settled.tidy
  loaded := settled.loaded
  saved _ _ call _ isReplacing := nomatch settled.quiet.returned call _ isReplacing
  held isStop := settled.obeys.manualStop true isStop
  settled _ := settled.obeys.manualStop
  ensuring _ isEnsuring := nomatch isEnsuring.symm.trans settled.quiet.free
  stopped := settled.obeys.stopped

section Steps

variable {runtime next : ProxyRuntime} {label : RuntimeLabel}

/-- Setting the state of a call that is no update leaves the updates as they are. -/
theorem replacing_setCall {call other : Nat} {state : RuntimeCall} {saved : Bool}
    (notReplacing : ∀ saved, state ≠ .replacing saved)
    (wasNotReplacing : ∀ saved, runtime.calls call ≠ some (.replacing saved)) :
    (runtime.setCall call state).calls other = some (.replacing saved) ↔
      runtime.calls other = some (.replacing saved) := by
  by_cases same : other = call
  · subst same
    have now : (runtime.setCall other state).calls other = some state := Function.update_self ..
    rw [now]
    constructor
    · exact fun isReplacing => absurd (Option.some.inj isReplacing) (notReplacing saved)
    · exact fun isReplacing => absurd isReplacing (wasNotReplacing saved)
  · have kept : (runtime.setCall call state).calls other = runtime.calls other :=
      Function.update_of_ne same ..
    rw [kept]

/-- The step is no request, and does not touch the updates. -/
theorem StopInv.frame (inv : StopInv runtime) (tidy : next.Tidy)
    (sameRequest : next.requested = runtime.requested)
    (sameFlag : ∀ wanted, runtime.requested = some wanted →
      next.manualStopLoaded = true ∧ next.manualStop = runtime.manualStop)
    (sameUpdates : ∀ call saved, next.calls call = some (.replacing saved) ↔
      runtime.calls call = some (.replacing saved))
    (ensuring : ∀ ensuring, next.ensuring = some ensuring →
      next.manualStop = false ∧ next.calls ensuring.caller = some .ensuring)
    (stopped : runtime.requested = some true → ∀ handle, next.running handle = false) :
    StopInv next where
  tidy := tidy
  loaded wanted isRequest := (sameFlag wanted (sameRequest ▸ isRequest)).1
  saved wanted isRequest call saved isReplacing :=
    inv.saved wanted (sameRequest ▸ isRequest) call saved ((sameUpdates call saved).mp isReplacing)
  held isStop := by
    rw [sameRequest] at isStop
    rw [(sameFlag true isStop).2]
    exact inv.held isStop
  settled noUpdate wanted isRequest := by
    rw [sameRequest] at isRequest
    rw [(sameFlag wanted isRequest).2]
    refine inv.settled (fun call saved isReplacing => ?_) wanted isRequest
    exact noUpdate call saved ((sameUpdates call saved).mpr isReplacing)
  ensuring := ensuring
  stopped isStop := stopped (sameRequest ▸ isStop)

/-- A request gets its way at once, and every update will restore it. -/
theorem StopInv.request {wanted : Bool} (tidy : next.Tidy)
    (isRequest : next.requested = some wanted) (flag : next.manualStop = wanted)
    (loaded : next.manualStopLoaded = true) (restores : next.WillRestore wanted)
    (free : next.ensuring = none)
    (stopped : wanted = true → ∀ handle, next.running handle = false) : StopInv next where
  tidy := tidy
  loaded _ _ := loaded
  saved _ isOther := Option.some.inj (isRequest.symm.trans isOther) ▸ restores
  held isStop := flag.trans (Option.some.inj (isRequest.symm.trans isStop))
  settled _ _ isOther := flag.trans (Option.some.inj (isRequest.symm.trans isOther))
  ensuring _ isEnsuring := nomatch isEnsuring.symm.trans free
  stopped isStop := stopped (Option.some.inj (isRequest.symm.trans isStop))

/-- The file of an update is replaced: the flag gets back the value that was asked for. -/
theorem StopInv.replaced (inv : StopInv runtime) {call : Nat} {saved persistFails : Bool}
    (free : runtime.ensuring = none) (isReplacing : runtime.calls call = some (.replacing saved)) :
    StopInv (replaced runtime call saved persistFails) := by
  have flag : ∀ wanted, runtime.requested = some wanted → saved = wanted :=
    fun wanted isRequest => inv.saved wanted isRequest call saved isReplacing
  refine ⟨inv.tidy.congr rfl rfl, fun _ _ => rfl, ?_, flag true, fun _ => flag, ?_, inv.stopped⟩
  · intro wanted isRequest other otherSaved isOther
    by_cases same : other = call
    · subst same
      have now := (Function.update_self other _ runtime.calls).symm.trans isOther
      cases saved <;> cases now
    · have kept := (Function.update_of_ne same _ runtime.calls).symm.trans isOther
      exact inv.saved wanted isRequest other otherSaved kept
  · intro ensuring isEnsuring
    cases isEnsuring.symm.trans free

/-- An update begins, and will restore what was asked for. -/
theorem StopInv.replaceBinary (inv : StopInv runtime) {call : Nat} {loadFails : Bool}
    {survives : Nat → Bool} (accepted : runtime.accepts call = true)
    (succeeds : runtime.stopAllFails survives = false)
    (agrees : ∀ wanted, runtime.requested = some wanted → runtime.manualStop = wanted)
    (tidy : (replaceBinary runtime call loadFails survives).Tidy) :
    StopInv (replaceBinary runtime call loadFails survives) := by
  obtain ⟨free, _⟩ := ProxyRuntime.accepts_free accepted
  obtain ⟨manualStop, loaded, kept⟩ := runtime.ensureManualStopLoadedLocked_eq loadFails
  have begins : Panel.replaceBinary runtime call loadFails survives =
      ({ runtime with manualStopLoaded := true, manualStop := true }.stopAllLocked
        survives).setCall call (.replacing manualStop) := by
    have noError : ProxyRuntime.stopAllFails
        { runtime with manualStopLoaded := true, manualStop := true } survives = false := succeeds
    unfold Panel.replaceBinary
    rw [loaded]
    dsimp only
    rw [noError]
    rfl
  rw [begins] at tidy ⊢
  have flag : ∀ wanted, runtime.requested = some wanted → manualStop = wanted :=
    fun wanted isRequest => (kept (inv.loaded wanted isRequest)).trans (agrees wanted isRequest)
  refine ⟨tidy, fun _ _ => rfl, ?_, fun _ => rfl, ?_, ?_, ?_⟩
  · intro wanted isRequest other saved isOther
    by_cases same : other = call
    · subst same
      have now := (Function.update_self other _ runtime.calls).symm.trans isOther
      cases now
      exact flag _ isRequest
    · have kept := (Function.update_of_ne same _ runtime.calls).symm.trans isOther
      exact inv.saved wanted isRequest other saved kept
  · intro noUpdate
    exact absurd (Function.update_self call _ runtime.calls) (noUpdate call manualStop)
  · intro ensuring isEnsuring
    cases isEnsuring.symm.trans free
  · exact fun _ => inv.tidy.running_stopAllLocked succeeds

theorem StopInv.step (inv : StopInv runtime) (agrees : UpdatesAgree runtime label)
    (step : RuntimeStep runtime label next) : StopInv next := by
  have tidy := step.tidy inv.tidy agrees.1
  obtain ⟨succeeds, agrees⟩ := agrees
  -- a call that was accepted is no update
  have fresh {call : Nat} (isNew : runtime.calls call = none) (saved : Bool) :
      runtime.calls call ≠ some (.replacing saved) := by
    rw [isNew]
    exact nofun
  -- what the updates restore is not touched by a request
  have restores {call : Nat} {state : RuntimeCall} {wanted : Bool}
      (restores : runtime.WillRestore wanted) (isNew : runtime.calls call = none)
      (notReplacing : ∀ saved, state ≠ .replacing saved) :
      (runtime.setCall call state).WillRestore wanted :=
    fun other saved isReplacing =>
      restores other saved ((replacing_setCall notReplacing (fresh isNew)).mp isReplacing)
  -- a step of the `EnsureRunning` that holds the mutex leaves the flag and the calls alone
  have held {ensuring : Ensuring} {stage : EnsureStage} (isEnsuring : runtime.ensuring = some ensuring)
      (isNext : next.ensuring = some { ensuring with stage })
      (sameRequest : next.requested = runtime.requested)
      (sameLoaded : next.manualStopLoaded = runtime.manualStopLoaded)
      (sameFlag : next.manualStop = runtime.manualStop) (sameCalls : next.calls = runtime.calls)
      (stopped : runtime.requested = some true → ∀ handle, next.running handle = false) :
      StopInv next := by
    have caller := inv.ensuring ensuring isEnsuring
    refine inv.frame tidy sameRequest (fun wanted isRequest => ⟨?_, sameFlag⟩)
      (fun call saved => by rw [sameCalls]) (fun other isOther => ?_) stopped
    · exact sameLoaded.trans (inv.loaded wanted isRequest)
    · obtain rfl := Option.some.inj (isNext.symm.trans isOther)
      rw [sameFlag, sameCalls]
      exact caller
  -- an `EnsureRunning` is under way only when no stop is in force
  have notStopped {ensuring : Ensuring} (isEnsuring : runtime.ensuring = some ensuring)
      (isStop : runtime.requested = some true) : False :=
    nomatch (inv.ensuring ensuring isEnsuring).1.symm.trans (inv.held isStop)
  cases step with
  | @stopAll call persistFails survives accepted =>
    obtain ⟨free, isNew⟩ := ProxyRuntime.accepts_free accepted
    have asked : (runtime.request true persistFails).Tidy := inv.tidy.congr rfl rfl
    exact StopInv.request tidy rfl rfl rfl (restores agrees isNew nofun) free
      fun _ => asked.running_stopAllLocked succeeds
  | @startAll call persistFails accepted =>
    obtain ⟨free, isNew⟩ := ProxyRuntime.accepts_free accepted
    exact StopInv.request tidy rfl rfl rfl (restores agrees isNew nofun) free nofun
  | @restartAll call persistFails survives accepted =>
    obtain ⟨free, isNew⟩ := ProxyRuntime.accepts_free accepted
    have notReplacing (saved : Bool) : (if (runtime.request false persistFails).stopAllFails
        survives then RuntimeCall.returned else .ensuring) ≠ .replacing saved := by
      split <;> nofun
    exact StopInv.request tidy rfl rfl rfl (restores agrees isNew notReplacing) free nofun
  | @shutdownForRestart call survives accepted =>
    obtain ⟨free, isNew⟩ := ProxyRuntime.accepts_free accepted
    refine inv.frame tidy rfl (fun wanted isRequest => ⟨inv.loaded wanted isRequest, rfl⟩)
      (fun other saved => replacing_setCall nofun (fresh isNew)) (fun ensuring isEnsuring => ?_)
      fun _ => inv.tidy.running_stopAllLocked succeeds
    cases isEnsuring.symm.trans free
  | replaceBinary accepted => exact inv.replaceBinary accepted succeeds agrees tidy
  | replaced free isReplacing => exact inv.replaced free isReplacing
  | @ensureRunning call loadFails query free isCaller =>
    have noUpdate (saved : Bool) : runtime.calls call ≠ some (.replacing saved) := by
      obtain isNew | isEnsuring := isCaller
      · exact fresh isNew saved
      · rw [isEnsuring]
        exact nofun
    obtain ⟨manualStop, kept, returns | ⟨noStop, desired, begins⟩⟩ :=
      runtime.ensureRunning_eq call loadFails query
    · rw [returns] at tidy ⊢
      refine inv.frame tidy rfl (fun wanted isRequest => ⟨rfl, kept (inv.loaded wanted isRequest)⟩)
        (fun other saved => replacing_setCall nofun noUpdate) (fun ensuring isEnsuring => ?_)
        inv.stopped
      cases isEnsuring.symm.trans free
    · rw [begins] at tidy ⊢
      refine inv.frame tidy rfl (fun wanted isRequest => ⟨rfl, kept (inv.loaded wanted isRequest)⟩)
        (fun other saved => replacing_setCall nofun noUpdate) (fun ensuring isEnsuring => ?_)
        inv.stopped
      obtain rfl := Option.some.inj isEnsuring
      exact ⟨noStop, Function.update_self ..⟩
  | @reap ensuring pending inboundID survives isEnsuring stage =>
    obtain ⟨started, processes, reaped⟩ := runtime.reap_eq ensuring.desired inboundID survives
    rw [reaped] at tidy held ⊢
    exact held isEnsuring rfl rfl rfl rfl rfl fun isStop => (notStopped isEnsuring isStop).elim
  | ensureBinary isEnsuring stage => exact held isEnsuring rfl rfl rfl rfl rfl inv.stopped
  | skips isEnsuring _ _ => exact held isEnsuring rfl rfl rfl rfl rfl inv.stopped
  | startFails isEnsuring _ => exact held isEnsuring rfl rfl rfl rfl rfl inv.stopped
  | starts isEnsuring _ _ _ _ =>
    exact held isEnsuring rfl rfl rfl rfl rfl fun isStop => (notStopped isEnsuring isStop).elim
  | @ensureReturns ensuring _ isEnsuring =>
    have caller := (inv.ensuring ensuring isEnsuring).2
    have noUpdate (saved : Bool) : runtime.calls ensuring.caller ≠ some (.replacing saved) := by
      rw [caller]
      exact nofun
    exact inv.frame tidy rfl (fun wanted isRequest => ⟨inv.loaded wanted isRequest, rfl⟩)
      (fun other saved => replacing_setCall nofun noUpdate)
      (fun _ isEnsuring => nomatch isEnsuring) inv.stopped
  | exits =>
    refine inv.frame tidy rfl (fun wanted isRequest => ⟨inv.loaded wanted isRequest, rfl⟩)
      (fun _ _ => Iff.rfl) inv.ensuring fun isStop handle => ?_
    rw [ProxyRuntime.running_exit, inv.stopped isStop]
    rfl

end Steps

/-- As long as stops succeed and users and updates do not get in each other's way, a service whose
    calls have all returned does what the user asked for last. -/
theorem manualStop_kept {runtime : ProxyRuntime}
    (reached : proxyRuntime.ReachableWhile UpdatesAgree ProxyRuntime.Settled runtime)
    (quiet : runtime.Quiet) : runtime.Obeys := by
  refine StopInv.obeys (reached.invariant ?_ ?_) quiet
  · exact fun runtime settled => settled.inv
  · exact fun runtime next label inv agrees stepped => inv.step agrees (step_inv stepped)

/-! ## A stop during an update -/

theorem fresh_settled : ProxyRuntime.Settled {} where
  tidy := ⟨List.nodup_nil, List.nodup_nil, nofun, nofun⟩
  quiet := ⟨rfl, nofun⟩
  obeys := ⟨nofun, nofun⟩
  loaded := nofun

/-- An update, and a stop before its `EnsureRunning` gets the mutex. -/
def stopAfterUpdate : List RuntimeLabel :=
  [.replaceBinary 0 true fun _ => false, .replaced 0 false, .stopAll 1 false fun _ => false,
    .ensureRunning 0 false (some emptyQuery)]

theorem manualStop_kept_updated :
    ∃ runtime, proxyRuntime.run {} stopAfterUpdate = some runtime ∧
      runtime.requested = some true ∧ runtime.Obeys := by
  have begins : proxyRuntime.ReachableWhile UpdatesAgree ProxyRuntime.Settled
      (replaceBinary {} 0 true fun _ => false) :=
    .step (.start fresh_settled)
      (show UpdatesAgree _ (.replaceBinary 0 true fun _ => false) from ⟨rfl, nofun⟩) rfl
  have ends : proxyRuntime.ReachableWhile UpdatesAgree ProxyRuntime.Settled
      (replaced (replaceBinary {} 0 true fun _ => false) 0 false false) :=
    .step begins (show UpdatesAgree _ (.replaced 0 false) from ⟨trivial, trivial⟩) rfl
  have noUpdate : ProxyRuntime.WillRestore
      (replaced (replaceBinary {} 0 true fun _ => false) 0 false false) true := by
    intro call saved isReplacing
    match call with
    | 0 => cases isReplacing
    | _ + 1 => cases isReplacing
  have stops := Machine.ReachableWhile.step ends
    (show UpdatesAgree _ (.stopAll 1 false fun _ => false) from ⟨rfl, noUpdate⟩) rfl
  have returns := Machine.ReachableWhile.step stops
    (show UpdatesAgree _ (.ensureRunning 0 false (some emptyQuery)) from ⟨trivial, trivial⟩) rfl
  refine ⟨_, rfl, rfl, manualStop_kept returns ⟨rfl, fun call state isState => ?_⟩⟩
  match call with
  | 0 =>
    cases isState
    rfl
  | 1 =>
    cases isState
    rfl
  | _ + 2 => cases isState

/-- The user stops the service while an update is under way: the update takes the stop back. -/
theorem stop_during_update_lost :
    ∃ runtime, proxyRuntime.Reachable ProxyRuntime.Settled runtime ∧ runtime.Quiet ∧
      ¬ runtime.Obeys := by
  obtain ⟨runtime, ran, free, calls, asked, flag⟩ : ∃ runtime, proxyRuntime.run {}
      [.replaceBinary 0 false fun _ => false, .stopAll 1 false fun _ => false,
        .replaced 0 false, .ensureRunning 0 false (some emptyQuery), .ensureReturns] =
          some runtime ∧ runtime.ensuring = none ∧
        (∀ call state, runtime.calls call = some state → state = .returned) ∧
        runtime.requested = some true ∧ runtime.manualStop = false := by
    refine ⟨_, rfl, rfl, ?_, rfl, rfl⟩
    intro call state isState
    match call with
    | 0 =>
      cases isState
      rfl
    | 1 =>
      cases isState
      rfl
    | _ + 2 => cases isState
  refine ⟨runtime, Machine.Reachable.run (.start fresh_settled) ran, ⟨free, calls⟩, ?_⟩
  intro obeys
  cases flag.symm.trans (obeys.manualStop true asked)

end VkTurn.Panel
