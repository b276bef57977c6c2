import Mathlib.Tactic.Common
import VkTurn.Frontend.DesktopVpnRunner

/-! # No tunnel without its runner

A tunnel is taken down through `wg`, so that one is lost when its runner is not in `wg`: when a
launch installs its runner after the last teardown of its session, or asks the daemon after its
runner was disposed.
-/

namespace VkTurn.Frontend

open VkTurn.Transition

/-- The runner was made and is not disposed. -/
def Launch.Armed (launch : Launch) : Prop := launch.phase ≠ .scheduled ∧ launch.disposed = false

/-- The client's processes have ended, and their exits are published. -/
def VkClient.Ended (vk : VkClient) : Prop := vk.running = false ∧ vk.exits = 0

/-- No call is under way, the client's process has exited, and nothing is left to react: the
    collector, unless it is cancelled, has seen the last status. -/
structure DesktopVpn.Settled (vpn : DesktopVpn) : Prop where
  noCall : vpn.call = .idle
  noTeardown : vpn.tearing = []
  exited : vpn.vk.running = false
  collected : vpn.collecting = true → vpn.vk.exits = 0 ∧ vpn.seen = some vpn.vk.status

structure NoOrphanTunnel (vpn : DesktopVpn) : Prop where
  atMostOne : ∀ position other launch second, vpn.launches position = some launch →
    vpn.launches other = some second → launch.Armed → second.Armed → position = other
  noTunnel : vpn.Settled → ∀ daemonRouteId, vpn.tunnel daemonRouteId = false

/-! ## The condition -/

/-- A status of the client does not hide that it has ended. -/
def KeepsEnd (vpn : DesktopVpn) (status : RouteStatus) : Prop :=
  vpn.vk.Ended → status.isDown = true ∨
    (status.state ≠ .connected ∧ (vpn.collecting = true → vpn.seen = some vpn.vk.status))

/-- A runner is installed before the end of the session is collected, and replaces no other. -/
structure InstalledInTime (vpn : DesktopVpn) : Prop where
  notHalfway : ∀ entry ∈ vpn.tearing, entry.2.disposed = false
  noOther : ∀ position launch, vpn.wg = some position → vpn.launches position = some launch →
    launch.disposed = true
  collecting : vpn.collecting = true
  notSeen : ∀ status, vpn.seen = some status → status.isDown = false
  notEnded : vpn.vk.Ended → vpn.vk.status.isDown = true

/-- The condition on a step. -/
def RunnersInTime (vpn : DesktopVpn) : DesktopLabel → Prop
  | .install _ => InstalledInTime vpn
  | .up position true => ∀ launch, vpn.launches position = some launch → launch.disposed = false
  | .teardown _ downOk => ∀ position launch daemonRouteId, vpn.wg = some position →
    vpn.launches position = some launch → launch.daemonRouteId = some daemonRouteId →
    vpn.tunnel daemonRouteId = true → downOk = true
  | .vkStatus status => KeepsEnd vpn status
  | .stopVk => vpn.vk.hosted = true → KeepsEnd vpn { vpn.vk.status with state := .stopping }
  | .started => KeepsEnd vpn { vpn.vk.status with state := .connecting }
  | _ => True

/-! ## The invariant -/

structure DesktopInv (vpn : DesktopVpn) : Prop where
  fresh : ∀ position, vpn.next ≤ position → vpn.launches position = none
  unnamed : ∀ position launch, vpn.launches position = some launch →
    launch.phase = .scheduled ∨ launch.phase = .installed → launch.daemonRouteId = none
  /-- Only the installed runner may have raised a tunnel. -/
  owned : ∀ daemonRouteId, vpn.tunnel daemonRouteId = true → ∃ position launch,
    vpn.wg = some position ∧ vpn.launches position = some launch ∧ launch.disposed = false ∧
      launch.daemonRouteId = some daemonRouteId
  armed : ∀ position launch, vpn.launches position = some launch → launch.Armed →
    vpn.wg = some position
  halfway : ∀ entry ∈ vpn.tearing, entry.2.disposed = true → ∀ position launch,
    vpn.wg = some position → vpn.launches position = some launch → launch.disposed = true
  active : vpn.collecting = true → vpn.activeRoute.isSome = true
  activating : ∀ route, vpn.call = .stopVk (.start route) ∨ vpn.call = .activate route →
    vpn.collecting = false
  /-- The collected end of a session has its teardown. -/
  seen : vpn.collecting = true → ∀ status, vpn.seen = some status → status.isDown = true →
    vpn.Busy (.vkJob vpn.generation) ∨ vpn.wg = none
  ended : vpn.vk.Ended → vpn.vk.status.isDown = true ∨
    (vpn.vk.status.state ≠ .connected ∧
      (vpn.collecting = true → vpn.Busy (.vkJob vpn.generation) ∨ vpn.wg = none))
  cancelled : vpn.collecting = false → vpn.Busy .caller ∨ vpn.wg = none

variable {vpn next : DesktopVpn} {position : Nat} {launch changed : Launch}
  {thread : DesktopThread}

theorem DesktopInv.noOrphanTunnel (inv : DesktopInv vpn) : NoOrphanTunnel vpn where
  atMostOne position other launch second isLaunch isSecond isArmed otherArmed := by
    have here := inv.armed position launch isLaunch isArmed
    have there := inv.armed other second isSecond otherArmed
    rw [here] at there
    exact Option.some.inj there
  noTunnel settled daemonRouteId := by
    have noneBusy : ∀ thread, ¬ vpn.Busy thread := by
      intro thread busy
      simp [DesktopVpn.Busy, settled.noTeardown] at busy
    have noRunner : vpn.wg = none := by
      cases isCollecting : vpn.collecting with
      | false => exact (inv.cancelled isCollecting).resolve_left (noneBusy _)
      | true =>
        obtain ⟨published, isSeen⟩ := settled.collected isCollecting
        obtain isDown | ⟨_, quiet⟩ := inv.ended ⟨settled.exited, published⟩
        · exact (inv.seen isCollecting _ isSeen isDown).resolve_left (noneBusy _)
        · exact (quiet isCollecting).resolve_left (noneBusy _)
    by_contra isUp
    obtain ⟨_, _, isWg, _⟩ := inv.owned daemonRouteId (by simpa using isUp)
    rw [noRunner] at isWg
    cases isWg

theorem initial_desktopInv : DesktopInv {} := by
  constructor
  case ended => exact fun _ => .inl rfl
  all_goals simp [DesktopVpn.Busy]

/-! ### What the steps are made of -/

/-- A launch goes on, and neither makes nor disposes its runner. -/
theorem DesktopInv.setLaunch (inv : DesktopInv vpn) (present : vpn.launches position = some launch)
    (wasStarted : changed.phase ≠ .scheduled → launch.phase ≠ .scheduled)
    (sameDisposed : changed.disposed = launch.disposed)
    (keepsId : launch.phase ≠ .installed → changed.daemonRouteId = launch.daemonRouteId)
    (unnamed : changed.phase = .scheduled ∨ changed.phase = .installed →
      changed.daemonRouteId = none) : DesktopInv (vpn.setLaunch position changed) := by
  have idKept : ∀ daemonRouteId, launch.daemonRouteId = some daemonRouteId →
      changed.daemonRouteId = some daemonRouteId := by
    intro daemonRouteId isNamed
    rw [keepsId, isNamed]
    intro installed
    rw [inv.unnamed position launch present (.inr installed)] at isNamed
    cases isNamed
  refine ⟨?_, ?_, ?_, ?_, ?_, inv.active, inv.activating, inv.seen, inv.ended, inv.cancelled⟩
  · intro other isFresh
    have absent := inv.fresh other isFresh
    have away : other ≠ position := by
      rintro rfl
      rw [present] at absent
      cases absent
    simpa [DesktopVpn.setLaunch, away] using absent
  · intro other stored isStored noName
    simp only [DesktopVpn.setLaunch, Function.update_apply] at isStored
    split at isStored
    · cases isStored
      exact unnamed noName
    · exact inv.unnamed other stored isStored noName
  · intro daemonRouteId isUp
    obtain ⟨owner, owning, isWg, isOwner, notDisposed, isId⟩ := inv.owned daemonRouteId isUp
    by_cases same : owner = position
    · subst same
      cases present.symm.trans isOwner
      exact ⟨owner, changed, isWg, by simp [DesktopVpn.setLaunch], by rw [sameDisposed, notDisposed],
        idKept _ isId⟩
    · exact ⟨owner, owning, isWg, by simp [DesktopVpn.setLaunch, same, isOwner], notDisposed, isId⟩
  · intro other stored isStored isArmed
    simp only [DesktopVpn.setLaunch, Function.update_apply] at isStored
    split at isStored
    · rename_i same
      cases isStored
      rw [same]
      exact inv.armed position launch present
        ⟨wasStarted isArmed.1, sameDisposed ▸ isArmed.2⟩
    · exact inv.armed other stored isStored isArmed
  · intro entry isEntry isDisposed other stored isWg isStored
    simp only [DesktopVpn.setLaunch, Function.update_apply] at isStored
    split at isStored
    · rename_i same
      cases isStored
      rw [sameDisposed]
      exact inv.halfway entry isEntry isDisposed position launch (same ▸ isWg) present
    · exact inv.halfway entry isEntry isDisposed other stored isWg isStored

/-- The client's part and the caller's place change. -/
theorem DesktopInv.setVk (inv : DesktopInv vpn) {vk : VkClient} {call : CallPhase}
    (activating : ∀ route, call = .stopVk (.start route) ∨ call = .activate route →
      vpn.collecting = false)
    (ends : vk.Ended → vk.status.isDown = true ∨ (vk.status.state ≠ .connected ∧
      (vpn.collecting = true → vpn.Busy (.vkJob vpn.generation) ∨ vpn.wg = none))) :
    DesktopInv { vpn with vk := vk, call := call } where
  fresh := inv.fresh
  unnamed := inv.unnamed
  owned := inv.owned
  armed := inv.armed
  halfway := inv.halfway
  active := inv.active
  activating := activating
  seen := inv.seen
  ended := ends
  cancelled := inv.cancelled

/-- A status that keeps the end of the client keeps the invariant. -/
theorem DesktopInv.setStatus (inv : DesktopInv vpn) {status : RouteStatus} {call : CallPhase}
    (activating : ∀ route, call = .stopVk (.start route) ∨ call = .activate route →
      vpn.collecting = false)
    (keepsEnd : KeepsEnd vpn status) :
    DesktopInv { vpn with vk := { vpn.vk with status := status }, call := call } := by
  apply inv.setVk activating
  intro ended
  obtain isDown | ⟨notConnected, isSeen⟩ := keepsEnd ended
  · exact .inl isDown
  · refine .inr ⟨notConnected, fun collecting => ?_⟩
    obtain wasDown | ⟨_, quiet⟩ := inv.ended ended
    · exact inv.seen collecting _ (isSeen collecting) wasDown
    · exact quiet collecting

theorem DesktopInv.beginTeardown (inv : DesktopInv vpn) (thread : DesktopThread)
    (resetArm : Bool) : DesktopInv (vpn.beginTeardown thread resetArm) := by
  have stays : ∀ other, vpn.Busy other ∨ vpn.wg = none →
      (vpn.beginTeardown thread resetArm).Busy other ∨ vpn.wg = none := by
    intro other
    exact Or.imp_left (List.mem_cons_of_mem _)
  refine ⟨inv.fresh, inv.unnamed, inv.owned, inv.armed, ?_, inv.active, inv.activating, ?_, ?_, ?_⟩
  · intro entry isEntry isDisposed
    obtain rfl | older := List.mem_cons.mp isEntry
    · cases isDisposed
    · exact inv.halfway entry older isDisposed
  · intro collecting status isSeen isDown
    exact stays _ (inv.seen collecting status isSeen isDown)
  · intro ended
    exact (inv.ended ended).imp_right fun ⟨notConnected, quiet⟩ =>
      ⟨notConnected, fun collecting => stays _ (quiet collecting)⟩
  · intro notCollecting
    exact stays _ (inv.cancelled notCollecting)

theorem DesktopInv.rebuildStatus (inv : DesktopInv vpn) (thread : DesktopThread) :
    DesktopInv (vpn.rebuildStatus thread) := by
  rw [DesktopVpn.rebuildStatus]
  split
  · exact inv
  · exact inv.beginTeardown thread _

/-! ### The steps -/

/-- The collector sees a status; the end of a session must have its teardown by then. -/
theorem DesktopInv.setSeen (inv : DesktopInv vpn) {status : RouteStatus}
    (tornDown : status.isDown = true → vpn.Busy (.vkJob vpn.generation) ∨ vpn.wg = none) :
    DesktopInv { vpn with seen := some status } where
  fresh := inv.fresh
  unnamed := inv.unnamed
  owned := inv.owned
  armed := inv.armed
  halfway := inv.halfway
  active := inv.active
  activating := inv.activating
  seen := by
    rintro _ _ ⟨⟩ isDown
    exact tornDown isDown
  ended := inv.ended
  cancelled := inv.cancelled

theorem DesktopInv.maybeScheduleWg (inv : DesktopInv vpn) : DesktopInv vpn.maybeScheduleWg := by
  rw [DesktopVpn.maybeScheduleWg]
  split
  · exact inv
  · split
    · rename_i route _ canSchedule
      obtain ⟨_, noWg, _⟩ := canSchedule
      refine ⟨?_, ?_, ?_, ?_, ?_, inv.active, inv.activating, inv.seen, inv.ended, inv.cancelled⟩
      · intro position isFresh
        have away : position ≠ vpn.next := by
          simp only at isFresh
          omega
        simpa [DesktopVpn.setLaunch, away] using inv.fresh position (by simp only at isFresh; omega)
      · intro position launch isLaunch noName
        simp only [DesktopVpn.setLaunch, Function.update_apply] at isLaunch
        split at isLaunch
        · cases isLaunch
          rfl
        · exact inv.unnamed position launch isLaunch noName
      · intro daemonRouteId isUp
        obtain ⟨_, _, isWg, _⟩ := inv.owned daemonRouteId isUp
        rw [noWg] at isWg
        cases isWg
      · intro position launch isLaunch isArmed
        simp only [DesktopVpn.setLaunch, Function.update_apply] at isLaunch
        split at isLaunch
        · cases isLaunch
          exact absurd rfl isArmed.1
        · exact inv.armed position launch isLaunch isArmed
      · intro _ _ _ position launch isWg
        cases noWg.symm.trans isWg
    · exact inv

theorem collect_desktopInv (inv : DesktopInv vpn) (collected : vpn.collect = some next) :
    DesktopInv next := by
  simp only [DesktopVpn.collect] at collected
  split at collected
  · rename_i canCollect
    obtain ⟨collecting, _, _⟩ := canCollect
    obtain rfl := Option.some.inj collected
    cases isDown : vpn.vk.status.isDown with
    | false =>
      have unseen : vpn.vk.status.isDown = true →
          vpn.Busy (.vkJob vpn.generation) ∨ vpn.wg = none := by simp [isDown]
      exact ((inv.setSeen unseen).maybeScheduleWg).rebuildStatus _
    | true =>
      obtain ⟨route, isActive⟩ := Option.isSome_iff_exists.mp (inv.active collecting)
      have notConnected : vpn.vk.status.state ≠ .connected := by
        intro isConnected
        simp [RouteStatus.isDown, isConnected] at isDown
      have torn : (({ vpn with seen := some vpn.vk.status }.maybeScheduleWg).rebuildStatus
          (.vkJob vpn.generation)) =
          { vpn.beginTeardown (.vkJob vpn.generation) true with seen := some vpn.vk.status } := by
        simp [DesktopVpn.maybeScheduleWg, DesktopVpn.rebuildStatus, DesktopVpn.rebuildTeardown,
          DesktopVpn.beginTeardown, isActive, notConnected, isDown]
      rw [torn]
      exact (inv.beginTeardown _ true).setSeen fun _ => .inl List.mem_cons_self
  · cases collected

theorem watch_desktopInv (inv : DesktopInv vpn) (watched : vpn.watch = some next) :
    DesktopInv next := by
  simp only [DesktopVpn.watch] at watched
  split at watched
  · cases watched
  · split at watched
    · cases watched
    · obtain rfl := Option.some.inj watched
      exact inv.rebuildStatus _

/-- The installed runner is disposed, and its tunnel with it. -/
theorem DesktopInv.disposeWg (inv : DesktopInv vpn) {downOk : Bool}
    (isDown : ∀ position launch daemonRouteId, vpn.wg = some position →
      vpn.launches position = some launch → launch.daemonRouteId = some daemonRouteId →
      vpn.tunnel daemonRouteId = true → downOk = true) :
    ∃ launches tunnel, vpn.disposeWg downOk = { vpn with launches := launches, tunnel := tunnel } ∧
      (∀ position, vpn.launches position = none → launches position = none) ∧
      (∀ position launch, launches position = some launch → ∃ old,
        vpn.launches position = some old ∧ launch.phase = old.phase ∧
          launch.daemonRouteId = old.daemonRouteId ∧
          (launch.disposed = false → old.disposed = false ∧ vpn.wg ≠ some position)) ∧
      ∀ daemonRouteId, tunnel daemonRouteId = false := by
  have isOwned : ∀ daemonRouteId, vpn.tunnel daemonRouteId = true → ∃ position launch,
      vpn.wg = some position ∧ vpn.launches position = some launch ∧
        launch.daemonRouteId = some daemonRouteId := by
    intro daemonRouteId isUp
    obtain ⟨position, launch, isWg, isLaunch, _, isId⟩ := inv.owned daemonRouteId isUp
    exact ⟨position, launch, isWg, isLaunch, isId⟩
  have unowned : (∀ position launch, vpn.wg = some position →
      vpn.launches position = some launch → launch.daemonRouteId = none) →
      ∀ daemonRouteId, vpn.tunnel daemonRouteId = false := by
    intro noId daemonRouteId
    by_contra isUp
    obtain ⟨position, launch, isWg, isLaunch, isId⟩ := isOwned daemonRouteId (by simpa using isUp)
    cases (noId position launch isWg isLaunch).symm.trans isId
  rw [DesktopVpn.disposeWg]
  split
  · rename_i noWg
    refine ⟨vpn.launches, vpn.tunnel, rfl, fun _ => id, ?_, ?_⟩
    · intro position launch isLaunch
      refine ⟨launch, isLaunch, rfl, rfl, fun notDisposed => ⟨notDisposed, ?_⟩⟩
      simp [noWg]
    · exact unowned fun position _ isWg => by cases noWg.symm.trans isWg
  · rename_i position isWg
    split
    · rename_i noLaunch
      refine ⟨vpn.launches, vpn.tunnel, rfl, fun _ => id, ?_, ?_⟩
      · intro other launch isOther
        refine ⟨launch, isOther, rfl, rfl, fun notDisposed => ⟨notDisposed, ?_⟩⟩
        intro same
        cases isWg.symm.trans same
        cases noLaunch.symm.trans isOther
      · refine unowned fun other launch isOther present => ?_
        cases isWg.symm.trans isOther
        cases noLaunch.symm.trans present
    · rename_i launch isLaunch
      have marked : ∀ changed : Launch, changed.phase = launch.phase →
          changed.daemonRouteId = launch.daemonRouteId → changed.disposed = true →
          (∀ other, vpn.launches other = none →
            Function.update vpn.launches position (some changed) other = none) ∧
          ∀ other stored, Function.update vpn.launches position (some changed) other = some stored →
            ∃ old, vpn.launches other = some old ∧ stored.phase = old.phase ∧
              stored.daemonRouteId = old.daemonRouteId ∧
              (stored.disposed = false → old.disposed = false ∧ vpn.wg ≠ some other) := by
        intro changed samePhase sameId isDisposed
        constructor
        · intro other absent
          have away : other ≠ position := by
            rintro rfl
            cases isLaunch.symm.trans absent
          rw [Function.update_of_ne away, absent]
        · intro other stored isStored
          by_cases same : other = position
          · subst same
            rw [Function.update_self] at isStored
            cases isStored
            exact ⟨launch, isLaunch, samePhase, sameId, by simp [isDisposed]⟩
          · rw [Function.update_of_ne same] at isStored
            refine ⟨stored, isStored, rfl, rfl, fun notDisposed => ⟨notDisposed, ?_⟩⟩
            intro isOther
            exact same (Option.some.inj (isOther.symm.trans isWg))
      split
      · rename_i noId
        have kept := marked { launch with disposed := true } rfl rfl rfl
        refine ⟨_, vpn.tunnel, rfl, kept.1, kept.2, unowned fun other stored isOther present => ?_⟩
        cases isWg.symm.trans isOther
        cases isLaunch.symm.trans present
        exact noId
      · rename_i daemonRouteId isId
        have kept := marked { launch with state := .idle, disposed := true } rfl rfl rfl
        refine ⟨_, _, rfl, kept.1, kept.2, fun other => ?_⟩
        by_contra isUp
        have wasUp : vpn.tunnel other = true ∧ (downOk = true → other ≠ daemonRouteId) := by
          cases downOk with
          | false => simpa using isUp
          | true =>
            simp only [if_true, Function.update_apply] at isUp
            split at isUp
            · exact absurd rfl isUp
            · rename_i away
              exact ⟨by simpa using isUp, fun _ => away⟩
        obtain ⟨owner, owning, isOwner, present, isOther⟩ := isOwned other wasUp.1
        cases isWg.symm.trans isOwner
        cases isLaunch.symm.trans present
        have same : daemonRouteId = other := Option.some.inj (isId.symm.trans isOther)
        have answered := isDown position launch daemonRouteId isWg isLaunch isId (same ▸ wasUp.1)
        exact wasUp.2 answered same.symm

theorem teardown_desktopInv (inv : DesktopInv vpn) {downOk : Bool}
    (inTime : RunnersInTime vpn (.teardown thread downOk))
    (torn : vpn.teardown thread downOk = some next) : DesktopInv next := by
  simp only [DesktopVpn.teardown] at torn
  split at torn
  · cases torn
  · obtain rfl := Option.some.inj torn
    obtain ⟨launches, tunnel, disposed, absent, kept, noTunnel⟩ := inv.disposeWg inTime
    have busy : ∀ other, vpn.Busy other → other ∈ (vpn.tearing.map fun entry =>
        if entry.1 = thread then (thread, { entry.2 with disposed := true }) else entry).map
          Prod.fst := by
      intro other isBusy
      obtain ⟨entry, isEntry, rfl⟩ := List.mem_map.mp isBusy
      refine List.mem_map.mpr ⟨_, List.mem_map_of_mem isEntry, ?_⟩
      split
      · rename_i same
        exact same.symm
      · rfl
    have allDisposed : ∀ position launch, vpn.wg = some position →
        launches position = some launch → launch.disposed = true := by
      intro position launch isWg isLaunch
      obtain ⟨_, _, _, _, notDisposed⟩ := kept position launch isLaunch
      by_contra isArmed
      exact (notDisposed (by simpa using isArmed)).2 isWg
    rw [disposed]
    constructor
    case fresh => exact fun position isFresh => absent position (inv.fresh position isFresh)
    case unnamed =>
      intro position launch isLaunch noName
      obtain ⟨old, isOld, samePhase, sameId, _⟩ := kept position launch isLaunch
      rw [sameId]
      exact inv.unnamed position old isOld (samePhase ▸ noName)
    case owned =>
      intro daemonRouteId isUp
      cases (noTunnel daemonRouteId).symm.trans isUp
    case armed =>
      intro position launch isLaunch isArmed
      obtain ⟨old, isOld, samePhase, _, notDisposed⟩ := kept position launch isLaunch
      obtain ⟨wasArmed, notWg⟩ := notDisposed isArmed.2
      exact absurd (inv.armed position old isOld ⟨samePhase ▸ isArmed.1, wasArmed⟩) notWg
    case halfway => exact fun _ _ _ => allDisposed
    case active => exact inv.active
    case activating => exact inv.activating
    case seen =>
      intro collecting status isSeen isDown
      exact (inv.seen collecting status isSeen isDown).imp_left (busy _)
    case ended =>
      intro ended
      exact (inv.ended ended).imp_right fun ⟨notConnected, quiet⟩ =>
        ⟨notConnected, fun collecting => (quiet collecting).imp_left (busy _)⟩
    case cancelled => exact fun notCollecting => (inv.cancelled notCollecting).imp_left (busy _)
  · rename_i found
    obtain rfl := Option.some.inj torn
    have allDisposed := inv.halfway _ (List.mem_of_find?_eq_some found) rfl
    constructor
    case fresh => exact inv.fresh
    case unnamed => exact inv.unnamed
    case owned =>
      intro daemonRouteId isUp
      obtain ⟨position, launch, isWg, isLaunch, notDisposed, _⟩ := inv.owned daemonRouteId isUp
      cases (allDisposed position launch isWg isLaunch).symm.trans notDisposed
    case armed =>
      intro position launch isLaunch isArmed
      have isWg := inv.armed position launch isLaunch isArmed
      cases (allDisposed position launch isWg isLaunch).symm.trans isArmed.2
    case halfway => simp
    case active => exact inv.active
    case activating => exact inv.activating
    case seen => exact fun _ _ _ _ => .inr rfl
    case ended =>
      intro ended
      exact (inv.ended ended).imp_right fun ⟨notConnected, _⟩ => ⟨notConnected, fun _ => .inr rfl⟩
    case cancelled => exact fun _ => .inr rfl

theorem onLaunch_eq_some {phase : LaunchPhase} {change : Launch → Option DesktopVpn}
    (stepped : vpn.onLaunch position phase change = some next) :
    ∃ launch, vpn.launches position = some launch ∧ launch.phase = phase ∧
      change launch = some next := by
  simp only [DesktopVpn.onLaunch] at stepped
  split at stepped
  · cases stepped
  · rename_i launch isLaunch
    split at stepped
    · rename_i isPhase
      exact ⟨launch, isLaunch, isPhase, stepped⟩
    · cases stepped

theorem install_desktopInv (inv : DesktopInv vpn) (inTime : InstalledInTime vpn)
    (installed : vpn.install position = some next) : DesktopInv next := by
  obtain ⟨launch, isLaunch, isPhase, stepped⟩ := onLaunch_eq_some installed
  split at stepped
  · cases stepped
  obtain rfl := Option.some.inj stepped
  have noneUp : ∀ daemonRouteId, vpn.tunnel daemonRouteId = false := by
    intro daemonRouteId
    by_contra isUp
    obtain ⟨owner, owning, isWg, isOwner, notDisposed, _⟩ :=
      inv.owned daemonRouteId (by simpa using isUp)
    cases (inTime.noOther owner owning isWg isOwner).symm.trans notDisposed
  constructor
  case fresh =>
    intro other isFresh
    have away : other ≠ position := by
      rintro rfl
      cases isLaunch.symm.trans (inv.fresh other isFresh)
    simpa [DesktopVpn.setLaunch, away] using inv.fresh other isFresh
  case unnamed =>
    intro other stored isStored noName
    simp only [DesktopVpn.setLaunch, Function.update_apply] at isStored
    split at isStored
    · cases isStored
      exact inv.unnamed position launch isLaunch (.inl isPhase)
    · exact inv.unnamed other stored isStored noName
  case owned =>
    intro daemonRouteId isUp
    cases (noneUp daemonRouteId).symm.trans isUp
  case armed =>
    intro other stored isStored isArmed
    simp only [DesktopVpn.setLaunch, Function.update_apply] at isStored
    split at isStored
    · rename_i same
      exact congrArg some same.symm
    · have isWg := inv.armed other stored isStored isArmed
      cases (inTime.noOther other stored isWg isStored).symm.trans isArmed.2
  case halfway =>
    intro entry isEntry isDisposed
    cases (inTime.notHalfway entry isEntry).symm.trans isDisposed
  case active => exact inv.active
  case activating => exact inv.activating
  case seen =>
    intro _ status isSeen isDown
    cases (inTime.notSeen status isSeen).symm.trans isDown
  case ended => exact fun ended => .inl (inTime.notEnded ended)
  case cancelled =>
    intro notCollecting
    cases inTime.collecting.symm.trans notCollecting

theorem identify_desktopInv (inv : DesktopInv vpn) (stepped : vpn.identify position = some next) :
    DesktopInv next := by
  obtain ⟨launch, isLaunch, isPhase, changed⟩ := onLaunch_eq_some stepped
  obtain rfl := Option.some.inj changed
  have named : DesktopInv (vpn.setLaunch position { launch with
      phase := .identified
      daemonRouteId := some (launch.routeId ++ "-vk-wg-tun")
      state := .starting }) :=
    inv.setLaunch isLaunch (by simp [isPhase]) rfl (by simp [isPhase]) (by simp)
  exact ⟨named.fresh, named.unnamed, named.owned, named.armed, named.halfway, named.active,
    named.activating, named.seen, named.ended, named.cancelled⟩

theorem connect_desktopInv {ok : Bool} (inv : DesktopInv vpn)
    (stepped : vpn.connect position ok = some next) : DesktopInv next := by
  obtain ⟨launch, isLaunch, isPhase, changed⟩ := onLaunch_eq_some stepped
  obtain rfl := Option.some.inj changed
  cases ok with
  | true => exact inv.setLaunch isLaunch (by simp [isPhase]) rfl (fun _ => rfl) (by simp)
  | false => exact inv.setLaunch isLaunch (by simp [isPhase]) rfl (fun _ => rfl) (by simp)

theorem up_desktopInv {ok : Bool} (inv : DesktopInv vpn)
    (inTime : RunnersInTime vpn (.up position ok)) (stepped : vpn.up position ok = some next) :
    DesktopInv next := by
  obtain ⟨launch, isLaunch, isPhase, changed⟩ := onLaunch_eq_some stepped
  obtain ⟨daemonRouteId, isId, isNext⟩ := Option.map_eq_some_iff.mp changed
  subst isNext
  cases ok with
  | false => exact inv.setLaunch isLaunch (by simp [isPhase]) rfl (fun _ => rfl) (by simp)
  | true =>
    have raised : DesktopInv (vpn.setLaunch position { launch with phase := .raised }) :=
      inv.setLaunch isLaunch (by simp [isPhase]) rfl (fun _ => rfl) (by simp)
    have isWg := inv.armed position launch isLaunch ⟨by simp [isPhase], inTime launch isLaunch⟩
    refine ⟨raised.fresh, raised.unnamed, ?_, raised.armed, raised.halfway, raised.active,
      raised.activating, raised.seen, raised.ended, raised.cancelled⟩
    intro other isUp
    by_cases same : other = daemonRouteId
    · subst same
      exact ⟨position, { launch with phase := .raised }, isWg, Function.update_self ..,
        inTime launch isLaunch, isId⟩
    · refine raised.owned other ?_
      simpa [Function.update_apply, same, DesktopVpn.setLaunch] using isUp

theorem reply_desktopInv (inv : DesktopInv vpn) (stepped : vpn.reply position = some next) :
    DesktopInv next := by
  obtain ⟨launch, isLaunch, isPhase, changed⟩ := onLaunch_eq_some stepped
  obtain rfl := Option.some.inj changed
  exact inv.setLaunch isLaunch (by simp [isPhase]) rfl (fun _ => rfl) (by simp)

theorem finish_desktopInv (inv : DesktopInv vpn) (stepped : vpn.finish position = some next) :
    DesktopInv next := by
  obtain ⟨launch, isLaunch, isPhase, changed⟩ := onLaunch_eq_some stepped
  split at changed
  · cases changed
  · obtain rfl := Option.some.inj changed
    have ended : DesktopInv (vpn.setLaunch position { launch with phase := .ended }) :=
      inv.setLaunch isLaunch (by simp [isPhase]) rfl (fun _ => rfl) (by simp)
    exact ended.rebuildStatus _

theorem wgStatus_desktopInv {state : RouteState} (inv : DesktopInv vpn)
    (stepped : vpn.wgStatus position state = some next) : DesktopInv next := by
  simp only [DesktopVpn.wgStatus] at stepped
  split at stepped
  · cases stepped
  · rename_i launch isLaunch
    split at stepped
    · obtain rfl := Option.some.inj stepped
      exact inv.setLaunch isLaunch id rfl (fun _ => rfl) (inv.unnamed position launch isLaunch)
    · cases stepped

theorem tunnelEnds_desktopInv (inv : DesktopInv vpn) (ended : String) :
    DesktopInv { vpn with tunnel := Function.update vpn.tunnel ended false } := by
  refine ⟨inv.fresh, inv.unnamed, ?_, inv.armed, inv.halfway, inv.active, inv.activating, inv.seen,
    inv.ended, inv.cancelled⟩
  intro daemonRouteId isUp
  simp only [Function.update_apply] at isUp
  split at isUp
  · cases isUp
  · exact inv.owned daemonRouteId isUp

/-! ### The calls -/

theorem begin_desktopInv {call : DesktopCall} (inv : DesktopInv vpn)
    (stepped : vpn.begin call = some next) : DesktopInv next := by
  simp only [DesktopVpn.begin] at stepped
  split at stepped
  · obtain rfl := Option.some.inj stepped
    have torn := inv.beginTeardown .caller true
    refine ⟨torn.fresh, torn.unnamed, torn.owned, torn.armed, torn.halfway, ?_, ?_, ?_, ?_, ?_⟩
    · exact fun keeps => torn.active (of_decide_eq_true keeps).1
    · rintro route (⟨⟨⟩⟩ | ⟨⟨⟩⟩)
      simp [DesktopVpn.beginTeardown]
    · exact fun keeps => torn.seen (of_decide_eq_true keeps).1
    · intro ended
      exact (torn.ended ended).imp_right fun ⟨notConnected, quiet⟩ =>
        ⟨notConnected, fun keeps => quiet (of_decide_eq_true keeps).1⟩
    · exact fun _ => .inl List.mem_cons_self
  · cases stepped

theorem stopVk_desktopInv (inv : DesktopInv vpn) {call : CallPhase}
    (activating : ∀ route, call = .stopVk (.start route) ∨ call = .activate route →
      vpn.collecting = false)
    (inTime : RunnersInTime vpn .stopVk) :
    DesktopInv { vpn with vk := vpn.vk.stop, call := call } := by
  rw [VkClient.stop]
  split
  · rename_i isHosted
    exact inv.setStatus activating (inTime isHosted)
  · exact inv.setVk activating inv.ended

/-- A new collector begins with nothing to take down. -/
theorem activate_desktopInv (inv : DesktopInv vpn) (route : DesktopRoute)
    (notTearing : ¬ vpn.Busy .caller) (notCollecting : vpn.collecting = false) :
    DesktopInv { vpn with
      activeRoute := some route, collecting := !vpn.cancelled
      generation := vpn.generation + 1, seen := none, call := .spawn route } := by
  have noWg := (inv.cancelled notCollecting).resolve_left notTearing
  refine ⟨inv.fresh, inv.unnamed, inv.owned, inv.armed, inv.halfway, fun _ => rfl, ?_, ?_, ?_, ?_⟩
  · rintro _ (⟨⟨⟩⟩ | ⟨⟨⟩⟩)
  · exact fun _ _ _ _ => .inr noWg
  · intro ended
    exact (inv.ended ended).imp_right fun ⟨notConnected, _⟩ => ⟨notConnected, fun _ => .inr noWg⟩
  · exact fun _ => .inr noWg

theorem advance_desktopInv {label : DesktopLabel} (inv : DesktopInv vpn)
    (inTime : RunnersInTime vpn label) (stepped : vpn.advance label = some next) :
    DesktopInv next := by
  simp only [DesktopVpn.advance] at stepped
  split at stepped
  · cases stepped
  · rename_i notTearing
    split at stepped
    · rename_i call isCall
      obtain rfl := Option.some.inj stepped
      refine stopVk_desktopInv inv ?_ inTime
      cases call with
      | start route =>
        exact fun _ _ => inv.activating route (.inl isCall)
      | stop => rintro _ (⟨⟨⟩⟩ | ⟨⟨⟩⟩)
      | dispose => rintro _ (⟨⟨⟩⟩ | ⟨⟨⟩⟩)
    · rename_i route isCall
      obtain rfl := Option.some.inj stepped
      exact activate_desktopInv inv route notTearing (inv.activating route (.inr isCall))
    · rename_i route outcome _
      split at stepped
      · obtain rfl := Option.some.inj stepped
        exact inv.setVk (by simp) inv.ended
      · rename_i isOff
        obtain rfl := Option.some.inj stepped
        refine inv.setVk (by split <;> simp) fun ended => ?_
        cases outcome with
        | binaryNotFound => exact .inl rfl
        | fails message => exact .inl rfl
        | spawned => cases ended.1
    · obtain rfl := Option.some.inj stepped
      exact inv.setStatus (by simp) inTime
    · obtain rfl := Option.some.inj stepped
      have returned : DesktopInv { vpn with vk := vpn.vk, call := .idle } :=
        inv.setVk (by simp) inv.ended
      exact returned.rebuildStatus _
    · obtain rfl := Option.some.inj stepped
      have returned : DesktopInv { vpn with vk := vpn.vk, call := .idle } :=
        inv.setVk (by simp) inv.ended
      exact ⟨returned.fresh, returned.unnamed, returned.owned, returned.armed, returned.halfway,
        returned.active, returned.activating, returned.seen, returned.ended, returned.cancelled⟩
    · cases stepped

/-! ### The client -/

theorem vkStatus_desktopInv {status : RouteStatus} (inv : DesktopInv vpn)
    (keepsEnd : KeepsEnd vpn status) (stepped : vpn.vkStatus status = some next) :
    DesktopInv next := by
  simp only [DesktopVpn.vkStatus] at stepped
  split at stepped
  · obtain rfl := Option.some.inj stepped
    exact inv.setStatus inv.activating keepsEnd
  · cases stepped

theorem vkExit_desktopInv (inv : DesktopInv vpn) (stepped : vpn.vkExit = some next) :
    DesktopInv next := by
  simp only [DesktopVpn.vkExit] at stepped
  split at stepped
  · obtain rfl := Option.some.inj stepped
    exact inv.setVk inv.activating fun ended => absurd ended.2 (Nat.succ_ne_zero _)
  · cases stepped

theorem vkExitStatus_desktopInv {status : RouteStatus} (inv : DesktopInv vpn)
    (stepped : vpn.vkExitStatus status = some next) : DesktopInv next := by
  simp only [DesktopVpn.vkExitStatus] at stepped
  split at stepped
  · rename_i canPublish
    obtain rfl := Option.some.inj stepped
    refine inv.setVk inv.activating fun _ => .inl ?_
    obtain isIdle | isError := canPublish.2
    · simp [RouteStatus.isDown, isIdle]
    · simp [RouteStatus.isDown, isError]
  · cases stepped

theorem desktopStep_inv {label : DesktopLabel} (inv : DesktopInv vpn)
    (inTime : RunnersInTime vpn label) (stepped : desktopVpn.step vpn label = some next) :
    DesktopInv next := by
  cases label with
  | call call => exact begin_desktopInv inv stepped
  | vkStatus status => exact vkStatus_desktopInv inv inTime stepped
  | vkExit => exact vkExit_desktopInv inv stepped
  | vkExitStatus status => exact vkExitStatus_desktopInv inv stepped
  | collect => exact collect_desktopInv inv stepped
  | watch => exact watch_desktopInv inv stepped
  | teardown thread downOk => exact teardown_desktopInv inv inTime stepped
  | install position => exact install_desktopInv inv inTime stepped
  | identify position => exact identify_desktopInv inv stepped
  | connect position ok => exact connect_desktopInv inv stepped
  | up position ok => exact up_desktopInv inv inTime stepped
  | reply position => exact reply_desktopInv inv stepped
  | finish position => exact finish_desktopInv inv stepped
  | wgStatus position state => exact wgStatus_desktopInv inv stepped
  | tunnelEnds daemonRouteId =>
    obtain rfl := Option.some.inj stepped
    exact tunnelEnds_desktopInv inv daemonRouteId
  | stopVk => exact advance_desktopInv inv inTime stepped
  | activate => exact advance_desktopInv inv inTime stepped
  | spawn outcome => exact advance_desktopInv inv inTime stepped
  | started => exact advance_desktopInv inv inTime stepped
  | rebuild => exact advance_desktopInv inv inTime stepped
  | cancelScope => exact advance_desktopInv inv inTime stepped

/-! ## The result -/

/-- A runner that is made. -/
def FreshDesktopVpn (vpn : DesktopVpn) : Prop := vpn = {}

def desktopRoute : DesktopRoute := ⟨"route", "Route", 1⟩

/-- The client connects and a launch asks the daemon, which is slow to answer; the route is stopped
    and the client exits before the tunnel is up. -/
def lateUp : List DesktopLabel :=
  let status (state : RouteState) : RouteStatus :=
    { routeId := "route", routeLabel := "Route", state := state, totalStreams := 1 }
  [.call (.start desktopRoute), .teardown .caller true, .teardown .caller true, .stopVk, .activate,
    .spawn .spawned, .started, .rebuild, .vkStatus (status .connected), .collect, .install 0,
    .identify 0, .connect 0 true,
    .call .stop, .teardown .caller true, .teardown .caller true, .stopVk, .rebuild, .collect,
    .vkExit, .vkExitStatus (status .idle), .collect, .teardown (.vkJob 1) true,
    .teardown (.vkJob 1) true,
    .up 0 true, .reply 0, .finish 0, .teardown (.launch 0) true, .teardown (.launch 0) true]

end VkTurn.Frontend
