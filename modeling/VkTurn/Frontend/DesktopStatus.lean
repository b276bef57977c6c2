import VkTurn.Frontend.DesktopVpnRunner
import VkTurn.Launcher.ProxyArgs

/-! # What the desktop shows of a system VPN

`rebuildStatus` puts the shown status together from the client's and the tunnel's.  When the tunnel
has failed it shows a warning and takes the runner down, so that the next rebuild finds no runner
and takes the tunnel for one that is being raised, though nothing raises it any more.
-/

namespace VkTurn.Frontend

open VkTurn.Launcher (isNotBlank)
open VkTurn.Transition

/-! ## The shown status -/

/-- What a runner reports beside its state. -/
structure WgReport where
  message : String := ""
  inBytes : Int := 0
  outBytes : Int := 0
  deriving DecidableEq

/-- The name of a state as Kotlin writes it. -/
def RouteState.name : RouteState → String
  | .idle => "IDLE"
  | .starting => "STARTING"
  | .connecting => "CONNECTING"
  | .captcha => "CAPTCHA"
  | .connected => "CONNECTED"
  | .lockout => "LOCKOUT"
  | .error => "ERROR"
  | .stopping => "STOPPING"

def messageOr (text default : String) : String := if isNotBlank text then text else default

def failureMessage (reason : String) : String :=
  "⚠ СИСТЕМНЫЙ VPN (TUN) НЕ ПОДНЯТ: " ++ reason

def RouteStatus.bound (status : RouteStatus) (route : DesktopRoute) : RouteStatus :=
  { status with routeId := route.id, routeLabel := route.label }

/-- The status of a connected client whose tunnel has not failed. -/
def RouteStatus.withTunnel (vk : RouteStatus) : Option (RouteState × WgReport) → RouteStatus
  | none =>
    { vk with
      state := .connecting, message := "Поднимаем системный VPN (WireGuard через vkturnd)…" }
  | some (.connected, report) =>
    { vk with
      state := .connected
      message := report.message
      inBytes := if 0 ≤ report.inBytes then report.inBytes else vk.inBytes
      outBytes := if 0 ≤ report.outBytes then report.outBytes else vk.outBytes }
  | some (.starting, report) =>
    { vk with
      state := .connecting, message := messageOr report.message "WireGuard через vkturnd: запуск…" }
  | some (.connecting, report) =>
    { vk with
      state := .connecting, message := messageOr report.message "WireGuard через vkturnd: запуск…" }
  | some (state, report) =>
    { vk with
      state := .connecting, message := messageOr report.message ("WireGuard: " ++ state.name) }

def shownStatus (route : DesktopRoute) (vkRaw : RouteStatus)
    (wg : Option (RouteState × WgReport)) : RouteStatus :=
  let vk := vkRaw.bound route
  if vkRaw.isDown then vk
  else
    match wg with
    | some (.error, report) =>
      { vk with
        state := .connected
        message := failureMessage
          (messageOr report.message "Ошибка WireGuard / vkturnd — см. журнал") }
    | wg => if vk.state = .connected then vk.withTunnel wg else vk

/-! ## The machine -/

structure DesktopScreen where
  vpn : DesktopVpn := {}
  /-- What the runner of each launch reports. -/
  reports : Nat → WgReport := fun _ => {}
  status : RouteStatus := { routeId := "", routeLabel := "" }
  /-- A rebuild has seen the tunnel fail, and since then the client has been connected and no runner
      was installed.  The code has no such variable. -/
  failed : Bool := false

/-- A step of the desktop, with what the runner reports from then on if it is the runner's. -/
structure ScreenLabel where
  step : DesktopLabel
  report : WgReport := {}

namespace DesktopLabel

/-- The steps that call `rebuildStatus`. -/
def rebuilds : DesktopLabel → Bool
  | .collect => true
  | .watch => true
  | .finish _ => true
  | .rebuild => true
  | _ => false

/-- The launch whose runner sets its status in the step. -/
def reporter : DesktopLabel → Option Nat
  | .identify position => some position
  | .connect position _ => some position
  | .up position _ => some position
  | .reply position => some position
  | .wgStatus position _ => some position
  | _ => none

def installs : DesktopLabel → Bool
  | .install _ => true
  | _ => false

end DesktopLabel

def DesktopVpn.VkConnected (vpn : DesktopVpn) : Prop :=
  vpn.activeRoute.isSome ∧ vpn.vk.status.state = .connected

instance (vpn : DesktopVpn) : Decidable vpn.VkConnected := inferInstanceAs (Decidable (_ ∧ _))

namespace DesktopScreen

variable (screen : DesktopScreen)

/-- `wg?.status?.value` -/
def wgStatus : Option (RouteState × WgReport) :=
  screen.vpn.wg.bind fun position =>
    (screen.vpn.launches position).map fun launch => (launch.state, screen.reports position)

def WgFailed : Prop := screen.wgStatus.map Prod.fst = some .error

instance : Decidable screen.WgFailed := inferInstanceAs (Decidable (_ = _))

/-- Without a route only `stop` sets a status, in `rebuildStatusSafelyOrIdle`. -/
def shown (step : DesktopLabel) : RouteStatus :=
  match screen.vpn.activeRoute, step with
  | some route, _ => shownStatus route screen.vpn.vk.status screen.wgStatus
  | none, .rebuild => { routeId := "", routeLabel := "" }
  | none, _ => screen.status

def step (label : ScreenLabel) : Option DesktopScreen :=
  (desktopStep screen.vpn label.step).map fun vpn =>
    { vpn := vpn
      reports :=
        match label.step.reporter with
        | none => screen.reports
        | some position => Function.update screen.reports position label.report
      status := if label.step.rebuilds then screen.shown label.step else screen.status
      failed :=
        (screen.failed ∨ label.step.rebuilds ∧ screen.vpn.VkConnected ∧ screen.WgFailed) ∧
          vpn.VkConnected ∧ ¬ label.step.installs }

end DesktopScreen

def desktopScreen : Machine DesktopScreen ScreenLabel := ⟨DesktopScreen.step⟩

/-! ## The warning -/

/-- After a failure the status is that of a connected client, with the warning. -/
def ShowsFailure (screen : DesktopScreen) : Prop :=
  screen.failed = true →
    screen.status.state = .connected ∧ ∃ reason, screen.status.message = failureMessage reason

/-- No status is rebuilt after the failed runner was taken down. -/
def NoLateRebuild (screen : DesktopScreen) (label : ScreenLabel) : Prop :=
  label.step.rebuilds = true → screen.failed = true → screen.WgFailed

instance (screen : DesktopScreen) (label : ScreenLabel) : Decidable (NoLateRebuild screen label) :=
  inferInstanceAs (Decidable (_ → _ → _))

structure ScreenInv (screen : DesktopScreen) : Prop where
  connected : screen.failed = true → screen.vpn.VkConnected
  shows : ShowsFailure screen

variable {screen next : DesktopScreen} {label : ScreenLabel} {reaction : DesktopLabel}

/-- A rebuild that finds a connected client and a failed runner shows the warning. -/
theorem shown_of_failed (connected : screen.vpn.VkConnected) (failed : screen.WgFailed) :
    (screen.shown reaction).state = .connected ∧
      ∃ reason, (screen.shown reaction).message = failureMessage reason := by
  obtain ⟨hasRoute, isConnected⟩ := connected
  obtain ⟨route, isRoute⟩ := Option.isSome_iff_exists.mp hasRoute
  obtain ⟨⟨state, report⟩, isStatus, isError⟩ := Option.map_eq_some_iff.mp failed
  obtain rfl : state = .error := isError
  have notDown : screen.vpn.vk.status.isDown = false := by
    simp [RouteStatus.isDown, isConnected]
  unfold DesktopScreen.shown shownStatus
  simp only [isRoute, isStatus, notDown]
  exact ⟨rfl, _, rfl⟩

/-- What is left of the failure after a step was there before, or was seen in it. -/
theorem failed_of_step (stepped : screen.step label = some next) (failed : next.failed = true) :
    (screen.failed = true ∨
        label.step.rebuilds = true ∧ screen.vpn.VkConnected ∧ screen.WgFailed) ∧
      next.vpn.VkConnected := by
  obtain ⟨vpn, -, rfl⟩ := Option.map_eq_some_iff.mp stepped
  simp only [decide_eq_true_eq] at failed
  exact ⟨failed.1, failed.2.1⟩

theorem status_of_step (stepped : screen.step label = some next) :
    next.status = if label.step.rebuilds then screen.shown label.step else screen.status := by
  obtain ⟨vpn, -, rfl⟩ := Option.map_eq_some_iff.mp stepped
  rfl

theorem ScreenInv.step (inv : ScreenInv screen) (inTime : NoLateRebuild screen label)
    (stepped : screen.step label = some next) : ScreenInv next := by
  refine ⟨fun failed => (failed_of_step stepped failed).2, fun failed => ?_⟩
  obtain ⟨before, -⟩ := failed_of_step stepped failed
  rw [status_of_step stepped]
  cases rebuilt : label.step.rebuilds with
  | false =>
    -- nobody else sets the status
    rcases before with wasFailed | ⟨isRebuild, -⟩
    · exact inv.shows wasFailed
    · rw [rebuilt] at isRebuild
      cases isRebuild
  | true =>
    rcases before with wasFailed | ⟨-, connected, failed⟩
    · exact shown_of_failed (inv.connected wasFailed) (inTime rebuilt wasFailed)
    · exact shown_of_failed connected failed

def FreshScreen (screen : DesktopScreen) : Prop := screen = {}

/-- As long as no status is rebuilt once the failed runner is gone, the warning stays while the
    client stays connected. -/
theorem desktop_shows_failure (reached : desktopScreen.ReachableWhile NoLateRebuild FreshScreen
    screen) : ShowsFailure screen := by
  have inv : ScreenInv screen := by
    refine reached.invariant ?_ fun state next label inv inTime stepped => inv.step inTime stepped
    rintro _ rfl
    exact ⟨fun failed => Bool.noConfusion failed, fun failed => Bool.noConfusion failed⟩
  exact inv.shows

/-- With a connected client and no runner, a rebuild shows a tunnel that is being raised. -/
theorem shown_without_runner (connected : screen.vpn.VkConnected)
    (noRunner : screen.vpn.wg = none) : (screen.shown reaction).state = .connecting := by
  obtain ⟨hasRoute, isConnected⟩ := connected
  obtain ⟨route, isRoute⟩ := Option.isSome_iff_exists.mp hasRoute
  have noStatus : screen.wgStatus = none := by simp [DesktopScreen.wgStatus, noRunner]
  have notDown : screen.vpn.vk.status.isDown = false := by
    simp [RouteStatus.isDown, isConnected]
  unfold DesktopScreen.shown shownStatus
  simp [isRoute, noStatus, notDown, RouteStatus.bound, isConnected, RouteStatus.withTunnel]

/-! ## A tunnel that fails -/

def screenRoute : DesktopRoute := ⟨"route", "Route", 1⟩

/-- The client connects, the daemon cannot be reached, and the collector of the tunnel's status sees
    it and takes the runner down. -/
def failedTunnel : List ScreenLabel :=
  let connected : RouteStatus :=
    { routeId := "route", routeLabel := "Route", state := .connected, totalStreams := 1 }
  [⟨.call (.start screenRoute), {}⟩, ⟨.teardown .caller true, {}⟩, ⟨.teardown .caller true, {}⟩,
    ⟨.stopVk, {}⟩, ⟨.activate, {}⟩, ⟨.spawn .spawned, {}⟩, ⟨.started, {}⟩, ⟨.rebuild, {}⟩,
    ⟨.vkStatus connected, {}⟩, ⟨.collect, {}⟩, ⟨.install 0, {}⟩,
    ⟨.identify 0, { message := "Соединение с демоном…" }⟩,
    ⟨.connect 0 false, { message := "vkturnd недоступен" }⟩, ⟨.watch, {}⟩]

/-- The runner is gone, and the launch comes to its own rebuild. -/
def launchEnds : List ScreenLabel :=
  [⟨.teardown (.wgJob 0) true, {}⟩, ⟨.teardown (.wgJob 0) true, {}⟩, ⟨.finish 0, {}⟩]

theorem desktop_shows_failure_warned :
    ∃ screen, desktopScreen.run {} failedTunnel = some screen ∧ screen.failed = true ∧
      screen.status.message = failureMessage "vkturnd недоступен" ∧ ShowsFailure screen := by
  obtain ⟨screen, ran, checked, failed, warned⟩ : ∃ screen,
      desktopScreen.run {} failedTunnel = some screen ∧
        (desktopScreen.restrict NoLateRebuild).run {} failedTunnel = some screen ∧
        screen.failed = true ∧ screen.status.message = failureMessage "vkturnd недоступен" :=
    ⟨_, rfl, rfl, rfl, by decide +kernel⟩
  exact ⟨screen, ran, failed, warned,
    desktop_shows_failure (Machine.ReachableWhile.run_restrict (.start rfl) checked)⟩

/-- After the launch has ended the desktop shows for good that the tunnel is being raised. -/
theorem desktop_hides_failure :
    ¬ ∀ screen, desktopScreen.Reachable FreshScreen screen → ShowsFailure screen := by
  intro claim
  obtain ⟨screen, ran, failed, hidden⟩ : ∃ screen,
      desktopScreen.run {} (failedTunnel ++ launchEnds) = some screen ∧ screen.failed = true ∧
        screen.status.state = .connecting := ⟨_, rfl, rfl, rfl⟩
  have shows := claim screen (Machine.Reachable.run (.start rfl) ran) failed
  rw [hidden] at shows
  cases shows.1

end VkTurn.Frontend
