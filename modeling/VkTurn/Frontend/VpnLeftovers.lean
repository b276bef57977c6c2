import Mathlib.Tactic.Common
import VkTurn.Frontend.VkturnVpnService

/-! # What the Android service leaves behind

A stop takes down what `proxy`, `protectServer` and `activeTunnel` name when it reads them.  What a
bootstrap starts is lost when it is put there too late, or when the field is cleared or overwritten
before what it names was taken down.
-/

namespace VkTurn.Frontend

open VkTurn.Transition

/-- The server has a socket, or will have one. -/
def ProtectServer.isLive (server : ProtectServer) : Bool := server ≠ .absent ∧ server ≠ .closed

/-- At most one client is alive; after a stop and the end of every bootstrap, each client was
    destroyed or has exited, and no server and no tunnel is left. -/
structure LeavesNothing (vpn : VkturnVpn) : Prop where
  atMostOne : ∀ position other first second, vpn.bootstraps position = some first →
    vpn.bootstraps other = some second → first.process.isAlive = true →
    second.process.isAlive = true → position = other
  nothingLeft : vpn.lastStop = true → vpn.command = .idle →
    (∀ position bootstrap, vpn.bootstraps position = some bootstrap → bootstrap.stage = .ended) →
    (∀ position bootstrap, vpn.bootstraps position = some bootstrap →
      bootstrap.process ≠ .running ∧ bootstrap.server.isLive = false) ∧ vpn.backend = none

/-! ## The condition -/

def CommandStage.pastTunnel : CommandStage → Bool
  | .stopAll => false
  | _ => true

def CommandStage.pastProxy : CommandStage → Bool
  | .stopAll | .readProxy => false
  | _ => true

def CommandStage.pastServer : CommandStage → Bool
  | .stopAll | .readProxy | .clearProxy _ | .stopServer => false
  | _ => true

def CommandStage.isStop : CommandStage → Bool
  | .idle | .resetDtls _ | .launch _ => false
  | _ => true

namespace VkturnVpn

/-- The last stop has taken the tunnel down. -/
def TunnelCleared (vpn : VkturnVpn) : Prop :=
  vpn.lastStop = true ∧ vpn.command.pastTunnel = true

/-- The last stop has read `proxy`. -/
def ProxyCleared (vpn : VkturnVpn) : Prop :=
  vpn.lastStop = true ∧ vpn.command.pastProxy = true

/-- The last stop has read `protectServer`. -/
def ServerCleared (vpn : VkturnVpn) : Prop :=
  vpn.lastStop = true ∧ vpn.command.pastServer = true

/-- The client that the field names, if any, does not run on. -/
def ProxyReleased (vpn : VkturnVpn) (slot : Option Nat) : Prop :=
  ∀ position owner, slot = some position → vpn.bootstraps position = some owner →
    owner.process ≠ .running

def ServerReleased (vpn : VkturnVpn) (slot : Option Nat) : Prop :=
  ∀ position owner, slot = some position → vpn.bootstraps position = some owner →
    owner.server.isLive = false

/-- The server that the field names has opened its socket. -/
def ServerOpened (vpn : VkturnVpn) (slot : Option Nat) : Prop :=
  ∀ position owner, slot = some position → vpn.bootstraps position = some owner →
    owner.server ≠ .opening

end VkturnVpn

/-- The condition on a step: no client is started beside another one, and what is started is put
    into the fields of the current service before a stop reads them, over nothing that is alive. -/
def StartsInTime (vpn : VkturnVpn) : VpnLabel → Prop
  | .spawn _ none => ∀ position bootstrap, vpn.bootstraps position = some bootstrap →
    bootstrap.process.isAlive = false
  | .assignProxy position => ∀ bootstrap, vpn.bootstraps position = some bootstrap →
    bootstrap.service = vpn.current ∧ ¬ vpn.ProxyCleared ∧
      vpn.ProxyReleased (vpn.services bootstrap.service).proxy
  | .assignServer position => ∀ bootstrap, vpn.bootstraps position = some bootstrap →
    bootstrap.service = vpn.current ∧ ¬ vpn.ServerCleared ∧
      vpn.ServerReleased (vpn.services bootstrap.service).protectServer
  | .setTunnel _ true => ¬ vpn.TunnelCleared ∧ vpn.backend = none
  | .setState position true => vpn.activeTunnel = some position
  | .advance downOk =>
    (vpn.command = .stopAll → vpn.backend = none ∨ downOk = true) ∧
      (vpn.command = .stopServer → vpn.ServerOpened (vpn.services vpn.current).protectServer)
  | .abort position => ∀ bootstrap, vpn.bootstraps position = some bootstrap →
    (bootstrap.stage = .abortClearProxy →
      vpn.ProxyReleased (vpn.services bootstrap.service).proxy) ∧
    (bootstrap.stage = .abortServer →
      vpn.ServerOpened (vpn.services bootstrap.service).protectServer) ∧
    (bootstrap.stage = .abortClearServer →
      vpn.ServerReleased (vpn.services bootstrap.service).protectServer)
  | _ => True

/-! ## The invariant -/

namespace VkturnVpn

/-- The current service's `proxy` names the client, and a stop will read it. -/
def HoldsProxy (vpn : VkturnVpn) (position : Nat) (bootstrap : Bootstrap) : Prop :=
  bootstrap.service = vpn.current ∧ (vpn.services vpn.current).proxy = some position ∧
    ¬ vpn.ProxyCleared

def HoldsServer (vpn : VkturnVpn) (position : Nat) (bootstrap : Bootstrap) : Prop :=
  bootstrap.service = vpn.current ∧ (vpn.services vpn.current).protectServer = some position ∧
    ¬ vpn.ServerCleared

end VkturnVpn

structure LeftoverInv (vpn : VkturnVpn) : Prop where
  fresh : ∀ position, vpn.next ≤ position → vpn.bootstraps position = none
  atMostOne : ∀ position other first second, vpn.bootstraps position = some first →
    vpn.bootstraps other = some second → first.process.isAlive = true →
    second.process.isAlive = true → position = other
  proxyHeld : ∀ position bootstrap, vpn.bootstraps position = some bootstrap →
    bootstrap.process = .running → bootstrap.stage = .assignProxy ∨
      vpn.command = .clearProxy position ∨ vpn.HoldsProxy position bootstrap
  serverHeld : ∀ position bootstrap, vpn.bootstraps position = some bootstrap →
    bootstrap.server.isLive = true → bootstrap.stage = .assignServer ∨
      vpn.HoldsServer position bootstrap
  notAbandoned : ∀ position bootstrap, vpn.bootstraps position = some bootstrap →
    bootstrap.server ≠ .abandoned
  tunnelHeld : ∀ position, vpn.backend = some position → vpn.activeTunnel = some position
  tunnelCleared : vpn.TunnelCleared → vpn.activeTunnel = none
  /-- A stop under way is the last command. -/
  stopping : vpn.command.isStop = true → vpn.lastStop = true

variable {vpn next : VkturnVpn} {position : Nat}

theorem initial_leftoverInv : LeftoverInv {} := by
  constructor
  case fresh => exact fun _ _ => rfl
  case atMostOne => exact fun _ _ _ _ isFirst => nomatch isFirst
  case proxyHeld => exact fun _ _ isBootstrap => nomatch isBootstrap
  case serverHeld => exact fun _ _ isBootstrap => nomatch isBootstrap
  case notAbandoned => exact fun _ _ isBootstrap => nomatch isBootstrap
  case tunnelHeld => exact fun _ isUp => nomatch isUp
  case tunnelCleared => exact fun _ => rfl
  case stopping => exact nofun

theorem onStage_eq_some {stage : BootstrapStage} {change : Bootstrap → Option VkturnVpn}
    (stepped : vpn.onStage position stage change = some next) :
    ∃ bootstrap, vpn.bootstraps position = some bootstrap ∧ bootstrap.stage = stage ∧
      change bootstrap = some next := by
  simp only [VkturnVpn.onStage] at stepped
  split at stepped
  · cases stepped
  · rename_i bootstrap isBootstrap
    split at stepped
    · rename_i isStage
      exact ⟨bootstrap, isBootstrap, isStage, stepped⟩
    · cases stepped

/-- When all ended after a stop, what the invariant allows to be held is nothing. -/
theorem LeftoverInv.leavesNothing (inv : LeftoverInv vpn) : LeavesNothing vpn where
  atMostOne := inv.atMostOne
  nothingLeft := by
    intro lastStop isIdle allEnded
    refine ⟨fun position bootstrap isBootstrap => ?_, ?_⟩
    · have isEnded := allEnded position bootstrap isBootstrap
      constructor
      · intro running
        obtain assigning | clearing | ⟨_, _, notCleared⟩ :=
          inv.proxyHeld position bootstrap isBootstrap running
        · cases isEnded.symm.trans assigning
        · cases isIdle.symm.trans clearing
        · exact notCleared ⟨lastStop, by rw [isIdle]; rfl⟩
      · by_contra live
        obtain assigning | ⟨_, _, notCleared⟩ :=
          inv.serverHeld position bootstrap isBootstrap (by simpa using live)
        · cases isEnded.symm.trans assigning
        · exact notCleared ⟨lastStop, by rw [isIdle]; rfl⟩
    · have noTunnel := inv.tunnelCleared ⟨lastStop, by rw [isIdle]; rfl⟩
      by_contra isUp
      obtain ⟨position, isUp⟩ := Option.ne_none_iff_exists'.mp isUp
      cases noTunnel.symm.trans (inv.tunnelHeld position isUp)

/-! ### Changes of one bootstrap -/

/-- A change of a bootstrap that starts nothing. -/
structure StartsNothing (before after : Bootstrap) : Prop where
  service : after.service = before.service
  alive : after.process.isAlive = true → before.process.isAlive = true
  running : after.process = .running → before.process = .running ∧
    (before.stage = .assignProxy → after.stage = .assignProxy)
  live : after.server.isLive = true → before.server.isLive = true ∧
    (before.stage = .assignServer → after.stage = .assignServer)
  notAbandoned : before.server ≠ .abandoned → after.server ≠ .abandoned

theorem StartsNothing.refl (bootstrap : Bootstrap) : StartsNothing bootstrap bootstrap :=
  ⟨rfl, id, fun running => ⟨running, id⟩, fun live => ⟨live, id⟩, id⟩

theorem LeftoverInv.setBootstraps (inv : LeftoverInv vpn) {changed : Nat → Option Bootstrap}
    (stored : ∀ position after, changed position = some after →
      ∃ before, vpn.bootstraps position = some before ∧ StartsNothing before after) :
    LeftoverInv { vpn with bootstraps := changed } := by
  constructor
  case fresh =>
    intro position isFresh
    by_contra present
    obtain ⟨after, isAfter⟩ := Option.ne_none_iff_exists'.mp present
    obtain ⟨before, wasBefore, _⟩ := stored position after isAfter
    cases (inv.fresh position isFresh).symm.trans wasBefore
  case atMostOne =>
    intro position other first second isFirst isSecond firstAlive secondAlive
    obtain ⟨oldFirst, wasFirst, firstChange⟩ := stored position first isFirst
    obtain ⟨oldSecond, wasSecond, secondChange⟩ := stored other second isSecond
    exact inv.atMostOne position other oldFirst oldSecond wasFirst wasSecond
      (firstChange.alive firstAlive) (secondChange.alive secondAlive)
  case proxyHeld =>
    intro position after isAfter running
    obtain ⟨before, wasBefore, change⟩ := stored position after isAfter
    obtain ⟨wasRunning, keepsAssigning⟩ := change.running running
    obtain assigning | clearing | ⟨isCurrent, holds⟩ :=
      inv.proxyHeld position before wasBefore wasRunning
    · exact .inl (keepsAssigning assigning)
    · exact .inr (.inl clearing)
    · exact .inr (.inr ⟨change.service.trans isCurrent, holds⟩)
  case serverHeld =>
    intro position after isAfter live
    obtain ⟨before, wasBefore, change⟩ := stored position after isAfter
    obtain ⟨wasLive, keepsAssigning⟩ := change.live live
    obtain assigning | ⟨isCurrent, holds⟩ := inv.serverHeld position before wasBefore wasLive
    · exact .inl (keepsAssigning assigning)
    · exact .inr ⟨change.service.trans isCurrent, holds⟩
  case notAbandoned =>
    intro position after isAfter
    obtain ⟨before, wasBefore, change⟩ := stored position after isAfter
    exact change.notAbandoned (inv.notAbandoned position before wasBefore)
  case tunnelHeld => exact inv.tunnelHeld
  case tunnelCleared => exact inv.tunnelCleared
  case stopping => exact inv.stopping

theorem LeftoverInv.setBootstrap (inv : LeftoverInv vpn) {before after : Bootstrap}
    (isBootstrap : vpn.bootstraps position = some before) (change : StartsNothing before after) :
    LeftoverInv (vpn.setBootstrap position after) := by
  refine inv.setBootstraps fun other bootstrap isStored => ?_
  rw [Function.update_apply] at isStored
  split at isStored
  · rename_i same
    obtain rfl := Option.some.inj isStored
    exact ⟨before, same ▸ isBootstrap, change⟩
  · exact ⟨bootstrap, isStored, .refl bootstrap⟩

/-- A change of a bootstrap that keeps what the invariant says of it. -/
theorem LeftoverInv.replace (inv : LeftoverInv vpn) {before after : Bootstrap}
    (isBootstrap : vpn.bootstraps position = some before)
    (alive : after.process.isAlive = true → ∀ other bootstrap, other ≠ position →
      vpn.bootstraps other = some bootstrap → bootstrap.process.isAlive = false)
    (running : after.process = .running → after.stage = .assignProxy ∨
      vpn.command = .clearProxy position ∨ vpn.HoldsProxy position after)
    (live : after.server.isLive = true → after.stage = .assignServer ∨
      vpn.HoldsServer position after)
    (notAbandoned : after.server ≠ .abandoned) : LeftoverInv (vpn.setBootstrap position after) := by
  have stored (other : Nat) (bootstrap : Bootstrap)
      (isStored : (vpn.setBootstrap position after).bootstraps other = some bootstrap) :
      other = position ∧ bootstrap = after ∨
        other ≠ position ∧ vpn.bootstraps other = some bootstrap := by
    simp only [VkturnVpn.setBootstrap, Function.update_apply] at isStored
    split at isStored
    · rename_i same
      exact .inl ⟨same, (Option.some.inj isStored).symm⟩
    · rename_i away
      exact .inr ⟨away, isStored⟩
  constructor
  case fresh =>
    intro other isFresh
    by_contra present
    obtain ⟨bootstrap, isStored⟩ := Option.ne_none_iff_exists'.mp present
    obtain ⟨rfl, rfl⟩ | ⟨_, wasStored⟩ := stored other bootstrap isStored
    · cases (inv.fresh other isFresh).symm.trans isBootstrap
    · cases (inv.fresh other isFresh).symm.trans wasStored
  case atMostOne =>
    intro one other first second isFirst isSecond firstAlive secondAlive
    obtain ⟨rfl, rfl⟩ | ⟨firstAway, wasFirst⟩ := stored one first isFirst
    · obtain ⟨rfl, rfl⟩ | ⟨secondAway, wasSecond⟩ := stored other second isSecond
      · rfl
      · cases (alive firstAlive other second secondAway wasSecond).symm.trans secondAlive
    · obtain ⟨rfl, rfl⟩ | ⟨_, wasSecond⟩ := stored other second isSecond
      · cases (alive secondAlive one first firstAway wasFirst).symm.trans firstAlive
      · exact inv.atMostOne one other first second wasFirst wasSecond firstAlive secondAlive
  case proxyHeld =>
    intro other bootstrap isStored isRunning
    obtain ⟨rfl, rfl⟩ | ⟨_, wasStored⟩ := stored other bootstrap isStored
    · exact running isRunning
    · exact inv.proxyHeld other bootstrap wasStored isRunning
  case serverHeld =>
    intro other bootstrap isStored isLive
    obtain ⟨rfl, rfl⟩ | ⟨_, wasStored⟩ := stored other bootstrap isStored
    · exact live isLive
    · exact inv.serverHeld other bootstrap wasStored isLive
  case notAbandoned =>
    intro other bootstrap isStored
    obtain ⟨rfl, rfl⟩ | ⟨_, wasStored⟩ := stored other bootstrap isStored
    · exact notAbandoned
    · exact inv.notAbandoned other bootstrap wasStored
  case tunnelHeld => exact inv.tunnelHeld
  case tunnelCleared => exact inv.tunnelCleared
  case stopping => exact inv.stopping

/-- Outside of the two stages in which something is started and not yet assigned, a bootstrap may
    go on with any stage. -/
theorem LeftoverInv.enter (inv : LeftoverInv vpn) {before after : Bootstrap}
    (isBootstrap : vpn.bootstraps position = some before)
    (assigned : before.stage ≠ .assignProxy ∧ before.stage ≠ .assignServer)
    (same : after.service = before.service ∧ after.process = before.process ∧
      after.server = before.server) (stage : BootstrapStage) :
    LeftoverInv (vpn.enter position after stage) := by
  obtain ⟨sameService, sameProcess, sameServer⟩ := same
  refine inv.setBootstrap isBootstrap ⟨sameService, ?_, ?_, ?_, ?_⟩
  · exact fun alive => by rwa [← sameProcess]
  · exact fun running => ⟨sameProcess ▸ running, fun assigning => absurd assigning assigned.1⟩
  · exact fun live => ⟨sameServer ▸ live, fun assigning => absurd assigning assigned.2⟩
  · exact fun notAbandoned => by rwa [← sameServer] at notAbandoned

theorem LeftoverInv.publish (inv : LeftoverInv vpn) (phase : TunnelPhase) (message : String) :
    LeftoverInv (vpn.publish phase message) :=
  ⟨inv.fresh, inv.atMostOne, inv.proxyHeld, inv.serverHeld, inv.notAbandoned, inv.tunnelHeld,
    inv.tunnelCleared, inv.stopping⟩

theorem LeftoverInv.fail (inv : LeftoverInv vpn) {bootstrap : Bootstrap}
    (isBootstrap : vpn.bootstraps position = some bootstrap)
    (assigned : bootstrap.stage ≠ .assignProxy ∧ bootstrap.stage ≠ .assignServer)
    (message : String) : LeftoverInv (vpn.fail position bootstrap message) :=
  (inv.enter isBootstrap assigned ⟨rfl, rfl, rfl⟩ .ended).publish .error message

/-- A change of a service's fields that keeps what they name. -/
theorem LeftoverInv.setService (inv : LeftoverInv vpn) {service : Nat} {changed : ServiceFields}
    (sameProxy : changed.proxy = (vpn.services service).proxy)
    (sameServer : changed.protectServer = (vpn.services service).protectServer) :
    LeftoverInv (vpn.setService service changed) := by
  have proxy (other : Nat) :
      ((vpn.setService service changed).services other).proxy = (vpn.services other).proxy := by
    simp only [VkturnVpn.setService, Function.update_apply]
    split
    · rename_i same
      exact same ▸ sameProxy
    · rfl
  have server (other : Nat) : ((vpn.setService service changed).services other).protectServer =
      (vpn.services other).protectServer := by
    simp only [VkturnVpn.setService, Function.update_apply]
    split
    · rename_i same
      exact same ▸ sameServer
    · rfl
  refine ⟨inv.fresh, inv.atMostOne, ?_, ?_, inv.notAbandoned, inv.tunnelHeld, inv.tunnelCleared,
    inv.stopping⟩
  · intro position bootstrap isBootstrap running
    refine (inv.proxyHeld position bootstrap isBootstrap running).imp_right (Or.imp_right ?_)
    exact fun ⟨isCurrent, isProxy, notCleared⟩ => ⟨isCurrent, (proxy _).trans isProxy, notCleared⟩
  · intro position bootstrap isBootstrap live
    refine (inv.serverHeld position bootstrap isBootstrap live).imp_right ?_
    exact fun ⟨isCurrent, isServer, notCleared⟩ =>
      ⟨isCurrent, (server _).trans isServer, notCleared⟩

theorem LeftoverInv.destroyProxy (inv : LeftoverInv vpn) (slot : Option Nat) :
    LeftoverInv (vpn.destroyProxy slot) := by
  refine inv.setBootstraps fun position after isAfter => ?_
  obtain ⟨before, isBefore, rfl⟩ := Option.map_eq_some_iff.mp isAfter
  refine ⟨before, isBefore, ?_⟩
  split
  · refine ⟨rfl, ?_, ?_, fun live => ⟨live, id⟩, id⟩
    · cases before.process with
      | _ => simp [ProxyProcess.destroy, ProxyProcess.isAlive]
    · cases before.process with
      | _ => simp [ProxyProcess.destroy]
  · exact .refl before

theorem LeftoverInv.stopServer (inv : LeftoverInv vpn) {slot : Option Nat}
    (opened : vpn.ServerOpened slot) : LeftoverInv (vpn.stopServer slot) := by
  refine inv.setBootstraps fun position after isAfter => ?_
  obtain ⟨before, isBefore, rfl⟩ := Option.map_eq_some_iff.mp isAfter
  refine ⟨before, isBefore, ?_⟩
  split
  · rename_i isSlot
    have isOpened := opened position before isSlot isBefore
    refine ⟨rfl, id, fun running => ⟨running, id⟩, ?_, ?_⟩
    · cases isServer : before.server with
      | opening => cases isOpened isServer
      | _ => simp [ProtectServer.stop, ProtectServer.isLive]
    · cases isServer : before.server with
      | opening => cases isOpened isServer
      | _ => simp [ProtectServer.stop]
  · exact .refl before

/-! ### The commands -/

/-- A command goes on without reading a field. -/
theorem LeftoverInv.setCommand (inv : LeftoverInv vpn) {command : CommandStage} {lastStop : Bool}
    (destroying : Bool) (notClearing : ∀ position, vpn.command ≠ .clearProxy position)
    (tunnel : lastStop = true ∧ command.pastTunnel = true → vpn.TunnelCleared)
    (proxy : lastStop = true ∧ command.pastProxy = true → vpn.ProxyCleared)
    (server : lastStop = true ∧ command.pastServer = true → vpn.ServerCleared)
    (stopping : command.isStop = true → lastStop = true) :
    LeftoverInv { vpn with command := command, lastStop := lastStop, destroying := destroying } := by
  refine ⟨inv.fresh, inv.atMostOne, ?_, ?_, inv.notAbandoned, inv.tunnelHeld, ?_, stopping⟩
  · intro position bootstrap isBootstrap running
    refine (inv.proxyHeld position bootstrap isBootstrap running).imp_right fun held => .inr ?_
    obtain clearing | ⟨isCurrent, isProxy, notCleared⟩ := held
    · exact absurd clearing (notClearing position)
    · exact ⟨isCurrent, isProxy, fun cleared => notCleared (proxy cleared)⟩
  · intro position bootstrap isBootstrap live
    refine (inv.serverHeld position bootstrap isBootstrap live).imp_right ?_
    exact fun ⟨isCurrent, isServer, notCleared⟩ =>
      ⟨isCurrent, isServer, fun cleared => notCleared (server cleared)⟩
  · exact fun cleared => inv.tunnelCleared (tunnel cleared)

/-- Setting `proxy` loses no client when none that runs is held by it. -/
theorem LeftoverInv.setProxy (inv : LeftoverInv vpn) {service : Nat} (slot : Option Nat)
    (released : ∀ position bootstrap, vpn.bootstraps position = some bootstrap →
      bootstrap.process = .running → vpn.HoldsProxy position bootstrap → service ≠ vpn.current) :
    LeftoverInv (vpn.setService service { vpn.services service with proxy := slot }) := by
  refine ⟨inv.fresh, inv.atMostOne, ?_, ?_, inv.notAbandoned, inv.tunnelHeld, inv.tunnelCleared,
    inv.stopping⟩
  · intro position bootstrap isBootstrap running
    refine (inv.proxyHeld position bootstrap isBootstrap running).imp_right (Or.imp_right ?_)
    intro holds
    have away := released position bootstrap isBootstrap running holds
    obtain ⟨isCurrent, isProxy, notCleared⟩ := holds
    refine ⟨isCurrent, ?_, notCleared⟩
    simpa [VkturnVpn.setService, away.symm] using isProxy
  · intro position bootstrap isBootstrap live
    refine (inv.serverHeld position bootstrap isBootstrap live).imp_right ?_
    rintro ⟨isCurrent, isServer, notCleared⟩
    refine ⟨isCurrent, ?_, notCleared⟩
    by_cases same : vpn.current = service
    · subst same
      simpa [VkturnVpn.setService] using isServer
    · simpa [VkturnVpn.setService, same] using isServer

theorem LeftoverInv.setServer (inv : LeftoverInv vpn) {service : Nat} (slot : Option Nat)
    (released : ∀ position bootstrap, vpn.bootstraps position = some bootstrap →
      bootstrap.server.isLive = true → vpn.HoldsServer position bootstrap →
        service ≠ vpn.current) :
    LeftoverInv (vpn.setService service { vpn.services service with protectServer := slot }) := by
  refine ⟨inv.fresh, inv.atMostOne, ?_, ?_, inv.notAbandoned, inv.tunnelHeld, inv.tunnelCleared,
    inv.stopping⟩
  · intro position bootstrap isBootstrap running
    refine (inv.proxyHeld position bootstrap isBootstrap running).imp_right (Or.imp_right ?_)
    rintro ⟨isCurrent, isProxy, notCleared⟩
    refine ⟨isCurrent, ?_, notCleared⟩
    by_cases same : vpn.current = service
    · subst same
      simpa [VkturnVpn.setService] using isProxy
    · simpa [VkturnVpn.setService, same] using isProxy
  · intro position bootstrap isBootstrap live
    refine (inv.serverHeld position bootstrap isBootstrap live).imp_right ?_
    intro holds
    have away := released position bootstrap isBootstrap live holds
    obtain ⟨isCurrent, isServer, notCleared⟩ := holds
    refine ⟨isCurrent, ?_, notCleared⟩
    simpa [VkturnVpn.setService, away.symm] using isServer

theorem VkturnVpn.ProxyReleased.notHeld {service : Nat}
    (released : vpn.ProxyReleased (vpn.services service).proxy) (position : Nat)
    (bootstrap : Bootstrap) (isBootstrap : vpn.bootstraps position = some bootstrap)
    (running : bootstrap.process = .running) (holds : vpn.HoldsProxy position bootstrap) :
    service ≠ vpn.current := by
  rintro rfl
  exact released position bootstrap holds.2.1 isBootstrap running

theorem VkturnVpn.ServerReleased.notHeld {service : Nat}
    (released : vpn.ServerReleased (vpn.services service).protectServer) (position : Nat)
    (bootstrap : Bootstrap) (isBootstrap : vpn.bootstraps position = some bootstrap)
    (live : bootstrap.server.isLive = true) (holds : vpn.HoldsServer position bootstrap) :
    service ≠ vpn.current := by
  rintro rfl
  cases (released position bootstrap holds.2.1 isBootstrap).symm.trans live

/-- A destroyed client does not run on. -/
theorem destroyProxy_released (slot : Option Nat) : (vpn.destroyProxy slot).ProxyReleased slot := by
  intro position owner isSlot isOwner running
  obtain ⟨before, isBefore, rfl⟩ := Option.map_eq_some_iff.mp isOwner
  rw [if_pos isSlot] at running
  cases isProcess : before.process with
  | _ => simp [isProcess, ProxyProcess.destroy] at running

/-- A server that is stopped after it has opened its socket is closed. -/
theorem stopServer_released {slot : Option Nat} (opened : vpn.ServerOpened slot)
    (notAbandoned : ∀ position bootstrap, vpn.bootstraps position = some bootstrap →
      bootstrap.server ≠ .abandoned) : (vpn.stopServer slot).ServerReleased slot := by
  intro position owner isSlot isOwner
  obtain ⟨before, isBefore, rfl⟩ := Option.map_eq_some_iff.mp isOwner
  rw [if_pos isSlot]
  have isOpened := opened position before isSlot isBefore
  have isHeld := notAbandoned position before isBefore
  cases isServer : before.server with
  | opening => cases isOpened isServer
  | abandoned => cases isHeld isServer
  | _ => simp [ProtectServer.stop, ProtectServer.isLive]

theorem start_leftoverInv {intent : StartIntent} (inv : LeftoverInv vpn)
    (stepped : vpn.start intent = some next) : LeftoverInv next := by
  simp only [VkturnVpn.start] at stepped
  split at stepped
  · rename_i isIdle
    obtain rfl := Option.some.inj stepped
    have reset : LeftoverInv (vpn.setService vpn.current
        { vpn.services vpn.current with bootstrapAborted := false }) := inv.setService rfl rfl
    refine reset.setCommand _ ?_ (by simp) (by simp) (by simp) nofun
    exact fun position clearing => by cases isIdle.symm.trans clearing
  · cases stepped

theorem stop_leftoverInv {destroys : Bool} (inv : LeftoverInv vpn)
    (stepped : vpn.stop destroys = some next) : LeftoverInv next := by
  simp only [VkturnVpn.stop] at stepped
  split at stepped
  · rename_i isIdle
    obtain rfl := Option.some.inj stepped
    have aborted : LeftoverInv (vpn.setService vpn.current
        { vpn.services vpn.current with bootstrapAborted := true }) := inv.setService rfl rfl
    refine aborted.setCommand _ ?_ (by simp [CommandStage.pastTunnel])
      (by simp [CommandStage.pastProxy]) (by simp [CommandStage.pastServer]) fun _ => rfl
    exact fun position clearing => by cases isIdle.symm.trans clearing
  · cases stepped

/-- A new bootstrap has started nothing. -/
theorem LeftoverInv.launch (inv : LeftoverInv vpn) (intent : StartIntent)
    (isLaunch : vpn.command = .launch intent) :
    LeftoverInv { vpn.setBootstrap vpn.next { service := vpn.current, intent := intent } with
      next := vpn.next + 1, command := .idle } := by
  have stored (position : Nat) (bootstrap : Bootstrap)
      (isStored : (vpn.setBootstrap vpn.next
        { service := vpn.current, intent := intent }).bootstraps position = some bootstrap) :
      vpn.bootstraps position = some bootstrap ∨
        (bootstrap.process = .absent ∧ bootstrap.server = .absent) := by
    simp only [VkturnVpn.setBootstrap, Function.update_apply] at isStored
    split at isStored
    · obtain rfl := Option.some.inj isStored
      exact .inr ⟨rfl, rfl⟩
    · exact .inl isStored
  constructor
  case fresh =>
    intro position isFresh
    have isFresh : vpn.next + 1 ≤ position := isFresh
    have away : position ≠ vpn.next := by omega
    simpa [VkturnVpn.setBootstrap, away] using inv.fresh position (by omega)
  case atMostOne =>
    intro position other first second isFirst isSecond firstAlive secondAlive
    obtain wasFirst | ⟨isAbsent, _⟩ := stored position first isFirst
    · obtain wasSecond | ⟨isAbsent, _⟩ := stored other second isSecond
      · exact inv.atMostOne position other first second wasFirst wasSecond firstAlive secondAlive
      · simp [isAbsent, ProxyProcess.isAlive] at secondAlive
    · simp [isAbsent, ProxyProcess.isAlive] at firstAlive
  case proxyHeld =>
    intro position bootstrap isStored running
    obtain wasStored | ⟨isAbsent, _⟩ := stored position bootstrap isStored
    · obtain assigning | clearing | ⟨isCurrent, isProxy, notCleared⟩ :=
        inv.proxyHeld position bootstrap wasStored running
      · exact .inl assigning
      · cases isLaunch.symm.trans clearing
      · refine .inr (.inr ⟨isCurrent, isProxy, fun cleared => notCleared ⟨cleared.1, ?_⟩⟩)
        rw [isLaunch]
        rfl
    · cases isAbsent.symm.trans running
  case serverHeld =>
    intro position bootstrap isStored live
    obtain wasStored | ⟨_, isAbsent⟩ := stored position bootstrap isStored
    · refine (inv.serverHeld position bootstrap wasStored live).imp_right ?_
      rintro ⟨isCurrent, isServer, notCleared⟩
      refine ⟨isCurrent, isServer, fun cleared => notCleared ⟨cleared.1, ?_⟩⟩
      rw [isLaunch]
      rfl
    · simp [isAbsent, ProtectServer.isLive] at live
  case notAbandoned =>
    intro position bootstrap isStored
    obtain wasStored | ⟨_, isAbsent⟩ := stored position bootstrap isStored
    · exact inv.notAbandoned position bootstrap wasStored
    · simp [isAbsent]
  case tunnelHeld => exact inv.tunnelHeld
  case tunnelCleared =>
    intro cleared
    refine inv.tunnelCleared ⟨cleared.1, ?_⟩
    rw [isLaunch]
    rfl
  case stopping => exact nofun

theorem stopAll_leftoverInv {downOk : Bool} (inv : LeftoverInv vpn)
    (isStage : vpn.command = .stopAll) (takesDown : vpn.backend = none ∨ downOk = true) :
    LeftoverInv { vpn with
      activeTunnel := none
      backend := if downOk ∧ vpn.activeTunnel = vpn.backend then none else vpn.backend
      command := .readProxy } := by
  have lastStop : vpn.lastStop = true := inv.stopping (by rw [isStage]; rfl)
  have noTunnel :
      (if downOk ∧ vpn.activeTunnel = vpn.backend then none else vpn.backend) = none := by
    cases isUp : vpn.backend with
    | none => simp
    | some position =>
      have isDown : downOk = true := takesDown.resolve_left (by simp [isUp])
      have isActive := inv.tunnelHeld position isUp
      rw [if_pos ⟨isDown, isActive⟩]
  refine ⟨inv.fresh, inv.atMostOne, ?_, ?_, inv.notAbandoned, ?_, fun _ => rfl,
    fun _ => lastStop⟩
  · intro position bootstrap isBootstrap running
    refine (inv.proxyHeld position bootstrap isBootstrap running).imp_right fun held => .inr ?_
    obtain clearing | ⟨isCurrent, isProxy, _⟩ := held
    · cases isStage.symm.trans clearing
    · exact ⟨isCurrent, isProxy, fun cleared => nomatch cleared.2⟩
  · intro position bootstrap isBootstrap live
    refine (inv.serverHeld position bootstrap isBootstrap live).imp_right ?_
    exact fun ⟨isCurrent, isServer, _⟩ =>
      ⟨isCurrent, isServer, fun cleared => nomatch cleared.2⟩
  · intro position isUp
    cases noTunnel.symm.trans isUp

theorem readProxy_leftoverInv (inv : LeftoverInv vpn) (isStage : vpn.command = .readProxy)
    {command : CommandStage}
    (isNext : (vpn.services vpn.current).proxy = none ∧ command = .stopServer ∨
      ∃ held, (vpn.services vpn.current).proxy = some held ∧ command = .clearProxy held) :
    LeftoverInv { vpn with command := command } := by
  have lastStop : vpn.lastStop = true := inv.stopping (by rw [isStage]; rfl)
  have notPast : command.pastServer = false := by
    obtain ⟨_, rfl⟩ | ⟨held, _, rfl⟩ := isNext
    · rfl
    · rfl
  refine ⟨inv.fresh, inv.atMostOne, ?_, ?_, inv.notAbandoned, inv.tunnelHeld, ?_,
    fun _ => lastStop⟩
  · intro position bootstrap isBootstrap running
    refine (inv.proxyHeld position bootstrap isBootstrap running).imp_right fun read => .inl ?_
    obtain clearing | ⟨_, isProxy, _⟩ := read
    · cases isStage.symm.trans clearing
    · obtain ⟨isEmpty, _⟩ | ⟨held, isHeld, rfl⟩ := isNext
      · cases isEmpty.symm.trans isProxy
      · obtain rfl := Option.some.inj (isHeld.symm.trans isProxy)
        rfl
  · intro position bootstrap isBootstrap live
    refine (inv.serverHeld position bootstrap isBootstrap live).imp_right ?_
    exact fun ⟨isCurrent, isServer, _⟩ =>
      ⟨isCurrent, isServer, fun cleared => nomatch notPast.symm.trans cleared.2⟩
  · exact fun _ => inv.tunnelCleared ⟨lastStop, by rw [isStage]; rfl⟩

/-- `proxy = null`, and the client that was read is destroyed. -/
theorem clearProxy_leftoverInv {held : Nat} (inv : LeftoverInv vpn)
    (isStage : vpn.command = .clearProxy held) :
    LeftoverInv { (vpn.setService vpn.current
        { vpn.services vpn.current with proxy := none }).destroyProxy (some held) with
      command := .stopServer } := by
  have lastStop : vpn.lastStop = true := inv.stopping (by rw [isStage]; rfl)
  have emptied : LeftoverInv (vpn.setService vpn.current
      { vpn.services vpn.current with proxy := none }) := by
    refine inv.setProxy none fun position bootstrap _ _ holds => ?_
    exact absurd ⟨lastStop, by rw [isStage]; rfl⟩ holds.2.2
  have destroyed := emptied.destroyProxy (some held)
  have released : VkturnVpn.ProxyReleased ((vpn.setService vpn.current
      { vpn.services vpn.current with proxy := none }).destroyProxy (some held)) (some held) :=
    destroyProxy_released (some held)
  refine ⟨destroyed.fresh, destroyed.atMostOne, ?_, ?_, destroyed.notAbandoned,
    destroyed.tunnelHeld, ?_, fun _ => lastStop⟩
  · intro position bootstrap isBootstrap running
    obtain assigning | clearing | ⟨_, _, notCleared⟩ :=
      destroyed.proxyHeld position bootstrap isBootstrap running
    · exact .inl assigning
    · cases isStage.symm.trans clearing
      exact absurd running (released held bootstrap rfl isBootstrap)
    · exact absurd (show vpn.ProxyCleared from ⟨lastStop, by rw [isStage]; rfl⟩) notCleared
  · intro position bootstrap isBootstrap live
    refine (destroyed.serverHeld position bootstrap isBootstrap live).imp_right ?_
    exact fun ⟨isCurrent, isServer, _⟩ =>
      ⟨isCurrent, isServer, fun cleared => nomatch cleared.2⟩
  · exact fun _ => inv.tunnelCleared ⟨lastStop, by rw [isStage]; rfl⟩

/-- `protectServer?.stop()`. -/
theorem stopServer_leftoverInv (inv : LeftoverInv vpn) (isStage : vpn.command = .stopServer)
    (opened : vpn.ServerOpened (vpn.services vpn.current).protectServer) :
    LeftoverInv { vpn.stopServer (vpn.services vpn.current).protectServer with
      command := .clearServer } := by
  have lastStop : vpn.lastStop = true := inv.stopping (by rw [isStage]; rfl)
  have stopped := inv.stopServer opened
  have released := stopServer_released opened inv.notAbandoned
  refine ⟨stopped.fresh, stopped.atMostOne, ?_, ?_, stopped.notAbandoned, stopped.tunnelHeld, ?_,
    fun _ => lastStop⟩
  · intro position bootstrap isBootstrap running
    refine (stopped.proxyHeld position bootstrap isBootstrap running).imp_right fun held => ?_
    obtain clearing | ⟨_, _, notCleared⟩ := held
    · cases isStage.symm.trans clearing
    · exact absurd (show vpn.ProxyCleared from ⟨lastStop, by rw [isStage]; rfl⟩) notCleared
  · intro position bootstrap isBootstrap live
    refine (stopped.serverHeld position bootstrap isBootstrap live).imp_right ?_
    rintro ⟨_, isServer, _⟩
    cases (released position bootstrap isServer isBootstrap).symm.trans live
  · exact fun _ => inv.tunnelCleared ⟨lastStop, by rw [isStage]; rfl⟩

theorem clearServer_leftoverInv (inv : LeftoverInv vpn) (isStage : vpn.command = .clearServer) :
    LeftoverInv { vpn.setService vpn.current
        { vpn.services vpn.current with protectServer := none } with command := .reset } := by
  have lastStop : vpn.lastStop = true := inv.stopping (by rw [isStage]; rfl)
  have emptied : LeftoverInv (vpn.setService vpn.current
      { vpn.services vpn.current with protectServer := none }) := by
    refine inv.setServer none fun position bootstrap _ _ holds => ?_
    exact absurd ⟨lastStop, by rw [isStage]; rfl⟩ holds.2.2
  refine emptied.setCommand _ (fun position clearing => nomatch isStage.symm.trans clearing)
    ?_ ?_ ?_ fun _ => lastStop
  · exact fun _ => show vpn.TunnelCleared from ⟨lastStop, by rw [isStage]; rfl⟩
  · exact fun _ => show vpn.ProxyCleared from ⟨lastStop, by rw [isStage]; rfl⟩
  · exact fun _ => show vpn.ServerCleared from ⟨lastStop, by rw [isStage]; rfl⟩

/-- At the end of a stop nothing is held, so that the next command may get a new service. -/
theorem reset_leftoverInv (inv : LeftoverInv vpn) (isStage : vpn.command = .reset)
    (current : Nat) :
    LeftoverInv { vpn with bus := {}, begun := none, command := .idle, current := current } := by
  have lastStop : vpn.lastStop = true := inv.stopping (by rw [isStage]; rfl)
  refine ⟨inv.fresh, inv.atMostOne, ?_, ?_, inv.notAbandoned, inv.tunnelHeld, ?_, nofun⟩
  · intro position bootstrap isBootstrap running
    obtain assigning | clearing | ⟨_, _, notCleared⟩ :=
      inv.proxyHeld position bootstrap isBootstrap running
    · exact .inl assigning
    · cases isStage.symm.trans clearing
    · exact absurd ⟨lastStop, by rw [isStage]; rfl⟩ notCleared
  · intro position bootstrap isBootstrap live
    obtain assigning | ⟨_, _, notCleared⟩ :=
      inv.serverHeld position bootstrap isBootstrap live
    · exact .inl assigning
    · exact absurd ⟨lastStop, by rw [isStage]; rfl⟩ notCleared
  · exact fun _ => inv.tunnelCleared ⟨lastStop, by rw [isStage]; rfl⟩

theorem advance_leftoverInv {downOk : Bool} (inv : LeftoverInv vpn)
    (inTime : StartsInTime vpn (.advance downOk)) (stepped : vpn.advance downOk = some next) :
    LeftoverInv next := by
  simp only [VkturnVpn.advance] at stepped
  split at stepped
  · cases stepped
  · rename_i intent isStage
    obtain rfl := Option.some.inj stepped
    have reset : LeftoverInv (vpn.setService vpn.current
        { vpn.services vpn.current with dtlsReady := false, latest := some vpn.next }) :=
      inv.setService rfl rfl
    refine reset.setCommand _ (fun position clearing => nomatch isStage.symm.trans clearing)
      ?_ ?_ ?_ nofun
    · exact fun cleared => show vpn.TunnelCleared from ⟨cleared.1, by rw [isStage]; rfl⟩
    · exact fun cleared => show vpn.ProxyCleared from ⟨cleared.1, by rw [isStage]; rfl⟩
    · exact fun cleared => show vpn.ServerCleared from ⟨cleared.1, by rw [isStage]; rfl⟩
  · rename_i intent isStage
    obtain rfl := Option.some.inj stepped
    exact inv.launch intent isStage
  · rename_i isStage
    obtain rfl := Option.some.inj stepped
    exact stopAll_leftoverInv inv isStage (inTime.1 isStage)
  · rename_i isStage
    split at stepped
    · rename_i isEmpty
      obtain rfl := Option.some.inj stepped
      exact readProxy_leftoverInv inv isStage (.inl ⟨isEmpty, rfl⟩)
    · rename_i held isHeld
      obtain rfl := Option.some.inj stepped
      exact readProxy_leftoverInv inv isStage (.inr ⟨held, isHeld, rfl⟩)
  · rename_i held isStage
    obtain rfl := Option.some.inj stepped
    exact clearProxy_leftoverInv inv isStage
  · rename_i isStage
    obtain rfl := Option.some.inj stepped
    exact stopServer_leftoverInv inv isStage (inTime.2 isStage)
  · rename_i isStage
    obtain rfl := Option.some.inj stepped
    exact clearServer_leftoverInv inv isStage
  · rename_i isStage
    obtain rfl := Option.some.inj stepped
    exact reset_leftoverInv inv isStage _

/-! ### The steps of a bootstrap -/

/-- Neither of the two stages in which something is started and not yet assigned. -/
theorem assigned_of_stage {bootstrap : Bootstrap} {stage : BootstrapStage}
    (isStage : bootstrap.stage = stage)
    (notAssigning : stage ≠ .assignProxy ∧ stage ≠ .assignServer) :
    bootstrap.stage ≠ .assignProxy ∧ bootstrap.stage ≠ .assignServer := isStage ▸ notAssigning

theorem probeBaseline_leftoverInv {ip : Option String} (inv : LeftoverInv vpn)
    (stepped : vpn.probeBaseline position ip = some next) : LeftoverInv next := by
  obtain ⟨bootstrap, isBootstrap, isStage, changed⟩ := onStage_eq_some stepped
  obtain rfl := Option.some.inj changed
  have entered :
      LeftoverInv (vpn.enter position { bootstrap with baselineIp := ip } .checkAbort) :=
    inv.enter isBootstrap (assigned_of_stage isStage (by decide)) (by simp) .checkAbort
  exact ⟨entered.fresh, entered.atMostOne, entered.proxyHeld, entered.serverHeld,
    entered.notAbandoned, entered.tunnelHeld, entered.tunnelCleared, entered.stopping⟩

theorem checkAbort_leftoverInv (inv : LeftoverInv vpn)
    (stepped : vpn.checkAbort position = some next) : LeftoverInv next := by
  obtain ⟨bootstrap, isBootstrap, isStage, changed⟩ := onStage_eq_some stepped
  have entered := inv.enter isBootstrap (assigned_of_stage isStage (by decide)) ⟨rfl, rfl, rfl⟩
  split at changed
  · obtain rfl := Option.some.inj changed
    exact entered .ended
  · split at changed
    · obtain rfl := Option.some.inj changed
      exact (entered .inner).publish _ _
    · obtain rfl := Option.some.inj changed
      exact entered .finalCheck

theorem inner_leftoverInv {found : Bool} (inv : LeftoverInv vpn)
    (stepped : vpn.inner position found = some next) : LeftoverInv next := by
  obtain ⟨bootstrap, isBootstrap, isStage, changed⟩ := onStage_eq_some stepped
  have assigned := assigned_of_stage isStage (by decide)
  split at changed
  · obtain rfl := Option.some.inj changed
    exact inv.enter isBootstrap assigned ⟨rfl, rfl, rfl⟩ .ended
  · split at changed
    · obtain rfl := Option.some.inj changed
      exact inv.enter isBootstrap assigned ⟨rfl, rfl, rfl⟩ .startServer
    · obtain rfl := Option.some.inj changed
      exact inv.fail isBootstrap assigned _

/-- The client of a bootstrap that is alive is the only one. -/
theorem LeftoverInv.onlyAlive (inv : LeftoverInv vpn) {bootstrap : Bootstrap}
    (isBootstrap : vpn.bootstraps position = some bootstrap)
    (alive : bootstrap.process.isAlive = true) (other : Nat) (second : Bootstrap)
    (away : other ≠ position) (isSecond : vpn.bootstraps other = some second) :
    second.process.isAlive = false := by
  by_contra isAlive
  exact away (inv.atMostOne other position second bootstrap isSecond isBootstrap
    (by simpa using isAlive) alive)

theorem startServer_leftoverInv (inv : LeftoverInv vpn)
    (stepped : vpn.startServer position = some next) : LeftoverInv next := by
  obtain ⟨bootstrap, isBootstrap, isStage, changed⟩ := onStage_eq_some stepped
  obtain rfl := Option.some.inj changed
  refine inv.replace isBootstrap (fun alive => inv.onlyAlive isBootstrap alive) ?_
    (fun _ => .inl rfl) (by simp)
  intro running
  refine (inv.proxyHeld position bootstrap isBootstrap running).imp_left fun assigning => ?_
  cases isStage.symm.trans assigning

theorem assignServer_leftoverInv (inv : LeftoverInv vpn)
    (inTime : StartsInTime vpn (.assignServer position))
    (stepped : vpn.assignServer position = some next) : LeftoverInv next := by
  obtain ⟨bootstrap, isBootstrap, isStage, changed⟩ := onStage_eq_some stepped
  obtain rfl := Option.some.inj changed
  obtain ⟨isCurrent, notCleared, released⟩ := inTime bootstrap isBootstrap
  have assigned := inv.setServer (some position) released.notHeld
  have entered : LeftoverInv ((vpn.setService bootstrap.service
      { vpn.services bootstrap.service with protectServer := some position }).enter position
        bootstrap .spawn) := by
    refine assigned.replace isBootstrap
      (fun alive => assigned.onlyAlive isBootstrap alive) ?_ ?_
      (inv.notAbandoned position bootstrap isBootstrap)
    · intro running
      refine (assigned.proxyHeld position bootstrap isBootstrap running).imp_left fun assigning => ?_
      cases isStage.symm.trans assigning
    · intro _
      refine .inr ⟨isCurrent, ?_, notCleared⟩
      simp [VkturnVpn.setService, isCurrent]
  exact entered.publish _ _

theorem spawn_leftoverInv {error : Option String} (inv : LeftoverInv vpn)
    (inTime : StartsInTime vpn (.spawn position error))
    (stepped : vpn.spawn position error = some next) : LeftoverInv next := by
  obtain ⟨bootstrap, isBootstrap, isStage, changed⟩ := onStage_eq_some stepped
  cases error with
  | none =>
    obtain rfl := Option.some.inj changed
    refine inv.replace isBootstrap ?_ (fun _ => .inl rfl) ?_
      (inv.notAbandoned position bootstrap isBootstrap)
    · exact fun _ other second _ isSecond => inTime other second isSecond
    · intro live
      refine (inv.serverHeld position bootstrap isBootstrap live).imp_left fun assigning => ?_
      cases isStage.symm.trans assigning
  | some message =>
    obtain rfl := Option.some.inj changed
    exact inv.fail isBootstrap (assigned_of_stage isStage (by decide)) _

theorem assignProxy_leftoverInv (inv : LeftoverInv vpn)
    (inTime : StartsInTime vpn (.assignProxy position))
    (stepped : vpn.assignProxy position = some next) : LeftoverInv next := by
  obtain ⟨bootstrap, isBootstrap, isStage, changed⟩ := onStage_eq_some stepped
  obtain rfl := Option.some.inj changed
  obtain ⟨isCurrent, notCleared, released⟩ := inTime bootstrap isBootstrap
  have assigned := inv.setProxy (some position) released.notHeld
  refine assigned.replace isBootstrap
    (fun alive => assigned.onlyAlive isBootstrap alive) ?_ ?_
    (inv.notAbandoned position bootstrap isBootstrap)
  · intro _
    refine .inr (.inr ⟨isCurrent, ?_, notCleared⟩)
    simp [VkturnVpn.setService, isCurrent]
  · intro live
    refine (assigned.serverHeld position bootstrap isBootstrap live).imp_left fun assigning => ?_
    cases isStage.symm.trans assigning

theorem waitListen_leftoverInv {timedOut : Bool} (inv : LeftoverInv vpn)
    (stepped : vpn.waitListen position timedOut = some next) : LeftoverInv next := by
  obtain ⟨bootstrap, isBootstrap, isStage, changed⟩ := onStage_eq_some stepped
  have assigned := assigned_of_stage isStage (by decide)
  have entered := inv.enter isBootstrap assigned ⟨rfl, rfl, rfl⟩
  split at changed
  · obtain rfl := Option.some.inj changed
    exact (entered .waitDtls).publish _ _
  · split at changed
    · obtain rfl := Option.some.inj changed
      exact inv.fail isBootstrap assigned _
    · obtain rfl := Option.some.inj changed
      exact entered .listenProxy

theorem waitDtls_leftoverInv {timedOut : Bool} (inv : LeftoverInv vpn)
    (stepped : vpn.waitDtls position timedOut = some next) : LeftoverInv next := by
  obtain ⟨bootstrap, isBootstrap, isStage, changed⟩ := onStage_eq_some stepped
  have assigned := assigned_of_stage isStage (by decide)
  split at changed
  · obtain rfl := Option.some.inj changed
    exact inv.fail isBootstrap assigned _
  · obtain rfl := Option.some.inj changed
    exact inv.enter isBootstrap assigned ⟨rfl, rfl, rfl⟩ .dtlsFlag

theorem poll_leftoverInv {opened : Bool} (inv : LeftoverInv vpn)
    (stepped : vpn.poll position opened = some next) : LeftoverInv next := by
  simp only [VkturnVpn.poll] at stepped
  split at stepped
  · cases stepped
  · rename_i bootstrap isBootstrap
    split at stepped
    · rename_i isStage
      have assigned := assigned_of_stage isStage (by decide)
      split at stepped
      · obtain rfl := Option.some.inj stepped
        exact inv.fail isBootstrap assigned _
      · obtain rfl := Option.some.inj stepped
        exact inv.enter isBootstrap assigned ⟨rfl, rfl, rfl⟩ _
    · rename_i isStage
      have entered := inv.enter isBootstrap (assigned_of_stage isStage (by decide)) ⟨rfl, rfl, rfl⟩
      split at stepped
      · obtain rfl := Option.some.inj stepped
        exact (entered .waitDtls).publish _ _
      · obtain rfl := Option.some.inj stepped
        exact entered .waitListen
    · rename_i isStage
      have entered := inv.enter isBootstrap (assigned_of_stage isStage (by decide)) ⟨rfl, rfl, rfl⟩
      split at stepped
      · obtain rfl := Option.some.inj stepped
        exact (entered .finalCheck).publish _ _
      · obtain rfl := Option.some.inj stepped
        exact entered .dtlsProxy
    · rename_i isStage
      have assigned := assigned_of_stage isStage (by decide)
      split at stepped
      · obtain rfl := Option.some.inj stepped
        exact inv.fail isBootstrap assigned _
      · obtain rfl := Option.some.inj stepped
        exact inv.enter isBootstrap assigned ⟨rfl, rfl, rfl⟩ _
    · cases stepped

/-- The list of publications is no part of the invariant. -/
theorem LeftoverInv.publishConnected (inv : LeftoverInv vpn) (connected : Connected)
    (message : String) : LeftoverInv (vpn.publishConnected connected message) :=
  ⟨inv.fresh, inv.atMostOne, inv.proxyHeld, inv.serverHeld, inv.notAbandoned, inv.tunnelHeld,
    inv.tunnelCleared, inv.stopping⟩

theorem finalCheck_leftoverInv (inv : LeftoverInv vpn)
    (stepped : vpn.finalCheck position = some next) : LeftoverInv next := by
  obtain ⟨bootstrap, isBootstrap, isStage, changed⟩ := onStage_eq_some stepped
  have entered := inv.enter isBootstrap (assigned_of_stage isStage (by decide)) ⟨rfl, rfl, rfl⟩
  split at changed
  · obtain rfl := Option.some.inj changed
    exact entered .abortProxy
  · split at changed
    · obtain rfl := Option.some.inj changed
      exact entered .setTunnel
    · split at changed
      · obtain rfl := Option.some.inj changed
        exact (entered .ended).publishConnected _ _
      · obtain rfl := Option.some.inj changed
        exact entered .ended

theorem abort_leftoverInv (inv : LeftoverInv vpn) (inTime : StartsInTime vpn (.abort position))
    (stepped : vpn.abort position = some next) : LeftoverInv next := by
  simp only [VkturnVpn.abort] at stepped
  split at stepped
  · cases stepped
  · rename_i bootstrap isBootstrap
    obtain ⟨proxyReleased, serverOpened, serverReleased⟩ := inTime bootstrap isBootstrap
    split at stepped
    · rename_i isStage
      obtain rfl := Option.some.inj stepped
      have entered := inv.enter isBootstrap (assigned_of_stage isStage (by decide))
        ⟨rfl, rfl, rfl⟩ .abortClearProxy
      exact entered.destroyProxy _
    · rename_i isStage
      obtain rfl := Option.some.inj stepped
      have emptied := inv.setProxy none (proxyReleased isStage).notHeld
      exact emptied.enter isBootstrap
        (assigned_of_stage isStage (by decide)) ⟨rfl, rfl, rfl⟩ .abortServer
    · rename_i isStage
      obtain rfl := Option.some.inj stepped
      have entered := inv.enter isBootstrap (assigned_of_stage isStage (by decide))
        ⟨rfl, rfl, rfl⟩ .abortClearServer
      refine entered.stopServer fun other owner isSlot isOwner => ?_
      simp only [VkturnVpn.enter, VkturnVpn.setBootstrap, Function.update_apply] at isOwner
      split at isOwner
      · rename_i same
        obtain rfl := Option.some.inj isOwner
        exact serverOpened isStage other bootstrap isSlot (same ▸ isBootstrap)
      · exact serverOpened isStage other owner isSlot isOwner
    · rename_i isStage
      obtain rfl := Option.some.inj stepped
      have emptied := inv.setServer none (serverReleased isStage).notHeld
      exact emptied.enter isBootstrap
        (assigned_of_stage isStage (by decide)) ⟨rfl, rfl, rfl⟩ .ended
    · cases stepped

theorem setTunnel_leftoverInv {parsed : Bool} (inv : LeftoverInv vpn)
    (inTime : StartsInTime vpn (.setTunnel position parsed))
    (stepped : vpn.setTunnel position parsed = some next) : LeftoverInv next := by
  obtain ⟨bootstrap, isBootstrap, isStage, changed⟩ := onStage_eq_some stepped
  have assigned := assigned_of_stage isStage (by decide)
  cases parsed with
  | false =>
    obtain rfl := Option.some.inj changed
    exact inv.fail isBootstrap assigned _
  | true =>
    obtain rfl := Option.some.inj changed
    obtain ⟨notCleared, noTunnel⟩ := inTime
    have entered : LeftoverInv (vpn.enter position { bootstrap with worker := .pending } .join) :=
      inv.enter isBootstrap assigned (by simp) .join
    refine ⟨entered.fresh, entered.atMostOne, entered.proxyHeld, entered.serverHeld,
      entered.notAbandoned, ?_, ?_, entered.stopping⟩
    · intro other isUp
      cases noTunnel.symm.trans isUp
    · exact fun cleared => absurd cleared notCleared

theorem setState_leftoverInv {ok : Bool} (inv : LeftoverInv vpn)
    (inTime : StartsInTime vpn (.setState position ok))
    (stepped : vpn.setState position ok = some next) : LeftoverInv next := by
  simp only [VkturnVpn.setState] at stepped
  split at stepped
  · cases stepped
  · rename_i bootstrap isBootstrap
    split at stepped
    · cases stepped
    · cases ok with
      | false =>
        obtain rfl := Option.some.inj stepped
        exact inv.setBootstrap isBootstrap
          ⟨rfl, id, fun running => ⟨running, id⟩, fun live => ⟨live, id⟩, id⟩
      | true =>
        obtain rfl := Option.some.inj stepped
        have worked : LeftoverInv (vpn.setBootstrap position { bootstrap with worker := .up }) :=
          inv.setBootstrap isBootstrap
            ⟨rfl, id, fun running => ⟨running, id⟩, fun live => ⟨live, id⟩, id⟩
        refine ⟨worked.fresh, worked.atMostOne, worked.proxyHeld, worked.serverHeld,
          worked.notAbandoned, ?_, worked.tunnelCleared, worked.stopping⟩
        intro other isUp
        obtain rfl := Option.some.inj isUp
        exact inTime

theorem join_leftoverInv {timedOut : Bool} (inv : LeftoverInv vpn)
    (stepped : vpn.join position timedOut = some next) : LeftoverInv next := by
  obtain ⟨bootstrap, isBootstrap, isStage, changed⟩ := onStage_eq_some stepped
  have assigned := assigned_of_stage isStage (by decide)
  split at changed
  · cases changed
  · split at changed
    · obtain rfl := Option.some.inj changed
      exact inv.fail isBootstrap assigned _
    · cases changed
  · obtain rfl := Option.some.inj changed
    exact (inv.enter isBootstrap assigned ⟨rfl, rfl, rfl⟩ .readBaseline).publish _ _
  · obtain rfl := Option.some.inj changed
    exact inv.fail isBootstrap assigned _

theorem readBaseline_leftoverInv (inv : LeftoverInv vpn)
    (stepped : vpn.readBaseline position = some next) : LeftoverInv next := by
  obtain ⟨bootstrap, isBootstrap, isStage, changed⟩ := onStage_eq_some stepped
  obtain rfl := Option.some.inj changed
  have entered : LeftoverInv (vpn.enter position
      { bootstrap with verifyBaseline := vpn.bus.baselineIp } .verify) :=
    inv.enter isBootstrap (assigned_of_stage isStage (by decide)) (by simp) .verify
  exact entered

theorem verify_leftoverInv (inv : LeftoverInv vpn) (stepped : vpn.verify position = some next) :
    LeftoverInv next := by
  obtain ⟨bootstrap, isBootstrap, isStage, changed⟩ := onStage_eq_some stepped
  have entered := inv.enter isBootstrap (assigned_of_stage isStage (by decide)) ⟨rfl, rfl, rfl⟩
  split at changed
  · obtain rfl := Option.some.inj changed
    exact entered .ended
  · obtain rfl := Option.some.inj changed
    exact entered .probe

theorem probe_leftoverInv {throughVpn : Bool} {ip : Option String} (inv : LeftoverInv vpn)
    (stepped : vpn.probe position throughVpn ip = some next) : LeftoverInv next := by
  obtain ⟨bootstrap, isBootstrap, isStage, changed⟩ := onStage_eq_some stepped
  have assigned := assigned_of_stage isStage (by decide)
  have seen : LeftoverInv { vpn with bus := { vpn.bus with tunnelIp := ip } } :=
    ⟨inv.fresh, inv.atMostOne, inv.proxyHeld, inv.serverHeld, inv.notAbandoned, inv.tunnelHeld,
      inv.tunnelCleared, inv.stopping⟩
  have entered (stage : BootstrapStage) : LeftoverInv
      ({ vpn with bus := { vpn.bus with tunnelIp := ip } }.enter position
        { bootstrap with lastIp := ip } stage) :=
    seen.enter isBootstrap assigned (by simp) stage
  split at changed
  · obtain rfl := Option.some.inj changed
    exact inv.enter isBootstrap assigned ⟨rfl, rfl, rfl⟩ .verify
  · dsimp only at changed
    split at changed
    · obtain rfl := Option.some.inj changed
      exact (entered .ended).publishConnected _ _
    · obtain rfl := Option.some.inj changed
      exact entered .verify

theorem verifyTimeout_leftoverInv (inv : LeftoverInv vpn)
    (stepped : vpn.verifyTimeout position = some next) : LeftoverInv next := by
  obtain ⟨bootstrap, isBootstrap, isStage, changed⟩ := onStage_eq_some stepped
  obtain rfl := Option.some.inj changed
  exact inv.fail isBootstrap (assigned_of_stage isStage (by decide)) _

theorem crash_leftoverInv {message : String} (inv : LeftoverInv vpn)
    (stepped : vpn.crash position message = some next) : LeftoverInv next := by
  simp only [VkturnVpn.crash] at stepped
  split at stepped
  · cases stepped
  · rename_i bootstrap isBootstrap
    split at stepped
    · rename_i throws
      obtain rfl := Option.some.inj stepped
      refine inv.fail isBootstrap ⟨?_, ?_⟩ _
      · intro assigning
        simp [VkturnVpn.mayThrow, assigning] at throws
      · intro assigning
        simp [VkturnVpn.mayThrow, assigning] at throws
    · cases stepped

/-! ### What a bootstrap has started -/

theorem serverOpens_leftoverInv {ok : Bool} (inv : LeftoverInv vpn)
    (stepped : vpn.serverOpens position ok = some next) : LeftoverInv next := by
  simp only [VkturnVpn.serverOpens] at stepped
  split at stepped
  · cases stepped
  · rename_i bootstrap isBootstrap
    split at stepped
    · rename_i isOpening
      obtain rfl := Option.some.inj stepped
      have wasLive : bootstrap.server.isLive = true := by simp [isOpening, ProtectServer.isLive]
      refine inv.setBootstrap isBootstrap
        ⟨rfl, id, fun running => ⟨running, id⟩, fun _ => ⟨wasLive, id⟩, fun _ => ?_⟩
      cases ok <;> simp
    · cases stepped

theorem processExits_leftoverInv (inv : LeftoverInv vpn)
    (stepped : vpn.processExits position = some next) : LeftoverInv next := by
  simp only [VkturnVpn.processExits] at stepped
  split at stepped
  · cases stepped
  · rename_i bootstrap isBootstrap
    split at stepped
    · obtain rfl := Option.some.inj stepped
      refine inv.setBootstrap isBootstrap ⟨rfl, ?_, ?_, fun live => ⟨live, id⟩, id⟩
      · simp [ProxyProcess.isAlive]
      · simp
    · cases stepped

theorem line_leftoverInv {phaseOf : String → Option String} {raw : String} (inv : LeftoverInv vpn)
    (stepped : vpn.line phaseOf position raw = some next) : LeftoverInv next := by
  simp only [VkturnVpn.line] at stepped
  split at stepped
  · cases stepped
  · rename_i bootstrap isBootstrap
    split at stepped
    · cases stepped
    · obtain rfl := Option.some.inj stepped
      refine (inv.setService ?_ ?_).setBootstrap
        isBootstrap
        ⟨rfl, id, fun running => ⟨running, id⟩, fun live => ⟨live, id⟩, id⟩
      · rfl
      · rfl

theorem vkturnVpnStep_leftoverInv {phaseOf : String → Option String} {label : VpnLabel}
    (inv : LeftoverInv vpn) (inTime : StartsInTime vpn label)
    (stepped : (vkturnVpn phaseOf).step vpn label = some next) : LeftoverInv next := by
  cases label with
  | start intent => exact start_leftoverInv inv stepped
  | stop destroys => exact stop_leftoverInv inv stepped
  | advance downOk => exact advance_leftoverInv inv inTime stepped
  | probeBaseline position ip => exact probeBaseline_leftoverInv inv stepped
  | checkAbort position => exact checkAbort_leftoverInv inv stepped
  | inner position found => exact inner_leftoverInv inv stepped
  | startServer position => exact startServer_leftoverInv inv stepped
  | assignServer position => exact assignServer_leftoverInv inv inTime stepped
  | spawn position error => exact spawn_leftoverInv inv inTime stepped
  | assignProxy position => exact assignProxy_leftoverInv inv inTime stepped
  | waitListen position timedOut => exact waitListen_leftoverInv inv stepped
  | waitDtls position timedOut => exact waitDtls_leftoverInv inv stepped
  | poll position opened => exact poll_leftoverInv inv stepped
  | finalCheck position => exact finalCheck_leftoverInv inv stepped
  | abort position => exact abort_leftoverInv inv inTime stepped
  | setTunnel position parsed => exact setTunnel_leftoverInv inv inTime stepped
  | setState position ok => exact setState_leftoverInv inv inTime stepped
  | join position timedOut => exact join_leftoverInv inv stepped
  | readBaseline position => exact readBaseline_leftoverInv inv stepped
  | verify position => exact verify_leftoverInv inv stepped
  | probe position throughVpn ip => exact probe_leftoverInv inv stepped
  | verifyTimeout position => exact verifyTimeout_leftoverInv inv stepped
  | crash position message => exact crash_leftoverInv inv stepped
  | serverOpens position ok => exact serverOpens_leftoverInv inv stepped
  | line position raw => exact line_leftoverInv inv stepped
  | processExits position => exact processExits_leftoverInv inv stepped
  | tunnelDrops =>
    obtain rfl := Option.some.inj stepped
    exact ⟨inv.fresh, inv.atMostOne, inv.proxyHeld, inv.serverHeld, inv.notAbandoned, nofun,
      inv.tunnelCleared, inv.stopping⟩
  | resetBus =>
    obtain rfl := Option.some.inj stepped
    exact ⟨inv.fresh, inv.atMostOne, inv.proxyHeld, inv.serverHeld, inv.notAbandoned,
      inv.tunnelHeld, inv.tunnelCleared, inv.stopping⟩

/-! ## The result -/

def proxyIntent : StartIntent := { proxyBin := some "libvkturn.so" }

/-- The stop, and the `onDestroy` that follows it, run while the client is being started: they find
    no process in `proxy`, and the bootstrap puts it there afterwards. -/
def stopBeforeAssignment : List VpnLabel :=
  [.start proxyIntent, .advance true, .advance true, .probeBaseline 0 none, .checkAbort 0,
    .inner 0 true, .startServer 0, .assignServer 0, .serverOpens 0 true, .spawn 0 none,
    .stop false, .advance true, .advance true, .advance true, .advance true, .advance true,
    .stop true, .advance true, .advance true, .advance true, .advance true, .advance true,
    .assignProxy 0, .waitListen 0 false, .waitDtls 0 false]

end VkTurn.Frontend
