import Mathlib.Tactic.Common
import VkTurn.Frontend.VpnLeftovers

/-! # When CONNECTED is true

CONNECTED rests on a flag that the threads of all clients set, on the baseline that the bus holds
at the time, and on a probe through the VPN network if one is found.  Nothing ties them to the
session that publishes.
-/

namespace VkTurn.Frontend

open VkTurn.Transition

/-- The client was announced as ready, the tunnel came up, and a probe through it gave an address
    other than the baseline of the session. -/
structure Connected.Truthful (connected : Connected) : Prop where
  announced : connected.bootstrap.announced = true
  tunnel : connected.bootstrap.worker = .up
  throughVpn : connected.throughVpn = true
  moved : ∃ baseline ip, connected.bootstrap.baselineIp = some baseline ∧ connected.ip = some ip ∧
    ip ≠ baseline

/-! ## The condition -/

/-- WireGuard comes with a client, and every baseline probe gives an address.  Only the client of
    the last start sets the flag, and after it was announced as ready; only its bootstrap reads the
    flag as set.  A VPN network is found for the probe that publishes, and the session on the bus is
    still its own. -/
def OwnSession (phaseOf : String → Option String) (vpn : VkturnVpn) : VpnLabel → Prop
  | .start intent => intent.wgConf ≠ none → intent.needsProxy = true
  | .probeBaseline position ip => ∀ bootstrap, vpn.bootstraps position = some bootstrap →
    bootstrap.intent.wgConf ≠ none → ip ≠ none
  | .line position raw => ∀ bootstrap, vpn.bootstraps position = some bootstrap →
    (vpn.services bootstrap.service).dtlsReady = false → ingestProxyDtlsSignal phaseOf raw = true →
    (bootstrap.announced || announcesDtlsReady phaseOf raw) = true ∧
      (vpn.services bootstrap.service).latest = some position
  | .poll position _ => ∀ bootstrap, vpn.bootstraps position = some bootstrap →
    bootstrap.stage = .dtlsFlag → (vpn.services bootstrap.service).dtlsReady = true →
    bootstrap.announced = true ∨ (vpn.services bootstrap.service).latest = some position
  | .probe position throughVpn ip => ∀ bootstrap, vpn.bootstraps position = some bootstrap →
    ip ≠ none → bootstrap.verifyBaseline = none ∨ ip ≠ bootstrap.verifyBaseline →
    throughVpn = true ∧ vpn.begun = some position
  | _ => True

/-! ## The invariant -/

namespace BootstrapStage

/-- The client was taken for ready. -/
def pastDtls : BootstrapStage → Bool
  | .finalCheck | .setTunnel | .join | .readBaseline | .verify | .probe => true
  | _ => false

def pastTunnel : BootstrapStage → Bool
  | .readBaseline | .verify | .probe => true
  | _ => false

def verifies : BootstrapStage → Bool
  | .verify | .probe => true
  | _ => false

end BootstrapStage

/-- The start that a command is about to make. -/
def CommandStage.intent? : CommandStage → Option StartIntent
  | .resetDtls intent | .launch intent => some intent
  | _ => none

structure BootstrapOk (bootstrap : Bootstrap) : Prop where
  proxied : bootstrap.intent.wgConf ≠ none → bootstrap.intent.needsProxy = true
  announced : bootstrap.stage.pastDtls = true → bootstrap.intent.wgConf ≠ none →
    bootstrap.announced = true
  tunnel : bootstrap.stage.pastTunnel = true → bootstrap.worker = .up
  baseline : bootstrap.stage ≠ .probeBaseline → bootstrap.intent.wgConf ≠ none →
    bootstrap.baselineIp ≠ none

structure SessionInv (vpn : VkturnVpn) : Prop where
  fresh : ∀ position, vpn.next ≤ position → vpn.bootstraps position = none
  ok : ∀ position bootstrap, vpn.bootstraps position = some bootstrap → BootstrapOk bootstrap
  commanded : ∀ intent, vpn.command.intent? = some intent → intent.wgConf ≠ none →
    intent.needsProxy = true
  ready : ∀ service, (vpn.services service).dtlsReady = true → ∃ position bootstrap,
    (vpn.services service).latest = some position ∧ vpn.bootstraps position = some bootstrap ∧
      bootstrap.announced = true
  session : ∀ position, vpn.begun = some position → ∃ bootstrap,
    vpn.bootstraps position = some bootstrap ∧ bootstrap.stage ≠ .probeBaseline ∧
      vpn.bus.baselineIp = bootstrap.baselineIp ∧
      (bootstrap.stage.verifies = true → bootstrap.verifyBaseline = bootstrap.baselineIp)
  truthful : ∀ connected ∈ vpn.connected, connected.bootstrap.intent.wgConf ≠ none →
    connected.Truthful

theorem initial_sessionInv : SessionInv {} := by
  constructor
  case fresh => exact fun _ _ => rfl
  case ok => exact fun _ _ isBootstrap => nomatch isBootstrap
  case commanded => exact fun _ isIntent => nomatch isIntent
  case ready => exact fun _ isReady => nomatch isReady
  case session => exact fun _ isBegun => nomatch isBegun
  case truthful => simp

/-! ## What a step does to the sessions -/

/-- A bootstrap goes on; `baselineIp` is the one on the bus. -/
structure Goes (baselineIp : Option String) (before after : Bootstrap) : Prop where
  announced : before.announced = true → after.announced = true
  baseline : before.stage ≠ .probeBaseline →
    after.stage ≠ .probeBaseline ∧ after.baselineIp = before.baselineIp
  verifies : after.stage.verifies = true →
    before.stage.verifies = true ∧ after.verifyBaseline = before.verifyBaseline ∨
      after.verifyBaseline = baselineIp
  ok : BootstrapOk before → BootstrapOk after

structure SessionStep (vpn next : VkturnVpn) : Prop where
  bootstraps : ∀ position,
    vpn.bootstraps position = none ∧ next.bootstraps position = none ∨
      ∃ before after, vpn.bootstraps position = some before ∧
        next.bootstraps position = some after ∧ Goes vpn.bus.baselineIp before after
  launched : next.next = vpn.next
  command : ∀ intent, next.command.intent? = some intent →
    vpn.command.intent? = some intent ∨ (intent.wgConf ≠ none → intent.needsProxy = true)
  ready : ∀ service, (next.services service).dtlsReady = true →
    (vpn.services service).dtlsReady = true ∧
        (next.services service).latest = (vpn.services service).latest ∨
      ∃ position bootstrap, (next.services service).latest = some position ∧
        next.bootstraps position = some bootstrap ∧ bootstrap.announced = true
  begun : ∀ position, next.begun = some position →
    vpn.begun = some position ∧ next.bus.baselineIp = vpn.bus.baselineIp ∨
      ∃ bootstrap, next.bootstraps position = some bootstrap ∧ bootstrap.stage ≠ .probeBaseline ∧
        next.bus.baselineIp = bootstrap.baselineIp ∧ bootstrap.stage.verifies = false
  connected : ∀ connected ∈ next.connected, connected ∈ vpn.connected ∨
    (connected.bootstrap.intent.wgConf ≠ none → connected.Truthful)

variable {vpn next : VkturnVpn} {position : Nat}

theorem SessionStep.goes (step : SessionStep vpn next) {before : Bootstrap}
    (isBootstrap : vpn.bootstraps position = some before) :
    ∃ after, next.bootstraps position = some after ∧ Goes vpn.bus.baselineIp before after := by
  obtain ⟨isNone, _⟩ | ⟨found, after, isFound, isAfter, goes⟩ := step.bootstraps position
  · cases isNone.symm.trans isBootstrap
  · obtain rfl := Option.some.inj (isFound.symm.trans isBootstrap)
    exact ⟨after, isAfter, goes⟩

theorem SessionInv.step (inv : SessionInv vpn) (step : SessionStep vpn next) :
    SessionInv next := by
  constructor
  case fresh =>
    intro position isFresh
    rw [step.launched] at isFresh
    obtain ⟨_, isNone⟩ | ⟨before, _, isBootstrap, _⟩ := step.bootstraps position
    · exact isNone
    · cases (inv.fresh position isFresh).symm.trans isBootstrap
  case ok =>
    intro position bootstrap isBootstrap
    obtain ⟨_, isNone⟩ | ⟨before, after, wasBootstrap, isAfter, goes⟩ := step.bootstraps position
    · cases isNone.symm.trans isBootstrap
    · obtain rfl := Option.some.inj (isAfter.symm.trans isBootstrap)
      exact goes.ok (inv.ok position before wasBootstrap)
  case commanded =>
    intro intent isIntent
    obtain wasIntent | proxied := step.command intent isIntent
    · exact inv.commanded intent wasIntent
    · exact proxied
  case ready =>
    intro service isReady
    obtain ⟨wasReady, sameLatest⟩ | announced := step.ready service isReady
    · obtain ⟨position, bootstrap, isLatest, isBootstrap, announced⟩ := inv.ready service wasReady
      obtain ⟨after, isAfter, goes⟩ := step.goes isBootstrap
      exact ⟨position, after, sameLatest.trans isLatest, isAfter, goes.announced announced⟩
    · exact announced
  case session =>
    intro position isBegun
    obtain ⟨wasBegun, sameBus⟩ | ⟨bootstrap, isBootstrap, isPast, isBus, notVerifying⟩ :=
      step.begun position isBegun
    · obtain ⟨before, wasBootstrap, wasPast, wasBus, verified⟩ := inv.session position wasBegun
      obtain ⟨after, isAfter, goes⟩ := step.goes wasBootstrap
      obtain ⟨isPast, sameBaseline⟩ := goes.baseline wasPast
      refine ⟨after, isAfter, isPast, by rw [sameBus, wasBus, sameBaseline], fun verifies => ?_⟩
      obtain ⟨wasVerifying, same⟩ | isRead := goes.verifies verifies
      · rw [same, sameBaseline, verified wasVerifying]
      · rw [isRead, wasBus, sameBaseline]
    · refine ⟨bootstrap, isBootstrap, isPast, isBus, fun verifies => ?_⟩
      simp [notVerifying] at verifies
  case truthful =>
    intro connected member
    obtain wasMember | truthful := step.connected connected member
    · exact inv.truthful connected wasMember
    · exact truthful

/-! ### Parts of steps -/

/-- A stage that takes nothing for granted that the stage before does not. -/
def BootstrapStage.MayGo (before after : BootstrapStage) : Prop :=
  (before = .probeBaseline ↔ after = .probeBaseline) ∧
    (after.pastDtls = true → before.pastDtls = true) ∧
    (after.pastTunnel = true → before.pastTunnel = true) ∧
    (after.verifies = true → before.verifies = true)

instance (before after : BootstrapStage) : Decidable (before.MayGo after) :=
  inferInstanceAs (Decidable (_ ∧ _ ∧ _ ∧ _))

/-- What CONNECTED rests on stays as it is. -/
structure Unchanged (before after : Bootstrap) : Prop where
  intent : after.intent = before.intent
  announced : after.announced = before.announced
  worker : after.worker = before.worker
  baselineIp : after.baselineIp = before.baselineIp
  verifyBaseline : after.verifyBaseline = before.verifyBaseline

section Parts

variable {before after : Bootstrap} {baselineIp : Option String}

theorem Goes.of_unchanged (same : Unchanged before after)
    (mayGo : before.stage.MayGo after.stage) : Goes baselineIp before after := by
  obtain ⟨probes, pastDtls, pastTunnel, verifies⟩ := mayGo
  constructor
  case announced => exact fun announced => same.announced.trans announced
  case baseline => exact fun isPast => ⟨mt probes.mpr isPast, same.baselineIp⟩
  case verifies => exact fun isVerifying => .inl ⟨verifies isVerifying, same.verifyBaseline⟩
  case ok =>
    intro ok
    constructor
    case proxied => simpa [same.intent] using ok.proxied
    case announced =>
      intro isPast
      simpa [same.intent, same.announced] using ok.announced (pastDtls isPast)
    case tunnel => exact fun isPast => same.worker.trans (ok.tunnel (pastTunnel isPast))
    case baseline =>
      intro isPast
      simpa [same.intent, same.baselineIp] using ok.baseline (mt probes.mp isPast)

theorem Goes.refl (bootstrap : Bootstrap) : Goes baselineIp bootstrap bootstrap :=
  .of_unchanged ⟨rfl, rfl, rfl, rfl, rfl⟩ ⟨Iff.rfl, id, id, id⟩

theorem SessionStep.setBootstraps {changed : Nat → Option Bootstrap}
    (goes : ∀ position, vpn.bootstraps position = none ∧ changed position = none ∨
      ∃ before after, vpn.bootstraps position = some before ∧ changed position = some after ∧
        Goes vpn.bus.baselineIp before after) :
    SessionStep vpn { vpn with bootstraps := changed } where
  bootstraps := goes
  launched := rfl
  command _ isIntent := .inl isIntent
  ready _ isReady := .inl ⟨isReady, rfl⟩
  begun _ isBegun := .inl ⟨isBegun, rfl⟩
  connected _ member := .inl member

theorem SessionStep.refl (vpn : VkturnVpn) : SessionStep vpn vpn := by
  refine SessionStep.setBootstraps fun position => ?_
  cases isBootstrap : vpn.bootstraps position with
  | none => exact .inl ⟨rfl, rfl⟩
  | some bootstrap => exact .inr ⟨bootstrap, bootstrap, rfl, rfl, .refl bootstrap⟩

theorem SessionStep.setBootstrap (isBootstrap : vpn.bootstraps position = some before)
    (goes : Goes vpn.bus.baselineIp before after) :
    SessionStep vpn (vpn.setBootstrap position after) := by
  refine SessionStep.setBootstraps fun other => ?_
  by_cases isPosition : other = position
  · rw [isPosition, Function.update_self]
    exact .inr ⟨before, after, isBootstrap, rfl, goes⟩
  · rw [Function.update_of_ne isPosition]
    exact (SessionStep.refl vpn).bootstraps other

theorem SessionStep.enterWith {stage : BootstrapStage}
    (isBootstrap : vpn.bootstraps position = some before) (same : Unchanged before after)
    (mayGo : before.stage.MayGo stage) : SessionStep vpn (vpn.enter position after stage) :=
  .setBootstrap isBootstrap (.of_unchanged
    ⟨same.intent, same.announced, same.worker, same.baselineIp, same.verifyBaseline⟩ mayGo)

theorem SessionStep.enter {stage : BootstrapStage}
    (isBootstrap : vpn.bootstraps position = some before) (mayGo : before.stage.MayGo stage) :
    SessionStep vpn (vpn.enter position before stage) :=
  .enterWith isBootstrap ⟨rfl, rfl, rfl, rfl, rfl⟩ mayGo

/-- A change of the processes and the servers of all bootstraps. -/
theorem SessionStep.owners {change : Nat → Bootstrap → Bootstrap}
    (same : ∀ position owner, Unchanged owner (change position owner))
    (stage : ∀ position owner, (change position owner).stage = owner.stage) :
    SessionStep vpn { vpn with bootstraps := fun position =>
      (vpn.bootstraps position).map (change position) } := by
  refine SessionStep.setBootstraps fun position => ?_
  cases isBootstrap : vpn.bootstraps position with
  | none => exact .inl ⟨rfl, rfl⟩
  | some owner =>
    refine .inr ⟨owner, change position owner, rfl, rfl, .of_unchanged (same position owner) ?_⟩
    rw [stage position owner]
    exact ⟨Iff.rfl, id, id, id⟩

theorem SessionStep.destroyProxy (slot : Option Nat) : SessionStep vpn (vpn.destroyProxy slot) := by
  refine SessionStep.owners (fun position owner => ?_) fun position owner => ?_
  · split <;> exact ⟨rfl, rfl, rfl, rfl, rfl⟩
  · split <;> rfl

theorem SessionStep.stopServer (slot : Option Nat) : SessionStep vpn (vpn.stopServer slot) := by
  refine SessionStep.owners (fun position owner => ?_) fun position owner => ?_
  · split <;> exact ⟨rfl, rfl, rfl, rfl, rfl⟩
  · split <;> rfl

theorem SessionStep.publish (step : SessionStep vpn next) (phase : TunnelPhase)
    (message : String) : SessionStep vpn (next.publish phase message) :=
  ⟨step.bootstraps, step.launched, step.command, step.ready, step.begun, step.connected⟩

theorem SessionStep.fail {message : String} (isBootstrap : vpn.bootstraps position = some before)
    (isPast : before.stage ≠ .probeBaseline) :
    SessionStep vpn (vpn.fail position before message) := by
  refine (SessionStep.enter isBootstrap ?_).publish .error message
  exact ⟨iff_of_false isPast nofun, nofun, nofun, nofun⟩

/-- A change of the fields of a service that has nothing to do with the flag. -/
theorem SessionStep.setService (step : SessionStep vpn next) {service : Nat}
    {changed : ServiceFields} (flag : changed.dtlsReady = (next.services service).dtlsReady)
    (latest : changed.latest = (next.services service).latest) :
    SessionStep vpn (next.setService service changed) where
  bootstraps := step.bootstraps
  launched := step.launched
  command := step.command
  ready other isReady := by
    by_cases isService : other = service
    · simp only [VkturnVpn.setService, isService, Function.update_self, flag, latest] at isReady ⊢
      exact step.ready service isReady
    · simp only [VkturnVpn.setService, Function.update_of_ne isService] at isReady ⊢
      exact step.ready other isReady
  begun := step.begun
  connected := step.connected

/-- A command goes on, and starts nothing that it did not start before. -/
theorem SessionStep.setCommand (step : SessionStep vpn next) {command : CommandStage}
    (noIntent : command.intent? = none) : SessionStep vpn { next with command := command } where
  bootstraps := step.bootstraps
  launched := step.launched
  command intent isIntent := by simp [noIntent] at isIntent
  ready := step.ready
  begun := step.begun
  connected := step.connected

end Parts

/-! ### The commands -/

theorem start_sessionStep {phaseOf : String → Option String} {intent : StartIntent}
    (own : OwnSession phaseOf vpn (.start intent)) (stepped : vpn.start intent = some next) :
    SessionStep vpn next := by
  simp only [VkturnVpn.start] at stepped
  split at stepped
  · obtain rfl := Option.some.inj stepped
    have cleared : SessionStep vpn (vpn.setService vpn.current
        { vpn.services vpn.current with bootstrapAborted := false }) :=
      (SessionStep.refl vpn).setService rfl rfl
    refine ⟨cleared.bootstraps, cleared.launched, fun other isIntent => .inr ?_, cleared.ready,
      cleared.begun, cleared.connected⟩
    obtain rfl := Option.some.inj isIntent
    exact own
  · cases stepped

theorem stop_sessionStep {destroys : Bool} (stepped : vpn.stop destroys = some next) :
    SessionStep vpn next := by
  simp only [VkturnVpn.stop] at stepped
  split at stepped
  · obtain rfl := Option.some.inj stepped
    have aborted : SessionStep vpn (vpn.setService vpn.current
        { vpn.services vpn.current with bootstrapAborted := true }) :=
      (SessionStep.refl vpn).setService rfl rfl
    exact ⟨aborted.bootstraps, aborted.launched, (fun _ isIntent => by cases isIntent), aborted.ready,
      aborted.begun, aborted.connected⟩
  · cases stepped

theorem resetDtls_sessionStep {intent : StartIntent} (isStage : vpn.command = .resetDtls intent) :
    SessionStep vpn { vpn.setService vpn.current
        { vpn.services vpn.current with dtlsReady := false, latest := some vpn.next } with
      command := .launch intent } := by
  have kept := SessionStep.refl vpn
  refine ⟨kept.bootstraps, kept.launched, fun other isIntent => .inl ?_, ?_, kept.begun,
    kept.connected⟩
  · rw [isStage]
    exact isIntent
  · intro service isReady
    by_cases isCurrent : service = vpn.current
    · simp [VkturnVpn.setService, isCurrent] at isReady
    · simpa [VkturnVpn.setService, isCurrent] using kept.ready service
        (by simpa [VkturnVpn.setService, isCurrent] using isReady)

/-- A new bootstrap has reached nothing yet. -/
theorem SessionInv.launch (inv : SessionInv vpn) {intent : StartIntent}
    (isLaunch : vpn.command = .launch intent) :
    SessionInv { vpn.setBootstrap vpn.next { service := vpn.current, intent := intent } with
      next := vpn.next + 1, command := .idle } := by
  have kept {position : Nat} {bootstrap : Bootstrap}
      (isBootstrap : vpn.bootstraps position = some bootstrap) :
      (vpn.setBootstrap vpn.next { service := vpn.current, intent := intent }).bootstraps position =
        some bootstrap := by
    have notNew : position ≠ vpn.next := by
      rintro rfl
      cases (inv.fresh _ (Nat.le_refl _)).symm.trans isBootstrap
    simpa [VkturnVpn.setBootstrap, notNew] using isBootstrap
  constructor
  case fresh =>
    intro position isFresh
    have isFresh : vpn.next + 1 ≤ position := isFresh
    have away : position ≠ vpn.next := by omega
    simpa [VkturnVpn.setBootstrap, away] using inv.fresh position (by omega)
  case ok =>
    intro position bootstrap isBootstrap
    simp only [VkturnVpn.setBootstrap, Function.update_apply] at isBootstrap
    split at isBootstrap
    · obtain rfl := Option.some.inj isBootstrap
      exact ⟨inv.commanded intent (by rw [isLaunch]; rfl), (fun isAnnounced => by cases isAnnounced),
        (fun isConnected => by cases isConnected), fun isPast => absurd rfl isPast⟩
    · exact inv.ok position bootstrap isBootstrap
  case commanded => exact fun _ isIntent => by cases isIntent
  case ready =>
    intro service isReady
    obtain ⟨position, bootstrap, isLatest, isBootstrap, announced⟩ := inv.ready service isReady
    exact ⟨position, bootstrap, isLatest, kept isBootstrap, announced⟩
  case session =>
    intro position isBegun
    obtain ⟨bootstrap, isBootstrap, session⟩ := inv.session position isBegun
    exact ⟨bootstrap, kept isBootstrap, session⟩
  case truthful => exact inv.truthful

theorem advance_sessionInv {downOk : Bool} (inv : SessionInv vpn)
    (stepped : vpn.advance downOk = some next) : SessionInv next := by
  have kept := SessionStep.refl vpn
  simp only [VkturnVpn.advance] at stepped
  split at stepped
  · cases stepped
  · rename_i intent isStage
    obtain rfl := Option.some.inj stepped
    exact inv.step (resetDtls_sessionStep isStage)
  · rename_i intent isStage
    obtain rfl := Option.some.inj stepped
    exact inv.launch isStage
  · obtain rfl := Option.some.inj stepped
    exact inv.step ⟨kept.bootstraps, kept.launched, (fun _ isIntent => by cases isIntent), kept.ready,
      kept.begun, kept.connected⟩
  · split at stepped
    · obtain rfl := Option.some.inj stepped
      exact inv.step (kept.setCommand rfl)
    · obtain rfl := Option.some.inj stepped
      exact inv.step (kept.setCommand rfl)
  · rename_i held isStage
    obtain rfl := Option.some.inj stepped
    have emptied : SessionInv (vpn.setService vpn.current
        { vpn.services vpn.current with proxy := none }) := inv.step (kept.setService rfl rfl)
    exact emptied.step ((SessionStep.destroyProxy (some held)).setCommand rfl)
  · obtain rfl := Option.some.inj stepped
    exact inv.step ((SessionStep.stopServer _).setCommand rfl)
  · obtain rfl := Option.some.inj stepped
    have emptied : SessionStep vpn (vpn.setService vpn.current
        { vpn.services vpn.current with protectServer := none }) := kept.setService rfl rfl
    exact inv.step (emptied.setCommand rfl)
  · obtain rfl := Option.some.inj stepped
    exact inv.step ⟨kept.bootstraps, kept.launched, (fun _ isIntent => by cases isIntent), kept.ready,
      (fun _ isBegun => by cases isBegun), kept.connected⟩

/-! ### The steps of a bootstrap -/

theorem mayGo_of_stage {bootstrap : Bootstrap} {before after : BootstrapStage}
    (isStage : bootstrap.stage = before) (mayGo : before.MayGo after) :
    bootstrap.stage.MayGo after := isStage ▸ mayGo

theorem notProbing_of_stage {bootstrap : Bootstrap} {stage : BootstrapStage}
    (isStage : bootstrap.stage = stage) (isPast : stage ≠ .probeBaseline) :
    bootstrap.stage ≠ .probeBaseline := isStage ▸ isPast

theorem probeBaseline_sessionStep {phaseOf : String → Option String} {ip : Option String}
    (own : OwnSession phaseOf vpn (.probeBaseline position ip))
    (stepped : vpn.probeBaseline position ip = some next) : SessionStep vpn next := by
  obtain ⟨bootstrap, isBootstrap, isStage, changed⟩ := onStage_eq_some stepped
  obtain rfl := Option.some.inj changed
  have goes : Goes vpn.bus.baselineIp bootstrap
      { bootstrap with baselineIp := ip, stage := .checkAbort } := by
    constructor
    case announced => exact id
    case baseline => exact fun isPast => absurd isStage isPast
    case verifies => exact nofun
    case ok => exact fun ok => ⟨ok.proxied, nofun, nofun, fun _ => own bootstrap isBootstrap⟩
  have entered : SessionStep vpn
      (vpn.enter position { bootstrap with baselineIp := ip } .checkAbort) :=
    .setBootstrap isBootstrap goes
  refine ⟨entered.bootstraps, entered.launched, entered.command, entered.ready, ?_,
    entered.connected⟩
  intro other isBegun
  obtain rfl := Option.some.inj isBegun
  exact .inr ⟨_, Function.update_self .., nofun, rfl, rfl⟩

/-- Without a client there is no WireGuard, so that nothing has to be announced. -/
theorem checkAbort_sessionInv (inv : SessionInv vpn)
    (stepped : vpn.checkAbort position = some next) : SessionInv next := by
  obtain ⟨bootstrap, isBootstrap, isStage, changed⟩ := onStage_eq_some stepped
  split at changed
  · obtain rfl := Option.some.inj changed
    exact inv.step (.enter isBootstrap (mayGo_of_stage isStage (by decide)))
  · split at changed
    · obtain rfl := Option.some.inj changed
      have entered : SessionStep vpn (vpn.enter position bootstrap .inner) :=
        .enter isBootstrap (mayGo_of_stage isStage (by decide))
      exact inv.step (entered.publish _ _)
    · rename_i noProxy
      obtain rfl := Option.some.inj changed
      have ok := inv.ok position bootstrap isBootstrap
      have isPast := notProbing_of_stage isStage (by decide)
      refine inv.step (.setBootstrap isBootstrap ⟨id, fun _ => ⟨nofun, rfl⟩, nofun, fun _ => ?_⟩)
      refine ⟨ok.proxied, fun _ hasWg => ?_, nofun, fun _ => ok.baseline isPast⟩
      exact absurd (ok.proxied hasWg) noProxy

theorem inner_sessionStep {found : Bool} (stepped : vpn.inner position found = some next) :
    SessionStep vpn next := by
  obtain ⟨bootstrap, isBootstrap, isStage, changed⟩ := onStage_eq_some stepped
  split at changed
  · obtain rfl := Option.some.inj changed
    exact .enter isBootstrap (mayGo_of_stage isStage (by decide))
  · split at changed
    · obtain rfl := Option.some.inj changed
      exact .enter isBootstrap (mayGo_of_stage isStage (by decide))
    · obtain rfl := Option.some.inj changed
      exact .fail isBootstrap (notProbing_of_stage isStage (by decide))

theorem startServer_sessionStep (stepped : vpn.startServer position = some next) :
    SessionStep vpn next := by
  obtain ⟨bootstrap, isBootstrap, isStage, changed⟩ := onStage_eq_some stepped
  obtain rfl := Option.some.inj changed
  exact .enterWith isBootstrap ⟨rfl, rfl, rfl, rfl, rfl⟩ (mayGo_of_stage isStage (by decide))

theorem assignServer_sessionStep (stepped : vpn.assignServer position = some next) :
    SessionStep vpn next := by
  obtain ⟨bootstrap, isBootstrap, isStage, changed⟩ := onStage_eq_some stepped
  obtain rfl := Option.some.inj changed
  have entered : SessionStep vpn (vpn.enter position bootstrap .spawn) :=
    .enter isBootstrap (mayGo_of_stage isStage (by decide))
  have assigned : SessionStep vpn ((vpn.enter position bootstrap .spawn).setService
      bootstrap.service { vpn.services bootstrap.service with protectServer := some position }) :=
    entered.setService rfl rfl
  exact assigned.publish _ _

theorem spawn_sessionStep {error : Option String}
    (stepped : vpn.spawn position error = some next) : SessionStep vpn next := by
  obtain ⟨bootstrap, isBootstrap, isStage, changed⟩ := onStage_eq_some stepped
  cases error with
  | none =>
    obtain rfl := Option.some.inj changed
    exact .enterWith isBootstrap ⟨rfl, rfl, rfl, rfl, rfl⟩ (mayGo_of_stage isStage (by decide))
  | some message =>
    obtain rfl := Option.some.inj changed
    exact .fail isBootstrap (notProbing_of_stage isStage (by decide))

theorem assignProxy_sessionStep (stepped : vpn.assignProxy position = some next) :
    SessionStep vpn next := by
  obtain ⟨bootstrap, isBootstrap, isStage, changed⟩ := onStage_eq_some stepped
  obtain rfl := Option.some.inj changed
  have entered : SessionStep vpn (vpn.enter position bootstrap .waitListen) :=
    .enter isBootstrap (mayGo_of_stage isStage (by decide))
  have assigned : SessionStep vpn ((vpn.enter position bootstrap .waitListen).setService
      bootstrap.service { vpn.services bootstrap.service with proxy := some position }) :=
    entered.setService rfl rfl
  exact assigned

theorem waitListen_sessionStep {timedOut : Bool}
    (stepped : vpn.waitListen position timedOut = some next) : SessionStep vpn next := by
  obtain ⟨bootstrap, isBootstrap, isStage, changed⟩ := onStage_eq_some stepped
  split at changed
  · obtain rfl := Option.some.inj changed
    have entered : SessionStep vpn (vpn.enter position bootstrap .waitDtls) :=
      .enter isBootstrap (mayGo_of_stage isStage (by decide))
    exact entered.publish _ _
  · split at changed
    · obtain rfl := Option.some.inj changed
      exact .fail isBootstrap (notProbing_of_stage isStage (by decide))
    · obtain rfl := Option.some.inj changed
      exact .enter isBootstrap (mayGo_of_stage isStage (by decide))

theorem waitDtls_sessionStep {timedOut : Bool}
    (stepped : vpn.waitDtls position timedOut = some next) : SessionStep vpn next := by
  obtain ⟨bootstrap, isBootstrap, isStage, changed⟩ := onStage_eq_some stepped
  split at changed
  · obtain rfl := Option.some.inj changed
    exact .fail isBootstrap (notProbing_of_stage isStage (by decide))
  · obtain rfl := Option.some.inj changed
    exact .enter isBootstrap (mayGo_of_stage isStage (by decide))

/-- A flag that is read as set was set for this bootstrap, after it was announced. -/
theorem dtlsFlag_sessionStep {phaseOf : String → Option String} {bootstrap : Bootstrap}
    {opened : Bool} (inv : SessionInv vpn) (own : OwnSession phaseOf vpn (.poll position opened))
    (isBootstrap : vpn.bootstraps position = some bootstrap) (isStage : bootstrap.stage = .dtlsFlag)
    (isReady : (vpn.services bootstrap.service).dtlsReady = true) :
    SessionStep vpn (vpn.enter position bootstrap .finalCheck) := by
  have announced : bootstrap.announced = true := by
    obtain announced | isLatest := own bootstrap isBootstrap isStage isReady
    · exact announced
    · obtain ⟨other, found, wasLatest, isFound, announced⟩ := inv.ready _ isReady
      obtain rfl := Option.some.inj (wasLatest.symm.trans isLatest)
      obtain rfl := Option.some.inj (isFound.symm.trans isBootstrap)
      exact announced
  have ok := inv.ok position bootstrap isBootstrap
  have isPast := notProbing_of_stage isStage (by decide)
  refine .setBootstrap isBootstrap ⟨id, fun _ => ⟨nofun, rfl⟩, nofun, fun _ => ?_⟩
  exact ⟨ok.proxied, fun _ _ => announced, nofun, fun _ => ok.baseline isPast⟩

theorem poll_sessionInv {phaseOf : String → Option String} {opened : Bool} (inv : SessionInv vpn)
    (own : OwnSession phaseOf vpn (.poll position opened))
    (stepped : vpn.poll position opened = some next) : SessionInv next := by
  simp only [VkturnVpn.poll] at stepped
  split at stepped
  · cases stepped
  · rename_i bootstrap isBootstrap
    split at stepped
    · rename_i isStage
      split at stepped
      · obtain rfl := Option.some.inj stepped
        exact inv.step (.fail isBootstrap (notProbing_of_stage isStage (by decide)))
      · obtain rfl := Option.some.inj stepped
        exact inv.step (.enter isBootstrap (mayGo_of_stage isStage (by decide)))
    · rename_i isStage
      split at stepped
      · obtain rfl := Option.some.inj stepped
        have entered : SessionStep vpn (vpn.enter position bootstrap .waitDtls) :=
          .enter isBootstrap (mayGo_of_stage isStage (by decide))
        exact inv.step (entered.publish _ _)
      · obtain rfl := Option.some.inj stepped
        exact inv.step (.enter isBootstrap (mayGo_of_stage isStage (by decide)))
    · rename_i isStage
      split at stepped
      · rename_i isReady
        obtain rfl := Option.some.inj stepped
        exact inv.step ((dtlsFlag_sessionStep inv own isBootstrap isStage isReady).publish _ _)
      · obtain rfl := Option.some.inj stepped
        exact inv.step (.enter isBootstrap (mayGo_of_stage isStage (by decide)))
    · rename_i isStage
      split at stepped
      · obtain rfl := Option.some.inj stepped
        exact inv.step (.fail isBootstrap (notProbing_of_stage isStage (by decide)))
      · obtain rfl := Option.some.inj stepped
        exact inv.step (.enter isBootstrap (mayGo_of_stage isStage (by decide)))
    · cases stepped

/-- Without WireGuard, CONNECTED says that the client is ready. -/
theorem finalCheck_sessionStep (stepped : vpn.finalCheck position = some next) :
    SessionStep vpn next := by
  obtain ⟨bootstrap, isBootstrap, isStage, changed⟩ := onStage_eq_some stepped
  split at changed
  · obtain rfl := Option.some.inj changed
    exact .enter isBootstrap (mayGo_of_stage isStage (by decide))
  · split at changed
    · obtain rfl := Option.some.inj changed
      exact .enter isBootstrap (mayGo_of_stage isStage (by decide))
    · rename_i noWg
      have ended : SessionStep vpn (vpn.enter position bootstrap .ended) :=
        .enter isBootstrap (mayGo_of_stage isStage (by decide))
      split at changed
      · obtain rfl := Option.some.inj changed
        refine ⟨ended.bootstraps, ended.launched, ended.command, ended.ready, ended.begun, ?_⟩
        intro connected member
        obtain rfl | wasMember := List.mem_cons.mp member
        · exact .inr fun hasWg => absurd noWg hasWg
        · exact .inl wasMember
      · obtain rfl := Option.some.inj changed
        exact ended

theorem abort_sessionInv (inv : SessionInv vpn) (stepped : vpn.abort position = some next) :
    SessionInv next := by
  simp only [VkturnVpn.abort] at stepped
  split at stepped
  · cases stepped
  · rename_i bootstrap isBootstrap
    split at stepped
    · rename_i isStage
      obtain rfl := Option.some.inj stepped
      have entered : SessionInv (vpn.enter position bootstrap .abortClearProxy) :=
        inv.step (.enter isBootstrap (mayGo_of_stage isStage (by decide)))
      exact entered.step (.destroyProxy _)
    · rename_i isStage
      obtain rfl := Option.some.inj stepped
      have entered : SessionStep vpn (vpn.enter position bootstrap .abortServer) :=
        .enter isBootstrap (mayGo_of_stage isStage (by decide))
      have emptied : SessionStep vpn ((vpn.enter position bootstrap .abortServer).setService
          bootstrap.service { vpn.services bootstrap.service with proxy := none }) :=
        entered.setService rfl rfl
      exact inv.step emptied
    · rename_i isStage
      obtain rfl := Option.some.inj stepped
      have entered : SessionInv (vpn.enter position bootstrap .abortClearServer) :=
        inv.step (.enter isBootstrap (mayGo_of_stage isStage (by decide)))
      exact entered.step (.stopServer _)
    · rename_i isStage
      obtain rfl := Option.some.inj stepped
      have entered : SessionStep vpn (vpn.enter position bootstrap .ended) :=
        .enter isBootstrap (mayGo_of_stage isStage (by decide))
      have emptied : SessionStep vpn ((vpn.enter position bootstrap .ended).setService
          bootstrap.service { vpn.services bootstrap.service with protectServer := none }) :=
        entered.setService rfl rfl
      exact inv.step emptied
    · cases stepped

theorem setTunnel_sessionInv {parsed : Bool} (inv : SessionInv vpn)
    (stepped : vpn.setTunnel position parsed = some next) : SessionInv next := by
  obtain ⟨bootstrap, isBootstrap, isStage, changed⟩ := onStage_eq_some stepped
  cases parsed with
  | false =>
    obtain rfl := Option.some.inj changed
    exact inv.step (.fail isBootstrap (notProbing_of_stage isStage (by decide)))
  | true =>
    obtain rfl := Option.some.inj changed
    have ok := inv.ok position bootstrap isBootstrap
    have isPast := notProbing_of_stage isStage (by decide)
    have entered : SessionStep vpn
        (vpn.enter position { bootstrap with worker := .pending } .join) := by
      refine .setBootstrap isBootstrap ⟨id, fun _ => ⟨nofun, rfl⟩, nofun, fun _ => ?_⟩
      exact ⟨ok.proxied, fun _ => ok.announced (by rw [isStage]; rfl), nofun,
        fun _ => ok.baseline isPast⟩
    exact inv.step ⟨entered.bootstraps, entered.launched, entered.command, entered.ready,
      entered.begun, entered.connected⟩

/-- The worker ends before anything is built on its tunnel. -/
theorem setState_sessionInv {ok : Bool} (inv : SessionInv vpn)
    (stepped : vpn.setState position ok = some next) : SessionInv next := by
  simp only [VkturnVpn.setState] at stepped
  split at stepped
  · cases stepped
  · rename_i bootstrap isBootstrap
    split at stepped
    · cases stepped
    · rename_i isPending
      have isPending : bootstrap.worker = .pending := not_not.mp isPending
      have isOk := inv.ok position bootstrap isBootstrap
      have worked (worker : UpWorker) :
          SessionStep vpn (vpn.setBootstrap position { bootstrap with worker := worker }) := by
        refine .setBootstrap isBootstrap
          ⟨id, fun isPast => ⟨isPast, rfl⟩, fun verifies => .inl ⟨verifies, rfl⟩, fun _ => ?_⟩
        refine ⟨isOk.proxied, isOk.announced, fun isPast => ?_, isOk.baseline⟩
        cases isPending.symm.trans (isOk.tunnel isPast)
      split at stepped
      · obtain rfl := Option.some.inj stepped
        have isUp := worked .up
        exact inv.step ⟨isUp.bootstraps, isUp.launched, isUp.command, isUp.ready, isUp.begun,
          isUp.connected⟩
      · obtain rfl := Option.some.inj stepped
        exact inv.step (worked .failed)

theorem join_sessionInv {timedOut : Bool} (inv : SessionInv vpn)
    (stepped : vpn.join position timedOut = some next) : SessionInv next := by
  obtain ⟨bootstrap, isBootstrap, isStage, changed⟩ := onStage_eq_some stepped
  have isPast := notProbing_of_stage isStage (by decide)
  split at changed
  · cases changed
  · split at changed
    · obtain rfl := Option.some.inj changed
      exact inv.step (.fail isBootstrap isPast)
    · cases changed
  · rename_i isUp
    obtain rfl := Option.some.inj changed
    have ok := inv.ok position bootstrap isBootstrap
    have entered : SessionStep vpn (vpn.enter position bootstrap .readBaseline) := by
      refine .setBootstrap isBootstrap ⟨id, fun _ => ⟨nofun, rfl⟩, nofun, fun _ => ?_⟩
      exact ⟨ok.proxied, fun _ => ok.announced (by rw [isStage]; rfl), fun _ => isUp,
        fun _ => ok.baseline isPast⟩
    exact inv.step (entered.publish _ _)
  · obtain rfl := Option.some.inj changed
    exact inv.step (.fail isBootstrap isPast)

theorem readBaseline_sessionInv (inv : SessionInv vpn)
    (stepped : vpn.readBaseline position = some next) : SessionInv next := by
  obtain ⟨bootstrap, isBootstrap, isStage, changed⟩ := onStage_eq_some stepped
  obtain rfl := Option.some.inj changed
  have ok := inv.ok position bootstrap isBootstrap
  have isPast := notProbing_of_stage isStage (by decide)
  refine inv.step (.setBootstrap isBootstrap
    ⟨id, fun _ => ⟨nofun, rfl⟩, fun _ => .inr rfl, fun _ => ?_⟩)
  exact ⟨ok.proxied, fun _ => ok.announced (by rw [isStage]; rfl),
    fun _ => ok.tunnel (by rw [isStage]; rfl), fun _ => ok.baseline isPast⟩

theorem verify_sessionStep (stepped : vpn.verify position = some next) :
    SessionStep vpn next := by
  obtain ⟨bootstrap, isBootstrap, isStage, changed⟩ := onStage_eq_some stepped
  split at changed
  · obtain rfl := Option.some.inj changed
    exact .enter isBootstrap (mayGo_of_stage isStage (by decide))
  · obtain rfl := Option.some.inj changed
    exact .enter isBootstrap (mayGo_of_stage isStage (by decide))

/-- The baseline that a probe is compared with is the one of its session. -/
theorem published_truthful {phaseOf : String → Option String} {throughVpn : Bool}
    {ip : Option String} {bootstrap : Bootstrap} (inv : SessionInv vpn)
    (own : OwnSession phaseOf vpn (.probe position throughVpn ip))
    (isBootstrap : vpn.bootstraps position = some bootstrap) (isStage : bootstrap.stage = .probe)
    {found : String} (isFound : ip = some found)
    (publishes : bootstrap.verifyBaseline = none ∨ ip ≠ bootstrap.verifyBaseline)
    (hasWg : bootstrap.intent.wgConf ≠ none) :
    Connected.Truthful ⟨{ bootstrap with lastIp := ip }, throughVpn, ip⟩ := by
  have ok := inv.ok position bootstrap isBootstrap
  obtain ⟨isThrough, isBegun⟩ := own bootstrap isBootstrap (by simp [isFound]) publishes
  obtain ⟨begun, wasBegun, _, _, verified⟩ := inv.session position isBegun
  obtain rfl := Option.some.inj (wasBegun.symm.trans isBootstrap)
  have isVerified : begun.verifyBaseline = begun.baselineIp := verified (by rw [isStage]; rfl)
  obtain ⟨baseline, isBaseline⟩ := Option.ne_none_iff_exists'.mp
    (ok.baseline (notProbing_of_stage isStage (by decide)) hasWg)
  constructor
  case announced => exact ok.announced (by rw [isStage]; rfl) hasWg
  case tunnel => exact ok.tunnel (by rw [isStage]; rfl)
  case throughVpn => exact isThrough
  case moved =>
    refine ⟨baseline, found, isBaseline, isFound, fun same => ?_⟩
    rw [isVerified, isBaseline, isFound, same] at publishes
    obtain isNone | differs := publishes
    · cases isNone
    · exact differs rfl

theorem probe_sessionInv {phaseOf : String → Option String} {throughVpn : Bool}
    {ip : Option String} (inv : SessionInv vpn)
    (own : OwnSession phaseOf vpn (.probe position throughVpn ip))
    (stepped : vpn.probe position throughVpn ip = some next) : SessionInv next := by
  obtain ⟨bootstrap, isBootstrap, isStage, changed⟩ := onStage_eq_some stepped
  have entered (stage : BootstrapStage) (mayGo : BootstrapStage.probe.MayGo stage) :
      SessionStep vpn ({ vpn with bus := { vpn.bus with tunnelIp := ip } }.enter position
        { bootstrap with lastIp := ip } stage) := by
    have kept : SessionStep vpn (vpn.enter position { bootstrap with lastIp := ip } stage) :=
      .enterWith isBootstrap ⟨rfl, rfl, rfl, rfl, rfl⟩ (mayGo_of_stage isStage mayGo)
    exact ⟨kept.bootstraps, kept.launched, kept.command, kept.ready, kept.begun, kept.connected⟩
  split at changed
  · obtain rfl := Option.some.inj changed
    exact inv.step (.enter isBootstrap (mayGo_of_stage isStage (by decide)))
  · rename_i found
    dsimp only at changed
    split at changed
    · rename_i publishes
      obtain rfl := Option.some.inj changed
      have ended := entered .ended (by decide)
      refine inv.step
        ⟨ended.bootstraps, ended.launched, ended.command, ended.ready, ended.begun, ?_⟩
      intro connected member
      obtain rfl | wasMember := List.mem_cons.mp member
      · exact .inr fun hasWg =>
          published_truthful inv own isBootstrap isStage rfl publishes hasWg
      · exact .inl wasMember
    · obtain rfl := Option.some.inj changed
      exact inv.step (entered .verify (by decide))

theorem verifyTimeout_sessionStep (stepped : vpn.verifyTimeout position = some next) :
    SessionStep vpn next := by
  obtain ⟨bootstrap, isBootstrap, isStage, changed⟩ := onStage_eq_some stepped
  obtain rfl := Option.some.inj changed
  exact .fail isBootstrap (notProbing_of_stage isStage (by decide))

theorem crash_sessionStep {message : String} (stepped : vpn.crash position message = some next) :
    SessionStep vpn next := by
  simp only [VkturnVpn.crash] at stepped
  split at stepped
  · cases stepped
  · rename_i bootstrap isBootstrap
    split at stepped
    · rename_i throws
      obtain rfl := Option.some.inj stepped
      refine .fail isBootstrap fun isProbing => ?_
      simp [VkturnVpn.mayThrow, isProbing] at throws
    · cases stepped

/-! ### What a bootstrap has started -/

theorem SessionStep.started {before after : Bootstrap}
    (isBootstrap : vpn.bootstraps position = some before) (same : Unchanged before after)
    (sameStage : after.stage = before.stage) :
    SessionStep vpn (vpn.setBootstrap position after) := by
  refine .setBootstrap isBootstrap (.of_unchanged same ?_)
  rw [sameStage]
  exact ⟨Iff.rfl, id, id, id⟩

theorem serverOpens_sessionStep {ok : Bool} (stepped : vpn.serverOpens position ok = some next) :
    SessionStep vpn next := by
  simp only [VkturnVpn.serverOpens] at stepped
  split at stepped
  · cases stepped
  · rename_i bootstrap isBootstrap
    split at stepped
    · obtain rfl := Option.some.inj stepped
      exact .started isBootstrap ⟨rfl, rfl, rfl, rfl, rfl⟩ rfl
    · cases stepped

theorem processExits_sessionStep (stepped : vpn.processExits position = some next) :
    SessionStep vpn next := by
  simp only [VkturnVpn.processExits] at stepped
  split at stepped
  · cases stepped
  · rename_i bootstrap isBootstrap
    split at stepped
    · obtain rfl := Option.some.inj stepped
      exact .started isBootstrap ⟨rfl, rfl, rfl, rfl, rfl⟩ rfl
    · cases stepped

/-- What sets the flag comes from the client of the last start, which was announced. -/
theorem line_sessionInv {phaseOf : String → Option String} {raw : String} (inv : SessionInv vpn)
    (own : OwnSession phaseOf vpn (.line position raw))
    (stepped : vpn.line phaseOf position raw = some next) : SessionInv next := by
  simp only [VkturnVpn.line] at stepped
  split at stepped
  · cases stepped
  · rename_i bootstrap isBootstrap
    split at stepped
    · cases stepped
    · obtain rfl := Option.some.inj stepped
      have goes : Goes vpn.bus.baselineIp bootstrap { bootstrap with
          announced := bootstrap.announced || announcesDtlsReady phaseOf raw } := by
        refine ⟨fun announced => by simp [announced], fun isPast => ⟨isPast, rfl⟩,
          fun verifies => .inl ⟨verifies, rfl⟩, fun ok => ?_⟩
        refine ⟨ok.proxied, fun isPast hasWg => ?_, ok.tunnel, ok.baseline⟩
        simp [ok.announced isPast hasWg]
      have read := SessionStep.setBootstrap isBootstrap goes
      refine inv.step ⟨read.bootstraps, read.launched, read.command, ?_, read.begun,
        read.connected⟩
      intro service isReady
      by_cases isService : service = bootstrap.service
      · cases wasReady : (vpn.services bootstrap.service).dtlsReady with
        | true =>
          refine .inl ?_
          simp [VkturnVpn.setBootstrap, VkturnVpn.setService, isService, wasReady]
        | false =>
          have sets : ingestProxyDtlsSignal phaseOf raw = true := by
            simpa [VkturnVpn.setBootstrap, VkturnVpn.setService, isService, wasReady] using isReady
          obtain ⟨announced, isLatest⟩ := own bootstrap isBootstrap wasReady sets
          refine .inr ⟨position, _, ?_, Function.update_self .., announced⟩
          simpa [VkturnVpn.setBootstrap, VkturnVpn.setService, isService] using isLatest
      · refine .inl ?_
        simpa [VkturnVpn.setBootstrap, VkturnVpn.setService, isService] using isReady

theorem vkturnVpnStep_sessionInv {phaseOf : String → Option String} {label : VpnLabel}
    (inv : SessionInv vpn) (own : OwnSession phaseOf vpn label)
    (stepped : (vkturnVpn phaseOf).step vpn label = some next) : SessionInv next := by
  have kept := SessionStep.refl vpn
  cases label with
  | start intent => exact inv.step (start_sessionStep own stepped)
  | stop destroys => exact inv.step (stop_sessionStep stepped)
  | advance downOk => exact advance_sessionInv inv stepped
  | probeBaseline position ip => exact inv.step (probeBaseline_sessionStep own stepped)
  | checkAbort position => exact checkAbort_sessionInv inv stepped
  | inner position found => exact inv.step (inner_sessionStep stepped)
  | startServer position => exact inv.step (startServer_sessionStep stepped)
  | assignServer position => exact inv.step (assignServer_sessionStep stepped)
  | spawn position error => exact inv.step (spawn_sessionStep stepped)
  | assignProxy position => exact inv.step (assignProxy_sessionStep stepped)
  | waitListen position timedOut => exact inv.step (waitListen_sessionStep stepped)
  | waitDtls position timedOut => exact inv.step (waitDtls_sessionStep stepped)
  | poll position opened => exact poll_sessionInv inv own stepped
  | finalCheck position => exact inv.step (finalCheck_sessionStep stepped)
  | abort position => exact abort_sessionInv inv stepped
  | setTunnel position parsed => exact setTunnel_sessionInv inv stepped
  | setState position ok => exact setState_sessionInv inv stepped
  | join position timedOut => exact join_sessionInv inv stepped
  | readBaseline position => exact readBaseline_sessionInv inv stepped
  | verify position => exact inv.step (verify_sessionStep stepped)
  | probe position throughVpn ip => exact probe_sessionInv inv own stepped
  | verifyTimeout position => exact inv.step (verifyTimeout_sessionStep stepped)
  | crash position message => exact inv.step (crash_sessionStep stepped)
  | serverOpens position ok => exact inv.step (serverOpens_sessionStep stepped)
  | line position raw => exact line_sessionInv inv own stepped
  | processExits position => exact inv.step (processExits_sessionStep stepped)
  | tunnelDrops =>
    obtain rfl := Option.some.inj stepped
    exact inv.step ⟨kept.bootstraps, kept.launched, kept.command, kept.ready, kept.begun,
      kept.connected⟩
  | resetBus =>
    obtain rfl := Option.some.inj stepped
    exact inv.step ⟨kept.bootstraps, kept.launched, kept.command, kept.ready, nofun,
      kept.connected⟩

/-! ## The result -/

/-- As long as what a session rests on is its own, CONNECTED is true of every session with
    WireGuard that publishes it. -/
theorem connected_truthful {phaseOf : String → Option String} {vpn : VkturnVpn}
    (reached : (vkturnVpn phaseOf).ReachableWhile (OwnSession phaseOf) FreshVkturnVpn vpn) :
    ∀ connected ∈ vpn.connected, connected.bootstrap.intent.wgConf ≠ none →
      connected.Truthful := by
  have inv : SessionInv vpn := by
    refine reached.invariant ?_ ?_
    · rintro _ rfl
      exact initial_sessionInv
    · intro state next label inv own stepped
      exact vkturnVpnStep_sessionInv inv own stepped
  exact inv.truthful

def wgIntent : StartIntent := { proxyBin := some "libvkturn.so", wgConf := some "[Interface]" }

def noPhase (_ : String) : Option String := none

/-- The steps of a session after its baseline probe, up to its first probe through the VPN. -/
def bringUp : List VpnLabel :=
  [.checkAbort 0, .inner 0 true, .startServer 0, .assignServer 0, .spawn 0 none, .assignProxy 0,
    .waitListen 0 false]

def bringUpTunnel : List VpnLabel :=
  [.finalCheck 0, .setTunnel 0 true, .setState 0 true, .join 0 false, .readBaseline 0, .verify 0]

def wgSession (baselineIp : Option String) : List VpnLabel :=
  [.start wgIntent, .advance true, .advance true, .probeBaseline 0 baselineIp] ++ bringUp ++
    [.line 0 "PROXY_STATUS: dtls_ready", .line 0 "Established DTLS connection!",
      .waitDtls 0 false, .poll 0 false] ++ bringUpTunnel ++
    [.probe 0 true (some "203.0.113.7")]

instance (phaseOf : String → Option String) (vpn : VkturnVpn) :
    (label : VpnLabel) → Decidable (OwnSession phaseOf vpn label)
  | .start _ | .probeBaseline .. | .line .. | .poll .. | .probe .. => by
    unfold OwnSession
    infer_instance
  | .stop _ | .advance _ | .checkAbort _ | .inner .. | .startServer _ | .assignServer _ | .spawn ..
  | .assignProxy _ | .waitListen .. | .waitDtls .. | .finalCheck _ | .abort _ | .setTunnel ..
  | .setState .. | .join .. | .readBaseline _ | .verify _ | .verifyTimeout _ | .crash ..
  | .serverOpens .. | .processExits _ | .tunnelDrops | .resetBus => .isTrue trivial

/-- The sessions that keep to themselves. -/
def ownSessions : Machine VkturnVpn VpnLabel :=
  (vkturnVpn noPhase).restrict (OwnSession noPhase)

theorem connected_truthful_session :
    ∃ vpn connected, (vkturnVpn noPhase).run {} (wgSession (some "198.51.100.4")) = some vpn ∧
      vpn.connected = [connected] ∧ connected.bootstrap.intent.wgConf ≠ none ∧
      connected.Truthful := by
  have publishes : ((ownSessions.run {} (wgSession (some "198.51.100.4"))).map fun vpn =>
      vpn.connected.map fun connected => connected.bootstrap.intent.wgConf.isSome) =
        some [true] := by
    decide +kernel
  obtain ⟨vpn, ran, published⟩ := Option.map_eq_some_iff.mp publishes
  obtain ⟨connected, isConnected, hasWg⟩ := List.map_eq_singleton_iff.mp published
  have reached : (vkturnVpn noPhase).ReachableWhile (OwnSession noPhase) FreshVkturnVpn vpn :=
    Machine.ReachableWhile.run_restrict (.start rfl) ran
  have hasWg : connected.bootstrap.intent.wgConf ≠ none := Option.isSome_iff_ne_none.mp hasWg
  exact ⟨vpn, connected, Machine.run_of_restrict ran, isConnected, hasWg,
    connected_truthful reached connected (by simp [isConnected]) hasWg⟩

/-- The baseline probe has failed, and any address is taken for a change of it. -/
theorem connected_without_baseline : ¬ ∀ phaseOf vpn,
    (vkturnVpn phaseOf).Reachable FreshVkturnVpn vpn → ∀ connected ∈ vpn.connected,
      connected.bootstrap.intent.wgConf ≠ none → connected.Truthful := by
  intro always
  obtain ⟨vpn, connected, ran, published, hasWg, noBaseline⟩ : ∃ vpn connected,
      (vkturnVpn noPhase).run {} (wgSession none) = some vpn ∧ vpn.connected = [connected] ∧
      connected.bootstrap.intent.wgConf ≠ none ∧ connected.bootstrap.baselineIp = none :=
    ⟨_, _, rfl, rfl, nofun, rfl⟩
  have reached : (vkturnVpn noPhase).Reachable FreshVkturnVpn vpn :=
    Machine.Reachable.run (.start rfl) ran
  obtain ⟨baseline, _, isBaseline, _⟩ :=
    (always noPhase vpn reached connected (by simp [published]) hasWg).moved
  cases noBaseline.symm.trans isBaseline

end VkTurn.Frontend
