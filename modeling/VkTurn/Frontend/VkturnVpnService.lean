import Mathlib.Logic.Function.Basic
import VkTurn.Frontend.DtlsSignal
import VkTurn.Frontend.WingsvImporter
import VkTurn.Transition.Machine

/-! # The VPN service of Android

Each `ACTION_START` starts a thread that brings up the protect server, the vk-turn client and the
WireGuard tunnel one after the other; `ACTION_STOP` and `onDestroy` take them down through what the
service's fields name at that moment.  The commands run on the main thread, one at a time.  After
`onDestroy` the next command is given to a new service, while the threads of the old one go on with
the old fields; the status bus and `WgBackendBridge` are shared by all services.

A bootstrap is named by its position in the order of the starts, and so are its client, its protect
server and its tunnel.  A step is one access to what the threads share, with the publications that
follow it.
-/

namespace VkTurn.Frontend

open VkTurn.Launcher VkTurn.Text VkTurn.Transition

/-- The extras of `ACTION_START`. -/
structure StartIntent where
  routeId : Option String := none
  routeLabel : Option String := none
  proxyBin : Option String := none
  proxyArgs : Option (List String) := none
  wgConf : Option String := none
  deriving DecidableEq

def StartIntent.needsProxy (intent : StartIntent) : Bool :=
  match intent.proxyBin with
  | none => false
  | some proxyBin => isNotBlank proxyBin

inductive TunnelPhase where
  | idle | starting | proxyStarting | proxyListen | dtlsReady | wgUp | verifyingIp | connected | error
  deriving DecidableEq

structure TunnelStatus where
  phase : TunnelPhase := .idle
  message : String := ""
  routeId : String := ""
  routeLabel : String := ""
  baselineIp : Option String := none
  tunnelIp : Option String := none
  deriving DecidableEq

inductive ProxyProcess where
  | absent
  | running
  /-- Signalled, and not gone yet. -/
  | destroyed
  | exited
  deriving DecidableEq

def ProxyProcess.isAlive (process : ProxyProcess) : Bool :=
  process = .running ∨ process = .destroyed

inductive ProtectServer where
  | absent
  /-- Its thread has not opened the socket yet. -/
  | opening
  | listening
  | closed
  /-- Stopped while opening: the thread opens the socket, and leaves it open. -/
  | abandoned
  deriving DecidableEq

/-- The thread that calls `GoBackend.setState(UP)`. -/
inductive UpWorker where
  | absent
  | pending
  | up
  | failed
  deriving DecidableEq

/-- The next step of a bootstrap. -/
inductive BootstrapStage where
  | probeBaseline
  | checkAbort
  | inner
  | startServer
  | assignServer
  | spawn
  | assignProxy
  | waitListen
  | listenProxy
  | listenConnect
  | waitDtls
  | dtlsFlag
  | dtlsProxy
  | finalCheck
  | abortProxy
  | abortClearProxy
  | abortServer
  | abortClearServer
  | setTunnel
  | join
  | readBaseline
  | verify
  | probe
  | ended
  deriving DecidableEq

structure Bootstrap where
  service : Nat
  intent : StartIntent
  stage : BootstrapStage := .probeBaseline
  baselineIp : Option String := none
  server : ProtectServer := .absent
  process : ProxyProcess := .absent
  worker : UpWorker := .absent
  /-- The `baseline` of `verifyTunnelIp`. -/
  verifyBaseline : Option String := none
  lastIp : Option String := none
  /-- A `dtls_ready` status of the client was read. -/
  announced : Bool := false
  deriving DecidableEq

/-- The fields of one service. -/
structure ServiceFields where
  proxy : Option Nat := none
  protectServer : Option Nat := none
  bootstrapAborted : Bool := false
  dtlsReady : Bool := false
  /-- The bootstrap for which `dtlsReady` was reset last. -/
  latest : Option Nat := none
  deriving DecidableEq

/-- The next step of `handleStart` or `handleStop`. -/
inductive CommandStage where
  | idle
  | resetDtls (intent : StartIntent)
  | launch (intent : StartIntent)
  | stopAll
  | readProxy
  | clearProxy (held : Nat)
  | stopServer
  | clearServer
  | reset
  deriving DecidableEq

/-- A publication of CONNECTED, with its bootstrap at that moment and the probe that led to it. -/
structure Connected where
  bootstrap : Bootstrap
  throughVpn : Bool
  ip : Option String
  deriving DecidableEq

structure VkturnVpn where
  services : Nat → ServiceFields := fun _ => {}
  current : Nat := 0
  command : CommandStage := .idle
  /-- The last stop is `onDestroy`. -/
  destroying : Bool := false
  /-- The last command was a stop. -/
  lastStop : Bool := false
  bootstraps : Nat → Option Bootstrap := fun _ => none
  next : Nat := 0
  activeTunnel : Option Nat := none
  /-- The tunnel that is up in `GoBackend`, which holds one at most. -/
  backend : Option Nat := none
  bus : TunnelStatus := {}
  /-- The bootstrap that has begun the session on the bus. -/
  begun : Option Nat := none
  connected : List Connected := []

inductive VpnLabel where
  | start (intent : StartIntent)
  | stop (destroys : Bool)
  | advance (downOk : Bool)
  | probeBaseline (position : Nat) (ip : Option String)
  | checkAbort (position : Nat)
  | inner (position : Nat) (found : Bool)
  | startServer (position : Nat)
  | assignServer (position : Nat)
  /-- With the message of the exception, when the process cannot be started. -/
  | spawn (position : Nat) (error : Option String)
  | assignProxy (position : Nat)
  | waitListen (position : Nat) (timedOut : Bool)
  | waitDtls (position : Nat) (timedOut : Bool)
  /-- The rest of a turn of a waiting loop. -/
  | poll (position : Nat) (opened : Bool)
  | finalCheck (position : Nat)
  | abort (position : Nat)
  | setTunnel (position : Nat) (parsed : Bool)
  | setState (position : Nat) (ok : Bool)
  | join (position : Nat) (timedOut : Bool)
  | readBaseline (position : Nat)
  | verify (position : Nat)
  | probe (position : Nat) (throughVpn : Bool) (ip : Option String)
  | verifyTimeout (position : Nat)
  | crash (position : Nat) (message : String)
  | serverOpens (position : Nat) (ok : Bool)
  /-- A line of the client is read. -/
  | line (position : Nat) (raw : String)
  | processExits (position : Nat)
  | tunnelDrops
  /-- The runner of the interface resets the bus before a start. -/
  | resetBus

/-! ## The arguments of the client -/

/-- The argument after the first occurrence of a flag. -/
def argAfter (flag : String) (args : List String) : Option String :=
  match args.dropWhile (· ≠ flag) with
  | _ :: value :: _ => some value
  | _ => none

def vkTurnTransportFlag (proxyArgs : Option (List String)) : String :=
  match argAfter "-transport" (proxyArgs.getD []) with
  | none => "datagram"
  | some value => ifBlank (String.ofList (lowercase (kotlinTrim value).toList)) "datagram"

def parseListenEndpoint (args : List String) : Option (String × Int32) :=
  match argAfter "-listen" args with
  | none => none
  | some value =>
    let reversed := (kotlinTrim value).toList.reverse
    let port := (reversed.takeWhile (· ≠ ':')).reverse
    let host := kotlinTrim (String.ofList ((reversed.dropWhile (· ≠ ':')).drop 1).reverse)
    if port = [] ∨ isNotBlank host = false then none
    else (toIntOrNull (String.ofList port)).map fun port => (host, port)

/-- The endpoint that `waitForListenTcpOpen` connects to, when it does. -/
def StartIntent.listenEndpoint (intent : StartIntent) : Option (String × Int32) :=
  if vkTurnTransportFlag intent.proxyArgs = "tcp" then
    parseListenEndpoint (intent.proxyArgs.getD [])
  else none

def ProtectServer.stop : ProtectServer → ProtectServer
  | .opening => .abandoned
  | .listening => .closed
  | server => server

def ProxyProcess.destroy : ProxyProcess → ProxyProcess
  | .running => .destroyed
  | process => process

namespace VkturnVpn

variable (vpn : VkturnVpn)

def setService (position : Nat) (changed : ServiceFields) : VkturnVpn :=
  { vpn with services := Function.update vpn.services position changed }

def setBootstrap (position : Nat) (changed : Bootstrap) : VkturnVpn :=
  { vpn with bootstraps := Function.update vpn.bootstraps position (some changed) }

/-- A step of a bootstrap in the given stage. -/
def onStage (position : Nat) (stage : BootstrapStage)
    (change : Bootstrap → Option VkturnVpn) : Option VkturnVpn :=
  match vpn.bootstraps position with
  | none => none
  | some bootstrap => if bootstrap.stage = stage then change bootstrap else none

def publish (phase : TunnelPhase) (message : String) : VkturnVpn :=
  { vpn with bus := { vpn.bus with phase := phase, message := message } }

/-- `phase(CONNECTED)`. -/
def publishConnected (connected : Connected) (message : String) : VkturnVpn :=
  { vpn.publish .connected message with connected := connected :: vpn.connected }

/-- The bootstrap goes on with another stage. -/
def enter (position : Nat) (bootstrap : Bootstrap) (stage : BootstrapStage) : VkturnVpn :=
  vpn.setBootstrap position { bootstrap with stage := stage }

/-- The bootstrap ends with an error on the bus. -/
def fail (position : Nat) (bootstrap : Bootstrap) (message : String) : VkturnVpn :=
  (vpn.enter position bootstrap .ended).publish .error message

def destroyProxy (slot : Option Nat) : VkturnVpn :=
  { vpn with bootstraps := fun position =>
      (vpn.bootstraps position).map fun owner =>
        if slot = some position then { owner with process := owner.process.destroy } else owner }

def stopServer (slot : Option Nat) : VkturnVpn :=
  { vpn with bootstraps := fun position =>
      (vpn.bootstraps position).map fun owner =>
        if slot = some position then { owner with server := owner.server.stop } else owner }

/-- The process of the `proxy` field has exited. -/
def proxyExited (service : Nat) : Bool :=
  match (vpn.services service).proxy.bind vpn.bootstraps with
  | none => false
  | some owner => !owner.process.isAlive

/-! ## The commands -/

def start (intent : StartIntent) : Option VkturnVpn :=
  if vpn.command = .idle then
    some { vpn.setService vpn.current
        { vpn.services vpn.current with bootstrapAborted := false } with
      command := .resetDtls intent, lastStop := false }
  else none

def stop (destroys : Bool) : Option VkturnVpn :=
  if vpn.command = .idle then
    some { vpn.setService vpn.current
        { vpn.services vpn.current with bootstrapAborted := true } with
      command := .stopAll, destroying := destroys, lastStop := true }
  else none

def advance (downOk : Bool) : Option VkturnVpn :=
  let fields := vpn.services vpn.current
  match vpn.command with
  | .idle => none
  | .resetDtls intent =>
    let fields := { fields with dtlsReady := false, latest := some vpn.next }
    some { vpn.setService vpn.current fields with command := .launch intent }
  | .launch intent =>
    some { vpn.setBootstrap vpn.next { service := vpn.current, intent := intent } with
      next := vpn.next + 1, command := .idle }
  | .stopAll =>
    -- Taking down a tunnel that is not the one in the backend does nothing.
    let backend := if downOk ∧ vpn.activeTunnel = vpn.backend then none else vpn.backend
    some { vpn with activeTunnel := none, backend := backend, command := .readProxy }
  | .readProxy =>
    match fields.proxy with
    | none => some { vpn with command := .stopServer }
    | some held => some { vpn with command := .clearProxy held }
  | .clearProxy held =>
    some { (vpn.setService vpn.current { fields with proxy := none }).destroyProxy (some held) with
      command := .stopServer }
  | .stopServer => some { vpn.stopServer fields.protectServer with command := .clearServer }
  | .clearServer =>
    some { vpn.setService vpn.current { fields with protectServer := none } with
      command := .reset }
  | .reset =>
    some { vpn with
      bus := {}, begun := none, command := .idle
      current := if vpn.destroying then vpn.current + 1 else vpn.current }

/-! ## The bootstrap -/

def probeBaseline (position : Nat) (ip : Option String) : Option VkturnVpn :=
  vpn.onStage position .probeBaseline fun bootstrap =>
    let status : TunnelStatus :=
      { phase := .starting
        routeId := ifBlank (bootstrap.intent.routeId.getD "") "route"
        routeLabel := ifBlank (bootstrap.intent.routeLabel.getD "") "vpn"
        baselineIp := ip }
    some { vpn.enter position { bootstrap with baselineIp := ip } .checkAbort with
      bus := status, begun := some position }

def checkAbort (position : Nat) : Option VkturnVpn :=
  vpn.onStage position .checkAbort fun bootstrap =>
    if (vpn.services bootstrap.service).bootstrapAborted then
      some (vpn.enter position bootstrap .ended)
    else if bootstrap.intent.needsProxy then
      some ((vpn.enter position bootstrap .inner).publish .starting
        "Поднимаем внутренний GoBackend.VpnService…")
    else some (vpn.enter position bootstrap .finalCheck)

def inner (position : Nat) (found : Bool) : Option VkturnVpn :=
  vpn.onStage position .inner fun bootstrap =>
    if (vpn.services bootstrap.service).bootstrapAborted then
      some (vpn.enter position bootstrap .ended)
    else if found then some (vpn.enter position bootstrap .startServer)
    else some (vpn.fail position bootstrap "Не удалось поднять внутренний VpnService")

def startServer (position : Nat) : Option VkturnVpn :=
  vpn.onStage position .startServer fun bootstrap =>
    some (vpn.enter position { bootstrap with server := .opening } .assignServer)

def assignServer (position : Nat) : Option VkturnVpn :=
  vpn.onStage position .assignServer fun bootstrap =>
    let fields := { vpn.services bootstrap.service with protectServer := some position }
    some (((vpn.setService bootstrap.service fields).enter position bootstrap .spawn).publish
      .proxyStarting "Запуск vk-turn-proxy…")

def spawn (position : Nat) (error : Option String) : Option VkturnVpn :=
  vpn.onStage position .spawn fun bootstrap =>
    match error with
    | none => some (vpn.enter position { bootstrap with process := .running } .assignProxy)
    | some message =>
      some (vpn.fail position bootstrap ("Не удалось запустить vk-turn-proxy: " ++ message))

def assignProxy (position : Nat) : Option VkturnVpn :=
  vpn.onStage position .assignProxy fun bootstrap =>
    let fields := { vpn.services bootstrap.service with proxy := some position }
    some ((vpn.setService bootstrap.service fields).enter position bootstrap .waitListen)

def listening (position : Nat) (bootstrap : Bootstrap) : VkturnVpn :=
  (vpn.enter position bootstrap .waitDtls).publish .proxyListen "Ожидаем DTLS…"

def notListening (position : Nat) (bootstrap : Bootstrap) : VkturnVpn :=
  vpn.fail position bootstrap "vk-turn-proxy не открыл `-listen`"

def notReady (position : Nat) (bootstrap : Bootstrap) : VkturnVpn :=
  vpn.fail position bootstrap "vk-turn-proxy не достиг dtls_ready"

def waitListen (position : Nat) (timedOut : Bool) : Option VkturnVpn :=
  vpn.onStage position .waitListen fun bootstrap =>
    match bootstrap.intent.listenEndpoint with
    | none => some (vpn.listening position bootstrap)
    | some _ =>
      if timedOut ∨ (vpn.services bootstrap.service).bootstrapAborted then
        some (vpn.notListening position bootstrap)
      else some (vpn.enter position bootstrap .listenProxy)

def waitDtls (position : Nat) (timedOut : Bool) : Option VkturnVpn :=
  vpn.onStage position .waitDtls fun bootstrap =>
    if timedOut ∨ (vpn.services bootstrap.service).bootstrapAborted then
      some (vpn.notReady position bootstrap)
    else some (vpn.enter position bootstrap .dtlsFlag)

def poll (position : Nat) (opened : Bool) : Option VkturnVpn :=
  match vpn.bootstraps position with
  | none => none
  | some bootstrap =>
    match bootstrap.stage with
    | .listenProxy =>
      if vpn.proxyExited bootstrap.service then some (vpn.notListening position bootstrap)
      else some (vpn.enter position bootstrap .listenConnect)
    | .listenConnect =>
      if opened then some (vpn.listening position bootstrap)
      else some (vpn.enter position bootstrap .waitListen)
    | .dtlsFlag =>
      if (vpn.services bootstrap.service).dtlsReady then
        some ((vpn.enter position bootstrap .finalCheck).publish .dtlsReady
          "DTLS готов, поднимаем WireGuard…")
      else some (vpn.enter position bootstrap .dtlsProxy)
    | .dtlsProxy =>
      if vpn.proxyExited bootstrap.service then some (vpn.notReady position bootstrap)
      else some (vpn.enter position bootstrap .waitDtls)
    | _ => none

def finalCheck (position : Nat) : Option VkturnVpn :=
  vpn.onStage position .finalCheck fun bootstrap =>
    if (vpn.services bootstrap.service).bootstrapAborted then
      some (vpn.enter position bootstrap .abortProxy)
    else
      match bootstrap.intent.wgConf with
      | some _ => some (vpn.enter position bootstrap .setTunnel)
      | none =>
        let ended := vpn.enter position bootstrap .ended
        if bootstrap.intent.needsProxy then
          some (ended.publishConnected ⟨bootstrap, false, none⟩ "Прокси готов")
        else some ended

/-- `abortIfStopped`, once it has seen the flag. -/
def abort (position : Nat) : Option VkturnVpn :=
  match vpn.bootstraps position with
  | none => none
  | some bootstrap =>
    let fields := vpn.services bootstrap.service
    match bootstrap.stage with
    | .abortProxy =>
      some ((vpn.enter position bootstrap .abortClearProxy).destroyProxy fields.proxy)
    | .abortClearProxy =>
      some ((vpn.setService bootstrap.service { fields with proxy := none }).enter position
        bootstrap .abortServer)
    | .abortServer =>
      some ((vpn.enter position bootstrap .abortClearServer).stopServer fields.protectServer)
    | .abortClearServer =>
      some ((vpn.setService bootstrap.service { fields with protectServer := none }).enter position
        bootstrap .ended)
    | _ => none

def wgNotUp : String := "WireGuard не поднялся — см. строки WG: в логе"

/-- `WgBackendBridge.start`, up to the start of the worker. -/
def setTunnel (position : Nat) (parsed : Bool) : Option VkturnVpn :=
  vpn.onStage position .setTunnel fun bootstrap =>
    if parsed then
      some { vpn.enter position { bootstrap with worker := .pending } .join with
        activeTunnel := some position }
    else some (vpn.fail position bootstrap wgNotUp)

/-- The worker's `setState(UP)` returns: a tunnel that comes up replaces the one before. -/
def setState (position : Nat) (ok : Bool) : Option VkturnVpn :=
  match vpn.bootstraps position with
  | none => none
  | some bootstrap =>
    if bootstrap.worker ≠ .pending then none
    else if ok then
      some { vpn.setBootstrap position { bootstrap with worker := .up } with
        backend := some position }
    else some (vpn.setBootstrap position { bootstrap with worker := .failed })

def join (position : Nat) (timedOut : Bool) : Option VkturnVpn :=
  vpn.onStage position .join fun bootstrap =>
    match bootstrap.worker with
    | .absent => none
    | .pending => if timedOut then some (vpn.fail position bootstrap wgNotUp) else none
    | .up =>
      some ((vpn.enter position bootstrap .readBaseline).publish .verifyingIp
        "Ждём VPN-сеть и проверяем внешний IP…")
    | .failed => some (vpn.fail position bootstrap wgNotUp)

def readBaseline (position : Nat) : Option VkturnVpn :=
  vpn.onStage position .readBaseline fun bootstrap =>
    some (vpn.enter position { bootstrap with verifyBaseline := vpn.bus.baselineIp } .verify)

def verify (position : Nat) : Option VkturnVpn :=
  vpn.onStage position .verify fun bootstrap =>
    if (vpn.services bootstrap.service).bootstrapAborted then
      some (vpn.enter position bootstrap .ended)
    else some (vpn.enter position bootstrap .probe)

def probe (position : Nat) (throughVpn : Bool) (ip : Option String) : Option VkturnVpn :=
  vpn.onStage position .probe fun bootstrap =>
    match ip with
    | none => some (vpn.enter position bootstrap .verify)
    | some found =>
      let seen := { vpn with bus := { vpn.bus with tunnelIp := ip } }
      let bootstrap := { bootstrap with lastIp := ip }
      if bootstrap.verifyBaseline = none ∨ ip ≠ bootstrap.verifyBaseline then
        some ((seen.enter position bootstrap .ended).publishConnected ⟨bootstrap, throughVpn, ip⟩
          ("Внешний IP: " ++ found))
      else some (seen.enter position bootstrap .verify)

def verifyTimeout (position : Nat) : Option VkturnVpn :=
  vpn.onStage position .verify fun bootstrap =>
    let message :=
      match bootstrap.lastIp with
      | some ip => "Туннель не маршрутизирует трафик (IP=" ++ ip ++ " совпадает с baseline)"
      | none => "Не удалось получить внешний IP через туннель за 60c"
    some (vpn.fail position bootstrap message)

/-- The stages in which a call may throw. -/
def mayThrow (stage : BootstrapStage) : Bool :=
  stage = .checkAbort ∨ stage = .startServer ∨ stage = .setTunnel

def crash (position : Nat) (message : String) : Option VkturnVpn :=
  match vpn.bootstraps position with
  | none => none
  | some bootstrap =>
    if mayThrow bootstrap.stage then
      some (vpn.fail position bootstrap ("Ошибка запуска: " ++ message))
    else none

/-! ## What a bootstrap has started -/

def serverOpens (position : Nat) (ok : Bool) : Option VkturnVpn :=
  match vpn.bootstraps position with
  | none => none
  | some bootstrap =>
    if bootstrap.server = .opening then
      let server : ProtectServer := if ok then .listening else .closed
      some (vpn.setBootstrap position { bootstrap with server := server })
    else none

def processExits (position : Nat) : Option VkturnVpn :=
  match vpn.bootstraps position with
  | none => none
  | some bootstrap =>
    if bootstrap.process.isAlive then
      some (vpn.setBootstrap position { bootstrap with process := .exited })
    else none

variable (phaseOf : String → Option String)

/-- The pumps are started after the process is assigned, and outlive it. -/
def line (position : Nat) (raw : String) : Option VkturnVpn :=
  match vpn.bootstraps position with
  | none => none
  | some bootstrap =>
    if bootstrap.process = .absent ∨ bootstrap.stage = .assignProxy then none
    else
      let announced := bootstrap.announced || announcesDtlsReady phaseOf raw
      let fields := vpn.services bootstrap.service
      let dtlsReady := fields.dtlsReady || ingestProxyDtlsSignal phaseOf raw
      some ((vpn.setService bootstrap.service { fields with dtlsReady := dtlsReady }).setBootstrap
        position { bootstrap with announced := announced })

end VkturnVpn

def vkturnVpnStep (phaseOf : String → Option String) (vpn : VkturnVpn) :
    VpnLabel → Option VkturnVpn
  | .start intent => vpn.start intent
  | .stop destroys => vpn.stop destroys
  | .advance downOk => vpn.advance downOk
  | .probeBaseline position ip => vpn.probeBaseline position ip
  | .checkAbort position => vpn.checkAbort position
  | .inner position found => vpn.inner position found
  | .startServer position => vpn.startServer position
  | .assignServer position => vpn.assignServer position
  | .spawn position error => vpn.spawn position error
  | .assignProxy position => vpn.assignProxy position
  | .waitListen position timedOut => vpn.waitListen position timedOut
  | .waitDtls position timedOut => vpn.waitDtls position timedOut
  | .poll position opened => vpn.poll position opened
  | .finalCheck position => vpn.finalCheck position
  | .abort position => vpn.abort position
  | .setTunnel position parsed => vpn.setTunnel position parsed
  | .setState position ok => vpn.setState position ok
  | .join position timedOut => vpn.join position timedOut
  | .readBaseline position => vpn.readBaseline position
  | .verify position => vpn.verify position
  | .probe position throughVpn ip => vpn.probe position throughVpn ip
  | .verifyTimeout position => vpn.verifyTimeout position
  | .crash position message => vpn.crash position message
  | .serverOpens position ok => vpn.serverOpens position ok
  | .line position raw => vpn.line phaseOf position raw
  | .processExits position => vpn.processExits position
  | .tunnelDrops => some { vpn with backend := none }
  | .resetBus => some { vpn with bus := {}, begun := none }

def vkturnVpn (phaseOf : String → Option String) : Machine VkturnVpn VpnLabel :=
  ⟨vkturnVpnStep phaseOf⟩

/-- No service was started yet. -/
def FreshVkturnVpn (vpn : VkturnVpn) : Prop := vpn = {}

end VkTurn.Frontend
