import VkTurn.Client.TcpMode
import VkTurn.Order.Cyclic
import VkTurn.Transition.Handles
import VkTurn.Transition.Machine

/-! # The sessions of TCP mode

`runTCPMode`: goroutines that keep one smux session each, the pool of the sessions that are up, and
local connections that are given a session of the pool in turn.  A session, like everything else
that has to be closed, is known by its handle.
-/

namespace VkTurn.Client

open VkTurn.Order VkTurn.SessionProto VkTurn.Transition

/-! ## The pool -/

structure TcpSessionPool where
  sessions : List Nat := []
  counter : UInt64 := 0
  deriving DecidableEq

namespace TcpSessionPool

variable (pool : TcpSessionPool)

def add (session : Nat) : TcpSessionPool :=
  { pool with sessions := pool.sessions ++ [session] }

def remove (session : Nat) : TcpSessionPool :=
  { pool with sessions := pool.sessions.erase session }

/-- The lock is shared with other calls of `pick`, which `counter.Add` puts in order. -/
def pick : TcpSessionPool × Option Nat :=
  if pool.sessions.length = 0 then (pool, none)
  else
    let counter := pool.counter + 1
    ({ pool with counter }, pool.sessions[counter.toNat % pool.sessions.length]?)

end TcpSessionPool

/-! ## Setting up a session -/

/-- What a cleanup function closes. -/
inductive TcpResource where
  | conn
  | turnClient
  /-- It also counts in `connectedStreams`. -/
  | relay
  | dtls
  | kcp
  | smux
  deriving DecidableEq

structure CleanupFn where
  resource : TcpResource
  handle : Nat
  deriving DecidableEq

/-- The call that `createTCPSmuxSession` is in. -/
inductive TcpStage where
  | getCreds
  | splitHostPort
  | resolveUDPAddr
  | dial
  | newClient
  | listen
  | allocate
  | dtls
  /-- Before `skipMainlineTCPNegotiation` is read. -/
  | checkSkip
  /-- In `negotiateMainlineTCPTransport`. -/
  | negotiate
  | directSmux
  | kcp
  | kcpSmux
  deriving DecidableEq

namespace TcpStage

/-- The error that is returned for an error of the call. -/
def failure (udp : Bool) : TcpStage → String → String
  | getCreds, error => "get TURN creds: " ++ error
  | splitHostPort, error => "parse TURN addr: " ++ error
  | resolveUDPAddr, error => "resolve TURN addr: " ++ error
  | dial, error => (if udp then "dial TURN (udp): " else "dial TURN (tcp): ") ++ error
  | newClient, error => "create TURN client: " ++ error
  | listen, error => "TURN listen: " ++ error
  | allocate, error => "TURN allocate: " ++ error
  | dtls, error => "DTLS handshake: " ++ error
  | checkSkip, error => error
  | negotiate, error => error
  | directSmux, error => "direct smux client: " ++ error
  | kcp, error => "KCP session: " ++ error
  | kcpSmux, error => "smux client: " ++ error

def resource : TcpStage → Option TcpResource
  | dial => some .conn
  | newClient => some .turnClient
  | allocate => some .relay
  | dtls => some .dtls
  | directSmux => some .smux
  | kcp => some .kcp
  | kcpSmux => some .smux
  | _ => none

/-- What `emitProxyStatus` is called with afterwards. -/
def status : TcpStage → Option String
  | getCreds => some "auth_ready"
  | allocate => some "turn_ready"
  | dtls => some "dtls_ready"
  | kcp => some "kcp_ready"
  | directSmux => some "smux_ready"
  | kcpSmux => some "smux_ready"
  | _ => none

/-- The call after a successful one; after the last the session is ready. -/
def next : TcpStage → Option TcpStage
  | getCreds => some splitHostPort
  | splitHostPort => some resolveUDPAddr
  | resolveUDPAddr => some dial
  | dial => some newClient
  | newClient => some listen
  | listen => some allocate
  | allocate => some dtls
  | dtls => some checkSkip
  | kcp => some kcpSmux
  | checkSkip => none
  | negotiate => none
  | directSmux => none
  | kcpSmux => none

/-- The negotiation is not a call that succeeds or fails. -/
def isCall : TcpStage → Bool
  | checkSkip => false
  | negotiate => false
  | _ => true

/-- The `switch` on the flavor. -/
def ofFlavor (flavor : TcpTransportFlavor) : TcpStage :=
  if flavor = .directSmux then directSmux else kcp

end TcpStage

/-! ## The goroutines -/

/-- What a goroutine does once `cleanup` has returned. -/
inductive AfterCleanup where
  /-- It reports the error of `createTCPSmuxSession`. -/
  | failed (error : String)
  | disconnected
  | cancelled
  deriving DecidableEq

/-- Where `maintainTCPSession` stands.  The cleanup functions are listed in the order in which they
    run, the last appended first; where there are none, `cleanup` need not be called. -/
inductive Maintainer where
  /-- Before its first attempt. -/
  | delayed
  /-- At the head of the loop. -/
  | ready
  | creating (stage : TcpStage) (cleanupFns : List CleanupFn)
  | adding (session : Nat) (cleanupFns : List CleanupFn)
  /-- In the loop that waits for the session to close. -/
  | serving (session : Nat) (cleanupFns : List CleanupFn)
  | removing (session : Nat) (cleanupFns : List CleanupFn) (after : AfterCleanup)
  | cleaning (cleanupFns : List CleanupFn) (after : AfterCleanup)
  /-- Before the next attempt. -/
  | pausing
  | returned
  deriving DecidableEq

namespace Maintainer

def cleanupFns : Maintainer → List CleanupFn
  | creating _ cleanupFns => cleanupFns
  | adding _ cleanupFns => cleanupFns
  | serving _ cleanupFns => cleanupFns
  | removing _ cleanupFns _ => cleanupFns
  | cleaning cleanupFns _ => cleanupFns
  | _ => []

/-- The session that it has in the pool. -/
def pooled : Maintainer → Option Nat
  | serving session _ => some session
  | removing session _ _ => some session
  | _ => none

/-- The session that it keeps. -/
def session : Maintainer → Option Nat
  | adding session _ => some session
  | maintainer => maintainer.pooled

end Maintainer

/-- Where the goroutine of a local connection stands. -/
inductive LocalConn where
  | picking
  /-- Before `IsClosed` of the session that it picked. -/
  | checking (session : Nat)
  /-- In the `select` of `waitAssignableTCPSmuxSession`. -/
  | waiting
  | assigned (session : Nat)
  | closed
  deriving DecidableEq

/-- Where `runTCPMode` itself stands. -/
inductive TcpMain where
  | accepting
  /-- In `accepted.Wait`. -/
  | drainsAccepted
  /-- In `maintainers.Wait`. -/
  | drainsMaintainers
  | returned
  deriving DecidableEq

structure TcpModeState where
  cancelled : Bool := false
  nextHandle : Nat := 0
  /-- How often each handle has been closed by a cleanup function. -/
  closes : Nat → Nat := fun _ => 0
  /-- What `IsClosed` says of a session. -/
  isClosed : Nat → Bool := fun _ => false
  connectedStreams : Int := 0
  skipMainlineTCPNegotiation : Bool := false
  pool : TcpSessionPool := {}
  emitted : List String := []
  /-- The calls of `ReportWorkerError`, which are made if there is a `credsManager`. -/
  reports : List (Nat × String) := []
  maintainers : List Maintainer
  accepted : List LocalConn := []
  main : TcpMain := .accepting
  /-- Ghost: the sessions that were picked. -/
  picked : List Nat := []

inductive TcpModeLabel where
  /-- A delay of a goroutine is over. -/
  | wakes (index : Nat)
  | begins (index : Nat)
  /-- A goroutine sees that `ctx` is done. -/
  | stops (index : Nat)
  | succeeds (index : Nat)
  | fails (index : Nat) (error : String)
  /-- What was dialled is no UDP connection. -/
  | castFails (index : Nat)
  | checksSkip (index : Nat)
  | negotiates (index : Nat) (outcome : Except String TcpTransportFlavor)
  | adds (index : Nat)
  /-- A goroutine sees that its session is closed. -/
  | notices (index : Nat)
  | removes (index : Nat)
  | cleans (index : Nat)
  | cleaned (index : Nat)
  | accept
  | picks (conn : Nat)
  | checks (conn : Nat)
  | ticks (conn : Nat)
  /-- A waiting connection sees that `ctx` is done. -/
  | givesUp (conn : Nat)
  /-- No stream can be opened, or its traffic ends. -/
  | finishes (conn : Nat)
  | closesSession (session : Nat)
  | cancel
  | acceptFails
  | drained
  deriving DecidableEq

/-! ## The steps -/

namespace TcpModeState

variable (state : TcpModeState)

def start (sessionCount : Int) : TcpModeState :=
  { maintainers := List.replicate (max 1 sessionCount).toNat .delayed }

def setMaintainer (index : Nat) (maintainer : Maintainer) : TcpModeState :=
  { state with maintainers := state.maintainers.set index maintainer }

def setConn (index : Nat) (conn : LocalConn) : TcpModeState :=
  { state with accepted := state.accepted.set index conn }

def emit (status : Option String) : TcpModeState :=
  { state with emitted := state.emitted ++ status.toList }

/-- A new handle for the next `resource`, if the call makes one. -/
def acquire (resource : Option TcpResource) : TcpModeState :=
  match resource with
  | none => state
  | some resource =>
    { state with
      nextHandle := state.nextHandle + 1
      connectedStreams := state.connectedStreams + if resource = .relay then 1 else 0 }

/-- One cleanup function.  Closing a session also shows in `IsClosed`. -/
def close (cleanupFn : CleanupFn) : TcpModeState :=
  { state with
    closes := Function.update state.closes cleanupFn.handle (state.closes cleanupFn.handle + 1)
    isClosed :=
      if cleanupFn.resource = .smux then Function.update state.isClosed cleanupFn.handle true
      else state.isClosed
    connectedStreams :=
      state.connectedStreams - if cleanupFn.resource = .relay then 1 else 0 }

/-- The cleanup functions after a successful call. -/
def pushed (resource : Option TcpResource) (cleanupFns : List CleanupFn) : List CleanupFn :=
  match resource with
  | none => cleanupFns
  | some resource => ⟨resource, state.nextHandle⟩ :: cleanupFns

/-- Where the goroutine stands after a successful call. -/
def afterCall (stage : TcpStage) (cleanupFns : List CleanupFn) : Maintainer :=
  match stage.next with
  | some next => .creating next (state.pushed stage.resource cleanupFns)
  | none => .adding state.nextHandle (state.pushed stage.resource cleanupFns)

variable (udp : Bool)

/-- The steps of `createTCPSmuxSession`. -/
def create (index : Nat) (stage : TcpStage) (cleanupFns : List CleanupFn) :
    TcpModeLabel → Option TcpModeState
  | .succeeds _ =>
    if stage.isCall then
      some (((state.acquire stage.resource).emit stage.status).setMaintainer index
        (state.afterCall stage cleanupFns))
    else none
  | .fails _ error =>
    if stage.isCall then
      some (state.setMaintainer index (.cleaning cleanupFns (.failed (stage.failure udp error))))
    else none
  | .castFails _ =>
    -- the connection is closed at once, and not by a cleanup function
    if stage = .dial ∧ udp then
      some (((state.acquire (some .conn)).close ⟨.conn, state.nextHandle⟩).setMaintainer index
        (.cleaning cleanupFns (.failed "failed to cast protected UDP connection")))
    else none
  | .checksSkip _ =>
    if stage = .checkSkip then
      some (state.setMaintainer index
        (.creating (if state.skipMainlineTCPNegotiation then .kcp else .negotiate) cleanupFns))
    else none
  | .negotiates _ outcome =>
    if stage = .negotiate then
      match outcome with
      | .ok flavor => some (state.setMaintainer index (.creating (.ofFlavor flavor) cleanupFns))
      | .error error =>
        if looksLikePlainTCPServerError error then
          some ({ state with skipMainlineTCPNegotiation := true }.setMaintainer index
            (.creating .kcp cleanupFns))
        else some (state.setMaintainer index (.cleaning cleanupFns (.failed error)))
    else none
  | _ => none

/-- The steps of `maintainTCPSession`. -/
def maintain (index : Nat) (maintainer : Maintainer) (label : TcpModeLabel) :
    Option TcpModeState :=
  match maintainer, label with
  | .delayed, .wakes _ => some (state.setMaintainer index .ready)
  | .delayed, .stops _ =>
    if state.cancelled then some (state.setMaintainer index .returned) else none
  | .ready, .stops _ =>
    if state.cancelled then some (state.setMaintainer index .returned) else none
  | .ready, .begins _ =>
    if state.cancelled then none else some (state.setMaintainer index (.creating .getCreds []))
  | .creating stage cleanupFns, label => state.create udp index stage cleanupFns label
  | .adding session cleanupFns, .adds _ =>
    some ({ state with pool := state.pool.add session }.setMaintainer index
      (.serving session cleanupFns))
  | .serving session cleanupFns, .notices _ =>
    if state.isClosed session then
      some (state.setMaintainer index (.removing session cleanupFns .disconnected))
    else none
  | .serving session cleanupFns, .stops _ =>
    if state.cancelled then
      some (state.setMaintainer index (.removing session cleanupFns .cancelled))
    else none
  | .removing session cleanupFns after, .removes _ =>
    some ({ state with pool := state.pool.remove session }.setMaintainer index
      (.cleaning cleanupFns after))
  | .cleaning (cleanupFn :: cleanupFns) after, .cleans _ =>
    some ((state.close cleanupFn).setMaintainer index (.cleaning cleanupFns after))
  | .cleaning [] (.failed error), .cleaned _ =>
    some ({ state with reports := state.reports ++ [(index, error)] }.setMaintainer index .pausing)
  | .cleaning [] .disconnected, .cleaned _ => some (state.setMaintainer index .pausing)
  | .cleaning [] .cancelled, .cleaned _ => some (state.setMaintainer index .returned)
  | .pausing, .wakes _ => some (state.setMaintainer index .ready)
  | .pausing, .stops _ =>
    if state.cancelled then some (state.setMaintainer index .returned) else none
  | _, _ => none

/-- The steps of the goroutine of a local connection. -/
def serve (index : Nat) (conn : LocalConn) (label : TcpModeLabel) : Option TcpModeState :=
  match conn, label with
  | .picking, .picks _ =>
    match state.pool.pick with
    | (pool, some session) =>
      some ({ state with pool, picked := state.picked ++ [session] }.setConn index
        (.checking session))
    | (pool, none) => some ({ state with pool }.setConn index .waiting)
  | .checking session, .checks _ =>
    some (state.setConn index (if state.isClosed session then .waiting else .assigned session))
  | .waiting, .ticks _ => some (state.setConn index .picking)
  | .waiting, .givesUp _ => if state.cancelled then some (state.setConn index .closed) else none
  | .assigned _, .finishes _ => some (state.setConn index .closed)
  | _, _ => none

/-- The steps of `runTCPMode` itself, and what happens to it from outside. -/
def proceed (label : TcpModeLabel) : Option TcpModeState :=
  match state.main, label with
  | _, .cancel => some { state with cancelled := true }
  | _, .closesSession session =>
    some { state with isClosed := Function.update state.isClosed session true }
  | .accepting, .accept => some { state with accepted := state.accepted ++ [.picking] }
  | .accepting, .acceptFails =>
    some (if state.cancelled then { state with main := .drainsAccepted } else state)
  | .drainsAccepted, .drained =>
    if state.accepted.all (· = .closed) then some { state with main := .drainsMaintainers }
    else none
  | .drainsMaintainers, .drained =>
    if state.maintainers.all (· = .returned) then some { state with main := .returned } else none
  | _, _ => none

end TcpModeState

/-- The goroutine that takes the step. -/
inductive TcpThread where
  | maintainer (index : Nat)
  | conn (index : Nat)
  | main

def TcpModeLabel.thread : TcpModeLabel → TcpThread
  | .wakes index | .begins index | .stops index | .succeeds index | .fails index _
  | .castFails index | .checksSkip index | .negotiates index _ | .adds index | .notices index
  | .removes index | .cleans index | .cleaned index => .maintainer index
  | .picks index | .checks index | .ticks index | .givesUp index | .finishes index => .conn index
  | .accept | .closesSession _ | .cancel | .acceptFails | .drained => .main

/-- `udp` is that of the connection to the TURN server. -/
def tcpMode (udp : Bool) : Machine TcpModeState TcpModeLabel where
  step state label :=
    match label.thread with
    | .maintainer index =>
      (state.maintainers[index]?).bind fun maintainer => state.maintain udp index maintainer label
    | .conn index => (state.accepted[index]?).bind fun conn => state.serve index conn label
    | .main => state.proceed label

/-! ## What is held -/

namespace Maintainer

variable (maintainer : Maintainer)

def handles : List Nat := maintainer.cleanupFns.map (·.handle)

def relays : Nat := maintainer.cleanupFns.countP (·.resource = .relay)

/-- The session that it keeps is among what it closes. -/
def KeepsSession : Prop :=
  ∀ session ∈ maintainer.session, ⟨.smux, session⟩ ∈ maintainer.cleanupFns

end Maintainer

structure TcpModeInv (state : TcpModeState) : Prop where
  accounted : Accounted state.nextHandle state.closes (state.maintainers.flatMap (·.handles))
  pooled : state.pool.sessions.Perm (state.maintainers.filterMap (·.pooled))
  relays : state.connectedStreams = (state.maintainers.map (·.relays)).sum
  keepsSession : ∀ maintainer ∈ state.maintainers, maintainer.KeepsSession
  drained : state.main = .drainsMaintainers ∨ state.main = .returned →
    ∀ conn ∈ state.accepted, conn = .closed
  finished : state.main = .returned → ∀ maintainer ∈ state.maintainers, maintainer = .returned

variable {state next : TcpModeState} {udp : Bool} {index : Nat} {old new : Maintainer}

/-- One goroutine goes on, and accounts for what it has done. -/
theorem TcpModeInv.exchange (inv : TcpModeInv state) (new : Maintainer)
    (found : state.maintainers[index]? = some old) (isLive : old ≠ .returned)
    (others : next.maintainers = state.maintainers.set index new)
    (sameMain : next.main = state.main) (sameConns : next.accepted = state.accepted)
    (accounted : ∀ rest, Accounted state.nextHandle state.closes (old.handles ++ rest) →
      Accounted next.nextHandle next.closes (new.handles ++ rest))
    (pooled : ∀ rest, state.pool.sessions.Perm (old.pooled.toList ++ rest) →
      next.pool.sessions.Perm (new.pooled.toList ++ rest))
    (relays : next.connectedStreams + old.relays = state.connectedStreams + new.relays)
    (keepsSession : new.KeepsSession) : TcpModeInv next := by
  obtain ⟨before, after, around, exchanged⟩ := exists_around found
  rw [exchanged] at others
  have member : old ∈ state.maintainers := List.mem_of_getElem? found
  have relaysBefore := inv.relays
  constructor
  · rw [others]
    exact (accounted _ (inv.accounted.perm (around ▸ (flatMap_around _).symm))).perm
      (flatMap_around _)
  · rw [others]
    exact (pooled _ (inv.pooled.trans (around ▸ filterMap_around _))).trans
      (filterMap_around _).symm
  · rw [around] at relaysBefore
    rw [others]
    simp only [List.map_append, List.map_cons, List.sum_append, List.sum_cons] at relaysBefore ⊢
    omega
  · intro maintainer isMember
    rw [others] at isMember
    rcases List.mem_append.mp isMember with isBefore | isAfter
    · exact inv.keepsSession _ (by rw [around]; exact List.mem_append_left _ isBefore)
    · rcases List.mem_cons.mp isAfter with rfl | isAfter
      · exact keepsSession
      · exact inv.keepsSession _ (by rw [around]; simp [isAfter])
  · rw [sameMain, sameConns]
    exact inv.drained
  · rw [sameMain]
    intro isReturned
    exact absurd (inv.finished isReturned old member) isLive

/-! ## The steps keep account -/

/-- A goroutine goes on without acquiring or closing anything. -/
theorem TcpModeInv.goesOn (inv : TcpModeInv state) (found : state.maintainers[index]? = some old)
    (isLive : old ≠ .returned) (sameFns : new.cleanupFns = old.cleanupFns)
    (samePooled : new.pooled = old.pooled) (keepsSession : new.KeepsSession) :
    TcpModeInv (state.setMaintainer index new) := by
  refine inv.exchange _ found isLive rfl rfl rfl (fun rest => ?_) (fun rest => ?_) ?_ keepsSession
  · unfold Maintainer.handles
    rw [sameFns]
    exact id
  · rw [samePooled]
    exact id
  · unfold Maintainer.relays
    rw [sameFns]
    rfl

theorem TcpModeInv.found_keeps (inv : TcpModeInv state)
    (found : state.maintainers[index]? = some old) : old.KeepsSession :=
  inv.keepsSession old (List.mem_of_getElem? found)

variable {stage : TcpStage} {cleanupFns : List CleanupFn} {label : TcpModeLabel}

theorem afterCall_cleanupFns :
    (state.afterCall stage cleanupFns).cleanupFns = state.pushed stage.resource cleanupFns := by
  unfold TcpModeState.afterCall
  split <;> rfl

theorem afterCall_pooled : (state.afterCall stage cleanupFns).pooled = none := by
  unfold TcpModeState.afterCall
  split <;> rfl

theorem afterCall_keepsSession (isCall : stage.isCall = true) :
    (state.afterCall stage cleanupFns).KeepsSession := by
  unfold Maintainer.KeepsSession TcpModeState.afterCall
  cases stage <;> simp_all [TcpStage.next, TcpStage.isCall, TcpStage.resource,
    TcpModeState.pushed, Maintainer.session, Maintainer.pooled, Maintainer.cleanupFns]

theorem TcpModeInv.succeeds (inv : TcpModeInv state)
    (found : state.maintainers[index]? = some (.creating stage cleanupFns))
    (isCall : stage.isCall = true) (status : Option String) :
    TcpModeInv (((state.acquire stage.resource).emit status).setMaintainer index
      (state.afterCall stage cleanupFns)) := by
  refine inv.exchange (state.afterCall stage cleanupFns) found nofun ?_ ?_ ?_
    (fun rest before => ?_) (fun rest before => ?_) ?_ (afterCall_keepsSession isCall)
  · cases stage.resource <;> rfl
  · cases stage.resource <;> rfl
  · cases stage.resource <;> rfl
  · unfold Maintainer.handles at before ⊢
    rw [afterCall_cleanupFns]
    cases stage.resource with
    | none => exact before
    | some resource => exact before.acquire
  · rw [afterCall_pooled]
    cases stage.resource <;> exact before
  · unfold Maintainer.relays
    rw [afterCall_cleanupFns]
    cases stage.resource with
    | none => rfl
    | some resource =>
      cases resource <;> simp [TcpModeState.setMaintainer, TcpModeState.emit,
        TcpModeState.acquire, TcpModeState.pushed, Maintainer.cleanupFns]
      omega

theorem TcpModeInv.create (inv : TcpModeInv state)
    (found : state.maintainers[index]? = some (.creating stage cleanupFns))
    (stepped : state.create udp index stage cleanupFns label = some next) : TcpModeInv next := by
  have noSession : ∀ stage, (Maintainer.creating stage cleanupFns).KeepsSession := fun _ _ => nofun
  have noSession' : ∀ after, (Maintainer.cleaning cleanupFns after).KeepsSession := fun _ _ => nofun
  unfold TcpModeState.create at stepped
  split at stepped
  · split at stepped
    · cases stepped
      exact inv.succeeds found ‹_› _
    · cases stepped
  · split at stepped
    · cases stepped
      exact inv.goesOn found nofun rfl rfl (noSession' _)
    · cases stepped
  · split at stepped
    · cases stepped
      refine inv.exchange _ found nofun rfl rfl rfl (fun rest before => before.acquire_close)
        (fun rest before => before) ?_ (noSession' _)
      simp [TcpModeState.setMaintainer, TcpModeState.acquire, TcpModeState.close,
        Maintainer.relays, Maintainer.cleanupFns]
    · cases stepped
  · split at stepped
    · cases stepped
      exact inv.goesOn found nofun rfl rfl (noSession _)
    · cases stepped
  · split at stepped
    · split at stepped
      · cases stepped
        exact inv.goesOn found nofun rfl rfl (noSession _)
      · split at stepped
        · cases stepped
          exact inv.exchange _ found nofun rfl rfl rfl (fun rest before => before)
            (fun rest before => before) rfl (noSession _)
        · cases stepped
          exact inv.goesOn found nofun rfl rfl (noSession' _)
    · cases stepped
  · cases stepped

theorem TcpModeInv.adds (inv : TcpModeInv state) {session : Nat}
    (found : state.maintainers[index]? = some (.adding session cleanupFns)) :
    TcpModeInv ({ state with pool := state.pool.add session }.setMaintainer index
      (.serving session cleanupFns)) :=
  inv.exchange _ found nofun rfl rfl rfl (fun _ before => before)
    (fun _ before => (before.append_right [session]).trans (List.perm_append_singleton ..)) rfl
    (show (Maintainer.adding session cleanupFns).KeepsSession from inv.found_keeps found)

theorem TcpModeInv.removes (inv : TcpModeInv state) {session : Nat} {after : AfterCleanup}
    (found : state.maintainers[index]? = some (.removing session cleanupFns after)) :
    TcpModeInv ({ state with pool := state.pool.remove session }.setMaintainer index
      (.cleaning cleanupFns after)) := by
  refine inv.exchange _ found nofun rfl rfl rfl (fun _ before => before) (fun rest before => ?_) rfl
    nofun
  have erased := before.erase session
  rwa [Maintainer.pooled, Option.toList_some, List.singleton_append, List.erase_cons_head]
    at erased

theorem TcpModeInv.cleans (inv : TcpModeInv state) {cleanupFn : CleanupFn} {after : AfterCleanup}
    (found : state.maintainers[index]? = some (.cleaning (cleanupFn :: cleanupFns) after)) :
    TcpModeInv ((state.close cleanupFn).setMaintainer index (.cleaning cleanupFns after)) := by
  refine inv.exchange _ found nofun rfl rfl rfl (fun _ before => before.close) (fun _ => id) ?_ nofun
  simp only [TcpModeState.setMaintainer, TcpModeState.close, Maintainer.relays,
    Maintainer.cleanupFns, List.countP_cons, decide_eq_true_eq]
  split <;> omega

theorem TcpModeInv.maintain (inv : TcpModeInv state)
    (found : state.maintainers[index]? = some old)
    (stepped : state.maintain udp index old label = some next) : TcpModeInv next := by
  have keeps := inv.found_keeps found
  unfold TcpModeState.maintain at stepped
  split at stepped
  case h_5 => exact inv.create found stepped
  case h_6 =>
    cases stepped
    exact inv.adds found
  case h_9 =>
    cases stepped
    exact inv.removes found
  case h_10 =>
    cases stepped
    exact inv.cleans found
  case h_11 =>
    cases stepped
    exact inv.exchange _ found nofun rfl rfl rfl (fun _ => id) (fun _ => id) rfl nofun
  case h_16 => cases stepped
  all_goals
    first
    | split at stepped <;> cases stepped
    | cases stepped
  all_goals exact inv.goesOn found nofun rfl rfl keeps

/-! ## Connections, and `runTCPMode` itself -/

theorem pick_sessions (pool : TcpSessionPool) : pool.pick.1.sessions = pool.sessions := by
  unfold TcpSessionPool.pick
  split <;> rfl

/-- A step that leaves the goroutines of the sessions alone. -/
structure SessionsStay (state next : TcpModeState) : Prop where
  maintainers : next.maintainers = state.maintainers
  nextHandle : next.nextHandle = state.nextHandle
  closes : next.closes = state.closes
  connectedStreams : next.connectedStreams = state.connectedStreams
  sessions : next.pool.sessions = state.pool.sessions

theorem TcpModeInv.frame (inv : TcpModeInv state) (stay : SessionsStay state next)
    (drained : next.main = .drainsMaintainers ∨ next.main = .returned →
      ∀ conn ∈ next.accepted, conn = .closed)
    (finished : next.main = .returned → ∀ maintainer ∈ state.maintainers, maintainer = .returned) :
    TcpModeInv next where
  accounted := by
    rw [stay.nextHandle, stay.closes, stay.maintainers]
    exact inv.accounted
  pooled := by
    rw [stay.sessions, stay.maintainers]
    exact inv.pooled
  relays := by
    rw [stay.connectedStreams, stay.maintainers]
    exact inv.relays
  keepsSession := by
    rw [stay.maintainers]
    exact inv.keepsSession
  drained := drained
  finished := by
    rw [stay.maintainers]
    exact finished

variable {conn : LocalConn}

/-- A connection goes on that is not closed yet. -/
theorem TcpModeInv.setConn (inv : TcpModeInv state) (found : state.accepted[index]? = some conn)
    (isOpen : conn ≠ .closed) (stay : SessionsStay state next) (sameMain : next.main = state.main) :
    TcpModeInv next := by
  refine inv.frame stay (fun isDrained => ?_) (sameMain ▸ inv.finished)
  rw [sameMain] at isDrained
  exact absurd (inv.drained isDrained conn (List.mem_of_getElem? found)) isOpen

theorem TcpModeInv.serve (inv : TcpModeInv state) (found : state.accepted[index]? = some conn)
    (stepped : state.serve index conn label = some next) : TcpModeInv next := by
  unfold TcpModeState.serve at stepped
  split at stepped
  case h_1 =>
    have same := pick_sessions state.pool
    split at stepped <;> rename_i picked <;> rw [picked] at same <;> cases stepped <;>
      exact inv.setConn found nofun ⟨rfl, rfl, rfl, rfl, same⟩ rfl
  case h_4 =>
    split at stepped
    · cases stepped
      exact inv.setConn found nofun ⟨rfl, rfl, rfl, rfl, rfl⟩ rfl
    · cases stepped
  case h_6 => cases stepped
  all_goals
    cases stepped
    exact inv.setConn found nofun ⟨rfl, rfl, rfl, rfl, rfl⟩ rfl

theorem TcpModeInv.proceed (inv : TcpModeInv state) (stepped : state.proceed label = some next) :
    TcpModeInv next := by
  unfold TcpModeState.proceed at stepped
  split at stepped
  case h_1 | h_2 =>
    cases stepped
    exact inv.frame ⟨rfl, rfl, rfl, rfl, rfl⟩ inv.drained inv.finished
  case h_3 isAccepting =>
    cases stepped
    refine inv.frame ⟨rfl, rfl, rfl, rfl, rfl⟩ ?_ ?_
    · rintro (isDrained | isDrained) <;> cases isAccepting.symm.trans isDrained
    · exact fun isReturned => nomatch isAccepting.symm.trans isReturned
  case h_4 =>
    cases stepped
    split
    · exact inv.frame ⟨rfl, rfl, rfl, rfl, rfl⟩ (by simp) (by simp)
    · exact inv
  case h_5 =>
    split at stepped
    · rename_i allClosed
      cases stepped
      refine inv.frame ⟨rfl, rfl, rfl, rfl, rfl⟩ (fun _ conn member => ?_) (by simp)
      exact of_decide_eq_true (List.all_eq_true.mp allClosed conn member)
    · cases stepped
  case h_6 isDraining =>
    split at stepped
    · rename_i allReturned
      cases stepped
      refine inv.frame ⟨rfl, rfl, rfl, rfl, rfl⟩ (fun _ => inv.drained (.inl isDraining))
        (fun _ maintainer member => ?_)
      exact of_decide_eq_true (List.all_eq_true.mp allReturned maintainer member)
    · cases stepped
  case h_7 => cases stepped

theorem tcpMode_inv (inv : TcpModeInv state) (stepped : (tcpMode udp).step state label = some next) :
    TcpModeInv next := by
  simp only [tcpMode] at stepped
  split at stepped
  · obtain ⟨maintainer, found, stepped⟩ := Option.bind_eq_some_iff.mp stepped
    exact inv.maintain found stepped
  · obtain ⟨conn, found, stepped⟩ := Option.bind_eq_some_iff.mp stepped
    exact inv.serve found stepped
  · exact inv.proceed stepped

theorem start_inv (sessionCount : Int) : TcpModeInv (.start sessionCount) := by
  constructor
  case accounted =>
    have nothing : (List.replicate (max 1 sessionCount).toNat Maintainer.delayed).flatMap
        (·.handles) = [] := by simp [Maintainer.handles, Maintainer.cleanupFns]
    exact nothing ▸ .start
  case pooled => simp [TcpModeState.start, Maintainer.pooled]
  case relays => simp [TcpModeState.start, Maintainer.relays, Maintainer.cleanupFns]
  case keepsSession =>
    intro maintainer member session kept
    cases List.eq_of_mem_replicate member
    cases kept
  case drained => rintro (isDrained | isDrained) <;> cases isDrained
  case finished => exact nofun

/-! ## Nothing is left -/

/-- The sessions of the pool are among what the goroutines hold. -/
theorem pooled_sublist {maintainers : List Maintainer}
    (keeps : ∀ maintainer ∈ maintainers, maintainer.KeepsSession) :
    (maintainers.filterMap (·.pooled)).Sublist (maintainers.flatMap (·.handles)) := by
  induction maintainers with
  | nil => exact List.Sublist.refl _
  | cons head tail inductionHypothesis =>
    obtain ⟨headKeeps, tailKeeps⟩ := List.forall_mem_cons.mp keeps
    have rest := inductionHypothesis tailKeeps
    rw [List.filterMap_cons, List.flatMap_cons]
    cases isPooled : head.pooled with
    | none => exact rest.trans (List.sublist_append_right ..)
    | some session =>
      have isSession : head.session = some session := by
        cases head <;> first | exact isPooled | cases isPooled
      have isHeld : session ∈ head.handles :=
        List.mem_map_of_mem (headKeeps session isSession)
      exact (List.singleton_sublist.mpr isHeld).append rest

theorem nothing_held {maintainers : List Maintainer}
    (allReturned : ∀ maintainer ∈ maintainers, maintainer = .returned) :
    maintainers.flatMap (·.handles) = [] ∧ maintainers.filterMap (·.pooled) = [] ∧
      (maintainers.map (·.relays)).sum = 0 := by
  rw [List.eq_replicate_of_mem allReturned]
  simp [Maintainer.handles, Maintainer.cleanupFns, Maintainer.pooled, Maintainer.relays]

/-- The sessions in the pool are those that a goroutine has put there and not yet taken out, each
    of them once.  Whatever has been acquired is held by one goroutine or has been closed once, and
    `connectedStreams` counts the relays that are held.  Once `runTCPMode` has returned, the pool
    is empty and everything is closed. -/
theorem tcp_mode_leaves_nothing (sessionCount : Int)
    (reached : (tcpMode udp).Reachable (· = .start sessionCount) state) :
    state.pool.sessions.Nodup ∧
    state.pool.sessions.Perm (state.maintainers.filterMap (·.pooled)) ∧
    (∀ handle < state.nextHandle,
      (state.maintainers.flatMap (·.handles)).count handle + state.closes handle = 1) ∧
    state.connectedStreams = (state.maintainers.map (·.relays)).sum ∧
    (state.main = .returned → state.pool.sessions = [] ∧ state.connectedStreams = 0 ∧
      (∀ handle < state.nextHandle, state.closes handle = 1) ∧
      ∀ conn ∈ state.accepted, conn = .closed) := by
  have inv : TcpModeInv state := by
    refine reached.invariant (fun state isStart => ?_) fun _ _ _ inv _ stepped =>
      tcpMode_inv inv stepped
    exact isStart ▸ start_inv sessionCount
  have distinct := inv.accounted.nodup.sublist (pooled_sublist inv.keepsSession)
  refine ⟨inv.pooled.nodup_iff.mpr distinct, inv.pooled, inv.accounted.once, inv.relays,
    fun isReturned => ?_⟩
  obtain ⟨noHandles, noSessions, noRelays⟩ := nothing_held (inv.finished isReturned)
  have accounted := inv.accounted
  rw [noHandles] at accounted
  refine ⟨?_, ?_, fun handle => accounted.closed_once, inv.drained (.inr isReturned)⟩
  · exact (noSessions ▸ inv.pooled).eq_nil
  · rw [inv.relays, noRelays]
    rfl

/-- One goroutine sets up a direct session, which is closed again when `ctx` is cancelled. -/
def oneSession : List TcpModeLabel :=
  List.flatten [[.wakes 0, .begins 0], List.replicate 8 (.succeeds 0),
    [.checksSkip 0, .negotiates 0 (.ok .directSmux), .succeeds 0, .adds 0, .accept, .picks 0,
      .checks 0, .cancel, .stops 0, .removes 0], List.replicate 5 (.cleans 0),
    [.cleaned 0, .acceptFails, .finishes 0, .drained, .drained]]

theorem tcp_mode_leaves_nothing_session :
    ∃ state, (tcpMode true).run (.start 1) oneSession = some state ∧ state.main = .returned ∧
      state.nextHandle = 5 ∧ state.picked = [4] ∧ state.pool.sessions = [] ∧
      ∀ handle < state.nextHandle, state.closes handle = 1 := by
  have ends : ((tcpMode true).run (.start 1) oneSession).map
      (fun state => (state.main, state.nextHandle, state.picked)) = some (.returned, 5, [4]) := by
    decide
  obtain ⟨state, ran, shown⟩ := Option.map_eq_some_iff.mp ends
  obtain ⟨isReturned, handles, picked⟩ : state.main = .returned ∧ state.nextHandle = 5 ∧
      state.picked = [4] := by simpa using shown
  obtain ⟨-, -, -, -, closed⟩ := tcp_mode_leaves_nothing 1
    (Machine.Reachable.run (.start rfl) ran)
  exact ⟨state, ran, isReturned, handles, picked, (closed isReturned).1, (closed isReturned).2.2.1⟩

/-! ## Sessions take turns -/

/-- The step neither puts a session into the pool nor takes one out. -/
def TcpModeLabel.keepsPool : TcpModeLabel → Bool
  | .adds _ => false
  | .removes _ => false
  | _ => true

/-- The sessions that follow a reading of the counter. -/
def TcpSessionPool.upcoming (pool : TcpSessionPool) (count : Nat) : List Nat :=
  (List.range count).map fun offset =>
    pool.sessions.getD (cyclic (pool.counter.toNat + 1) pool.sessions.length offset) 0

/-- `count` sessions were picked one after the other. -/
structure PicksInTurn (state next : TcpModeState) (count : Nat) : Prop where
  sessions : next.pool.sessions = state.pool.sessions
  counter : next.pool.counter.toNat = state.pool.counter.toNat + count
  picked : next.picked = state.picked ++ state.pool.upcoming count
  filled : state.pool.sessions = [] → count = 0

theorem PicksInTurn.start : PicksInTurn state state 0 :=
  ⟨rfl, rfl, (List.append_nil _).symm, fun _ => rfl⟩

theorem create_keepsPool
    (stepped : state.create udp index stage cleanupFns label = some next) :
    next.pool = state.pool ∧ next.picked = state.picked := by
  unfold TcpModeState.create at stepped
  split at stepped
  case h_1 =>
    split at stepped <;> cases stepped
    cases stage <;> exact ⟨rfl, rfl⟩
  case h_5 =>
    split at stepped
    · split at stepped
      · cases stepped
        exact ⟨rfl, rfl⟩
      · split at stepped <;> cases stepped <;> exact ⟨rfl, rfl⟩
    · cases stepped
  case h_6 => cases stepped
  all_goals
    split at stepped <;> cases stepped
    exact ⟨rfl, rfl⟩

theorem maintain_keepsPool (keeps : label.keepsPool = true)
    (stepped : state.maintain udp index old label = some next) :
    next.pool = state.pool ∧ next.picked = state.picked := by
  unfold TcpModeState.maintain at stepped
  split at stepped
  case h_5 => exact create_keepsPool stepped
  case h_6 | h_9 => cases keeps
  all_goals
    first
    | split at stepped <;> cases stepped
    | cases stepped
  all_goals exact ⟨rfl, rfl⟩

theorem proceed_keepsPool (stepped : state.proceed label = some next) :
    next.pool = state.pool ∧ next.picked = state.picked := by
  unfold TcpModeState.proceed at stepped
  split at stepped
  case h_4 =>
    cases stepped
    split <;> exact ⟨rfl, rfl⟩
  all_goals
    first
    | split at stepped <;> cases stepped
    | cases stepped
  all_goals exact ⟨rfl, rfl⟩

variable {count : Nat} {earlier : TcpModeState}

theorem PicksInTurn.same (turns : PicksInTurn earlier state count)
    (kept : next.pool = state.pool ∧ next.picked = state.picked) :
    PicksInTurn earlier next count :=
  ⟨kept.1 ▸ turns.sessions, kept.1 ▸ turns.counter, kept.2 ▸ turns.picked, turns.filled⟩

/-- Where the counter does not wrap around, a pick gives the session whose turn it is. -/
theorem PicksInTurn.pick (turns : PicksInTurn earlier state count) {session : Nat}
    {pool : TcpSessionPool} (picks : state.pool.pick = (pool, some session))
    (noWrap : earlier.pool.counter.toNat + count + 1 < 2 ^ 64) (conn : LocalConn) :
    PicksInTurn earlier ({ state with pool, picked := state.picked ++ [session] }.setConn index conn)
      (count + 1) := by
  unfold TcpSessionPool.pick at picks
  split at picks
  · cases picks
  · rename_i filled
    obtain ⟨rfl, isSession⟩ := Prod.mk.inj picks
    have counts : (state.pool.counter + 1).toNat = earlier.pool.counter.toNat + (count + 1) := by
      have small : earlier.pool.counter.toNat + count < 2 ^ 64 := by omega
      rw [UInt64.toNat_add, turns.counter]
      exact Nat.mod_eq_of_lt (by simpa [Nat.add_assoc] using noWrap)
    refine ⟨turns.sessions, counts, ?_, fun empty => ?_⟩
    swap
    · rw [turns.sessions, empty] at filled
      exact absurd rfl filled
    have inTurn : session = earlier.pool.sessions.getD
        (cyclic (earlier.pool.counter.toNat + 1) earlier.pool.sessions.length count) 0 := by
      rw [turns.sessions, counts] at isSession
      rw [cyclic, Nat.add_right_comm, Nat.add_assoc, List.getD_eq_getElem?_getD, isSession]
      rfl
    show state.picked ++ [session] = _
    rw [turns.picked, TcpSessionPool.upcoming, TcpSessionPool.upcoming, List.range_succ,
      List.map_append, List.append_assoc, inTurn]
    rfl

theorem pick_none {pool pool' : TcpSessionPool} (picks : pool.pick = (pool', none)) :
    pool' = pool := by
  unfold TcpSessionPool.pick at picks
  split at picks
  · exact (Prod.mk.inj picks).1.symm
  · rename_i filled
    have inRange := Nat.mod_lt (pool.counter + 1).toNat (Nat.pos_of_ne_zero filled)
    have isNone := (Prod.mk.inj picks).2
    rw [List.getElem?_eq_getElem inRange] at isNone
    cases isNone

theorem PicksInTurn.step (turns : PicksInTurn earlier state count)
    (keeps : label.keepsPool = true) (noWrap : earlier.pool.counter.toNat + count + 1 < 2 ^ 64)
    (stepped : (tcpMode udp).step state label = some next) :
    PicksInTurn earlier next count ∨ PicksInTurn earlier next (count + 1) := by
  simp only [tcpMode] at stepped
  split at stepped
  · obtain ⟨maintainer, -, stepped⟩ := Option.bind_eq_some_iff.mp stepped
    exact .inl (turns.same (maintain_keepsPool keeps stepped))
  · obtain ⟨conn, -, stepped⟩ := Option.bind_eq_some_iff.mp stepped
    unfold TcpModeState.serve at stepped
    split at stepped
    case h_1 =>
      split at stepped
      · rename_i picks
        cases stepped
        exact .inr (turns.pick picks noWrap _)
      · rename_i picks
        cases stepped
        exact .inl (turns.same ⟨pick_none picks, rfl⟩)
    case h_4 =>
      split at stepped <;> cases stepped
      exact .inl (turns.same ⟨rfl, rfl⟩)
    case h_6 => cases stepped
    all_goals
      cases stepped
      exact .inl (turns.same ⟨rfl, rfl⟩)
  · exact .inl (turns.same (proceed_keepsPool stepped))

theorem picksInTurn_run {labels : List TcpModeLabel} (turns : PicksInTurn earlier state count)
    (undisturbed : ∀ label ∈ labels, label.keepsPool = true)
    (noWrap : earlier.pool.counter.toNat + count + labels.length < 2 ^ 64)
    (ran : (tcpMode udp).run state labels = some next) :
    ∃ total, PicksInTurn earlier next total := by
  induction labels generalizing state count with
  | nil =>
    cases ran
    exact ⟨count, turns⟩
  | cons label labels inductionHypothesis =>
    obtain ⟨keeps, undisturbed⟩ := List.forall_mem_cons.mp undisturbed
    obtain ⟨middle, stepped, ran⟩ := Option.bind_eq_some_iff.mp ran
    rw [List.length_cons] at noWrap
    rcases turns.step keeps (by omega) stepped with turns | turns
    · exact inductionHypothesis turns undisturbed (by omega) ran
    · exact inductionHypothesis turns undisturbed (by omega) ran

theorem upcoming_mem {pool : TcpSessionPool} (filled : pool.sessions = [] → count = 0) :
    ∀ session ∈ pool.upcoming count, session ∈ pool.sessions := by
  intro session isUpcoming
  obtain ⟨offset, inRange, rfl⟩ := List.mem_map.mp isUpcoming
  have positive : 0 < pool.sessions.length := by
    rw [List.length_pos_iff]
    intro empty
    rw [filled empty] at inRange
    cases inRange
  have small : cyclic (pool.counter.toNat + 1) pool.sessions.length offset < pool.sessions.length :=
    cyclic_lt positive
  rw [List.getD_eq_getElem?_getD, List.getElem?_eq_getElem small]
  exact List.getElem_mem small

/-- How often an entry comes up is how often its place comes up. -/
theorem count_getD {items positions : List Nat} (distinct : items.Nodup) {position : Nat}
    (small : position < items.length) (inRange : ∀ other ∈ positions, other < items.length) :
    (positions.map (items.getD · 0)).count items[position] = positions.count position := by
  rw [List.count_eq_countP, List.countP_map, List.count_eq_countP]
  refine List.countP_congr fun other member => ?_
  have otherSmall := inRange other member
  simp only [Function.comp_apply, beq_iff_eq, List.getD_eq_getElem?_getD,
    List.getElem?_eq_getElem otherSmall, Option.getD_some]
  exact distinct.getElem_inj_iff

/-- As long as no session comes or goes, the sessions that are picked are sessions of the pool, and
    each of them is picked as often as any other, or once more. -/
theorem tcp_sessions_take_turns {labels : List TcpModeLabel} (sessionCount : Int)
    (reached : (tcpMode udp).Reachable (· = .start sessionCount) state)
    (undisturbed : ∀ label ∈ labels, label.keepsPool = true)
    (noWrap : state.pool.counter.toNat + labels.length < 2 ^ 64)
    (ran : (tcpMode udp).run state labels = some next) :
    ∃ picks, next.picked = state.picked ++ picks ∧
      (∀ session ∈ picks, session ∈ state.pool.sessions) ∧
      ∀ first ∈ state.pool.sessions, ∀ second ∈ state.pool.sessions,
        picks.count first ≤ picks.count second + 1 := by
  obtain ⟨total, turns⟩ := picksInTurn_run .start undisturbed (by simpa using noWrap) ran
  have inv : TcpModeInv state := by
    refine reached.invariant (fun state isStart => ?_) fun _ _ _ inv _ stepped =>
      tcpMode_inv inv stepped
    exact isStart ▸ start_inv sessionCount
  have distinct : state.pool.sessions.Nodup := inv.pooled.nodup_iff.mpr
    (inv.accounted.nodup.sublist (pooled_sublist inv.keepsSession))
  refine ⟨_, turns.picked, upcoming_mem turns.filled, fun first isFirst second isSecond => ?_⟩
  obtain ⟨firstAt, firstSmall, rfl⟩ := List.mem_iff_getElem.mp isFirst
  obtain ⟨secondAt, secondSmall, rfl⟩ := List.mem_iff_getElem.mp isSecond
  have places : state.pool.upcoming total = ((List.range total).map
      (cyclic (state.pool.counter.toNat + 1) state.pool.sessions.length)).map
        (state.pool.sessions.getD · 0) := by
    rw [List.map_map]
    rfl
  have inRange : ∀ other ∈ (List.range total).map
      (cyclic (state.pool.counter.toNat + 1) state.pool.sessions.length),
      other < state.pool.sessions.length := by
    intro other member
    obtain ⟨offset, _, rfl⟩ := List.mem_map.mp member
    exact cyclic_lt (Nat.zero_lt_of_lt firstSmall)
  rw [places, count_getD distinct firstSmall inRange, count_getD distinct secondSmall inRange]
  exact count_cyclic_le firstSmall secondSmall

/-- A goroutine puts a direct session into the pool. -/
def setsUp (index : Nat) : List TcpModeLabel :=
  List.flatten [[.wakes index, .begins index], List.replicate 8 (.succeeds index),
    [.checksSkip index, .negotiates index (.ok .directSmux), .succeeds index, .adds index]]

/-- Two of them have done so, and three connections wait for one. -/
def twoSessions : List TcpModeLabel :=
  List.flatten [setsUp 0, setsUp 1, List.replicate 3 .accept]

theorem tcp_sessions_take_turns_three :
    ∃ state next picks, (tcpMode true).run (.start 2) twoSessions = some state ∧
      (tcpMode true).run state [.picks 0, .picks 1, .picks 2] = some next ∧
      state.pool.sessions = [4, 9] ∧ next.picked = [9, 4, 9] ∧ next.picked = state.picked ++ picks ∧
      picks.count 9 ≤ picks.count 4 + 1 := by
  have begins : ((tcpMode true).run (.start 2) twoSessions).map
      (fun state => (state.pool, state.picked,
        ((tcpMode true).run state [.picks 0, .picks 1, .picks 2]).map (·.picked))) =
      some (⟨[4, 9], 0⟩, [], some [9, 4, 9]) := by
    decide
  obtain ⟨state, ran, shown⟩ := Option.map_eq_some_iff.mp begins
  obtain ⟨pool, picked, shown⟩ : state.pool = ⟨[4, 9], 0⟩ ∧ state.picked = [] ∧
      ((tcpMode true).run state [.picks 0, .picks 1, .picks 2]).map (·.picked) =
        some [9, 4, 9] := by
    simpa using shown
  obtain ⟨next, ranOn, isPicked⟩ := Option.map_eq_some_iff.mp shown
  obtain ⟨picks, follows, -, fair⟩ := tcp_sessions_take_turns 2
    (Machine.Reachable.run (.start rfl) ran) (by decide) (by rw [pool]; decide) ranOn
  exact ⟨state, next, picks, ran, ranOn, by rw [pool], isPicked, follows,
    fair 9 (by simp [pool]) 4 (by simp [pool])⟩

end VkTurn.Client
