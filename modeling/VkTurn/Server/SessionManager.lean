import Mathlib.Logic.Function.Basic
import VkTurn.Transition.Machine
import VkTurn.Server.UserSession

/-! # The registry of mu sessions

Every DTLS connection in mu mode is served by one call of `runMuStream`, which fetches the
session of its session id (`GetOrCreate`), dials the backend, adds its connection
(`AddConn`) and, when it ends, removes it again (`RemoveConn`), cleaning the session up when
that leaves it empty.  `SessionManager.Lock`, `UserSession.Lock` and `cleanupOnce` make the
steps below atomic; nothing makes two of them atomic together, so the runs of `registry` are
the interleavings of any number of calls.

Sessions live on a heap and are named by `SessionRef`, so that a session that was removed
from `Sessions` can still be held by a call that fetched it earlier.
-/

namespace VkTurn.Server

open VkTurn.Transition

/-- A `*UserSession`. -/
abbrev SessionRef := Nat

/-- One call of `runMuStream`, and the connection it serves. -/
abbrev CallId := Nat

/-- What `runMuStream` reads from the hello and the connection before the first lock. -/
structure MuRequest where
  sessionID : String
  streamID : UInt8
  streamKey : String
  clientIP : String
  deriving DecidableEq

/-- `sync.Once`. -/
inductive Once where
  | fresh
  | running
  | done
  deriving DecidableEq

structure UserSession where
  id : String
  conns : List (StreamEntry CallId)
  cancelled : Bool
  cleanupOnce : Once
  deriving DecidableEq

/-- Where a call of `runMuStream` stands; the session is the pointer it holds. -/
inductive Phase where
  | start
  /-- `GetOrCreate` returned, `net.Dial` did not. -/
  | fetched (session : SessionRef)
  | dialed (session : SessionRef)
  /-- `AddConn` returned; the two copy loops run. -/
  | serving (session : SessionRef)
  /-- `RemoveConn` released the lock after finding the list empty. -/
  | leaving (session : SessionRef)
  /-- Inside `cleanupOnce.Do`, after `Cancel`. -/
  | unregistering (session : SessionRef)
  /-- Inside `cleanupOnce.Do`, after the delete from `Sessions`. -/
  | closing (session : SessionRef)
  | finished
  deriving DecidableEq

/-- The session a call holds a pointer to. -/
def Phase.session? : Phase → Option SessionRef
  | .start | .finished => none
  | .fetched session | .dialed session | .serving session | .leaving session
  | .unregistering session | .closing session => some session

inductive CloseCause where
  /-- `AddConn` of another call took the stream id over. -/
  | replacedBy (call : CallId)
  /-- The `Cleanup` that another call ran closed every entry. -/
  | cleanupBy (call : CallId)
  deriving DecidableEq

structure Registry where
  allocated : Nat
  heap : SessionRef → UserSession
  sessions : String → Option SessionRef
  phase : CallId → Phase
  /-- The `Close` calls on connections so far, other than a handler's own. -/
  closed : List (CallId × CloseCause)

/-- The process right after start: no session, no call under way. -/
def Registry.empty : Registry where
  allocated := 0
  heap := fun _ => ⟨"", [], false, .fresh⟩
  sessions := fun _ => none
  phase := fun _ => .start
  closed := []

inductive Action where
  | getOrCreate
  | dial (succeeds : Bool)
  | addConn
  | removeConn
  | cleanup
  | unregister
  | closeConns
  deriving DecidableEq

structure Label where
  call : CallId
  action : Action
  deriving DecidableEq

/-! ## The atomic steps -/

section Steps

variable (request : CallId → MuRequest)

def Registry.setPhase (state : Registry) (call : CallId) (phase : Phase) : Registry :=
  { state with phase := Function.update state.phase call phase }

/-- `SessionManager.GetOrCreate`, under `SessionManager.Lock`. -/
def getOrCreate (state : Registry) (call : CallId) : Registry :=
  match state.sessions (request call).sessionID with
  | some session => state.setPhase call (.fetched session)
  | none =>
    let session := state.allocated
    { state.setPhase call (.fetched session) with
      allocated := session + 1
      heap := Function.update state.heap session ⟨(request call).sessionID, [], false, .fresh⟩
      sessions := Function.update state.sessions (request call).sessionID (some session) }

/-- The entry `runMuStream` hands to `AddConn`. -/
def MuRequest.entry (request : MuRequest) (call : CallId) : StreamEntry CallId :=
  ⟨request.streamID, request.streamKey, request.clientIP, call⟩

/-- `UserSession.AddConn`, under `UserSession.Lock`. -/
def addConnStep (state : Registry) (call : CallId) (session : SessionRef) : Registry :=
  let (conns, replaced) := addConn ((request call).entry call) (state.heap session).conns
  { state.setPhase call (.serving session) with
    heap := Function.update state.heap session { state.heap session with conns := conns }
    closed := state.closed ++ (replaced.map fun conn => (conn, .replacedBy call)).toList }

/-- The locked part of `UserSession.RemoveConn`; `Cleanup` is called after the unlock. -/
def removeConnStep (state : Registry) (call : CallId) (session : SessionRef) : Registry :=
  let conns := removeConn (request call).streamID call (state.heap session).conns
  { state.setPhase call (if conns = [] then .leaving session else .finished) with
    heap := Function.update state.heap session { state.heap session with conns := conns } }

/-- Entry of `cleanupOnce.Do`: the first caller cancels the session context and goes on, a
    later one returns at once, and one that comes while the first is inside waits. -/
def cleanup (state : Registry) (call : CallId) (session : SessionRef) : Option Registry :=
  match (state.heap session).cleanupOnce with
  | .done => some (state.setPhase call .finished)
  | .running => none
  | .fresh => some
    { state.setPhase call (.unregistering session) with
      heap := Function.update state.heap session
        { state.heap session with cancelled := true, cleanupOnce := .running } }

/-- `delete(s.Manager.Sessions, s.ID)`, under `SessionManager.Lock`. -/
def unregister (state : Registry) (call : CallId) (session : SessionRef) : Registry :=
  { state.setPhase call (.closing session) with
    sessions := Function.update state.sessions (state.heap session).id none }

/-- The closing of all entries, under `UserSession.Lock`. -/
def closeConns (state : Registry) (call : CallId) (session : SessionRef) : Registry :=
  { state.setPhase call .finished with
    heap := Function.update state.heap session
      { state.heap session with conns := [], cleanupOnce := .done }
    closed := state.closed ++
      (state.heap session).conns.map fun entry => (entry.conn, .cleanupBy call) }

def registryStep (state : Registry) (label : Label) : Option Registry :=
  match label.action, state.phase label.call with
  | .getOrCreate, .start => some (getOrCreate request state label.call)
  | .dial true, .fetched session => some (state.setPhase label.call (.dialed session))
  -- runMuStream returns the dial error and leaves the session as it is
  | .dial false, .fetched _ => some (state.setPhase label.call .finished)
  | .addConn, .dialed session => some (addConnStep request state label.call session)
  | .removeConn, .serving session => some (removeConnStep request state label.call session)
  | .cleanup, .leaving session => cleanup state label.call session
  | .unregister, .unregistering session => some (unregister state label.call session)
  | .closeConns, .closing session => some (closeConns state label.call session)
  | _, _ => none

def registry : Machine Registry Label := ⟨registryStep request⟩

/-- Everything a step can do. -/
inductive Fires (state : Registry) (call : CallId) : Action → Registry → Prop
  | getOrCreate : state.phase call = .start →
      Fires state call .getOrCreate (getOrCreate request state call)
  | dialed {session : SessionRef} : state.phase call = .fetched session →
      Fires state call (.dial true) (state.setPhase call (.dialed session))
  | dialFailed {session : SessionRef} : state.phase call = .fetched session →
      Fires state call (.dial false) (state.setPhase call .finished)
  | addConn {session : SessionRef} : state.phase call = .dialed session →
      Fires state call .addConn (addConnStep request state call session)
  | removeConn {session : SessionRef} : state.phase call = .serving session →
      Fires state call .removeConn (removeConnStep request state call session)
  | cleanupDone {session : SessionRef} : state.phase call = .leaving session →
      (state.heap session).cleanupOnce = .done →
      Fires state call .cleanup (state.setPhase call .finished)
  | cleanup {session : SessionRef} {next : Registry} : state.phase call = .leaving session →
      (state.heap session).cleanupOnce = .fresh → cleanup state call session = some next →
      Fires state call .cleanup next
  | unregister {session : SessionRef} : state.phase call = .unregistering session →
      Fires state call .unregister (unregister state call session)
  | closeConns {session : SessionRef} : state.phase call = .closing session →
      Fires state call .closeConns (closeConns state call session)

variable {request} {state next : Registry} {label : Label}

theorem registryStep_fires (stepped : registryStep request state label = some next) :
    Fires request state label.call label.action next := by
  obtain ⟨call, action⟩ := label
  cases action with
  | getOrCreate =>
    cases held : state.phase call <;> simp [registryStep, held] at stepped
    exact stepped ▸ .getOrCreate held
  | dial succeeds =>
    cases succeeds <;> cases held : state.phase call <;> simp [registryStep, held] at stepped
    · exact stepped ▸ .dialFailed held
    · exact stepped ▸ .dialed held
  | addConn =>
    cases held : state.phase call <;> simp [registryStep, held] at stepped
    exact stepped ▸ .addConn held
  | removeConn =>
    cases held : state.phase call <;> simp [registryStep, held] at stepped
    exact stepped ▸ .removeConn held
  | cleanup =>
    cases held : state.phase call <;> simp [registryStep, held] at stepped
    rename_i session
    cases once : (state.heap session).cleanupOnce with
    | fresh => exact .cleanup held once stepped
    | running => simp [cleanup, once] at stepped
    | done =>
      simp only [cleanup, once, Option.some.injEq] at stepped
      exact stepped ▸ .cleanupDone held once
  | unregister =>
    cases held : state.phase call <;> simp [registryStep, held] at stepped
    exact stepped ▸ .unregister held
  | closeConns =>
    cases held : state.phase call <;> simp [registryStep, held] at stepped
    exact stepped ▸ .closeConns held

end Steps

end VkTurn.Server
