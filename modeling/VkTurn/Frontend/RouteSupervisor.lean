import Mathlib.Logic.Function.Basic
import VkTurn.Frontend.RouteStatus
import VkTurn.Transition.Machine

/-! # The supervisor of the running routes

`start`, `stop`, `stopAll` and `unregister` run one at a time.  The runners change their statuses
on threads of their own, and the watch of each entry collects them: it sees the latest status
whenever that differs from the last one it saw, publishes it and, when it is a terminal one, calls
`unregister` with the route id.  The runs of `supervisor` are the interleavings of these steps.

An entry is a runner with its watch; it is named by its position in the order of the starts, so
that a watch whose entry was removed can still be told from a later one of the same route.
-/

namespace VkTurn.Frontend

open VkTurn.Transition

/-- What the supervisor uses of a runner. -/
structure Runner (State Start Event : Type) where
  /-- A new runner of the route, when its `start` returns. -/
  start : String → Start → Option State
  status : State → RouteStatus
  stop : State → State
  /-- What `dispose` does after `stop`. -/
  cancel : State → State
  /-- What happens on the runner's own threads. -/
  react : State → Event → Option State

structure Entry (State : Type) where
  routeId : String
  runner : State
  /-- What its watch collected last. -/
  seen : Option RouteStatus := none
  /-- Its watch calls `unregister`. -/
  unregistering : Bool := false
  /-- Ghost: `stop` or `dispose` has been called. -/
  stopped : Bool := false
  /-- Ghost: the runner has had a terminal status. -/
  ended : Bool

/-- One `entries.remove` that found an entry. -/
structure Removal where
  removed : Nat
  /-- The entry whose watch called `unregister`. -/
  caller : Nat
  deriving DecidableEq

structure RouteSupervisor (State : Type) where
  /-- Every entry so far. -/
  started : Nat → Option (Entry State)
  next : Nat
  /-- The map `entries`. -/
  entries : String → Option Nat
  statuses : String → Option RouteStatus
  /-- The call of `unregister` that holds the lock and disposes an entry. -/
  disposing : Option Removal
  /-- Ghost. -/
  removals : List Removal

def RouteSupervisor.empty (State : Type) : RouteSupervisor State where
  started := fun _ => none
  next := 0
  entries := fun _ => none
  statuses := fun _ => none
  disposing := none
  removals := []

inductive SupervisorLabel (Start Event : Type) where
  | start (routeId : String) (how : Start)
  | stop (routeId : String)
  | stopAll
  | react (entry : Nat) (event : Event)
  /-- The watch of the entry collects a status. -/
  | collect (entry : Nat)
  /-- The `unregister` called by the watch of the entry, up to the end of the runner's `stop`. -/
  | unregister (entry : Nat)
  /-- The end of `dispose` and of `unregister`. -/
  | disposed

section Supervisor

variable {State Start Event : Type} (runner : Runner State Start Event)

def Entry.status (entry : Entry State) : RouteStatus := runner.status entry.runner

def Entry.setRunner (entry : Entry State) (changed : State) : Entry State :=
  { entry with
    runner := changed, ended := entry.ended || !(runner.status changed).isRunning }

def Entry.stop (entry : Entry State) : Entry State :=
  { entry.setRunner runner (runner.stop entry.runner) with stopped := true }

namespace RouteSupervisor

def setEntry (state : RouteSupervisor State) (position : Nat) (entry : Entry State) :
    RouteSupervisor State :=
  { state with started := Function.update state.started position (some entry) }

/-- A start of a route that has an entry does nothing. -/
def start (state : RouteSupervisor State) (routeId : String) (how : Start) :
    Option (RouteSupervisor State) :=
  match state.entries routeId with
  | some _ => some state
  | none =>
    (runner.start routeId how).map fun started =>
      { state.setEntry state.next
          { routeId := routeId, runner := started, ended := !(runner.status started).isRunning } with
        next := state.next + 1
        entries := Function.update state.entries routeId (some state.next) }

def stop (state : RouteSupervisor State) (routeId : String) : RouteSupervisor State :=
  match state.entries routeId with
  | none => state
  | some position =>
    match state.started position with
    | none => state
    | some entry => state.setEntry position (entry.stop runner)

def stopAll (state : RouteSupervisor State) : RouteSupervisor State :=
  { state with
    started := fun position => (state.started position).map fun entry =>
      if state.entries entry.routeId = some position then entry.stop runner else entry }

def react (state : RouteSupervisor State) (position : Nat) (event : Event) :
    Option (RouteSupervisor State) :=
  (state.started position).bind fun entry =>
    (runner.react entry.runner event).map fun reacted =>
      state.setEntry position (entry.setRunner runner reacted)

def collect (state : RouteSupervisor State) (position : Nat) : Option (RouteSupervisor State) :=
  match state.started position with
  | none => none
  | some entry =>
    let status := entry.status runner
    if entry.unregistering ∨ entry.seen = some status then none
    else
      some
        { state.setEntry position
            { entry with seen := some status, unregistering := !status.isRunning } with
          statuses := Function.update state.statuses entry.routeId (some status) }

/-- Removes the entry under the route id, whichever it is. -/
def unregister (state : RouteSupervisor State) (caller : Nat) : Option (RouteSupervisor State) :=
  match state.started caller with
  | none => none
  | some entry =>
    if entry.unregistering then
      match state.entries entry.routeId with
      | none => some (state.setEntry caller { entry with unregistering := false })
      | some position =>
        (state.started position).map fun removed =>
          { state.setEntry position (removed.stop runner) with
            entries := Function.update state.entries entry.routeId none
            disposing := some ⟨position, caller⟩
            removals := state.removals ++ [⟨position, caller⟩] }
    else none

def cancelRunner (state : RouteSupervisor State) (position : Nat) : RouteSupervisor State :=
  match state.started position with
  | none => state
  | some entry => state.setEntry position (entry.setRunner runner (runner.cancel entry.runner))

def returnTo (state : RouteSupervisor State) (caller : Nat) : RouteSupervisor State :=
  match state.started caller with
  | none => state
  | some entry => state.setEntry caller { entry with unregistering := false }

end RouteSupervisor

def supervisorStep (state : RouteSupervisor State) :
    SupervisorLabel Start Event → Option (RouteSupervisor State)
  | .start routeId how =>
    if state.disposing.isSome then none else state.start runner routeId how
  | .stop routeId => if state.disposing.isSome then none else some (state.stop runner routeId)
  | .stopAll => if state.disposing.isSome then none else some (state.stopAll runner)
  | .react position event => state.react runner position event
  | .collect position => state.collect runner position
  | .unregister caller => if state.disposing.isSome then none else state.unregister runner caller
  | .disposed =>
    state.disposing.map fun removal =>
      { (state.cancelRunner runner removal.removed).returnTo removal.caller with disposing := none }

def supervisor : Machine (RouteSupervisor State) (SupervisorLabel Start Event) :=
  ⟨supervisorStep runner⟩

end Supervisor

end VkTurn.Frontend
