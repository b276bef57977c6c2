import Mathlib.Data.List.Basic
import VkTurn.Transition.Machine

/-! # The log subscriptions of a route

`Subscribe` looks the route up under `Manager.mu` and puts a channel into the set of subscribers
under `subsMu`.  The pumps send each line to the channels of the set, the cancel function of a
channel takes it out, and the watch goroutine closes all that are left when the child has exited.
Nothing keeps a channel out of the set afterwards: the route stays listed.

A cancel function takes its channel out under `subsMu`, but closes it without.  The runs of
`logSubscriptions` are the interleavings of these steps for one route.
-/

namespace VkTurn.Daemon

open VkTurn.Transition

/-- A channel that a call of `Subscribe` has made. -/
structure LogChannel where
  buffer : List String := []
  closed : Bool := false
  /-- It is in the set, or was; `Subscribe` returns it. -/
  added : Bool := false
  /-- How many calls of its cancel function have taken it out. -/
  cancels : Nat := 0
  /-- How many of them are about to close it. -/
  closing : Nat := 0
  /-- Ghost: how often it was closed. -/
  closes : Nat := 0
  /-- Ghost: how often a `close` found it closed, and the panic was recovered. -/
  recovered : Nat := 0
  deriving DecidableEq

/-- Who holds `subsMu` over several steps. -/
inductive SubsHolder where
  /-- A pump, with its line and the channels that are still to get it. -/
  | pump (line : String) (remaining : List Nat)
  | watch
  deriving DecidableEq

inductive WatchPhase where
  /-- In `cmd.Wait`. -/
  | waiting
  /-- It holds both locks. -/
  | closing
  | finished
  deriving DecidableEq

/-- A route with its subscriptions; a channel is named by its position. -/
structure LogRoute where
  /-- The manager has the route under its id. -/
  listed : Bool := true
  channels : List LogChannel := []
  subs : List Nat := []
  subsMu : Option SubsHolder := none
  watch : WatchPhase := .waiting
  /-- Ghost: the channels that a pump has found closed. -/
  panics : List Nat := []
  deriving DecidableEq

inductive LogLabel where
  /-- `Subscribe` finds the route and makes a channel. -/
  | lookup
  /-- `Subscribe` puts its channel into the set. -/
  | add (channel : Nat)
  /-- A reader takes a line. -/
  | receive (channel : Nat)
  /-- The locked part of a cancel function. -/
  | cancel (channel : Nat)
  /-- The `close` of a cancel function. -/
  | close (channel : Nat)
  /-- A pump has a line and takes `subsMu`. -/
  | scan (tag text : String)
  | send (channel : Nat)
  /-- The pump releases `subsMu`. -/
  | scanned
  /-- `cmd.Wait` has returned, and watch takes both locks. -/
  | exited
  | closeNext (channel : Nat)
  /-- Watch releases the locks. -/
  | watched
  /-- `Up`, `Down` or `StopAll` takes the route off the list. -/
  | unlist
  deriving DecidableEq

/-- `close`, with the panic that both callers recover from. -/
def LogChannel.close (channel : LogChannel) : LogChannel :=
  if channel.closed then { channel with recovered := channel.recovered + 1 }
  else { channel with closed := true, closes := channel.closes + 1 }

/-- The `select` of a cancel function: a line that is still there is taken for the end. -/
def LogChannel.cancel (channel : LogChannel) : LogChannel :=
  let channel := { channel with cancels := channel.cancels + 1 }
  match channel.buffer with
  | _ :: rest => { channel with buffer := rest }
  | [] => if channel.closed then channel else { channel with closing := channel.closing + 1 }

/-- The `select` of a pump: a line that finds no place is dropped. -/
def LogChannel.offer (channel : LogChannel) (line : String) : LogChannel :=
  if channel.buffer.length < 256 then { channel with buffer := channel.buffer ++ [line] }
  else channel

namespace LogRoute

def setChannel (state : LogRoute) (index : Nat) (channel : LogChannel) : LogRoute :=
  { state with channels := state.channels.set index channel }

def add (state : LogRoute) (index : Nat) (channel : LogChannel) : LogRoute :=
  { state.setChannel index { channel with added := true } with subs := index :: state.subs }

def cancel (state : LogRoute) (index : Nat) (channel : LogChannel) : LogRoute :=
  { state.setChannel index channel.cancel with subs := state.subs.filter (· ≠ index) }

/-- One round of the loop in a pump. -/
def send (state : LogRoute) (line : String) (remaining : List Nat) (index : Nat)
    (channel : LogChannel) : LogRoute :=
  let state := { state with subsMu := some (.pump line (remaining.filter (· ≠ index))) }
  if channel.closed then { state with panics := state.panics ++ [index] }
  else state.setChannel index (channel.offer line)

/-- One round of the loop in watch. -/
def closeNext (state : LogRoute) (index : Nat) (channel : LogChannel) : LogRoute :=
  { state.setChannel index channel.close with subs := state.subs.filter (· ≠ index) }

end LogRoute

def logStep (state : LogRoute) : LogLabel → Option LogRoute
  | .lookup =>
    if state.listed ∧ state.watch ≠ .closing then
      some { state with channels := state.channels ++ [{}] }
    else none
  | .add index =>
    (state.channels[index]?).bind fun channel =>
      if channel.added = false ∧ state.subsMu = none then some (state.add index channel) else none
  | .receive index =>
    (state.channels[index]?).bind fun channel =>
      match channel.buffer with
      | _ :: rest => some (state.setChannel index { channel with buffer := rest })
      | [] => none
  | .cancel index =>
    (state.channels[index]?).bind fun channel =>
      if channel.added ∧ state.subsMu = none then some (state.cancel index channel) else none
  | .close index =>
    (state.channels[index]?).bind fun channel =>
      if 0 < channel.closing then
        some (state.setChannel index { channel.close with closing := channel.closing - 1 })
      else none
  | .scan tag text =>
    if state.subsMu = none then
      some { state with subsMu := some (.pump ("[" ++ tag ++ "] " ++ text) state.subs) }
    else none
  | .send index =>
    match state.subsMu with
    | some (.pump line remaining) =>
      if index ∈ remaining then
        (state.channels[index]?).map fun channel => state.send line remaining index channel
      else none
    | _ => none
  | .scanned =>
    match state.subsMu with
    | some (.pump _ []) => some { state with subsMu := none }
    | _ => none
  | .exited =>
    if state.watch = .waiting ∧ state.subsMu = none then
      some { state with watch := .closing, subsMu := some .watch }
    else none
  | .closeNext index =>
    if state.watch = .closing ∧ index ∈ state.subs then
      (state.channels[index]?).map fun channel => state.closeNext index channel
    else none
  | .watched =>
    if state.watch = .closing ∧ state.subs = [] then
      some { state with watch := .finished, subsMu := none }
    else none
  | .unlist => if state.watch = .closing then none else some { state with listed := false }

def logSubscriptions : Machine LogRoute LogLabel := ⟨logStep⟩

/-- The route of `Up`, before its goroutines. -/
def NewRoute (state : LogRoute) : Prop := state = {}

/-! ## What a step can do -/

inductive LogStep (state : LogRoute) : LogLabel → LogRoute → Prop
  | lookup : state.listed → state.watch ≠ .closing →
      LogStep state .lookup { state with channels := state.channels ++ [{}] }
  | add {index : Nat} {channel : LogChannel} : state.channels[index]? = some channel →
      channel.added = false → state.subsMu = none →
      LogStep state (.add index) (state.add index channel)
  | receive {index : Nat} {channel : LogChannel} {line : String} {rest : List String} :
      state.channels[index]? = some channel → channel.buffer = line :: rest →
      LogStep state (.receive index) (state.setChannel index { channel with buffer := rest })
  | cancel {index : Nat} {channel : LogChannel} : state.channels[index]? = some channel →
      channel.added = true → state.subsMu = none →
      LogStep state (.cancel index) (state.cancel index channel)
  | close {index : Nat} {channel : LogChannel} : state.channels[index]? = some channel →
      0 < channel.closing → LogStep state (.close index)
        (state.setChannel index { channel.close with closing := channel.closing - 1 })
  | scan {tag text : String} : state.subsMu = none → LogStep state (.scan tag text)
      { state with subsMu := some (.pump ("[" ++ tag ++ "] " ++ text) state.subs) }
  | send {index : Nat} {channel : LogChannel} {line : String} {remaining : List Nat} :
      state.subsMu = some (.pump line remaining) → index ∈ remaining →
      state.channels[index]? = some channel →
      LogStep state (.send index) (state.send line remaining index channel)
  | scanned {line : String} : state.subsMu = some (.pump line []) →
      LogStep state .scanned { state with subsMu := none }
  | exited : state.watch = .waiting → state.subsMu = none →
      LogStep state .exited { state with watch := .closing, subsMu := some .watch }
  | closeNext {index : Nat} {channel : LogChannel} : state.watch = .closing →
      index ∈ state.subs → state.channels[index]? = some channel →
      LogStep state (.closeNext index) (state.closeNext index channel)
  | watched : state.watch = .closing → state.subs = [] →
      LogStep state .watched { state with watch := .finished, subsMu := none }
  | unlist : state.watch ≠ .closing → LogStep state .unlist { state with listed := false }

theorem logStep_inv {state next : LogRoute} {label : LogLabel}
    (stepped : logSubscriptions.step state label = some next) : LogStep state label next := by
  cases label with
  | lookup =>
    obtain ⟨⟨isListed, notClosing⟩, stepped⟩ := Option.ite_none_right_eq_some.mp stepped
    cases stepped
    exact .lookup isListed notClosing
  | add index =>
    obtain ⟨channel, isChannel, stepped⟩ := Option.bind_eq_some_iff.mp stepped
    obtain ⟨⟨isNew, isFree⟩, stepped⟩ := Option.ite_none_right_eq_some.mp stepped
    cases stepped
    exact .add isChannel isNew isFree
  | receive index =>
    obtain ⟨channel, isChannel, stepped⟩ := Option.bind_eq_some_iff.mp stepped
    split at stepped
    · rename_i isBuffer
      cases stepped
      exact .receive isChannel isBuffer
    · cases stepped
  | cancel index =>
    obtain ⟨channel, isChannel, stepped⟩ := Option.bind_eq_some_iff.mp stepped
    obtain ⟨⟨isAdded, isFree⟩, stepped⟩ := Option.ite_none_right_eq_some.mp stepped
    cases stepped
    exact .cancel isChannel isAdded isFree
  | close index =>
    obtain ⟨channel, isChannel, stepped⟩ := Option.bind_eq_some_iff.mp stepped
    obtain ⟨isClosing, stepped⟩ := Option.ite_none_right_eq_some.mp stepped
    cases stepped
    exact .close isChannel isClosing
  | scan tag text =>
    obtain ⟨isFree, stepped⟩ := Option.ite_none_right_eq_some.mp stepped
    cases stepped
    exact .scan isFree
  | send index =>
    simp only [logSubscriptions, logStep] at stepped
    split at stepped
    · rename_i line remaining isHeld
      obtain ⟨isRemaining, stepped⟩ := Option.ite_none_right_eq_some.mp stepped
      obtain ⟨channel, isChannel, rfl⟩ := Option.map_eq_some_iff.mp stepped
      exact .send isHeld isRemaining isChannel
    · cases stepped
  | scanned =>
    simp only [logSubscriptions, logStep] at stepped
    split at stepped
    · rename_i isHeld
      cases stepped
      exact .scanned isHeld
    · cases stepped
  | exited =>
    obtain ⟨⟨isWaiting, isFree⟩, stepped⟩ := Option.ite_none_right_eq_some.mp stepped
    cases stepped
    exact .exited isWaiting isFree
  | closeNext index =>
    obtain ⟨⟨isClosing, isSub⟩, stepped⟩ := Option.ite_none_right_eq_some.mp stepped
    obtain ⟨channel, isChannel, rfl⟩ := Option.map_eq_some_iff.mp stepped
    exact .closeNext isClosing isSub isChannel
  | watched =>
    obtain ⟨⟨isClosing, noSubs⟩, stepped⟩ := Option.ite_none_right_eq_some.mp stepped
    cases stepped
    exact .watched isClosing noSubs
  | unlist =>
    simp only [logSubscriptions, logStep] at stepped
    split at stepped
    · cases stepped
    · rename_i notClosing
      cases stepped
      exact .unlist notClosing

end VkTurn.Daemon
