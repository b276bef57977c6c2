import Mathlib.Data.List.Count
import Mathlib.Logic.Function.Basic
import VkTurn.Transition.Machine

/-! # The WebSocket hub

The hub's loop takes registrations, unregistrations and messages from three channels.  It sends a
message through workers and waits for them, and a worker that meets a full send buffer asks for
unregistration on a channel that only the loop drains.

What the loop does between two channel operations is one step: the mutex is never held across one.
Messages to a topic are sent by whoever asks, so they appear as steps on a send buffer and as
unregistrations from outside.
-/

namespace VkTurn.Panel

open VkTurn.Transition

/-! ## The hub and its clients -/

abbrev HubClient := Nat

/-- A client's `Send` channel. -/
structure SendBuffer (Message : Type) where
  messages : List Message := []
  closed : Bool := false

/-- A goroutine of `broadcastParallel`.  `ready` is before the next client of `clientChan`. -/
inductive BroadcastWorker where
  | ready
  | sending (client : HubClient)
  | unregistering (client : HubClient)
  | finished
  deriving DecidableEq

def BroadcastWorker.waits : BroadcastWorker → Bool
  | unregistering _ => true
  | _ => false

inductive HubLoop (Message : Type) where
  | selecting
  /-- In `wg.Wait()`. -/
  | waiting (message : Message) (clientChan : List HubClient) (workers : List BroadcastWorker)
  | stopped

structure Hub (Message : Type) where
  clients : List HubClient := []
  register : List HubClient := []
  unregister : List HubClient := []
  broadcast : List Message := []
  cancelled : Bool := false
  send : HubClient → SendBuffer Message := fun _ => {}
  loop : HubLoop Message := .selecting

def registerCapacity : Nat := 100
def unregisterCapacity : Nat := 100
def broadcastCapacity : Nat := 2048
def sendCapacity : Nat := 512

/-- `runtime.NumCPU() * 2`, between 10 and 100. -/
def workerPoolSize (numCPU : Nat) : Nat := max 10 (min 100 (numCPU * 2))

variable {Message : Type}

namespace Hub

def setWorker (hub : Hub Message) (message : Message) (clientChan : List HubClient)
    (workers : List BroadcastWorker) (i : Nat) (worker : BroadcastWorker) : Hub Message :=
  { hub with loop := .waiting message clientChan (workers.set i worker) }

def setBuffer (hub : Hub Message) (client : HubClient) (buffer : SendBuffer Message) :
    Hub Message :=
  { hub with send := Function.update hub.send client buffer }

/-- `close(client.Send)`, once. -/
def close (hub : Hub Message) (client : HubClient) : Hub Message :=
  hub.setBuffer client ⟨(hub.send client).messages, true⟩

/-- A message is put into a buffer. -/
def push (hub : Hub Message) (client : HubClient) (message : Message) : Hub Message :=
  hub.setBuffer client ⟨(hub.send client).messages ++ [message], (hub.send client).closed⟩

def full (hub : Hub Message) (client : HubClient) : Bool :=
  sendCapacity ≤ (hub.send client).messages.length

/-- `broadcastParallel`: a goroutine for each client, or a pool that shares them. -/
def broadcastParallel (poolSize : Nat) (clients : List HubClient) (message : Message) :
    HubLoop Message :=
  if clients = [] then .selecting
  else if clients.length < poolSize then .waiting message [] (clients.map .sending)
  else .waiting message clients (List.replicate poolSize .ready)

/-- The next step of a worker.  A goroutine of its own for one client finds no other behind it. -/
def workerStep (hub : Hub Message) (message : Message) (clientChan : List HubClient)
    (workers : List BroadcastWorker) (i : Nat) : Option (Hub Message) :=
  match workers[i]? with
  | some .ready =>
    match clientChan with
    | [] => some (hub.setWorker message [] workers i .finished)
    | client :: rest => some (hub.setWorker message rest workers i (.sending client))
  | some (.sending client) =>
    -- a send on a closed channel panics, and the worker recovers
    if (hub.send client).closed then some (hub.setWorker message clientChan workers i .ready)
    else if hub.full client then
      some (hub.setWorker message clientChan workers i (.unregistering client))
    else some ((hub.push client message).setWorker message clientChan workers i .ready)
  | some (.unregistering client) =>
    if hub.unregister.length < unregisterCapacity then
      some ({ hub with unregister := hub.unregister ++ [client] }.setWorker message clientChan
        workers i .ready)
    else none
  | some .finished => none
  | none => none

end Hub

/-! ## Steps -/

inductive HubLabel (Message : Type) where
  /-- Requests from outside, which wait while their channel is full. -/
  | register (client : HubClient)
  | unregister (client : HubClient)
  | broadcast (message : Message)
  | stop
  /-- A topic message is put into a buffer, and `writePump` takes one out. -/
  | sendTopic (client : HubClient) (message : Message)
  | drain (client : HubClient)
  /-- The cases of the loop; a map is gone through in any order. -/
  | takeRegister
  | takeUnregister
  | takeBroadcast (order : List HubClient)
  | takeDone
  | worker (i : Nat)
  /-- A worker's `<-h.ctx.Done()`. -/
  | giveUp (i : Nat)
  /-- `wg.Wait()` returns. -/
  | resume

namespace Hub

def takeRegister (hub : Hub Message) : Option (Hub Message) :=
  match hub.register with
  | [] => none
  | client :: rest => some { hub with
      register := rest
      clients := if client ∈ hub.clients then hub.clients else hub.clients ++ [client] }

def takeUnregister (hub : Hub Message) : Option (Hub Message) :=
  match hub.unregister with
  | [] => none
  | client :: rest =>
    let hub := { hub with unregister := rest }
    if client ∈ hub.clients then
      some { hub.close client with clients := hub.clients.filter (· ≠ client) }
    else some hub

def takeBroadcast (poolSize : Nat) (hub : Hub Message) (order : List HubClient) :
    Option (Hub Message) :=
  match hub.broadcast with
  | [] => none
  | message :: rest =>
    if order.Perm hub.clients then
      some { hub with
        broadcast := rest
        loop := broadcastParallel poolSize order message }
    else none

def takeDone (hub : Hub Message) : Option (Hub Message) :=
  if hub.cancelled then
    some { hub.clients.foldl close hub with clients := [], loop := .stopped }
  else none

/-- A case of the loop's `select`. -/
def select (hub : Hub Message) (next : Option (Hub Message)) : Option (Hub Message) :=
  match hub.loop with
  | .selecting => next
  | _ => none

/-- A step of the goroutines that the loop waits for. -/
def whileWaiting (hub : Hub Message)
    (next : Message → List HubClient → List BroadcastWorker → Option (Hub Message)) :
    Option (Hub Message) :=
  match hub.loop with
  | .waiting message clientChan workers => next message clientChan workers
  | _ => none

def next (poolSize : Nat) (hub : Hub Message) : HubLabel Message → Option (Hub Message)
  | .register client =>
    if hub.register.length < registerCapacity then
      some { hub with register := hub.register ++ [client] }
    else none
  | .unregister client =>
    if hub.unregister.length < unregisterCapacity then
      some { hub with unregister := hub.unregister ++ [client] }
    else none
  | .broadcast message =>
    if hub.broadcast.length < broadcastCapacity then
      some { hub with broadcast := hub.broadcast ++ [message] }
    else none
  | .stop => some { hub with cancelled := true }
  | .sendTopic client message =>
    if (hub.send client).closed ∨ hub.full client then none else some (hub.push client message)
  | .drain client => some <|
      hub.setBuffer client ⟨(hub.send client).messages.tail, (hub.send client).closed⟩
  | .takeRegister => hub.select hub.takeRegister
  | .takeUnregister => hub.select hub.takeUnregister
  | .takeBroadcast order => hub.select (hub.takeBroadcast poolSize order)
  | .takeDone => hub.select hub.takeDone
  | .worker i => hub.whileWaiting fun message clientChan workers =>
      hub.workerStep message clientChan workers i
  | .giveUp i => hub.whileWaiting fun message clientChan workers =>
      match workers[i]? with
      | some (.unregistering _) =>
        if hub.cancelled then some (hub.setWorker message clientChan workers i .ready) else none
      | _ => none
  | .resume => hub.whileWaiting fun _ _ workers =>
      if ∀ worker ∈ workers, worker = .finished then some { hub with loop := .selecting } else none

end Hub

def hubs (poolSize : Nat) : Machine (Hub Message) (HubLabel Message) := ⟨Hub.next poolSize⟩

/-! ## Room for unregistrations -/

namespace Hub

/-- How many workers wait to put a client into the unregister channel. -/
def waitingWorkers (hub : Hub Message) : Nat :=
  match hub.loop with
  | .waiting _ _ workers => workers.countP BroadcastWorker.waits
  | _ => 0

/-- The loop waits for workers that wait for room, which only the loop makes. -/
structure Deadlocked (hub : Hub Message) : Prop where
  running : hub.cancelled = false
  waits : 0 < hub.waitingWorkers
  noRoom : unregisterCapacity ≤ hub.unregister.length

/-- A worker that finds a full buffer, or a request from outside while a worker waits. -/
def asks (hub : Hub Message) : HubLabel Message → Bool
  | .worker i =>
    match hub.loop with
    | .waiting _ _ workers =>
      match workers[i]? with
      | some (.sending client) => !(hub.send client).closed && hub.full client
      | _ => false
    | _ => false
  | .unregister _ => 0 < hub.waitingWorkers
  | _ => false

/-- Until the hub is stopped, whoever asks for an unregistration finds room for it behind those
    that wait for theirs. -/
def RoomToAsk (hub : Hub Message) (label : HubLabel Message) : Prop :=
  hub.cancelled = false → hub.asks label = true →
    hub.unregister.length + hub.waitingWorkers < unregisterCapacity

instance (hub : Hub Message) (label : HubLabel Message) : Decidable (hub.RoomToAsk label) :=
  inferInstanceAs (Decidable (_ → _))

def RoomForWaiting (hub : Hub Message) : Prop :=
  hub.cancelled = false → 0 < hub.waitingWorkers →
    hub.unregister.length + hub.waitingWorkers ≤ unregisterCapacity

end Hub

/-- Any clients with any buffers, before the first request. -/
def HubStart (hub : Hub Message) : Prop := hub.loop = .selecting ∧ hub.cancelled = false

section Steps

variable {hub next : Hub Message} {message : Message} {clientChan : List HubClient}
  {workers : List BroadcastWorker} {i poolSize : Nat} {old worker : BroadcastWorker}

theorem waitingWorkers_waiting (isWaiting : hub.loop = .waiting message clientChan workers) :
    hub.waitingWorkers = workers.countP BroadcastWorker.waits := by
  unfold Hub.waitingWorkers
  rw [isWaiting]

theorem waitingWorkers_selecting (isSelecting : hub.loop = .selecting) :
    hub.waitingWorkers = 0 := by
  unfold Hub.waitingWorkers
  rw [isSelecting]

theorem waitingWorkers_unregister {unregister : List HubClient} :
    ({ hub with unregister } : Hub Message).waitingWorkers = hub.waitingWorkers :=
  rfl

/-- Nobody waits where a broadcast begins. -/
theorem waitingWorkers_begun {clients : List HubClient}
    (begun : hub.loop = Hub.broadcastParallel poolSize clients message) :
    hub.waitingWorkers = 0 := by
  unfold Hub.broadcastParallel at begun
  split at begun
  · exact waitingWorkers_selecting begun
  · split at begun
    · rw [waitingWorkers_waiting begun, List.countP_map]
      exact List.countP_eq_zero.mpr fun client _ => Bool.false_ne_true
    · rw [waitingWorkers_waiting begun, List.countP_replicate]
      rfl

theorem select_eq_some {taken : Option (Hub Message)} :
    hub.select taken = some next ↔ hub.loop = .selecting ∧ taken = some next := by
  unfold Hub.select
  cases hub.loop <;> simp

theorem whileWaiting_eq_some
    {step : Message → List HubClient → List BroadcastWorker → Option (Hub Message)} :
    hub.whileWaiting step = some next ↔ ∃ message clientChan workers,
      hub.loop = .waiting message clientChan workers ∧
        step message clientChan workers = some next := by
  unfold Hub.whileWaiting
  cases hub.loop <;> simp

theorem foldl_close_cancelled (clients : List HubClient) :
    (clients.foldl Hub.close hub).cancelled = hub.cancelled := by
  induction clients generalizing hub with
  | nil => rfl
  | cons client rest inductionHypothesis => exact inductionHypothesis

/-- A worker that is set to another phase. -/
theorem waitingWorkers_setWorker (isOld : workers[i]? = some old) :
    (hub.setWorker message clientChan workers i worker).waitingWorkers + old.waits.toNat =
      workers.countP BroadcastWorker.waits + worker.waits.toNat := by
  obtain ⟨bound, isAt⟩ := List.getElem?_eq_some_iff.mp isOld
  have isCounted : old.waits = true → 0 < workers.countP BroadcastWorker.waits := fun isWaiting =>
    List.countP_pos_iff.mpr ⟨old, List.mem_of_getElem? isOld, isWaiting⟩
  unfold Hub.setWorker
  rw [waitingWorkers_waiting rfl, List.countP_set bound, isAt]
  cases isWaiting : old.waits with
  | false => cases worker.waits <;> simp
  | true =>
    have positive := isCounted isWaiting
    cases worker.waits <;> simp <;> omega

/-- A worker that waits goes on where there is room. -/
theorem workerStep_unregistering {client : HubClient}
    (isWaiting : hub.loop = .waiting message clientChan workers)
    (isAt : workers[i]? = some (.unregistering client))
    (hasRoom : hub.unregister.length < unregisterCapacity) :
    ∃ next, hub.workerStep message clientChan workers i = some next ∧
      next.cancelled = hub.cancelled ∧ next.unregister.length = hub.unregister.length + 1 ∧
      next.waitingWorkers + 1 = hub.waitingWorkers := by
  have counted := @waitingWorkers_setWorker _
    { hub with unregister := hub.unregister ++ [client] } message clientChan workers i _ .ready isAt
  refine ⟨{ hub with unregister := hub.unregister ++ [client] }.setWorker message clientChan workers
    i .ready, ?_, rfl, by simp [Hub.setWorker], ?_⟩
  · unfold Hub.workerStep
    rw [isAt]
    exact if_pos hasRoom
  · rw [waitingWorkers_waiting isWaiting]
    exact counted

/-- What a step of a worker does to the requests: nothing, or it asks, or it puts one there. -/
theorem workerStep_effect (isWaiting : hub.loop = .waiting message clientChan workers)
    (stepped : hub.workerStep message clientChan workers i = some next) :
    next.cancelled = hub.cancelled ∧
      ((hub.asks (.worker i) = false ∧ next.unregister = hub.unregister ∧
        next.waitingWorkers = hub.waitingWorkers) ∨
      (hub.asks (.worker i) = true ∧ next.unregister = hub.unregister ∧
        next.waitingWorkers = hub.waitingWorkers + 1) ∨
      (hub.asks (.worker i) = false ∧ hub.unregister.length < unregisterCapacity ∧
        next.unregister.length = hub.unregister.length + 1 ∧
        next.waitingWorkers + 1 = hub.waitingWorkers)) := by
  -- a worker that did not wait and does not wait now
  have quiet (middle : Hub Message) (rest : List HubClient) {old worker : BroadcastWorker}
      (isOld : workers[i]? = some old) (didNot : old.waits = false)
      (doesNot : worker.waits = false) :
      (middle.setWorker message rest workers i worker).waitingWorkers = hub.waitingWorkers := by
    have counted := @waitingWorkers_setWorker _ middle message rest workers i old worker isOld
    rw [didNot, doesNot] at counted
    exact counted.trans (waitingWorkers_waiting isWaiting).symm
  unfold Hub.workerStep at stepped
  split at stepped
  · rename_i isReady
    have notAsked : hub.asks (.worker i) = false := by simp [Hub.asks, isWaiting, isReady]
    split at stepped
    · cases stepped
      exact ⟨rfl, .inl ⟨notAsked, rfl, quiet _ _ isReady rfl rfl⟩⟩
    · cases stepped
      exact ⟨rfl, .inl ⟨notAsked, rfl, quiet _ _ isReady rfl rfl⟩⟩
  · rename_i client isSending
    have isAsked : hub.asks (.worker i) = (!(hub.send client).closed && hub.full client) := by
      simp [Hub.asks, isWaiting, isSending]
    split at stepped
    · rename_i isClosed
      cases stepped
      exact ⟨rfl, .inl ⟨by simp [isAsked, isClosed], rfl, quiet _ _ isSending rfl rfl⟩⟩
    · rename_i isOpen
      split at stepped
      · rename_i isFull
        cases stepped
        have counted := @waitingWorkers_setWorker _ hub message clientChan workers i _
          (.unregistering client) isSending
        refine ⟨rfl, .inr (.inl ⟨by simp [isAsked, isOpen, isFull], rfl, ?_⟩)⟩
        rw [waitingWorkers_waiting isWaiting]
        exact counted
      · rename_i notFull
        cases stepped
        exact ⟨rfl, .inl ⟨by simp [isAsked, notFull], rfl, quiet _ _ isSending rfl rfl⟩⟩
  · rename_i client isUnregistering
    have notAsked : hub.asks (.worker i) = false := by simp [Hub.asks, isWaiting, isUnregistering]
    split at stepped
    · rename_i hasRoom
      obtain ⟨other, isOther, running, longer, fewer⟩ :=
        workerStep_unregistering isWaiting isUnregistering hasRoom
      unfold Hub.workerStep at isOther
      rw [isUnregistering] at isOther
      cases ((if_pos hasRoom).symm.trans isOther).symm.trans stepped
      exact ⟨running, .inr (.inr ⟨notAsked, hasRoom, longer, fewer⟩)⟩
    · cases stepped
  · cases stepped
  · cases stepped

/-- A step leaves nobody waiting, or no more requests than there were, or one more that was asked
    for.  No step takes a stop back. -/
theorem next_effect {label : HubLabel Message} (stepped : hub.next poolSize label = some next) :
    (next.cancelled = false → hub.cancelled = false) ∧
    (next.waitingWorkers = 0 ∨
      (0 < hub.waitingWorkers ∧ next.unregister.length + next.waitingWorkers ≤
        hub.unregister.length + hub.waitingWorkers) ∨
      (hub.asks label = true ∧ next.unregister.length + next.waitingWorkers ≤
        hub.unregister.length + hub.waitingWorkers + 1)) := by
  -- a step that changes neither the requests nor the workers
  have untouched {other : Hub Message} (sameRequests : other.unregister = hub.unregister)
      (sameLoop : other.loop = hub.loop) : other.waitingWorkers = 0 ∨
        (0 < hub.waitingWorkers ∧ other.unregister.length + other.waitingWorkers ≤
          hub.unregister.length + hub.waitingWorkers) := by
    have same : other.waitingWorkers = hub.waitingWorkers := by
      unfold Hub.waitingWorkers
      rw [sameLoop]
    rw [same, sameRequests]
    omega
  cases label with
  | register client =>
    simp only [Hub.next, Option.ite_none_right_eq_some, Option.some.injEq] at stepped
    obtain ⟨_, rfl⟩ := stepped
    exact ⟨id, (untouched rfl rfl).imp_right .inl⟩
  | unregister client =>
    simp only [Hub.next, Option.ite_none_right_eq_some, Option.some.injEq] at stepped
    obtain ⟨_, rfl⟩ := stepped
    rw [waitingWorkers_unregister, List.length_append, List.length_singleton]
    refine ⟨id, ?_⟩
    by_cases somebody : 0 < hub.waitingWorkers
    · exact .inr (.inr ⟨by simp [Hub.asks, somebody], by omega⟩)
    · exact .inl (by omega)
  | broadcast message =>
    simp only [Hub.next, Option.ite_none_right_eq_some, Option.some.injEq] at stepped
    obtain ⟨_, rfl⟩ := stepped
    exact ⟨id, (untouched rfl rfl).imp_right .inl⟩
  | stop =>
    cases stepped
    exact ⟨by simp, (untouched rfl rfl).imp_right .inl⟩
  | sendTopic client message =>
    simp only [Hub.next, Option.ite_none_left_eq_some, Option.some.injEq] at stepped
    obtain ⟨_, rfl⟩ := stepped
    exact ⟨id, (untouched rfl rfl).imp_right .inl⟩
  | drain client =>
    cases stepped
    exact ⟨id, (untouched rfl rfl).imp_right .inl⟩
  | takeRegister =>
    obtain ⟨isSelecting, taken⟩ := select_eq_some.mp stepped
    unfold Hub.takeRegister at taken
    split at taken
    · cases taken
    · cases taken
      exact ⟨id, .inl (waitingWorkers_selecting isSelecting)⟩
  | takeUnregister =>
    obtain ⟨isSelecting, taken⟩ := select_eq_some.mp stepped
    unfold Hub.takeUnregister at taken
    split at taken
    · cases taken
    · dsimp only at taken
      split at taken
      · cases taken
        exact ⟨id, .inl (waitingWorkers_selecting isSelecting)⟩
      · cases taken
        exact ⟨id, .inl (waitingWorkers_selecting isSelecting)⟩
  | takeBroadcast order =>
    obtain ⟨isSelecting, taken⟩ := select_eq_some.mp stepped
    unfold Hub.takeBroadcast at taken
    split at taken
    · cases taken
    · simp only [Option.ite_none_right_eq_some, Option.some.injEq] at taken
      obtain ⟨_, rfl⟩ := taken
      exact ⟨id, .inl (waitingWorkers_begun rfl)⟩
  | takeDone =>
    obtain ⟨isSelecting, taken⟩ := select_eq_some.mp stepped
    simp only [Hub.takeDone, Option.ite_none_right_eq_some, Option.some.injEq] at taken
    obtain ⟨isCancelled, rfl⟩ := taken
    exact ⟨fun running => (foldl_close_cancelled hub.clients).symm.trans running, .inl rfl⟩
  | worker i =>
    obtain ⟨message, clientChan, workers, isWaiting, stepped⟩ := whileWaiting_eq_some.mp stepped
    obtain ⟨same, ⟨_, sameRequests, sameWaiting⟩ | ⟨isAsked, sameRequests, more⟩ |
      ⟨_, _, longer, fewer⟩⟩ := workerStep_effect isWaiting stepped
    · refine ⟨fun running => same.symm.trans running, ?_⟩
      rw [sameWaiting, sameRequests]
      omega
    · refine ⟨fun running => same.symm.trans running, .inr (.inr ⟨isAsked, ?_⟩)⟩
      rw [more, sameRequests]
      omega
    · refine ⟨fun running => same.symm.trans running, ?_⟩
      rw [longer]
      omega
  | giveUp i =>
    obtain ⟨message, clientChan, workers, isWaiting, stepped⟩ := whileWaiting_eq_some.mp stepped
    split at stepped
    · rename_i client isUnregistering
      simp only [Option.ite_none_right_eq_some, Option.some.injEq] at stepped
      obtain ⟨_, rfl⟩ := stepped
      have counted := @waitingWorkers_setWorker _ hub message clientChan workers i _ .ready
        isUnregistering
      have fewer : (hub.setWorker message clientChan workers i .ready).waitingWorkers + 1 =
          hub.waitingWorkers := by
        rw [waitingWorkers_waiting isWaiting]
        exact counted
      have sameRequests : (hub.setWorker message clientChan workers i .ready).unregister =
          hub.unregister := rfl
      rw [sameRequests]
      exact ⟨id, by omega⟩
    · cases stepped
  | resume =>
    obtain ⟨message, clientChan, workers, isWaiting, stepped⟩ := whileWaiting_eq_some.mp stepped
    simp only [Option.ite_none_right_eq_some, Option.some.injEq] at stepped
    obtain ⟨_, rfl⟩ := stepped
    exact ⟨id, .inl rfl⟩

theorem Hub.RoomForWaiting.step {label : HubLabel Message} (room : hub.RoomForWaiting)
    (isAllowed : hub.RoomToAsk label) (stepped : (hubs poolSize).step hub label = some next) :
    next.RoomForWaiting := by
  intro runs somebody
  obtain ⟨running, nobody | ⟨waited, fewer⟩ | ⟨isAsked, more⟩⟩ := next_effect stepped
  · omega
  · have held := room (running runs) waited
    omega
  · have held := isAllowed (running runs) isAsked
    omega

end Steps

section Runs

variable {hub next : Hub Message} {poolSize : Nat}

/-- The hub does not get stuck as long as every request for an unregistration finds room. -/
theorem hub_not_deadlocked
    (reached : (hubs poolSize).ReachableWhile Hub.RoomToAsk HubStart hub) : ¬ hub.Deadlocked := by
  have room : hub.RoomForWaiting := by
    refine reached.invariant (fun state start _ somebody => ?_)
      fun state next label held allowed stepped => Hub.RoomForWaiting.step held allowed stepped
    rw [waitingWorkers_selecting start.1] at somebody
    cases somebody
  intro stuck
  have fits := room stuck.running stuck.waits
  have full := stuck.noRoom
  have waits := stuck.waits
  omega

/-- Nothing but `Stop` ends a deadlock. -/
theorem Hub.Deadlocked.step {label : HubLabel Message} (stuck : hub.Deadlocked)
    (noStop : label ≠ .stop) (stepped : (hubs poolSize).step hub label = some next) :
    next.Deadlocked := by
  obtain ⟨running, waits, noRoom⟩ := stuck
  have notSelecting : hub.loop ≠ .selecting := by
    intro isSelecting
    rw [waitingWorkers_selecting isSelecting] at waits
    cases waits
  change hub.next poolSize label = some next at stepped
  cases label with
  | register client =>
    simp only [Hub.next, Option.ite_none_right_eq_some, Option.some.injEq] at stepped
    obtain ⟨_, rfl⟩ := stepped
    exact ⟨running, waits, noRoom⟩
  | unregister client =>
    simp only [Hub.next, Option.ite_none_right_eq_some] at stepped
    omega
  | broadcast message =>
    simp only [Hub.next, Option.ite_none_right_eq_some, Option.some.injEq] at stepped
    obtain ⟨_, rfl⟩ := stepped
    exact ⟨running, waits, noRoom⟩
  | stop => exact absurd rfl noStop
  | sendTopic client message =>
    simp only [Hub.next, Option.ite_none_left_eq_some, Option.some.injEq] at stepped
    obtain ⟨_, rfl⟩ := stepped
    exact ⟨running, waits, noRoom⟩
  | drain client =>
    cases stepped
    exact ⟨running, waits, noRoom⟩
  | takeRegister => exact absurd (select_eq_some.mp stepped).1 notSelecting
  | takeUnregister => exact absurd (select_eq_some.mp stepped).1 notSelecting
  | takeBroadcast order => exact absurd (select_eq_some.mp stepped).1 notSelecting
  | takeDone => exact absurd (select_eq_some.mp stepped).1 notSelecting
  | worker i =>
    obtain ⟨message, clientChan, workers, isWaiting, stepped⟩ := whileWaiting_eq_some.mp stepped
    obtain ⟨same, ⟨_, sameRequests, sameWaiting⟩ | ⟨_, sameRequests, more⟩ | ⟨_, hasRoom, _⟩⟩ :=
      workerStep_effect isWaiting stepped
    · exact ⟨same ▸ running, sameWaiting ▸ waits, sameRequests ▸ noRoom⟩
    · exact ⟨same ▸ running, by omega, sameRequests ▸ noRoom⟩
    · omega
  | giveUp i =>
    obtain ⟨message, clientChan, workers, isWaiting, stepped⟩ := whileWaiting_eq_some.mp stepped
    split at stepped
    · simp [running] at stepped
    · cases stepped
  | resume =>
    obtain ⟨message, clientChan, workers, isWaiting, stepped⟩ := whileWaiting_eq_some.mp stepped
    simp only [Option.ite_none_right_eq_some] at stepped
    rw [waitingWorkers_waiting isWaiting] at waits
    obtain ⟨worker, member, isWaiting⟩ := List.countP_pos_iff.mp waits
    rw [stepped.1 worker member] at isWaiting
    cases isWaiting

/-- The loop of a hub that is stuck takes no message and no request again. -/
theorem Hub.Deadlocked.run {labels : List (HubLabel Message)} (stuck : hub.Deadlocked)
    (noStop : .stop ∉ labels) (ran : (hubs poolSize).run hub labels = some next) :
    next.Deadlocked := by
  induction labels generalizing hub with
  | nil =>
    cases ran
    exact stuck
  | cons label labels inductionHypothesis =>
    obtain ⟨middle, stepped, ran⟩ := Option.bind_eq_some_iff.mp ran
    simp only [List.mem_cons, not_or] at noStop
    exact inductionHypothesis (stuck.step (Ne.symm noStop.1) stepped) noStop.2 ran

/-- Workers that wait for more room than there is fill the channel. -/
theorem deadlock_of_waiting (running : hub.cancelled = false) (waits : 0 < hub.waitingWorkers)
    (noRoom : unregisterCapacity < hub.unregister.length + hub.waitingWorkers) :
    ∃ labels last, (hubs poolSize).run hub labels = some last ∧ last.Deadlocked := by
  -- by the room that is left
  induction room : unregisterCapacity - hub.unregister.length generalizing hub with
  | zero => exact ⟨[], hub, rfl, running, waits, by omega⟩
  | succ left inductionHypothesis =>
    obtain ⟨message, clientChan, workers, isWaiting⟩ : ∃ message clientChan workers,
        hub.loop = .waiting message clientChan workers := by
      unfold Hub.waitingWorkers at waits
      cases isLoop : hub.loop with
      | waiting message clientChan workers => exact ⟨message, clientChan, workers, rfl⟩
      | selecting => simp [isLoop] at waits
      | stopped => simp [isLoop] at waits
    have somebody := waits
    rw [waitingWorkers_waiting isWaiting] at somebody
    obtain ⟨worker, member, isUnregistering⟩ := List.countP_pos_iff.mp somebody
    obtain ⟨i, isAt⟩ := List.mem_iff_getElem?.mp member
    cases worker with
    | unregistering client =>
      obtain ⟨next, stepped, same, longer, fewer⟩ :=
        workerStep_unregistering isWaiting isAt (by omega)
      have isNext : hub.next poolSize (.worker i) = some next :=
        whileWaiting_eq_some.mpr ⟨message, clientChan, workers, isWaiting, stepped⟩
      obtain ⟨labels, last, ran, stuck⟩ := inductionHypothesis (same.trans running)
        (by omega) (by omega) (by omega)
      refine ⟨.worker i :: labels, last, ?_, stuck⟩
      exact Option.bind_eq_some_iff.mpr ⟨next, isNext, ran⟩
    | ready => cases isUnregistering
    | sending client => cases isUnregistering
    | finished => cases isUnregistering

/-- Behind every step that finds no room there is a run into a deadlock. -/
theorem deadlock_of_no_room {label : HubLabel Message} (noRoom : ¬ hub.RoomToAsk label)
    (stepped : (hubs poolSize).step hub label = some next) :
    ∃ labels last, (hubs poolSize).run next labels = some last ∧ last.Deadlocked := by
  unfold Hub.RoomToAsk at noRoom
  push Not at noRoom
  obtain ⟨running, isAsked, isFull⟩ := noRoom
  change hub.next poolSize label = some next at stepped
  cases label with
  | worker i =>
    obtain ⟨message, clientChan, workers, isWaiting, stepped⟩ := whileWaiting_eq_some.mp stepped
    obtain ⟨same, ⟨notAsked, _⟩ | ⟨_, sameRequests, more⟩ | ⟨notAsked, _⟩⟩ :=
      workerStep_effect isWaiting stepped
    · exact absurd (notAsked.symm.trans isAsked) Bool.false_ne_true
    · refine deadlock_of_waiting (same.trans running) (by omega) ?_
      rw [sameRequests]
      omega
    · exact absurd (notAsked.symm.trans isAsked) Bool.false_ne_true
  | unregister client =>
    simp only [Hub.next, Option.ite_none_right_eq_some, Option.some.injEq] at stepped
    obtain ⟨_, rfl⟩ := stepped
    have waits : 0 < hub.waitingWorkers := by simpa [Hub.asks] using isAsked
    refine deadlock_of_waiting running waits ?_
    rw [waitingWorkers_unregister, List.length_append, List.length_singleton]
    omega
  | _ => cases isAsked

end Runs

/-- A hub of so many clients, all of them slow. -/
def slowHub (count : Nat) : Hub Unit where
  clients := List.range count
  send _ := ⟨List.replicate sendCapacity (), false⟩

theorem slowHub_start (count : Nat) : HubStart (slowHub count) := ⟨rfl, rfl⟩

/-- A message for them, up to where one worker has found as many of them slow. -/
def slowRun (count : Nat) : List (HubLabel Unit) :=
  [.broadcast (), .takeBroadcast (List.range count)] ++
    ((List.range (count - 1)).flatMap fun _ => [.worker 0, .worker 0, .worker 0]) ++
    [.worker 0, .worker 0]

theorem slowRun_room : ∃ hub : Hub Unit,
    (hubs (workerPoolSize 4)).ReachableWhile Hub.RoomToAsk HubStart hub ∧
      hub.waitingWorkers = 1 ∧ ¬ hub.Deadlocked := by
  have room : (((hubs (workerPoolSize 4)).restrict Hub.RoomToAsk).run (slowHub 20)
      (slowRun 20)).map Hub.waitingWorkers = some 1 := by decide +kernel
  obtain ⟨hub, ran, isOne⟩ := Option.map_eq_some_iff.mp room
  have reached := Machine.ReachableWhile.run_restrict (.start (slowHub_start 20)) ran
  exact ⟨hub, reached, isOne, hub_not_deadlocked reached⟩

theorem slow_clients_deadlock : ¬ ∀ hub : Hub Unit,
    (hubs (workerPoolSize 4)).Reachable HubStart hub → ¬ hub.Deadlocked := by
  intro never
  have stuck : ((hubs (workerPoolSize 4)).run (slowHub 101) (slowRun 101)).map
      (fun hub => (hub.cancelled, hub.waitingWorkers, hub.unregister.length)) =
        some (false, 1, unregisterCapacity) := by decide +kernel
  obtain ⟨hub, ran, isStuck⟩ := Option.map_eq_some_iff.mp stuck
  simp only [Prod.mk.injEq] at isStuck
  obtain ⟨running, oneWaits, isFull⟩ := isStuck
  refine never hub (Machine.Reachable.run (.start (slowHub_start 101)) ran) ⟨running, ?_,
    Nat.le_of_eq isFull.symm⟩
  rw [oneWaits]
  exact Nat.one_pos

end VkTurn.Panel
