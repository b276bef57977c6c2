import VkTurn.WbStream.Room

/-! # Closing a wb-stream peer

`Send` looks at `closed` first and puts its packet into the queue last, `Close` sets `closed` first
and closes the queue last, and nothing keeps one from happening within the other.  A send on a
closed channel panics, also in a `select` with a default.
-/

namespace VkTurn.WbStream

open VkTurn.SessionProto VkTurn.Transition

/-- Where a call of `Send` stands. -/
inductive SendPhase where
  | start
  /-- The peer was not closed. -/
  | checked (frame : MuxFrame)
  | encoded (packet : Bytes)
  | returned
  /-- The queue was closed. -/
  | panicked
  deriving DecidableEq

/-- Where a call of `Close` stands. -/
inductive ClosePhase where
  | start
  /-- `CompareAndSwap` succeeded. -/
  | swapped
  | doneClosed
  | disconnected
  | queueClosed
  | returned
  deriving DecidableEq

/-- The goroutine of `processSendQueue`. -/
inductive SendLoop where
  | notStarted
  | selecting
  | publishing (packet : Bytes)
  | ended
  deriving DecidableEq

structure PeerState where
  closed : Bool := false
  /-- `done` is closed. -/
  done : Bool := false
  sendQueue : List Bytes := []
  /-- How often `sendQueue` was closed. -/
  queueCloses : Nat := 0
  sends : Nat → SendPhase := fun _ => .start
  closes : Nat → ClosePhase := fun _ => .start
  loop : SendLoop := .notStarted

inductive PeerLabel where
  /-- `Send` up to the checks of the peer and the frame. -/
  | check (call : Nat) (frame : Option MuxFrame)
  /-- The frame is encoded; sealing it fails when there is no nonce. -/
  | encode (call : Nat) (nonce : Option Bytes)
  | enqueue (call : Nat)
  | swap (call : Nat)
  | closeDone (call : Nat)
  | disconnect (call : Nat)
  | closeQueue (call : Nat)
  /-- `wg.Wait` returns. -/
  | wait (call : Nat)
  | loopTakes
  | loopPublishes
  | loopEnds

namespace PeerState

variable (peer : PeerState)

def setSend (call : Nat) (phase : SendPhase) : PeerState :=
  { peer with sends := Function.update peer.sends call phase }

def setClose (call : Nat) (phase : ClosePhase) : PeerState :=
  { peer with closes := Function.update peer.closes call phase }

variable (capacity : Nat) (e2e : Option E2E)

def check (call : Nat) (frame : Option MuxFrame) : Option PeerState :=
  match peer.sends call with
  | .start =>
    if peer.closed then some (peer.setSend call .returned)
    else match frame with
      | none => some (peer.setSend call .returned)
      | some frame => some (peer.setSend call (.checked frame))
  | _ => none

def encode (call : Nat) (nonce : Option Bytes) : Option PeerState :=
  match peer.sends call with
  | .checked frame =>
    match e2e, nonce with
    | none, _ => some (peer.setSend call (.encoded frame.encode))
    | some _, none => some (peer.setSend call .returned)
    | some cipher, some nonce =>
      some (peer.setSend call (.encoded (cipher.sealWith nonce frame.encode)))
  | _ => none

/-- A full queue drops the packet. -/
def enqueue (call : Nat) : Option PeerState :=
  match peer.sends call with
  | .encoded packet =>
    if 0 < peer.queueCloses then some (peer.setSend call .panicked)
    else if peer.sendQueue.length < capacity then
      some { peer.setSend call .returned with sendQueue := peer.sendQueue ++ [packet] }
    else some (peer.setSend call .returned)
  | _ => none

def swap (call : Nat) : Option PeerState :=
  match peer.closes call with
  | .start =>
    if peer.closed then some (peer.setClose call .returned)
    else some { peer.setClose call .swapped with closed := true }
  | _ => none

def closeDone (call : Nat) : Option PeerState :=
  match peer.closes call with
  | .swapped => some { peer.setClose call .doneClosed with done := true }
  | _ => none

def disconnect (call : Nat) : Option PeerState :=
  match peer.closes call with
  | .doneClosed => some (peer.setClose call .disconnected)
  | _ => none

def closeQueue (call : Nat) : Option PeerState :=
  match peer.closes call with
  | .disconnected =>
    some { peer.setClose call .queueClosed with queueCloses := peer.queueCloses + 1 }
  | _ => none

def wait (call : Nat) : Option PeerState :=
  match peer.closes call, peer.loop with
  | .queueClosed, .notStarted | .queueClosed, .ended => some (peer.setClose call .returned)
  | _, _ => none

def loopTakes : Option PeerState :=
  match peer.loop, peer.sendQueue with
  | .selecting, packet :: rest => some { peer with loop := .publishing packet, sendQueue := rest }
  | _, _ => none

/-- An error of the publication is only logged. -/
def loopPublishes : Option PeerState :=
  match peer.loop with
  | .publishing _ => some { peer with loop := .selecting }
  | _ => none

/-- The loop sees that `done` is closed, or that the queue is closed and empty. -/
def loopEnds : Option PeerState :=
  match peer.loop with
  | .selecting =>
    if peer.done ∨ (0 < peer.queueCloses ∧ peer.sendQueue = []) then
      some { peer with loop := .ended }
    else none
  | _ => none

def step : PeerLabel → Option PeerState
  | .check call frame => peer.check call frame
  | .encode call nonce => peer.encode e2e call nonce
  | .enqueue call => peer.enqueue capacity call
  | .swap call => peer.swap call
  | .closeDone call => peer.closeDone call
  | .disconnect call => peer.disconnect call
  | .closeQueue call => peer.closeQueue call
  | .wait call => peer.wait call
  | .loopTakes => peer.loopTakes
  | .loopPublishes => peer.loopPublishes
  | .loopEnds => peer.loopEnds

end PeerState

/-- The interleavings of any number of sends and closes with the send loop. -/
def peerMachine (capacity : Nat) (e2e : Option E2E) : Machine PeerState PeerLabel where
  step peer := peer.step capacity e2e

/-- A new peer, whose send loop may be running. -/
def NewPeer (peer : PeerState) : Prop :=
  ∃ loop, peer = { loop }

/-! ## Safety -/

/-- No packet is sent on the closed queue, and the queue is closed at most once. -/
structure ClosesSafely (peer : PeerState) : Prop where
  noPanic : ∀ call, peer.sends call ≠ .panicked
  once : peer.queueCloses ≤ 1

def SendPhase.pending : SendPhase → Bool
  | .checked _ | .encoded _ => true
  | _ => false

/-- The call has won the swap, and the queue is not closed. -/
def ClosePhase.closing : ClosePhase → Bool
  | .swapped | .doneClosed | .disconnected => true
  | _ => false

/-- The queue is closed only when no send has passed its check without having come to its end. -/
def NoSendPending (peer : PeerState) : PeerLabel → Prop
  | .closeQueue _ => ∀ call, (peer.sends call).pending = false
  | _ => True

structure ShutdownInv (peer : PeerState) : Prop where
  noPanic : ∀ call, peer.sends call ≠ .panicked
  settled : 0 < peer.queueCloses → ∀ call, (peer.sends call).pending = false
  single : ∀ call other, (peer.closes call).closing = true → (peer.closes other).closing = true →
    call = other
  closing : ∀ call, (peer.closes call).closing = true → peer.closed = true ∧ peer.queueCloses = 0
  closed : 0 < peer.queueCloses → peer.closed = true
  once : peer.queueCloses ≤ 1

section Steps

variable {capacity : Nat} {e2e : Option E2E} {peer next : PeerState} {call : Nat}

/-- A send comes to a phase that is pending only where the queue is open. -/
theorem ShutdownInv.setSend (inv : ShutdownInv peer) {phase : SendPhase}
    (noPanic : phase ≠ .panicked) (settled : 0 < peer.queueCloses → phase.pending = false) :
    ShutdownInv (peer.setSend call phase) where
  noPanic other := by
    unfold PeerState.setSend
    dsimp only
    rw [Function.update_apply]
    split
    · exact noPanic
    · exact inv.noPanic other
  settled isClosed other := by
    unfold PeerState.setSend
    dsimp only
    rw [Function.update_apply]
    split
    · exact settled isClosed
    · exact inv.settled isClosed other
  single := inv.single
  closing := inv.closing
  closed := inv.closed
  once := inv.once

/-- A call of `Close` goes on, and it was the one that closes if it still is. -/
theorem ShutdownInv.setClose (inv : ShutdownInv peer) {phase : ClosePhase}
    (still : phase.closing = true → (peer.closes call).closing = true) :
    ShutdownInv (peer.setClose call phase) := by
  have before (other : Nat) (isClosing : ((peer.setClose call phase).closes other).closing = true) :
      (peer.closes other).closing = true := by
    unfold PeerState.setClose at isClosing
    dsimp only at isClosing
    rw [Function.update_apply] at isClosing
    split at isClosing
    · rename_i same
      rw [same]
      exact still isClosing
    · exact isClosing
  exact {
    noPanic := inv.noPanic
    settled := inv.settled
    single := fun first second isFirst isSecond =>
      inv.single first second (before first isFirst) (before second isSecond)
    closing := fun other isClosing => inv.closing other (before other isClosing)
    closed := inv.closed
    once := inv.once }

theorem ShutdownInv.check (inv : ShutdownInv peer) {frame : Option MuxFrame}
    (stepped : peer.check call frame = some next) : ShutdownInv next := by
  unfold PeerState.check at stepped
  split at stepped
  · split at stepped
    · cases stepped
      exact inv.setSend nofun fun _ => rfl
    · rename_i isOpen
      have queueOpen : ¬ 0 < peer.queueCloses := fun isClosed => isOpen (inv.closed isClosed)
      split at stepped
      · cases stepped
        exact inv.setSend nofun fun _ => rfl
      · cases stepped
        exact inv.setSend nofun fun isClosed => absurd isClosed queueOpen
  · cases stepped

theorem ShutdownInv.encode (inv : ShutdownInv peer) {nonce : Option Bytes}
    (stepped : peer.encode e2e call nonce = some next) : ShutdownInv next := by
  unfold PeerState.encode at stepped
  split at stepped
  · rename_i frame isChecked
    have queueOpen : ¬ 0 < peer.queueCloses := by
      intro isClosed
      have settled := inv.settled isClosed call
      rw [isChecked] at settled
      cases settled
    split at stepped
    · cases stepped
      exact inv.setSend nofun fun isClosed => absurd isClosed queueOpen
    · cases stepped
      exact inv.setSend nofun fun _ => rfl
    · cases stepped
      exact inv.setSend nofun fun isClosed => absurd isClosed queueOpen
  · cases stepped

theorem ShutdownInv.enqueue (inv : ShutdownInv peer)
    (stepped : peer.enqueue capacity call = some next) : ShutdownInv next := by
  unfold PeerState.enqueue at stepped
  split at stepped
  · rename_i packet isEncoded
    split at stepped
    · -- the send would have been pending when the queue was closed
      rename_i isClosed
      have settled := inv.settled isClosed call
      rw [isEncoded] at settled
      cases settled
    · split at stepped
      · cases stepped
        have sent : ShutdownInv (peer.setSend call .returned) := inv.setSend nofun fun _ => rfl
        exact ⟨sent.noPanic, sent.settled, sent.single, sent.closing, sent.closed, sent.once⟩
      · cases stepped
        exact inv.setSend nofun fun _ => rfl
  · cases stepped

theorem ShutdownInv.swap (inv : ShutdownInv peer) (stepped : peer.swap call = some next) :
    ShutdownInv next := by
  unfold PeerState.swap at stepped
  split at stepped
  · split at stepped
    · cases stepped
      exact inv.setClose nofun
    · rename_i isOpen
      cases stepped
      have nobody (other : Nat) : (peer.closes other).closing = false :=
        Bool.eq_false_iff.mpr fun isClosing => isOpen (inv.closing other isClosing).1
      have isCall (other : Nat) (isClosing : (Function.update peer.closes call .swapped
          other).closing = true) : other = call := by
        rw [Function.update_apply] at isClosing
        split at isClosing
        · assumption
        · rw [nobody other] at isClosing
          cases isClosing
      exact {
        noPanic := inv.noPanic
        settled := inv.settled
        single := fun first second isFirst isSecond =>
          (isCall first isFirst).trans (isCall second isSecond).symm
        closing := fun _ _ => ⟨rfl, Nat.eq_zero_of_not_pos fun isClosed => isOpen (inv.closed isClosed)⟩
        closed := fun _ => rfl
        once := inv.once }
  · cases stepped

theorem ShutdownInv.closeQueue (inv : ShutdownInv peer)
    (noPending : ∀ call, (peer.sends call).pending = false)
    (stepped : peer.closeQueue call = some next) : ShutdownInv next := by
  unfold PeerState.closeQueue at stepped
  split at stepped
  · rename_i isDisconnected
    cases stepped
    have isClosing : (peer.closes call).closing = true := by rw [isDisconnected]; rfl
    obtain ⟨isClosed, isZero⟩ := inv.closing call isClosing
    have nobody (other : Nat) : (Function.update peer.closes call .queueClosed other).closing =
        false := by
      rw [Function.update_apply]
      split
      · rfl
      · rename_i differs
        exact Bool.eq_false_iff.mpr fun otherClosing =>
          differs (inv.single other call otherClosing isClosing)
    exact {
      noPanic := inv.noPanic
      settled := fun _ => noPending
      single := fun first _ isFirst => nomatch (nobody first).symm.trans isFirst
      closing := fun other otherClosing => nomatch (nobody other).symm.trans otherClosing
      closed := fun _ => isClosed
      once := by
        show peer.queueCloses + 1 ≤ 1
        omega }
  · cases stepped

/-- The steps of the loop are not the invariant's business. -/
theorem ShutdownInv.frame (inv : ShutdownInv peer) (sends : next.sends = peer.sends)
    (closes : next.closes = peer.closes) (closed : next.closed = peer.closed)
    (queueCloses : next.queueCloses = peer.queueCloses) : ShutdownInv next := by
  obtain ⟨noPanic, settled, single, closing, isClosed, once⟩ := inv
  constructor
  case noPanic => rwa [sends]
  case settled => rwa [sends, queueCloses]
  case single => rwa [closes]
  case closing => rwa [closes, closed, queueCloses]
  case closed => rwa [closed, queueCloses]
  case once => rwa [queueCloses]

theorem ShutdownInv.step (inv : ShutdownInv peer) {label : PeerLabel}
    (allowed : NoSendPending peer label) (stepped : peer.step capacity e2e label = some next) :
    ShutdownInv next := by
  cases label with
  | check => exact inv.check stepped
  | encode => exact inv.encode stepped
  | enqueue => exact inv.enqueue stepped
  | swap => exact inv.swap stepped
  | closeDone =>
    simp only [PeerState.step, PeerState.closeDone] at stepped
    split at stepped
    · rename_i isSwapped
      cases stepped
      exact (inv.setClose fun _ => isSwapped ▸ rfl).frame rfl rfl rfl rfl
    · cases stepped
  | disconnect =>
    simp only [PeerState.step, PeerState.disconnect] at stepped
    split at stepped
    · rename_i isDone
      cases stepped
      exact inv.setClose fun _ => isDone ▸ rfl
    · cases stepped
  | closeQueue => exact inv.closeQueue allowed stepped
  | wait =>
    simp only [PeerState.step, PeerState.wait] at stepped
    split at stepped
    · cases stepped
      exact inv.setClose nofun
    · cases stepped
      exact inv.setClose nofun
    · cases stepped
  | loopTakes =>
    simp only [PeerState.step, PeerState.loopTakes] at stepped
    split at stepped
    · cases stepped
      exact inv.frame rfl rfl rfl rfl
    · cases stepped
  | loopPublishes =>
    simp only [PeerState.step, PeerState.loopPublishes] at stepped
    split at stepped
    · cases stepped
      exact inv.frame rfl rfl rfl rfl
    · cases stepped
  | loopEnds =>
    simp only [PeerState.step, PeerState.loopEnds] at stepped
    split at stepped
    · split at stepped
      · cases stepped
        exact inv.frame rfl rfl rfl rfl
      · cases stepped
    · cases stepped

theorem newPeer_inv (isNew : NewPeer peer) : ShutdownInv peer := by
  obtain ⟨loop, rfl⟩ := isNew
  exact ⟨fun _ => nofun, fun isClosed => absurd isClosed (Nat.lt_irrefl 0), fun _ _ isClosing =>
    (nomatch isClosing), fun _ isClosing => (nomatch isClosing),
    fun isClosed => absurd isClosed (Nat.lt_irrefl 0), Nat.zero_le 1⟩

/-- Where the queue is closed only between sends, no send finds it closed. -/
theorem peer_closes_safely
    (reached : (peerMachine capacity e2e).ReachableWhile NoSendPending NewPeer peer) :
    ClosesSafely peer := by
  have inv : ShutdownInv peer :=
    reached.invariant (fun _ => newPeer_inv) fun _ _ _ inv allowed stepped => inv.step allowed stepped
  exact ⟨inv.noPanic, inv.once⟩

end Steps

/-! ## One send and one close -/

def emptyFrame : MuxFrame := ⟨Vector.replicate _ 0, 0, []⟩

/-- A packet is in the queue when the peer closes. -/
theorem peer_closes_safely_after_send :
    ∃ peer, (peerMachine sendQueueCapacity none).run {} [.check 0 (some emptyFrame),
        .encode 0 none, .enqueue 0, .swap 0, .closeDone 0, .disconnect 0, .closeQueue 0] = some peer ∧
      peer.sendQueue = [emptyFrame.encode] ∧ peer.queueCloses = 1 ∧ ClosesSafely peer := by
  have started : (peerMachine sendQueueCapacity none).ReachableWhile NoSendPending NewPeer {} :=
    .start ⟨.notStarted, rfl⟩
  have checked := started.step (show NoSendPending _ (.check 0 (some emptyFrame)) from trivial) rfl
  have encoded := checked.step (show NoSendPending _ (.encode 0 none) from trivial) rfl
  have enqueued := encoded.step (show NoSendPending _ (.enqueue 0) from trivial) rfl
  have swapped := enqueued.step (show NoSendPending _ (.swap 0) from trivial) rfl
  have doneClosed := swapped.step (show NoSendPending _ (.closeDone 0) from trivial) rfl
  have disconnected := doneClosed.step (show NoSendPending _ (.disconnect 0) from trivial) rfl
  refine ⟨_, rfl, rfl, rfl, peer_closes_safely (disconnected.step
    (show NoSendPending _ (.closeQueue 0) from fun call => ?_) rfl)⟩
  cases call with
  | zero => rfl
  | succ call => rfl

/-- A send passes its check, and the peer is closed before it comes to the queue. -/
theorem send_panics : ∃ peer, (peerMachine sendQueueCapacity none).Reachable NewPeer peer ∧
    ¬ ClosesSafely peer := by
  obtain ⟨peer, ran, panics⟩ : ∃ peer, (peerMachine sendQueueCapacity none).run {}
      [.check 0 (some emptyFrame), .encode 0 none, .swap 0, .closeDone 0, .disconnect 0,
        .closeQueue 0, .enqueue 0] = some peer ∧ peer.sends 0 = .panicked := ⟨_, rfl, rfl⟩
  exact ⟨peer, Machine.Reachable.run (.start ⟨.notStarted, rfl⟩) ran,
    fun safe => safe.noPanic 0 panics⟩

end VkTurn.WbStream
