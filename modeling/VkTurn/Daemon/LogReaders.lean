import VkTurn.Daemon.LogSubscriptions

/-! # Whether log readers are released

A channel that is closed is in the set no more, so no pump sends on it, and the cancel function is
the only one that may find it closed.  Watch closes what is in the set when the child has exited;
a channel that gets into the set later is left open.
-/

namespace VkTurn.Daemon

open VkTurn.Transition

/-- No pump has sent on a closed channel, and no channel was closed twice; a `close` found its
    channel closed only where the cancel function was called more than once. -/
structure SafeChannels (state : LogRoute) : Prop where
  sends : state.panics = []
  closes : ∀ channel ∈ state.channels, channel.closes ≤ 1 ∧
    (channel.cancels ≤ 1 → channel.recovered = 0)

/-- Once watch has finished, no reader waits for a channel that nobody closes. -/
def ReadersReleased (state : LogRoute) : Prop :=
  state.watch = .finished → ∀ channel ∈ state.channels, channel.added = true →
    channel.closed = true ∨ 0 < channel.cancels

/-- `Subscribe` puts its channel into the set before watch has closed the channels. -/
def AddsInTime (state : LogRoute) (label : LogLabel) : Prop :=
  ∀ channel, label = .add channel → state.watch ≠ .finished

structure ChannelInv (inSet : Prop) (channel : LogChannel) : Prop where
  subscribed : inSet → channel.added = true ∧ channel.closed = false ∧ channel.cancels = 0
  fresh : channel.added = false → channel.closed = false ∧ channel.cancels = 0
  pending : channel.closing ≤ channel.cancels
  /-- A call that is about to close a closed channel is not the only one. -/
  late : channel.closed = true → 0 < channel.closing → channel.closing < channel.cancels
  once : channel.closes = channel.closed.toNat
  single : channel.cancels ≤ 1 → channel.recovered = 0
  placed : channel.added = true → inSet ∨ channel.closed = true ∨ 0 < channel.cancels

structure LogInv (state : LogRoute) : Prop where
  channels : ∀ (index : Nat) channel, state.channels[index]? = some channel →
    ChannelInv (index ∈ state.subs) channel
  subs : ∀ index ∈ state.subs, index < state.channels.length
  remaining : ∀ line remaining, state.subsMu = some (.pump line remaining) →
    ∀ index ∈ remaining, index ∈ state.subs
  closing : state.watch = .closing → state.subsMu = some .watch
  panics : state.panics = []

/-! ## Channels -/

section Channel

variable {inSet : Prop} {channel : LogChannel}

theorem ChannelInv.new (notIn : ¬ inSet) : ChannelInv inSet {} where
  subscribed isIn := absurd isIn notIn
  fresh _ := ⟨rfl, rfl⟩
  pending := Nat.le_refl _
  late := nofun
  once := rfl
  single _ := rfl
  placed := nofun

theorem ChannelInv.add {after : Prop} (inv : ChannelInv inSet channel) (isNew : channel.added = false)
    (isIn : after) : ChannelInv after { channel with added := true } where
  subscribed _ := ⟨rfl, inv.fresh isNew⟩
  fresh := nofun
  pending := inv.pending
  late := inv.late
  once := inv.once
  single := inv.single
  placed _ := .inl isIn

/-- Another buffer. -/
theorem ChannelInv.withBuffer (inv : ChannelInv inSet channel) (buffer : List String) :
    ChannelInv inSet { channel with buffer } where
  subscribed := inv.subscribed
  fresh := inv.fresh
  pending := inv.pending
  late := inv.late
  once := inv.once
  single := inv.single
  placed := inv.placed

theorem ChannelInv.offer (inv : ChannelInv inSet channel) (line : String) :
    ChannelInv inSet (channel.offer line) := by
  unfold LogChannel.offer
  split
  · exact inv.withBuffer _
  · exact inv

/-- A call of the cancel function that closes the channel later, or does not. -/
theorem ChannelInv.cancelled {after : Prop} (inv : ChannelInv inSet channel)
    (isAdded : channel.added = true) (isOut : ¬ after) {closes : Nat} {buffer : List String}
    (closesLater : closes ≤ 1) (isOpen : 0 < closes → channel.closed = false) :
    ChannelInv after { channel with
      buffer, cancels := channel.cancels + 1, closing := channel.closing + closes } where
  subscribed isIn := absurd isIn isOut
  fresh isNew := absurd (isAdded.symm.trans isNew) (by decide)
  pending := Nat.add_le_add inv.pending closesLater
  late isClosed isClosing := by
    have pending := inv.pending
    have noMore : closes = 0 := by
      by_contra some
      rw [isOpen (by omega)] at isClosed
      cases isClosed
    dsimp only
    omega
  once := inv.once
  single fewer := inv.single (by dsimp only at fewer; omega)
  placed _ := .inr (.inr (Nat.succ_pos _))

theorem ChannelInv.cancel {after : Prop} (inv : ChannelInv inSet channel)
    (isAdded : channel.added = true) (isOut : ¬ after) : ChannelInv after channel.cancel := by
  unfold LogChannel.cancel
  dsimp only
  split
  · exact inv.cancelled isAdded isOut (Nat.zero_le 1) nofun
  · rename_i isEmpty
    split
    · exact isEmpty ▸ inv.cancelled isAdded isOut (Nat.zero_le 1) nofun
    · rename_i notClosed
      exact isEmpty ▸ inv.cancelled isAdded isOut (Nat.le_refl 1) fun _ =>
        Bool.eq_false_iff.mpr notClosed

/-- Watch closes a channel of the set. -/
theorem ChannelInv.closedByWatch {after : Prop} (inv : ChannelInv inSet channel) (isIn : inSet)
    (isOut : ¬ after) : ChannelInv after channel.close := by
  obtain ⟨isAdded, isOpen, noCancels⟩ := inv.subscribed isIn
  have pending := inv.pending
  have once := inv.once
  rw [isOpen] at once
  unfold LogChannel.close
  rw [if_neg (Bool.eq_false_iff.mp isOpen)]
  exact {
    subscribed := fun isIn => absurd isIn isOut
    fresh := fun isNew => absurd (isAdded.symm.trans isNew) (by decide)
    pending := inv.pending
    late := fun _ isClosing => by dsimp only at isClosing; omega
    once := by dsimp only; rw [once]; rfl
    single := inv.single
    placed := fun _ => .inr (.inl rfl) }

/-- A cancel function closes its channel. -/
theorem ChannelInv.closedByCancel (inv : ChannelInv inSet channel) (isClosing : 0 < channel.closing) :
    ChannelInv inSet { channel.close with closing := channel.closing - 1 } := by
  have pending := inv.pending
  have once := inv.once
  have out : ¬ inSet := fun isIn => by
    have noCancels := (inv.subscribed isIn).2.2
    omega
  have isAdded : channel.added = true := by
    by_contra isNew
    have noCancels := (inv.fresh (Bool.eq_false_iff.mpr isNew)).2
    omega
  unfold LogChannel.close
  split
  · rename_i isClosed
    have others := inv.late isClosed isClosing
    exact {
      subscribed := fun isIn => absurd isIn out
      fresh := inv.fresh
      pending := by dsimp only; omega
      late := fun _ _ => by dsimp only; omega
      once := inv.once
      single := fun fewer => by dsimp only at fewer; omega
      placed := inv.placed }
  · rename_i notClosed
    rw [Bool.eq_false_iff.mpr notClosed] at once
    exact {
      subscribed := fun isIn => absurd isIn out
      fresh := fun isNew => absurd (isAdded.symm.trans isNew) (by decide)
      pending := by dsimp only; omega
      late := fun _ _ => by dsimp only; omega
      once := by dsimp only; rw [once]; rfl
      single := inv.single
      placed := fun _ => .inr (.inl rfl) }

end Channel

/-! ## Runs -/

section Runs

variable {state next : LogRoute} {label : LogLabel} {index : Nat} {channel after : LogChannel}

/-- One channel changes, and with it at most its place in the set. -/
theorem LogInv.setChannel (inv : LogInv state) (subs : List Nat)
    (isChannel : state.channels[index]? = some channel)
    (others : ∀ other, other ≠ index → (other ∈ subs ↔ other ∈ state.subs))
    (isAfter : ChannelInv (index ∈ subs) after) :
    (∀ (other : Nat) channel, (state.channels.set index after)[other]? = some channel →
      ChannelInv (other ∈ subs) channel) ∧
    ∀ other ∈ subs, other < (state.channels.set index after).length := by
  have inRange : index < state.channels.length := (List.getElem?_eq_some_iff.mp isChannel).1
  constructor
  · intro other stored isStored
    by_cases isIndex : other = index
    · subst isIndex
      rw [List.getElem?_set_self inRange] at isStored
      cases isStored
      exact isAfter
    · rw [List.getElem?_set_ne (Ne.symm isIndex)] at isStored
      rw [others other isIndex]
      exact inv.channels other stored isStored
  · intro other member
    rw [List.length_set]
    by_cases isIndex : other = index
    · exact isIndex ▸ inRange
    · exact inv.subs other ((others other isIndex).mp member)

theorem mem_removed {other : Nat} {subs : List Nat} (differs : other ≠ index) :
    other ∈ subs.filter (· ≠ index) ↔ other ∈ subs := by
  simp [differs]

theorem LogInv.step (inv : LogInv state) (stepped : LogStep state label next) : LogInv next := by
  cases stepped with
  | lookup isListed notClosing =>
    refine ⟨fun index channel isChannel => ?_, fun index member => ?_, inv.remaining, inv.closing,
      inv.panics⟩
    · rw [List.getElem?_append] at isChannel
      split at isChannel
      · exact inv.channels index channel isChannel
      · rename_i notOld
        obtain ⟨_, isNew⟩ := List.getElem?_eq_some_iff.mp isChannel
        rw [List.getElem_singleton] at isNew
        exact isNew ▸ .new fun member => notOld (inv.subs index member)
    · exact Nat.lt_of_lt_of_le (inv.subs index member) (by simp)
  | @add index channel isChannel isNew isFree =>
    obtain ⟨channels, subs⟩ := inv.setChannel (index :: state.subs) isChannel
      (fun other differs => by simp [differs])
      ((inv.channels index channel isChannel).add isNew List.mem_cons_self)
    refine ⟨channels, subs, fun line remaining isHeld => ?_, inv.closing, inv.panics⟩
    exact absurd (isFree.symm.trans isHeld) nofun
  | @receive index channel line rest isChannel isBuffer =>
    obtain ⟨channels, subs⟩ := inv.setChannel _ isChannel (fun _ _ => Iff.rfl)
      ((inv.channels index channel isChannel).withBuffer rest)
    exact ⟨channels, subs, inv.remaining, inv.closing, inv.panics⟩
  | @cancel index channel isChannel isAdded isFree =>
    obtain ⟨channels, subs⟩ := inv.setChannel _ isChannel (fun _ differs => mem_removed differs)
      ((inv.channels index channel isChannel).cancel isAdded (by simp))
    refine ⟨channels, subs, fun line remaining isHeld => ?_, inv.closing, inv.panics⟩
    exact absurd (isFree.symm.trans isHeld) nofun
  | @close index channel isChannel isClosing =>
    obtain ⟨channels, subs⟩ := inv.setChannel _ isChannel (fun _ _ => Iff.rfl)
      ((inv.channels index channel isChannel).closedByCancel isClosing)
    exact ⟨channels, subs, inv.remaining, inv.closing, inv.panics⟩
  | scan isFree =>
    refine ⟨inv.channels, inv.subs, fun line remaining isHeld index member => ?_, fun isClosing => ?_,
      inv.panics⟩
    · cases isHeld
      exact member
    · exact absurd (isFree.symm.trans (inv.closing isClosing)) nofun
  | @send index channel line remaining isHeld isRemaining isChannel =>
    have inSet := inv.remaining line remaining isHeld index isRemaining
    have channelInv := inv.channels index channel isChannel
    -- a channel of the set is open
    have isOpen := (channelInv.subscribed inSet).2.1
    obtain ⟨channels, subs⟩ := inv.setChannel _ isChannel (fun _ _ => Iff.rfl) (channelInv.offer line)
    unfold LogRoute.send
    dsimp only
    rw [if_neg (Bool.eq_false_iff.mp isOpen)]
    refine ⟨channels, subs, fun line others isHeldAfter other member => ?_, fun isClosing => ?_,
      inv.panics⟩
    · cases isHeldAfter
      exact inv.remaining line remaining isHeld other (List.mem_filter.mp member).1
    · exact absurd (isHeld.symm.trans (inv.closing isClosing)) nofun
  | scanned isHeld =>
    refine ⟨inv.channels, inv.subs, nofun, fun isClosing => ?_, inv.panics⟩
    exact absurd (isHeld.symm.trans (inv.closing isClosing)) nofun
  | exited isWaiting isFree => exact ⟨inv.channels, inv.subs, nofun, fun _ => rfl, inv.panics⟩
  | @closeNext index channel isClosing inSet isChannel =>
    obtain ⟨channels, subs⟩ := inv.setChannel _ isChannel (fun _ differs => mem_removed differs)
      ((inv.channels index channel isChannel).closedByWatch inSet (by simp))
    refine ⟨channels, subs, fun line remaining isHeld => ?_, inv.closing, inv.panics⟩
    exact absurd ((inv.closing isClosing).symm.trans isHeld) nofun
  | watched isClosing noSubs => exact ⟨inv.channels, inv.subs, nofun, nofun, inv.panics⟩
  | unlist notClosing =>
    exact ⟨inv.channels, inv.subs, inv.remaining, inv.closing, inv.panics⟩

theorem logInv (reached : logSubscriptions.Reachable NewRoute state) : LogInv state := by
  refine reached.invariant ?_ fun state next label inv _ stepped => inv.step (logStep_inv stepped)
  rintro state rfl
  exact ⟨nofun, nofun, nofun, nofun, rfl⟩

/-- The set stays empty once watch has finished. -/
def SetClosed (state : LogRoute) : Prop := state.watch = .finished → state.subs = []

theorem setClosed (reached : logSubscriptions.ReachableWhile AddsInTime NewRoute state) :
    SetClosed state := by
  refine reached.invariant ?_ ?_
  · rintro state rfl
    nofun
  · intro state next label empty inTime stepped
    unfold SetClosed at empty ⊢
    cases logStep_inv stepped with
    | add isChannel isNew isFree => exact fun isFinished => absurd isFinished (inTime _ rfl)
    | cancel isChannel isAdded isFree =>
      intro isFinished
      have noSubs := empty isFinished
      simp [LogRoute.cancel, noSubs]
    | send isHeld isRemaining isChannel =>
      unfold LogRoute.send
      dsimp only
      split
      · exact empty
      · exact empty
    | closeNext isClosing inSet isChannel =>
      exact fun isFinished => absurd (isClosing.symm.trans isFinished) nofun
    | exited isWaiting isFree => nofun
    | watched isClosing noSubs => exact fun _ => noSubs
    | lookup isListed notClosing => exact empty
    | receive isChannel isBuffer => exact empty
    | close isChannel isClosing => exact empty
    | scan isFree => exact empty
    | scanned isHeld => exact empty
    | unlist notClosing => exact empty

/-- A channel that gets into the set too late is left to its reader. -/
theorem late_add (inv : LogInv state) (late : ¬ AddsInTime state label)
    (stepped : LogStep state label next) : ¬ ReadersReleased next := by
  unfold AddsInTime at late
  push Not at late
  obtain ⟨index, rfl, isFinished⟩ := late
  cases stepped with
  | @add index channel isChannel isNew isFree =>
    obtain ⟨isOpen, noCancels⟩ := (inv.channels index channel isChannel).fresh isNew
    intro released
    have inRange : index < state.channels.length := (List.getElem?_eq_some_iff.mp isChannel).1
    have waits := released isFinished { channel with added := true } (List.mem_set inRange _) rfl
    rw [isOpen, noCancels] at waits
    exact absurd waits (by decide)

/-- In every run no closed channel is sent on and none is closed twice.  As long as no channel gets
    into the set too late, watch leaves no reader waiting; a channel that does is left open. -/
theorem log_readers_released (state : LogRoute) :
    (logSubscriptions.Reachable NewRoute state → SafeChannels state) ∧
      (logSubscriptions.ReachableWhile AddsInTime NewRoute state → ReadersReleased state) ∧
      ∀ label next, logSubscriptions.Reachable NewRoute state → ¬ AddsInTime state label →
        logSubscriptions.step state label = some next → ¬ ReadersReleased next := by
  refine ⟨?_, ?_, fun label next reached late stepped =>
    late_add (logInv reached) late (logStep_inv stepped)⟩
  · intro reached
    have inv := logInv reached
    refine ⟨inv.panics, fun channel member => ?_⟩
    obtain ⟨index, isChannel⟩ := List.mem_iff_getElem?.mp member
    have channelInv := inv.channels index channel isChannel
    refine ⟨?_, channelInv.single⟩
    rw [channelInv.once]
    exact Bool.toNat_le channel.closed
  · intro reached isFinished channel member isAdded
    obtain ⟨index, isChannel⟩ := List.mem_iff_getElem?.mp member
    have noSubs := setClosed reached isFinished
    obtain inSet | released := ((logInv reached.reachable).channels index channel isChannel).placed
      isAdded
    · rw [noSubs] at inSet
      cases inSet
    · exact released

end Runs

/-- A reader that subscribes to a route whose child has exited. -/
theorem late_reader_waits : ∃ state, logSubscriptions.Reachable NewRoute state ∧
    state.watch = .finished ∧ ¬ ReadersReleased state := by
  obtain ⟨state, ran, isFinished, channels⟩ : ∃ state, logSubscriptions.run {}
      [.exited, .watched, .lookup, .add 0] = some state ∧ state.watch = .finished ∧
        state.channels = [{ added := true }] := ⟨_, rfl, rfl, rfl⟩
  refine ⟨state, Machine.Reachable.run (.start rfl) ran, isFinished, fun released => ?_⟩
  have waits := released isFinished { added := true } (by rw [channels]; exact List.mem_singleton_self _)
    rfl
  exact absurd waits (by decide)

end VkTurn.Daemon
