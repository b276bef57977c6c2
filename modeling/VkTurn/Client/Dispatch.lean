import Mathlib.Data.List.Nodup
import Mathlib.Logic.Function.Basic
import VkTurn.Order.Cyclic
import VkTurn.Transition.Machine

/-! # Dispatch of inbound packets to the workers

Every worker binds a channel under its stream id, and each packet goes to the next channel in turn
that has room.  The workers take packets out of their channels at any time.
-/

namespace VkTurn.Client

open VkTurn.Order VkTurn.Transition

variable {Channel Packet : Type}

structure DispatchSlot (Channel : Type) where
  streamID : UInt8
  sendCh : Channel
  deriving DecidableEq

structure Dispatcher (Channel Packet : Type) where
  dispatchSlots : List (DispatchSlot Channel) := []
  dispatchRRIdx : Nat := 0
  /-- What is in the buffers of the channels. -/
  buffers : Channel → List Packet
  /-- Ghost: the stream ids of the slots that got a packet. -/
  delivered : List UInt8 := []

namespace Dispatcher

/-- The loop of `BindDispatchChannel`, and the append after it. -/
def bindSlot (slot : DispatchSlot Channel) : List (DispatchSlot Channel) →
    List (DispatchSlot Channel)
  | [] => [slot]
  | existing :: rest =>
    if existing.streamID = slot.streamID then slot :: rest else existing :: bindSlot slot rest

def bindDispatchChannel (runtime : Dispatcher Channel Packet) (streamID : UInt8)
    (packets : Option Channel) : Dispatcher Channel Packet :=
  match packets with
  | none => runtime
  | some sendCh =>
    { runtime with dispatchSlots := bindSlot ⟨streamID, sendCh⟩ runtime.dispatchSlots }

def unbindDispatchChannel (runtime : Dispatcher Channel Packet) (streamID : UInt8) :
    Dispatcher Channel Packet :=
  if runtime.dispatchSlots.any (·.streamID = streamID) then
    let dispatchSlots := runtime.dispatchSlots.eraseP (·.streamID = streamID)
    { runtime with
      dispatchSlots
      dispatchRRIdx :=
        if dispatchSlots.length = 0 then 0 else runtime.dispatchRRIdx % dispatchSlots.length }
  else runtime

variable (capacity : Channel → Nat)

def isFull (runtime : Dispatcher Channel Packet) (slot : DispatchSlot Channel) : Bool :=
  capacity slot.sendCh ≤ (runtime.buffers slot.sendCh).length

variable [DecidableEq Channel]

/-- `runtime.dispatchSlots[idx].sendCh <- pkt`. -/
def deliver (runtime : Dispatcher Channel Packet) (pkt : Packet) (slot : DispatchSlot Channel)
    (dispatchRRIdx : Nat) : Dispatcher Channel Packet :=
  { runtime with
    dispatchRRIdx
    buffers := Function.update runtime.buffers slot.sendCh
      (runtime.buffers slot.sendCh ++ [pkt])
    delivered := runtime.delivered ++ [slot.streamID] }

def dispatchPacket (runtime : Dispatcher Channel Packet) (pkt : Packet) :
    Bool × Dispatcher Channel Packet :=
  let count := runtime.dispatchSlots.length
  let start := runtime.dispatchRRIdx % count
  let hasRoom (idx : Nat) : Bool :=
    runtime.dispatchSlots[idx]?.any fun slot => !runtime.isFull capacity slot
  match firstFrom start count hasRoom with
  | none => (false, runtime)
  | some idx =>
    match runtime.dispatchSlots[idx]? with
    | none => (false, runtime)
    | some slot => (true, runtime.deliver pkt slot ((idx + 1) % count))

/-- A worker takes the next packet from its channel. -/
def receive (runtime : Dispatcher Channel Packet) (channel : Channel) :
    Option (Dispatcher Channel Packet) :=
  match runtime.buffers channel with
  | [] => none
  | _ :: rest => some { runtime with buffers := Function.update runtime.buffers channel rest }

end Dispatcher

inductive DispatchLabel (Channel Packet : Type) where
  | bind (streamID : UInt8) (packets : Option Channel)
  | unbind (streamID : UInt8)
  | dispatch (pkt : Packet)
  | receive (channel : Channel)

/-- The calls hold `dispatchMu` from their beginning to their end. -/
def dispatcher [DecidableEq Channel] (capacity : Channel → Nat) :
    Machine (Dispatcher Channel Packet) (DispatchLabel Channel Packet) where
  step runtime
    | .bind streamID packets => some (runtime.bindDispatchChannel streamID packets)
    | .unbind streamID => some (runtime.unbindDispatchChannel streamID)
    | .dispatch pkt => some (runtime.dispatchPacket capacity pkt).2
    | .receive channel => runtime.receive channel

/-- `newSessionRuntime`. -/
def NewDispatcher (runtime : Dispatcher Channel Packet) : Prop :=
  runtime.dispatchSlots = [] ∧ runtime.dispatchRRIdx = 0

/-! ## Slots and cursor -/

structure DispatchInv (runtime : Dispatcher Channel Packet) : Prop where
  distinct : (runtime.dispatchSlots.map DispatchSlot.streamID).Nodup
  inRange : runtime.dispatchRRIdx < runtime.dispatchSlots.length ∨
    (runtime.dispatchSlots = [] ∧ runtime.dispatchRRIdx = 0)

section Inv

variable {runtime next : Dispatcher Channel Packet} {slot : DispatchSlot Channel}
  {slots : List (DispatchSlot Channel)} {streamID : UInt8}

open Dispatcher

theorem mem_bindSlot {other : DispatchSlot Channel} (member : other ∈ bindSlot slot slots) :
    other = slot ∨ other ∈ slots := by
  induction slots with
  | nil => exact .inl (List.mem_singleton.mp member)
  | cons existing rest inductionHypothesis =>
    unfold bindSlot at member
    split at member
    · rcases List.mem_cons.mp member with isSlot | inRest
      · exact .inl isSlot
      · exact .inr (List.mem_cons_of_mem _ inRest)
    · rcases List.mem_cons.mp member with rfl | inRest
      · exact .inr List.mem_cons_self
      · exact (inductionHypothesis inRest).imp_right (List.mem_cons_of_mem _)

theorem bindSlot_distinct (distinct : (slots.map DispatchSlot.streamID).Nodup) :
    ((bindSlot slot slots).map DispatchSlot.streamID).Nodup := by
  induction slots with
  | nil => exact List.nodup_singleton _
  | cons existing rest inductionHypothesis =>
    obtain ⟨isNew, restDistinct⟩ := List.nodup_cons.mp distinct
    unfold bindSlot
    split
    · rename_i same
      rw [List.map_cons, ← same]
      exact distinct
    · rename_i differs
      refine List.nodup_cons.mpr ⟨fun member => ?_, inductionHypothesis restDistinct⟩
      obtain ⟨other, inSlots, same⟩ := List.mem_map.mp member
      rcases mem_bindSlot inSlots with rfl | inRest
      · exact differs same.symm
      · exact isNew (same ▸ List.mem_map_of_mem inRest)

theorem length_bindSlot : slots.length ≤ (bindSlot slot slots).length ∧
    0 < (bindSlot slot slots).length := by
  induction slots with
  | nil => exact ⟨Nat.zero_le _, Nat.zero_lt_one⟩
  | cons existing rest inductionHypothesis =>
    unfold bindSlot
    split
    · simp
    · simp only [List.length_cons]
      omega

theorem DispatchInv.bind (inv : DispatchInv runtime) (packets : Option Channel) :
    DispatchInv (runtime.bindDispatchChannel streamID packets) := by
  cases packets with
  | none => exact inv
  | some sendCh =>
    refine ⟨bindSlot_distinct inv.distinct, .inl ?_⟩
    have lengths : runtime.dispatchSlots.length ≤
          (bindSlot ⟨streamID, sendCh⟩ runtime.dispatchSlots).length ∧
        0 < (bindSlot ⟨streamID, sendCh⟩ runtime.dispatchSlots).length := length_bindSlot
    rcases inv.inRange with inRange | ⟨_, isZero⟩
    · exact Nat.lt_of_lt_of_le inRange lengths.1
    · show runtime.dispatchRRIdx < _
      rw [isZero]
      exact lengths.2

theorem DispatchInv.unbind (inv : DispatchInv runtime) :
    DispatchInv (runtime.unbindDispatchChannel streamID) := by
  unfold unbindDispatchChannel
  split
  · refine ⟨inv.distinct.sublist (List.eraseP_sublist.map _), ?_⟩
    dsimp only
    split
    · rename_i isEmpty
      exact .inr ⟨List.length_eq_zero_iff.mp isEmpty, rfl⟩
    · rename_i notEmpty
      exact .inl (Nat.mod_lt _ (Nat.pos_of_ne_zero notEmpty))
  · exact inv

end Inv

/-! ## One packet -/

section Dispatch

variable [DecidableEq Channel] (capacity : Channel → Nat) {runtime : Dispatcher Channel Packet}

/-- The packet went to the slot at the given offset from the cursor, and to no other. -/
structure DeliversAt (runtime : Dispatcher Channel Packet) (pkt : Packet)
    (next : Dispatcher Channel Packet) (offset : Nat) (slot : DispatchSlot Channel) : Prop where
  inRange : offset < runtime.dispatchSlots.length
  isSlot : runtime.dispatchSlots[
    cyclic runtime.dispatchRRIdx runtime.dispatchSlots.length offset]? = some slot
  hasRoom : runtime.isFull capacity slot = false
  skipsFull : ∀ earlier < offset, ∀ other, runtime.dispatchSlots[
    cyclic runtime.dispatchRRIdx runtime.dispatchSlots.length earlier]? = some other →
      runtime.isFull capacity other = true
  delivers : next = runtime.deliver pkt slot
    (cyclic runtime.dispatchRRIdx runtime.dispatchSlots.length (offset + 1))

/-- The slot that a packet goes to. -/
theorem dispatchPacket_delivers (inv : DispatchInv runtime) (pkt : Packet) :
    ((runtime.dispatchPacket capacity pkt).1 = true ∧
      ∃ offset slot, DeliversAt capacity runtime pkt (runtime.dispatchPacket capacity pkt).2
        offset slot) ∨
    (runtime.dispatchPacket capacity pkt = (false, runtime) ∧
      ∀ slot ∈ runtime.dispatchSlots, runtime.isFull capacity slot = true) := by
  unfold Dispatcher.dispatchPacket
  dsimp only
  cases found : firstFrom (runtime.dispatchRRIdx % runtime.dispatchSlots.length)
      runtime.dispatchSlots.length fun idx =>
        runtime.dispatchSlots[idx]?.any fun slot => !runtime.isFull capacity slot with
  | none =>
    refine .inr ⟨rfl, fun slot member => ?_⟩
    obtain ⟨idx, inRange, isSlot⟩ := List.mem_iff_getElem.mp member
    have isFull := firstFrom_eq_none.mp found idx inRange
    rw [List.getElem?_eq_getElem inRange, isSlot] at isFull
    simpa using isFull
  | some idx =>
    obtain ⟨offset, inRange, isPosition, hasRoom, skips⟩ := firstFrom_eq_some.mp found
    have positive : 0 < runtime.dispatchSlots.length := by omega
    have sameCursor : runtime.dispatchRRIdx % runtime.dispatchSlots.length =
        runtime.dispatchRRIdx := by
      rcases inv.inRange with small | ⟨isEmpty, _⟩
      · exact Nat.mod_eq_of_lt small
      · rw [isEmpty] at positive
        cases positive
    rw [sameCursor] at isPosition skips
    dsimp only
    cases isSlot : runtime.dispatchSlots[idx]? with
    | none =>
      rw [isSlot] at hasRoom
      cases hasRoom
    | some slot =>
      rw [isSlot] at hasRoom
      refine .inl ⟨rfl, offset, slot, inRange, isPosition ▸ isSlot, by simpa using hasRoom, ?_, ?_⟩
      · intro earlier before other isOther
        have isFull := skips earlier before
        rw [isOther] at isFull
        simpa using isFull
      · rw [← isPosition]
        unfold cyclic
        rw [Nat.mod_add_mod, Nat.add_assoc]

theorem DispatchInv.dispatch (inv : DispatchInv runtime) (pkt : Packet) :
    DispatchInv (runtime.dispatchPacket capacity pkt).2 := by
  rcases dispatchPacket_delivers capacity inv pkt with
    ⟨_, offset, slot, delivers⟩ | ⟨unchanged, _⟩
  · rw [delivers.delivers]
    exact ⟨inv.distinct, .inl (cyclic_lt (Nat.zero_lt_of_lt delivers.inRange))⟩
  · rw [unchanged]
    exact inv

theorem DispatchInv.receive (inv : DispatchInv runtime) {channel : Channel}
    {next : Dispatcher Channel Packet} (received : runtime.receive channel = some next) :
    DispatchInv next := by
  unfold Dispatcher.receive at received
  split at received
  · cases received
  · cases received
    exact ⟨inv.distinct, inv.inRange⟩

theorem dispatcher_inv (reached : (dispatcher capacity).Reachable NewDispatcher runtime) :
    DispatchInv runtime := by
  refine reached.invariant ?_ ?_
  · rintro runtime ⟨noSlots, isZero⟩
    refine ⟨?_, .inr ⟨noSlots, isZero⟩⟩
    rw [noSlots]
    exact List.nodup_nil
  · intro runtime next label inv _ stepped
    cases label with
    | bind streamID packets =>
      cases stepped
      exact inv.bind packets
    | unbind streamID =>
      cases stepped
      exact inv.unbind
    | dispatch pkt =>
      cases stepped
      exact inv.dispatch capacity pkt
    | receive channel => exact inv.receive stepped

end Dispatch

/-! ## Turns -/

/-- A packet comes while no channel is full, or a worker takes one. -/
def Undisturbed (capacity : Channel → Nat) (runtime : Dispatcher Channel Packet) :
    DispatchLabel Channel Packet → Prop
  | .dispatch _ => ∀ slot ∈ runtime.dispatchSlots, runtime.isFull capacity slot = false
  | .receive _ => True
  | .bind _ _ => False
  | .unbind _ => False

/-- The stream id of the slot at a position. -/
def streamAt (slots : List (DispatchSlot Channel)) (position : Nat) : UInt8 :=
  (slots.map DispatchSlot.streamID).getD position 0

/-- The packets since `start` went to one slot after the other, from the cursor on. -/
structure TakesTurns (start next : Dispatcher Channel Packet) (count : Nat) : Prop where
  slots : next.dispatchSlots = start.dispatchSlots
  cursor : next.dispatchRRIdx = cyclic start.dispatchRRIdx start.dispatchSlots.length count
  delivered : next.delivered = start.delivered ++ (List.range count).map fun offset =>
    streamAt start.dispatchSlots (cyclic start.dispatchRRIdx start.dispatchSlots.length offset)

def InTurn (start next : Dispatcher Channel Packet) : Prop :=
  DispatchInv next ∧ ∃ count, TakesTurns start next count

section Turns

variable [DecidableEq Channel] {capacity : Channel → Nat}
  {start runtime next : Dispatcher Channel Packet} {first second : DispatchSlot Channel}

omit [DecidableEq Channel] in
theorem streamAt_eq {slots : List (DispatchSlot Channel)} {position : Nat}
    (isSlot : slots[position]? = some first) : streamAt slots position = first.streamID := by
  unfold streamAt
  rw [List.getD_eq_getElem?_getD, List.getElem?_map, isSlot]
  rfl

/-- Where no channel is full, a packet goes to the slot at the cursor. -/
theorem dispatchPacket_undisturbed (inv : DispatchInv runtime) (pkt : Packet)
    (rooms : ∀ slot ∈ runtime.dispatchSlots, runtime.isFull capacity slot = false) :
    (∃ slot, DeliversAt capacity runtime pkt (runtime.dispatchPacket capacity pkt).2 0 slot) ∨
      (runtime.dispatchPacket capacity pkt).2 = runtime := by
  rcases dispatchPacket_delivers capacity inv pkt with
    ⟨_, offset, slot, delivers⟩ | ⟨unchanged, _⟩
  · cases offset with
    | zero => exact .inl ⟨slot, delivers⟩
    | succ offset =>
      have inRange : cyclic runtime.dispatchRRIdx runtime.dispatchSlots.length 0 <
          runtime.dispatchSlots.length := cyclic_lt (Nat.zero_lt_of_lt delivers.inRange)
      have isFull := delivers.skipsFull 0 (Nat.zero_lt_succ offset) _
        (List.getElem?_eq_getElem inRange)
      rw [rooms _ (List.getElem_mem inRange)] at isFull
      cases isFull
  · exact .inr (congrArg Prod.snd unchanged)

theorem TakesTurns.dispatch {count : Nat} (turns : TakesTurns start runtime count)
    (inv : DispatchInv runtime) (pkt : Packet)
    (rooms : ∀ slot ∈ runtime.dispatchSlots, runtime.isFull capacity slot = false) :
    ∃ count, TakesTurns start (runtime.dispatchPacket capacity pkt).2 count := by
  rcases dispatchPacket_undisturbed inv pkt rooms with ⟨slot, delivers⟩ | unchanged
  · refine ⟨count + 1, ?_⟩
    have isSlot := delivers.isSlot
    rw [delivers.delivers]
    rw [turns.cursor, turns.slots, cyclic_add] at isSlot ⊢
    rw [Nat.add_zero] at isSlot
    refine ⟨turns.slots, rfl, ?_⟩
    show runtime.delivered ++ [slot.streamID] = _
    rw [turns.delivered, List.range_succ, List.map_append, List.map_singleton,
      List.append_assoc, streamAt_eq isSlot]
  · rw [unchanged]
    exact ⟨count, turns⟩

/-- An undisturbed stretch goes around the slots. -/
theorem takesTurns (inv : DispatchInv start)
    (stretch : (dispatcher capacity).ReachableWhile (Undisturbed capacity) (· = start) next) :
    InTurn start next := by
  refine stretch.invariant ?_ ?_
  · rintro runtime rfl
    refine ⟨inv, 0, rfl, ?_, (List.append_nil _).symm⟩
    rcases inv.inRange with small | ⟨noSlots, isZero⟩
    · exact (cyclic_zero small).symm
    · rw [noSlots, isZero]
      rfl
  · rintro runtime next label ⟨stillInv, count, turns⟩ undisturbed stepped
    cases label with
    | bind streamID packets => cases undisturbed
    | unbind streamID => cases undisturbed
    | dispatch pkt =>
      cases stepped
      exact ⟨stillInv.dispatch capacity pkt, turns.dispatch stillInv pkt undisturbed⟩
    | receive channel =>
      refine ⟨stillInv.receive stepped, count, ?_⟩
      have received : runtime.receive channel = some next := stepped
      unfold Dispatcher.receive at received
      split at received
      · cases received
      · cases received
        exact ⟨turns.slots, turns.cursor, turns.delivered⟩

omit [DecidableEq Channel] in
/-- How often a slot comes up among positions. -/
theorem count_streamAt {slots : List (DispatchSlot Channel)} {positions : List Nat}
    (distinct : (slots.map DispatchSlot.streamID).Nodup) {position : Nat}
    (isSlot : slots[position]? = some first)
    (inRange : ∀ other ∈ positions, other < slots.length) :
    (positions.map (streamAt slots)).count first.streamID = positions.count position := by
  rw [List.count_eq_countP, List.countP_map, List.count_eq_countP]
  refine List.countP_congr fun other member => ?_
  have small := inRange other member
  obtain ⟨positionSmall, isFirst⟩ := List.getElem?_eq_some_iff.mp isSlot
  have isOther := streamAt_eq (List.getElem?_eq_getElem small)
  simp only [Function.comp_apply, beq_iff_eq, isOther, ← isFirst]
  constructor
  · intro same
    have otherBound : other < (slots.map DispatchSlot.streamID).length := by simpa using small
    have bound : position < (slots.map DispatchSlot.streamID).length := by
      simpa using positionSmall
    have mapped : (slots.map DispatchSlot.streamID)[other] =
        (slots.map DispatchSlot.streamID)[position] := by
      rw [List.getElem_map, List.getElem_map]
      exact same
    exact (List.Nodup.getElem_inj_iff distinct).mp mapped
  · rintro rfl
    rfl

/-- What is said of the dispatch in one state. -/
structure DispatchesInTurn (capacity : Channel → Nat) (runtime : Dispatcher Channel Packet) :
    Prop where
  distinct : (runtime.dispatchSlots.map DispatchSlot.streamID).Nodup
  inRange : runtime.dispatchRRIdx < runtime.dispatchSlots.length ∨
    (runtime.dispatchSlots = [] ∧ runtime.dispatchRRIdx = 0)
  delivers : ∀ pkt, (runtime.dispatchPacket capacity pkt).1 = true →
    ∃ offset slot, DeliversAt capacity runtime pkt (runtime.dispatchPacket capacity pkt).2
      offset slot
  refuses : ∀ pkt, (runtime.dispatchPacket capacity pkt).1 = false →
    (runtime.dispatchPacket capacity pkt).2 = runtime ∧ (runtime.dispatchSlots = [] ∨
      ∀ slot ∈ runtime.dispatchSlots, runtime.isFull capacity slot = true)
  /-- No slot gets two packets more than another one. -/
  fair : ∀ next, (dispatcher capacity).ReachableWhile (Undisturbed capacity) (· = runtime) next →
    ∃ streamIDs, next.delivered = runtime.delivered ++ streamIDs ∧
      ∀ first ∈ runtime.dispatchSlots, ∀ second ∈ runtime.dispatchSlots,
        streamIDs.count first.streamID ≤ streamIDs.count second.streamID + 1

theorem dispatches_in_turn (reached : (dispatcher capacity).Reachable NewDispatcher runtime) :
    DispatchesInTurn capacity runtime := by
  have inv := dispatcher_inv capacity reached
  refine ⟨inv.distinct, inv.inRange, fun pkt isTrue => ?_, fun pkt isFalse => ?_,
    fun next stretch => ?_⟩
  · rcases dispatchPacket_delivers capacity inv pkt with ⟨_, delivers⟩ | ⟨unchanged, _⟩
    · exact delivers
    · rw [unchanged] at isTrue
      cases isTrue
  · rcases dispatchPacket_delivers capacity inv pkt with ⟨isTrue, _⟩ | ⟨unchanged, allFull⟩
    · exact nomatch isFalse.symm.trans isTrue
    · exact ⟨congrArg Prod.snd unchanged, .inr allFull⟩
  · obtain ⟨_, count, turns⟩ := takesTurns inv stretch
    refine ⟨_, turns.delivered, fun first isFirst second isSecond => ?_⟩
    obtain ⟨firstAt, firstSmall, firstSlot⟩ := List.mem_iff_getElem.mp isFirst
    obtain ⟨secondAt, secondSmall, secondSlot⟩ := List.mem_iff_getElem.mp isSecond
    have positions : (List.range count).map (fun offset => streamAt runtime.dispatchSlots
          (cyclic runtime.dispatchRRIdx runtime.dispatchSlots.length offset)) =
        ((List.range count).map (cyclic runtime.dispatchRRIdx
          runtime.dispatchSlots.length)).map (streamAt runtime.dispatchSlots) := by
      rw [List.map_map]
      rfl
    have inRange : ∀ other ∈ (List.range count).map (cyclic runtime.dispatchRRIdx
        runtime.dispatchSlots.length), other < runtime.dispatchSlots.length := by
      intro other member
      obtain ⟨offset, _, rfl⟩ := List.mem_map.mp member
      exact cyclic_lt (Nat.zero_lt_of_lt firstSmall)
    rw [positions, count_streamAt inv.distinct (firstSlot ▸ List.getElem?_eq_getElem firstSmall)
        inRange,
      count_streamAt inv.distinct (secondSlot ▸ List.getElem?_eq_getElem secondSmall) inRange]
    exact count_cyclic_le firstSmall secondSmall

end Turns

/-! ## Two workers -/

/-- The state after two workers have bound channels with room for one packet each, and two packets
    have come. -/
theorem dispatches_in_turn_two : ∃ runtime : Dispatcher Nat String,
    (dispatcher fun _ => 1).run { buffers := fun _ => [] }
        [.bind 0 (some 0), .bind 1 (some 1), .dispatch "a", .dispatch "b"] = some runtime ∧
      runtime.delivered = [0, 1] ∧ runtime.buffers 1 = ["b"] ∧
      DispatchesInTurn (fun _ => 1) runtime :=
  ⟨_, rfl, rfl, rfl, dispatches_in_turn (Machine.Reachable.run
    (.start (⟨rfl, rfl⟩ : NewDispatcher { buffers := fun _ => [] }))
    (show (dispatcher fun _ => 1).run _
      [.bind 0 (some 0), .bind 1 (some 1), .dispatch "a", .dispatch "b"] = some _ from rfl))⟩

end VkTurn.Client
