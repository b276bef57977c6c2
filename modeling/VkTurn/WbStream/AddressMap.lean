import Mathlib.Data.List.Dedup
import Mathlib.Data.List.Induction
import VkTurn.WbStream.Isolation

/-! # The address map of a client

The client gives each local address the next stream id.  The id is one byte, so that the address
with the number 256 gets the id of the first one, and takes its replies.
-/

namespace VkTurn.WbStream

variable {Addr : Type}

variable [DecidableEq Addr]

/-- The bridge after datagrams from the given addresses. -/
def bridgeAfter (addrs : List Addr) : ClientBridge Addr :=
  addrs.foldl (fun bridge addr => (bridge.streamForAddr addr).2) newClientBridge

structure MutuallyInverse (bridge : ClientBridge Addr) : Prop where
  consistent : bridge.Consistent
  leads : ∀ addr id, bridge.revIdx addr = some id → bridge.streams id = some addr

/-- A reply goes to the address for which its stream id was handed out. -/
def RepliesReach (addrs : List Addr) (bridge : ClientBridge Addr) : Prop :=
  ∀ addr ∈ addrs, ∀ frame : MuxFrame, frame.streamID = (bridge.streamForAddr addr).1 →
    bridge.target frame = some addr

/-- `seen` are the addresses in the order of their first datagrams. -/
structure Numbered (seen : List Addr) (bridge : ClientBridge Addr) : Prop where
  distinct : seen.Nodup
  assigned : ∀ (i : Nat) (addr : Addr), seen[i]? = some addr →
    bridge.revIdx addr = some (UInt8.ofNat i)
  absent : ∀ addr, addr ∉ seen → bridge.revIdx addr = none
  nextID : bridge.nextID = UInt8.ofNat seen.length
  /-- Until the ids wrap around. -/
  streams : seen.length ≤ 256 → ∀ id, bridge.streams id = seen[id.toNat]?

variable {seen : List Addr} {bridge : ClientBridge Addr} {addr : Addr}

omit [DecidableEq Addr] in
theorem newClientBridge_numbered : Numbered ([] : List Addr) newClientBridge where
  distinct := List.nodup_nil
  assigned := by simp
  absent := fun _ _ => rfl
  nextID := rfl
  streams := fun _ _ => by simp [newClientBridge]

theorem Numbered.known (numbered : Numbered seen bridge) (isSeen : addr ∈ seen) :
    ∃ id, bridge.revIdx addr = some id ∧ bridge.streamForAddr addr = (id, bridge) := by
  obtain ⟨i, isAt⟩ := List.mem_iff_getElem?.mp isSeen
  have isAssigned := numbered.assigned i addr isAt
  exact ⟨_, isAssigned, by rw [ClientBridge.streamForAddr, isAssigned]⟩

/-- A new address is appended. -/
theorem Numbered.append (numbered : Numbered seen bridge) (isNew : addr ∉ seen) :
    Numbered (seen ++ [addr]) (bridge.streamForAddr addr).2 := by
  have next : (bridge.streamForAddr addr).2 = {
      streams := Function.update bridge.streams bridge.nextID (some addr)
      revIdx := Function.update bridge.revIdx addr (some bridge.nextID)
      nextID := bridge.nextID + 1 } := by
    rw [ClientBridge.streamForAddr, numbered.absent addr isNew]
  rw [next]
  have ofNat_add : UInt8.ofNat seen.length + 1 = UInt8.ofNat (seen.length + 1) := by
    rw [UInt8.ofNat_add]
    rfl
  refine ⟨?_, ?_, ?_, ?_, ?_⟩
  · rw [← List.concat_eq_append]
    exact List.Nodup.concat isNew numbered.distinct
  · intro i other isAt
    by_cases isOld : i < seen.length
    · rw [List.getElem?_append_left isOld] at isAt
      have different : other ≠ addr := fun same => isNew (same ▸ List.mem_of_getElem? isAt)
      simp only [Function.update_of_ne different, numbered.assigned i other isAt]
    · obtain ⟨isLast, same⟩ : i = seen.length ∧ other = addr := by
        rw [List.getElem?_append_right (by omega), List.getElem?_singleton] at isAt
        split at isAt
        · rename_i isZero
          exact ⟨by omega, (Option.some.inj isAt).symm⟩
        · cases isAt
      simp only [same, Function.update_self, numbered.nextID, isLast]
  · intro other isOther
    simp only [List.mem_append, List.mem_singleton, not_or] at isOther
    simp only [Function.update_of_ne isOther.2, numbered.absent other isOther.1]
  · simp only [numbered.nextID, ofNat_add, List.length_append, List.length_singleton]
  · intro small id
    rw [List.length_append, List.length_singleton] at small
    have before := numbered.streams (by omega) id
    simp only [Function.update_apply, numbered.nextID, before]
    by_cases isNext : id = UInt8.ofNat seen.length
    · have position : id.toNat = seen.length := by
        rw [isNext, UInt8.toNat_ofNat']
        omega
      rw [if_pos isNext, position, List.getElem?_append_right (Nat.le_refl _)]
      simp
    · have position : id.toNat ≠ seen.length := by
        intro same
        apply isNext
        rw [← same, UInt8.ofNat_toNat]
      rw [if_neg isNext]
      by_cases isOld : id.toNat < seen.length
      · rw [List.getElem?_append_left isOld]
      · rw [List.getElem?_eq_none (by omega), List.getElem?_eq_none]
        rw [List.length_append, List.length_singleton]
        omega

theorem bridgeAfter_numbered (addrs : List Addr) :
    ∃ seen, Numbered seen (bridgeAfter addrs) ∧ ∀ addr, addr ∈ seen ↔ addr ∈ addrs := by
  induction addrs using List.reverseRecOn with
  | nil => exact ⟨[], newClientBridge_numbered, fun _ => Iff.rfl⟩
  | append_singleton addrs addr inductionHypothesis =>
    obtain ⟨seen, numbered, same⟩ := inductionHypothesis
    have last : bridgeAfter (addrs ++ [addr]) = ((bridgeAfter addrs).streamForAddr addr).2 := by
      simp [bridgeAfter]
    rw [last]
    by_cases isSeen : addr ∈ seen
    · obtain ⟨id, _, kept⟩ := numbered.known isSeen
      rw [kept]
      refine ⟨seen, numbered, fun other => ?_⟩
      have known := (same addr).mp isSeen
      simp only [List.mem_append, List.mem_singleton, same]
      constructor
      · exact .inl
      · rintro (isOther | rfl)
        · exact isOther
        · exact known
    · exact ⟨seen ++ [addr], numbered.append isSeen, fun other => by simp [same]⟩

/-- With at most 256 addresses the ids are their numbers. -/
theorem Numbered.mutuallyInverse (numbered : Numbered seen bridge) (small : seen.length ≤ 256) :
    MutuallyInverse bridge := by
  have streams := numbered.streams small
  constructor
  · intro id addr leads
    rw [streams] at leads
    rw [numbered.assigned id.toNat addr leads, UInt8.ofNat_toNat]
  · intro addr id isAssigned
    by_cases isSeen : addr ∈ seen
    · obtain ⟨i, isAt⟩ := List.mem_iff_getElem?.mp isSeen
      have bound : i < seen.length := (List.getElem?_eq_some_iff.mp isAt).1
      obtain rfl : UInt8.ofNat i = id :=
        Option.some.inj ((numbered.assigned i addr isAt).symm.trans isAssigned)
      have position : (UInt8.ofNat i).toNat = i := by
        rw [UInt8.toNat_ofNat']
        omega
      rw [streams, position, isAt]
    · cases (numbered.absent addr isSeen).symm.trans isAssigned

omit [DecidableEq Addr] in
/-- The address with the number 256 has the id of the first one. -/
theorem Numbered.wraps (numbered : Numbered seen bridge) (many : 256 < seen.length) :
    ¬ MutuallyInverse bridge := by
  intro inverse
  have first := numbered.assigned 0 _ (List.getElem?_eq_getElem (by omega : 0 < seen.length))
  have wrapped := numbered.assigned 256 _ (List.getElem?_eq_getElem many)
  have sameId : UInt8.ofNat 256 = UInt8.ofNat 0 := by decide
  rw [sameId] at wrapped
  have same := Option.some.inj
    ((inverse.leads _ _ first).symm.trans (inverse.leads _ _ wrapped))
  have index := (List.Nodup.getElem_inj_iff numbered.distinct).mp same
  omega

theorem MutuallyInverse.repliesReach (inverse : MutuallyInverse bridge)
    (numbered : Numbered seen bridge) : RepliesReach seen bridge := by
  intro addr isSeen frame isReply
  obtain ⟨id, isAssigned, handed⟩ := numbered.known isSeen
  rw [handed] at isReply
  rw [ClientBridge.target, isReply]
  exact inverse.leads addr id isAssigned

/-- The two maps are inverse, and every reply reaches its address, exactly while there are at most
    256 addresses. -/
theorem address_map_inverse_iff (addrs : List Addr) :
    (MutuallyInverse (bridgeAfter addrs) ∧ RepliesReach addrs (bridgeAfter addrs)) ↔
      addrs.dedup.length ≤ 256 := by
  obtain ⟨seen, numbered, same⟩ := bridgeAfter_numbered addrs
  have count : addrs.dedup.length = seen.length := by
    apply List.Perm.length_eq
    rw [List.perm_ext_iff_of_nodup (List.nodup_dedup addrs) numbered.distinct]
    simp [same]
  rw [count]
  constructor
  · rintro ⟨inverse, _⟩
    by_contra many
    exact numbered.wraps (by omega) inverse
  · intro small
    have inverse := numbered.mutuallyInverse small
    refine ⟨inverse, fun addr isAddr => ?_⟩
    exact inverse.repliesReach numbered addr ((same addr).mpr isAddr)

/-- A client with 257 local addresses. -/
theorem address_257_takes_over :
    ¬ ∀ addrs : List Nat,
      MutuallyInverse (bridgeAfter addrs) ∧ RepliesReach addrs (bridgeAfter addrs) := by
  intro claimed
  have few := (address_map_inverse_iff (List.range 257)).mp (claimed (List.range 257))
  rw [List.dedup_eq_self.mpr List.nodup_range, List.length_range] at few
  omega

end VkTurn.WbStream
