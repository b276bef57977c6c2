import VkTurn.Client.Options
import VkTurn.SessionProto.MuV1
import Mathlib.Data.List.Nodup

/-! # The workers of the client

How many workers the client starts, which stream id each of them gets, and what a worker in
session mode mu sends first.
-/

namespace VkTurn.Client

open VkTurn.SessionProto

/-- `opts.n` once `main` has filled in a missing count. -/
def workersOrDefault (requestedTransport : TransportMode) (opts : ClientOptions) : Int :=
  if 0 < opts.n then opts.n
  else if opts.vklink ≠ "" then (if requestedTransport = .tcp then 24 else 10)
  else 1

/-- `effectiveStreamCount`, which is `configuredPoolSize` in every session mode. -/
def effectiveStreamCount (requestedTransport : TransportMode) (opts : ClientOptions) : Int :=
  max 1 (workersOrDefault requestedTransport opts)

/-- The stream ids of `startAdditionalDtlsTurnWorkers`: `byte(int(firstStreamID) + i)`. -/
def additionalStreamIDs (count : Nat) (firstStreamID : UInt8) : List UInt8 :=
  (List.range count).map fun i => UInt8.ofNat (firstStreamID.toNat + i)

/-- The stream ids of `startDtlsTurnWorkers`. -/
def workerStreamIDs (n : Int) : List UInt8 :=
  0 :: additionalStreamIDs (max 0 (n - 1)).toNat 1

/-- The first packet of a worker: `exchangeMuSessionHello` wraps the hello. -/
def workerHello (proto : Proto) (sessionID : Bytes) (streamID : UInt8) : Except String Bytes :=
  (MuV1.buildSessionHello proto sessionID streamID).map buildControlSessionRequest

/-! ## Distinct stream ids -/

theorem workerStreamIDs_eq {n : Int} (positive : 1 ≤ n) :
    workerStreamIDs n = (List.range n.toNat).map UInt8.ofNat := by
  have isSucc : n.toNat = (max 0 (n - 1)).toNat + 1 := by omega
  have first : UInt8.toNat 1 = 1 := rfl
  rw [workerStreamIDs, additionalStreamIDs, isSucc, List.range_succ_eq_map, List.map_cons,
    List.map_map, first]
  congr 1
  apply List.map_congr_left
  intro i _
  rw [Function.comp_apply, Nat.succ_eq_add_one, Nat.add_comm]

/-- The stream ids are a byte, so they repeat from the 257th worker on. -/
theorem workerStreamIDs_nodup_iff {n : Int} (positive : 1 ≤ n) :
    (workerStreamIDs n).Nodup ↔ n ≤ 256 := by
  rw [workerStreamIDs_eq positive]
  constructor
  · intro distinct
    by_contra tooMany
    have lengths : 256 < ((List.range n.toNat).map UInt8.ofNat).length := by
      rw [List.length_map, List.length_range]
      omega
    have wraps : ((List.range n.toNat).map UInt8.ofNat)[0] =
        ((List.range n.toNat).map UInt8.ofNat)[256] := by
      rw [List.getElem_map, List.getElem_map, List.getElem_range, List.getElem_range]
      rfl
    exact absurd ((List.Nodup.getElem_inj_iff distinct).mp wraps) (by decide)
  · intro few
    apply List.Nodup.map_on _ List.nodup_range
    intro i inRange j jInRange same
    rw [List.mem_range] at inRange jInRange
    have sameNat : (UInt8.ofNat i).toNat = (UInt8.ofNat j).toNat := congrArg UInt8.toNat same
    rw [UInt8.toNat_ofNat', UInt8.toNat_ofNat', Nat.mod_eq_of_lt (by omega),
      Nat.mod_eq_of_lt (by omega)] at sameNat
    exact sameNat

theorem workerStreamIDs_length {n : Int} (positive : 1 ≤ n) :
    (workerStreamIDs n).length = n.toNat := by
  rw [workerStreamIDs_eq positive, List.length_map, List.length_range]

theorem effectiveStreamCount_positive (requestedTransport : TransportMode)
    (opts : ClientOptions) : 1 ≤ effectiveStreamCount requestedTransport opts :=
  Int.le_max_left ..

/-- The defaults are small, so only a count from the command line can be too large. -/
theorem effectiveStreamCount_le (requestedTransport : TransportMode) (opts : ClientOptions) :
    effectiveStreamCount requestedTransport opts ≤ 256 ↔ opts.n ≤ 256 := by
  rw [effectiveStreamCount, workersOrDefault]
  split
  · omega
  · split
    · split <;> omega
    · omega

end VkTurn.Client
