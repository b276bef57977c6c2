import Mathlib.Algebra.Group.Nat.Defs
import Mathlib.Data.List.GetD
import VkTurn.SessionProto.Hello

/-! # The frames of a wb-stream room

`MuxFrame.Encode` and `DecodeMuxFrame`.  The decoder slices its input with 32-bit bounds, so a
decoding is `none` where the slice is out of range and the Go program would stop.
-/

namespace VkTurn.WbStream

open VkTurn.SessionProto

abbrev SessionID := Vector UInt8 sessionIDLen

structure MuxFrame where
  sessionID : SessionID
  streamID : UInt8
  payload : Bytes
  deriving DecidableEq

def muxFrameVersion : UInt8 := 1

/-- Version, session id, stream id and payload length. -/
def muxHeaderSize : Nat := 1 + sessionIDLen + 1 + 4

/-! ## Big-endian numbers -/

/-- `binary.BigEndian.PutUint32`. -/
def putUint32 (number : UInt32) : Bytes :=
  [UInt8.ofNat (number.toNat / 2 ^ 24), UInt8.ofNat (number.toNat / 2 ^ 16),
    UInt8.ofNat (number.toNat / 2 ^ 8), UInt8.ofNat number.toNat]

/-- `binary.BigEndian.Uint32`, of the bytes from an offset on. -/
def uint32At (bytes : Bytes) (offset : Nat) : UInt32 :=
  let byte (i : Nat) : Nat := (bytes.getD (offset + i) 0).toNat
  UInt32.ofNat (byte 0 * 2 ^ 24 + byte 1 * 2 ^ 16 + byte 2 * 2 ^ 8 + byte 3)

/-! ## Encoding and decoding -/

def MuxFrame.encode (frame : MuxFrame) : Bytes :=
  muxFrameVersion :: frame.sessionID.toList ++ [frame.streamID] ++
    putUint32 (UInt32.ofNat frame.payload.length) ++ frame.payload

/-- Go's `bytes[low:high]`. -/
def slice (bytes : Bytes) (low high : Nat) : Option Bytes :=
  if low ≤ high ∧ high ≤ bytes.length then some ((bytes.take high).drop low) else none

def decodeMuxFrame (raw : Bytes) : Option (Except String MuxFrame) :=
  if raw.length < muxHeaderSize then
    some (.error ("mux frame too short: " ++ toString raw.length ++ " bytes"))
  else if raw.getD 0 0 ≠ muxFrameVersion then
    some (.error ("unsupported mux frame version: " ++ toString (raw.getD 0 0)))
  else
    let payloadLen := uint32At raw (2 + sessionIDLen)
    if UInt32.ofNat (raw.length - muxHeaderSize) < payloadLen then
      some (.error "mux frame payload truncated")
    else
      (slice raw muxHeaderSize (UInt32.ofNat muxHeaderSize + payloadLen).toNat).map fun payload =>
        .ok {
          sessionID := Vector.ofFn fun i => raw.getD (1 + i) 0
          streamID := raw.getD (1 + sessionIDLen) 0
          payload := payload }

/-! ## Round trip -/

theorem uint32At_putUint32 (before after : Bytes) (number : UInt32) :
    uint32At (before ++ putUint32 number ++ after) before.length = number := by
  have bound := number.toNat_lt
  have byteAt : ∀ i, i < 4 → (before ++ putUint32 number ++ after).getD (before.length + i) 0 =
      (putUint32 number).getD i 0 := by
    intro i small
    have inNumber : i < (putUint32 number).length := small
    rw [List.append_assoc, List.getD_append_right _ _ _ _ (by omega), Nat.add_sub_cancel_left,
      List.getD_append _ _ _ _ inNumber]
  have byteNat : ∀ n : Nat, (UInt8.ofNat n).toNat = n % 256 := fun n => UInt8.toNat_ofNat'
  apply UInt32.toNat_inj.mp
  simp only [uint32At, byteAt 0 (by decide), byteAt 1 (by decide), byteAt 2 (by decide),
    byteAt 3 (by decide)]
  simp only [putUint32, List.getD_cons_zero, List.getD_cons_succ, byteNat, UInt32.toNat_ofNat']
  omega

/-- The header of an encoding up to the payload length. -/
def MuxFrame.prefixBytes (frame : MuxFrame) : Bytes :=
  muxFrameVersion :: frame.sessionID.toList ++ [frame.streamID]

theorem MuxFrame.prefixBytes_length (frame : MuxFrame) :
    frame.prefixBytes.length = 2 + sessionIDLen := by
  have session : frame.sessionID.toList.length = sessionIDLen := Vector.length_toList
  simp [prefixBytes, session]
  omega

theorem MuxFrame.encode_length (frame : MuxFrame) :
    frame.encode.length = muxHeaderSize + frame.payload.length := by
  have session : frame.sessionID.toList.length = sessionIDLen := Vector.length_toList
  simp [encode, putUint32, muxHeaderSize, session]
  omega

/-- Decoding an encoding gives the frame back. -/
theorem decodeMuxFrame_encode (frame : MuxFrame) (small : frame.encode.length < 2 ^ 32) :
    decodeMuxFrame frame.encode = some (.ok frame) := by
  have length := frame.encode_length
  rw [length] at small
  have payloadLen : uint32At frame.encode (2 + sessionIDLen) =
      UInt32.ofNat frame.payload.length := by
    rw [← frame.prefixBytes_length]
    exact uint32At_putUint32 frame.prefixBytes frame.payload _
  have sized : (UInt32.ofNat muxHeaderSize + UInt32.ofNat frame.payload.length).toNat =
      frame.encode.length := by
    rw [length, UInt32.toNat_add, UInt32.toNat_ofNat', UInt32.toNat_ofNat']
    omega
  have sliced : slice frame.encode muxHeaderSize frame.encode.length = some frame.payload := by
    have header : (frame.prefixBytes ++ putUint32 (UInt32.ofNat frame.payload.length)).length =
        muxHeaderSize := by
      rw [List.length_append, frame.prefixBytes_length]
      rfl
    have split : frame.encode = (frame.prefixBytes ++
        putUint32 (UInt32.ofNat frame.payload.length)) ++ frame.payload := rfl
    rw [slice, if_pos ⟨by omega, Nat.le_refl _⟩, List.take_length, split]
    exact congrArg some (List.drop_left' header)
  have version : frame.encode.getD 0 0 = muxFrameVersion := rfl
  have sessionLength : frame.sessionID.toList.length = sessionIDLen := Vector.length_toList
  have afterVersion : ∀ i, frame.encode.getD (1 + i) 0 = (frame.sessionID.toList ++
      (frame.streamID :: (putUint32 (UInt32.ofNat frame.payload.length) ++
        frame.payload))).getD i 0 := by
    intro i
    rw [Nat.add_comm]
    simp [MuxFrame.encode]
  have streamID : frame.encode.getD (1 + sessionIDLen) 0 = frame.streamID := by
    rw [afterVersion, List.getD_append_right _ _ _ _ (by omega), sessionLength, Nat.sub_self]
    rfl
  have sessionID : (Vector.ofFn fun i : Fin sessionIDLen => frame.encode.getD (1 + i) 0) =
      frame.sessionID := by
    apply Vector.ext
    intro i inBounds
    have inSession : i < frame.sessionID.toList.length := by omega
    rw [Vector.getElem_ofFn, afterVersion, List.getD_append _ _ _ _ inSession,
      List.getD_eq_getElem _ _ inSession, Vector.getElem_toList]
  rw [decodeMuxFrame, if_neg (by omega), if_neg (by rw [version]; simp)]
  simp only [payloadLen, sized, sliced, streamID, sessionID]
  rw [if_neg]
  · rfl
  · rw [UInt32.lt_iff_toNat_lt, UInt32.toNat_ofNat', UInt32.toNat_ofNat']
    omega

end VkTurn.WbStream
