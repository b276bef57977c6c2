import VkTurn.WbStream.Frame

/-! # What the frame decoder accepts

The decoder takes the payload length from the header and compares it with the length of the input
in 32-bit arithmetic.  Below 2^32 bytes that is harmless.  From there on a declared length can pass
the comparison and then wrap around in the bound of the slice, which stops the program.
-/

namespace VkTurn.WbStream

open VkTurn.SessionProto

/-- The payload length that the header of an input declares. -/
def declaredLength (raw : Bytes) : Nat := (uint32At raw (2 + sessionIDLen)).toNat

def Rejected (raw : Bytes) : Prop := ∃ message, decodeMuxFrame raw = some (.error message)

/-- The declared length passes the comparison, but not the addition of the header size. -/
structure WrapsAround (raw : Bytes) : Prop where
  hasHeader : muxHeaderSize ≤ raw.length
  version : raw.getD 0 0 = muxFrameVersion
  fits : declaredLength raw ≤ (raw.length - muxHeaderSize) % 2 ^ 32
  wraps : 2 ^ 32 ≤ muxHeaderSize + declaredLength raw

/-- The input is a header and a payload of the length that it declares, with bytes behind it. -/
structure Framed (raw : Bytes) : Prop where
  hasHeader : muxHeaderSize ≤ raw.length
  version : raw.getD 0 0 = muxFrameVersion
  fits : declaredLength raw ≤ (raw.length - muxHeaderSize) % 2 ^ 32
  inRange : muxHeaderSize + declaredLength raw < 2 ^ 32

/-- The frame of such an input. -/
def frameOf (raw : Bytes) : MuxFrame where
  sessionID := Vector.ofFn fun i => raw.getD (1 + i) 0
  streamID := raw.getD (1 + sessionIDLen) 0
  payload := (raw.take (muxHeaderSize + declaredLength raw)).drop muxHeaderSize

/-! ## The three outcomes -/

section Outcomes

variable {raw : Bytes}

theorem declaredLength_lt (raw : Bytes) : declaredLength raw < 2 ^ 32 := UInt32.toNat_lt _

theorem lt_declared_iff : UInt32.ofNat (raw.length - muxHeaderSize) <
    uint32At raw (2 + sessionIDLen) ↔ (raw.length - muxHeaderSize) % 2 ^ 32 < declaredLength raw := by
  rw [UInt32.lt_iff_toNat_lt, UInt32.toNat_ofNat', declaredLength]

theorem payloadEnd (raw : Bytes) :
    (UInt32.ofNat muxHeaderSize + uint32At raw (2 + sessionIDLen)).toNat =
      (muxHeaderSize + declaredLength raw) % 2 ^ 32 := by
  rw [UInt32.toNat_add, UInt32.toNat_ofNat', declaredLength]
  rfl

theorem decode_framed (framed : Framed raw) : decodeMuxFrame raw = some (.ok (frameOf raw)) := by
  have hasHeader := framed.hasHeader
  have fits := framed.fits
  have inRange := framed.inRange
  have fewer : (raw.length - muxHeaderSize) % 2 ^ 32 ≤ raw.length - muxHeaderSize :=
    Nat.mod_le _ _
  have inBounds : muxHeaderSize ≤ muxHeaderSize + declaredLength raw ∧
      muxHeaderSize + declaredLength raw ≤ raw.length := by omega
  rw [decodeMuxFrame, if_neg (Nat.not_lt.mpr hasHeader), if_neg (not_not.mpr framed.version)]
  dsimp only
  rw [if_neg (fun short => Nat.not_lt.mpr fits (lt_declared_iff.mp short)), payloadEnd,
    Nat.mod_eq_of_lt inRange, slice, if_pos inBounds]
  rfl

theorem decode_wraps (wraps : WrapsAround raw) : decodeMuxFrame raw = none := by
  have isLarge := wraps.wraps
  have isSmall := declaredLength_lt raw
  have header : muxHeaderSize = 22 := rfl
  have outOfBounds : ¬ (muxHeaderSize ≤ (muxHeaderSize + declaredLength raw) % 2 ^ 32 ∧
      (muxHeaderSize + declaredLength raw) % 2 ^ 32 ≤ raw.length) := by omega
  rw [decodeMuxFrame, if_neg (Nat.not_lt.mpr wraps.hasHeader), if_neg (not_not.mpr wraps.version)]
  dsimp only
  rw [if_neg (fun short => Nat.not_lt.mpr wraps.fits (lt_declared_iff.mp short)), payloadEnd, slice,
    if_neg outOfBounds]
  rfl

theorem rejected_of_short (short : raw.length < muxHeaderSize) : Rejected raw :=
  ⟨_, by rw [decodeMuxFrame, if_pos short]⟩

theorem rejected_of_version (wrong : raw.getD 0 0 ≠ muxFrameVersion) : Rejected raw := by
  by_cases short : raw.length < muxHeaderSize
  · exact rejected_of_short short
  · exact ⟨_, by rw [decodeMuxFrame, if_neg short, if_pos wrong]⟩

theorem rejected_of_truncated (truncated : (raw.length - muxHeaderSize) % 2 ^ 32 < declaredLength raw) :
    Rejected raw := by
  by_cases short : raw.length < muxHeaderSize
  · exact rejected_of_short short
  · by_cases wrong : raw.getD 0 0 ≠ muxFrameVersion
    · exact rejected_of_version wrong
    · refine ⟨"mux frame payload truncated", ?_⟩
      rw [decodeMuxFrame, if_neg short, if_neg wrong]
      dsimp only
      rw [if_pos (lt_declared_iff.mpr truncated)]

theorem decode_cases (raw : Bytes) : Rejected raw ∨ Framed raw ∨ WrapsAround raw := by
  by_cases short : raw.length < muxHeaderSize
  · exact .inl (rejected_of_short short)
  by_cases wrong : raw.getD 0 0 ≠ muxFrameVersion
  · exact .inl (rejected_of_version wrong)
  by_cases truncated : (raw.length - muxHeaderSize) % 2 ^ 32 < declaredLength raw
  · exact .inl (rejected_of_truncated truncated)
  have hasHeader := Nat.not_lt.mp short
  have version := not_not.mp wrong
  have fits := Nat.not_lt.mp truncated
  by_cases inRange : muxHeaderSize + declaredLength raw < 2 ^ 32
  · exact .inr (.inl ⟨hasHeader, version, fits, inRange⟩)
  · exact .inr (.inr ⟨hasHeader, version, fits, Nat.not_lt.mp inRange⟩)

theorem framed_of_accepted {frame : MuxFrame} (accepted : decodeMuxFrame raw = some (.ok frame)) :
    Framed raw ∧ frame = frameOf raw := by
  obtain ⟨message, rejected⟩ | framed | wraps := decode_cases raw
  · cases accepted.symm.trans rejected
  · have decoded := accepted.symm.trans (decode_framed framed)
    simp only [Option.some.injEq, Except.ok.injEq] at decoded
    exact ⟨framed, decoded⟩
  · cases accepted.symm.trans (decode_wraps wraps)

end Outcomes

/-! ## Encoding again -/

section Reencode

variable {raw : Bytes}

theorem getD_drop (offset i : Nat) : (raw.drop offset).getD i 0 = raw.getD (offset + i) 0 := by
  simp [List.getD_eq_getElem?_getD, List.getElem?_drop]

theorem take_one {bytes : Bytes} (room : 0 < bytes.length) : bytes.take 1 = [bytes.getD 0 0] := by
  cases bytes with
  | nil => cases room
  | cons first rest => rfl

theorem putUint32_uint32At {offset : Nat} (room : offset + 4 ≤ raw.length) :
    putUint32 (uint32At raw offset) = (raw.drop offset).take 4 := by
  have long : 4 ≤ (raw.drop offset).length := by
    rw [List.length_drop]
    omega
  match isRest : raw.drop offset, long with
  | first :: second :: third :: fourth :: rest, _ =>
    have number : (uint32At raw offset).toNat =
        first.toNat * 2 ^ 24 + second.toNat * 2 ^ 16 + third.toNat * 2 ^ 8 + fourth.toNat := by
      simp only [uint32At, ← getD_drop, isRest, List.getD_cons_zero, List.getD_cons_succ,
        UInt32.toNat_ofNat']
      have bounds := And.intro first.toNat_lt
        (And.intro second.toNat_lt (And.intro third.toNat_lt fourth.toNat_lt))
      omega
    have byte (value : Nat) (expected : UInt8) (same : value % 2 ^ 8 = expected.toNat) :
        UInt8.ofNat value = expected := by
      rw [← UInt8.toNat_inj, UInt8.toNat_ofNat', same]
    have bounds := And.intro first.toNat_lt
      (And.intro second.toNat_lt (And.intro third.toNat_lt fourth.toNat_lt))
    rw [putUint32, number, byte _ first (by omega), byte _ second (by omega),
      byte _ third (by omega), byte _ fourth (by omega)]
    rfl

theorem sessionID_toList (room : 1 + sessionIDLen ≤ raw.length) :
    (frameOf raw).sessionID.toList = (raw.drop 1).take sessionIDLen := by
  refine List.ext_getElem ?_ fun i isIndex _ => ?_
  · rw [Vector.length_toList, List.length_take, List.length_drop]
    omega
  · rw [Vector.length_toList] at isIndex
    simp only [frameOf, Vector.getElem_toList, Vector.getElem_ofFn, List.getElem_take,
      List.getElem_drop]
    exact List.getD_eq_getElem _ _ (by omega)

/-- Encoding the frame of an input again gives its header and the declared payload. -/
theorem encode_frameOf (framed : Framed raw)
    (small : raw.length < 2 ^ 32) :
    (frameOf raw).encode = raw.take (muxHeaderSize + declaredLength raw) := by
  have hasHeader := framed.hasHeader
  have fits := framed.fits
  have header : muxHeaderSize = 22 := rfl
  have session : sessionIDLen = 16 := rfl
  have payloadLength : (frameOf raw).payload.length = declaredLength raw := by
    rw [frameOf, List.length_drop, List.length_take]
    omega
  have written : UInt32.ofNat (frameOf raw).payload.length = uint32At raw (2 + sessionIDLen) := by
    rw [payloadLength, declaredLength, UInt32.ofNat_toNat]
  have version : raw.take 1 = [muxFrameVersion] := by
    rw [take_one (by omega), framed.version]
  have streamID : (raw.drop (1 + sessionIDLen)).take 1 = [(frameOf raw).streamID] := by
    rw [take_one (by rw [List.length_drop]; omega), getD_drop]
    rfl
  have payload : (frameOf raw).payload = (raw.drop muxHeaderSize).take (declaredLength raw) := by
    rw [frameOf, List.drop_take, Nat.add_sub_cancel_left]
  rw [MuxFrame.encode, sessionID_toList (by omega), written, putUint32_uint32At (by omega), payload,
    List.take_add]
  congr 1
  rw [muxHeaderSize, List.take_add, List.take_add, List.take_add, version, streamID]
  rfl

end Reencode

/-! ## Prefixes -/

section Prefixes

variable {raw : Bytes} {frame : MuxFrame}

theorem uint32At_prefix {whole : Bytes} (isPrefix : raw <+: whole) {offset : Nat}
    (room : offset + 4 ≤ raw.length) : uint32At raw offset = uint32At whole offset := by
  obtain ⟨rest, rfl⟩ := isPrefix
  have same (i : Nat) (small : i < 4) :
      (raw ++ rest).getD (offset + i) 0 = raw.getD (offset + i) 0 :=
    List.getD_append _ _ _ _ (by omega)
  simp only [uint32At, same 0 (by decide), same 1 (by decide), same 2 (by decide),
    same 3 (by decide)]

theorem declaredLength_encode (small : frame.payload.length < 2 ^ 32) :
    declaredLength frame.encode = frame.payload.length := by
  have header := uint32At_putUint32 frame.prefixBytes frame.payload
    (UInt32.ofNat frame.payload.length)
  rw [frame.prefixBytes_length] at header
  have declared : uint32At frame.encode (2 + sessionIDLen) =
      UInt32.ofNat frame.payload.length := header
  rw [declaredLength, declared, UInt32.toNat_ofNat', Nat.mod_eq_of_lt small]

theorem rejected_of_prefix (small : frame.encode.length < 2 ^ 32) (isPrefix : raw <+: frame.encode)
    (isProper : raw ≠ frame.encode) : Rejected raw := by
  have isShorter : raw.length < frame.encode.length :=
    Nat.lt_of_le_of_ne isPrefix.length_le fun same => isProper (isPrefix.eq_of_length same)
  have length := frame.encode_length
  by_cases short : raw.length < muxHeaderSize
  · exact rejected_of_short short
  -- the header is whole, and declares more than what is left of the payload
  have session : sessionIDLen = 16 := rfl
  have header : muxHeaderSize = 22 := rfl
  have declared : declaredLength raw = frame.payload.length := by
    rw [← declaredLength_encode (by omega), declaredLength, declaredLength,
      uint32At_prefix isPrefix (by omega)]
  refine rejected_of_truncated ?_
  rw [declared, Nat.mod_eq_of_lt (by omega)]
  omega

end Prefixes

/-! ## The law of the codec -/

structure CodecLaw (frame : MuxFrame) (raw : Bytes) : Prop where
  roundTrip : frame.encode.length < 2 ^ 32 → decodeMuxFrame frame.encode = some (.ok frame)
  truncated : frame.encode.length < 2 ^ 32 → raw <+: frame.encode → raw ≠ frame.encode → Rejected raw
  version : raw.getD 0 0 ≠ muxFrameVersion → Rejected raw
  reencodes : raw.length < 2 ^ 32 → ∀ accepted, decodeMuxFrame raw = some (.ok accepted) →
    accepted.encode = raw.take (muxHeaderSize + declaredLength raw)
  /-- No slice is out of range. -/
  inRange : decodeMuxFrame raw ≠ none

theorem codecLaw_iff (frame : MuxFrame) (raw : Bytes) : CodecLaw frame raw ↔ ¬ WrapsAround raw := by
  constructor
  · exact fun law wraps => law.inRange (decode_wraps wraps)
  · intro noWrap
    refine ⟨decodeMuxFrame_encode frame, rejected_of_prefix, rejected_of_version,
      fun small accepted isAccepted => ?_, fun stops => ?_⟩
    · obtain ⟨framed, rfl⟩ := framed_of_accepted isAccepted
      exact encode_frameOf framed small
    · obtain ⟨message, rejected⟩ | framed | wraps := decode_cases raw
      · cases stops.symm.trans rejected
      · cases stops.symm.trans (decode_framed framed)
      · exact noWrap wraps

/-- Inputs of less than 2^32 bytes do not wrap around. -/
theorem WrapsAround.large {raw : Bytes} (wraps : WrapsAround raw) : 2 ^ 32 ≤ raw.length := by
  have hasHeader := wraps.hasHeader
  have fits := wraps.fits
  have isLarge := wraps.wraps
  omega

/-- A frame whose encoding has 2^32 bytes. -/
def hugeFrame : MuxFrame := ⟨Vector.replicate sessionIDLen 0, 0, List.replicate (2 ^ 32 - 22) 0⟩

/-- The encoding of a frame can stop the decoder. -/
theorem huge_frame_stops : ¬ CodecLaw hugeFrame hugeFrame.encode := by
  have payload : hugeFrame.payload.length = 2 ^ 32 - 22 := List.length_replicate
  have length := hugeFrame.encode_length
  have header : muxHeaderSize = 22 := rfl
  have declared : declaredLength hugeFrame.encode = 2 ^ 32 - 22 := by
    rw [declaredLength_encode (by omega), payload]
  have fits : declaredLength hugeFrame.encode ≤
      (hugeFrame.encode.length - muxHeaderSize) % 2 ^ 32 := by
    rw [declared, length, payload, Nat.add_sub_cancel_left]
    decide
  exact fun law => law.inRange (decode_wraps ⟨by omega, rfl, fits, by omega⟩)

end VkTurn.WbStream
