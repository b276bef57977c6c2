import Mathlib.Algebra.Group.Nat.Defs

/-! # Control messages

How Go's `syscall` reads the control data of a message on a 64-bit Linux: a sequence of messages,
each with a header of 16 bytes and padded to 8 bytes, and the descriptors in a message of type
`SCM_RIGHTS`.
-/

namespace VkTurn.Daemon

/-! ## Little-endian numbers -/

def leBytes : Nat → Nat → List UInt8
  | 0, _ => []
  | width + 1, number => UInt8.ofNat number :: leBytes width (number / 256)

def leNat : List UInt8 → Nat
  | [] => 0
  | byte :: rest => byte.toNat + 256 * leNat rest

@[simp] theorem length_leBytes (width number : Nat) : (leBytes width number).length = width := by
  induction width generalizing number with
  | zero => rfl
  | succ width inductionHypothesis => simp [leBytes, inductionHypothesis]

theorem leNat_leBytes (width number : Nat) :
    leNat (leBytes width number) = number % 256 ^ width := by
  induction width generalizing number with
  | zero => simp [leBytes, leNat, Nat.mod_one]
  | succ width inductionHypothesis =>
    simp only [leBytes, leNat, inductionHypothesis, UInt8.toNat_ofNat']
    have split : 256 ^ (width + 1) = 256 * 256 ^ width := by rw [Nat.pow_succ, Nat.mul_comm]
    rw [split, Nat.mod_mul]

/-! ## Messages -/

structure SocketControlMessage where
  level : Nat
  type : Nat
  data : List UInt8
  deriving DecidableEq

def solSocket : Nat := 1
def scmRights : Nat := 1
def sizeofCmsghdr : Nat := 16

/-- `cmsgAlignOf`. -/
def cmsgAlignOf (length : Nat) : Nat := (length + 7) / 8 * 8

/-- The loop of `ParseSocketControlMessage`; each round takes a header at least. -/
def parseControlMessages : Nat → List UInt8 → Option (List SocketControlMessage)
  | 0, _ => some []
  | rounds + 1, bytes =>
    if bytes.length < sizeofCmsghdr then some []
    else
      let length := leNat (bytes.take 8)
      if length < sizeofCmsghdr ∨ bytes.length < length then none
      else
        (parseControlMessages rounds (bytes.drop (cmsgAlignOf length))).map fun rest =>
          { level := leNat ((bytes.drop 8).take 4)
            type := leNat ((bytes.drop 12).take 4)
            data := (bytes.take length).drop sizeofCmsghdr } :: rest

/-- `ParseSocketControlMessage`; `none` is its error. -/
def parseSocketControlMessage (control : List UInt8) : Option (List SocketControlMessage) :=
  parseControlMessages control.length control

/-- The loop of `ParseUnixRights`; it runs past the end of its result when the data is not a whole
    number of descriptors. -/
def descriptorsOfData : List UInt8 → Option (List UInt32)
  | [] => some []
  | a :: b :: c :: d :: rest =>
    (descriptorsOfData rest).map (UInt32.ofNat (leNat [a, b, c, d]) :: ·)
  | _ => none

inductive UnixRights where
  | invalid
  | panics
  | descriptors (fds : List UInt32)
  deriving DecidableEq

def parseUnixRights (message : SocketControlMessage) : UnixRights :=
  if message.level ≠ solSocket ∨ message.type ≠ scmRights then .invalid
  else match descriptorsOfData message.data with
    | none => .panics
    | some fds => .descriptors fds

def dataOfDescriptors (fds : List UInt32) : List UInt8 :=
  fds.flatMap fun fd => leBytes 4 fd.toNat

/-- The control data with which descriptors arrive, as `UnixRights` makes it. -/
def unixRights (fds : List UInt32) : List UInt8 :=
  let data := dataOfDescriptors fds
  let length := sizeofCmsghdr + data.length
  leBytes 8 length ++ leBytes 4 solSocket ++ leBytes 4 scmRights ++ data ++
    List.replicate (cmsgAlignOf length - length) 0

/-! ## Round trip -/

theorem descriptorsOfData_dataOfDescriptors (fds : List UInt32) :
    descriptorsOfData (dataOfDescriptors fds) = some fds := by
  induction fds with
  | nil => rfl
  | cons fd rest inductionHypothesis =>
    have isNumber : leNat (leBytes 4 fd.toNat) = fd.toNat := by
      rw [leNat_leBytes]
      exact Nat.mod_eq_of_lt fd.toNat_lt
    have split : dataOfDescriptors (fd :: rest) =
        leBytes 4 fd.toNat ++ dataOfDescriptors rest := rfl
    simp only [leBytes] at isNumber
    rw [split]
    simp only [leBytes, List.cons_append, List.nil_append, descriptorsOfData, inductionHypothesis,
      isNumber, UInt32.ofNat_toNat, Option.map_some]

theorem length_dataOfDescriptors (fds : List UInt32) :
    (dataOfDescriptors fds).length = 4 * fds.length := by
  induction fds with
  | nil => rfl
  | cons fd rest inductionHypothesis =>
    have split : dataOfDescriptors (fd :: rest) =
        leBytes 4 fd.toNat ++ dataOfDescriptors rest := rfl
    rw [split, List.length_append, inductionHypothesis, length_leBytes, List.length_cons]
    omega

theorem parseControlMessages_nil (rounds : Nat) : parseControlMessages rounds [] = some [] := by
  cases rounds with
  | zero => rfl
  | succ rounds => rfl

theorem parseSocketControlMessage_unixRights {fds : List UInt32} (few : fds.length < 2 ^ 32) :
    parseSocketControlMessage (unixRights fds) =
      some [⟨solSocket, scmRights, dataOfDescriptors fds⟩] := by
  have dataLength := length_dataOfDescriptors fds
  obtain ⟨length, isLength⟩ : ∃ length, length = sizeofCmsghdr + (dataOfDescriptors fds).length :=
    ⟨_, rfl⟩
  obtain ⟨padding, isPadding⟩ : ∃ padding,
      padding = List.replicate (cmsgAlignOf length - length) (0 : UInt8) := ⟨_, rfl⟩
  have parts : unixRights fds = leBytes 8 length ++ (leBytes 4 solSocket ++ (leBytes 4 scmRights ++
      (dataOfDescriptors fds ++ padding))) := by
    simp only [unixRights, isPadding, isLength, List.append_assoc]
  have aligned : length ≤ cmsgAlignOf length := by
    unfold cmsgAlignOf
    omega
  have total : (unixRights fds).length = cmsgAlignOf length := by
    simp only [parts, isPadding, List.length_append, length_leBytes, List.length_replicate]
    simp only [sizeofCmsghdr] at isLength
    omega
  simp only [sizeofCmsghdr] at isLength
  -- the fields of the header, the data, and nothing after them
  have lengthField : leNat ((unixRights fds).take 8) = length := by
    rw [parts, List.take_left' (length_leBytes 8 length), leNat_leBytes]
    exact Nat.mod_eq_of_lt (by omega)
  have levelField : leNat (((unixRights fds).drop 8).take 4) = solSocket := by
    rw [parts, List.drop_left' (length_leBytes 8 length), List.take_left' (length_leBytes 4 _)]
    rfl
  have typeField : leNat (((unixRights fds).drop 12).take 4) = scmRights := by
    rw [parts, ← List.append_assoc, List.drop_left' (by simp), List.take_left' (by simp)]
    rfl
  have dataField : ((unixRights fds).take length).drop 16 = dataOfDescriptors fds := by
    rw [parts, ← List.append_assoc, ← List.append_assoc, ← List.append_assoc,
      List.take_left' (by simp; omega), List.drop_left' (by simp)]
  have noMore : (unixRights fds).drop (cmsgAlignOf length) = [] :=
    List.drop_eq_nil_of_le (Nat.le_of_eq total)
  obtain ⟨rounds, isRounds⟩ : ∃ rounds, (unixRights fds).length = rounds + 1 :=
    ⟨(unixRights fds).length - 1, by omega⟩
  rw [parseSocketControlMessage, isRounds, parseControlMessages]
  simp only [sizeofCmsghdr, lengthField, levelField, typeField, dataField, noMore,
    parseControlMessages_nil, Option.map_some]
  rw [if_neg (by omega), if_neg (by omega)]

end VkTurn.Daemon
