import VkTurn.Flags.ParseInt
import VkTurn.Text.Split

/-! # Heartbeats in the server's log

The panel reads the log of the server line by line, and takes the state of a client from a line
that matches a pattern.
-/

namespace VkTurn.Panel

open VkTurn.Flags VkTurn.Text

structure HeartbeatState where
  fingerprint : String
  lastSeen : Int
  online : Bool
  active : UInt32
  version : UInt32
  deriving DecidableEq

/-- The groups of `heartbeatLinePattern`. -/
structure HeartbeatGroups where
  online : Bool
  active : List Char
  version : List Char
  fingerprint : List Char
  deriving DecidableEq

/-! ## The pattern -/

/-- `(true|false)` -/
def matchBool (chars : List Char) : Option (Bool × List Char) :=
  match "true".toList.isPrefixOf? chars with
  | some rest => some (true, rest)
  | none => ("false".toList.isPrefixOf? chars).map (false, ·)

/-- `(\d+)` -/
def matchDigits (chars : List Char) : Option (List Char × List Char) :=
  if chars.takeWhile Char.isDigit = [] then none
  else some (chars.takeWhile Char.isDigit, chars.dropWhile Char.isDigit)

/-- `(?:proto_fp|wg_fp)="([^"]*)"` -/
def matchFingerprint (chars : List Char) : Option (List Char) :=
  (("proto_fp=\"".toList.isPrefixOf? chars).or ("wg_fp=\"".toList.isPrefixOf? chars)).bind
    fun rest => if '"' ∈ rest then some (rest.takeWhile (· ≠ '"')) else none

/-- What the pattern has after `.*`. -/
def matchRecord (chars : List Char) : Option HeartbeatGroups := do
  let rest ← ": online=".toList.isPrefixOf? chars
  let (online, rest) ← matchBool rest
  let rest ← " active_streams=".toList.isPrefixOf? rest
  let (active, rest) ← matchDigits rest
  let rest ← " version=".toList.isPrefixOf? rest
  let (version, rest) ← matchDigits rest
  let rest ← " ".toList.isPrefixOf? rest
  let fingerprint ← matchFingerprint rest
  some ⟨online, active, version, fingerprint⟩

/-- `.*` takes as much as it can, so that the last record of the text is found. -/
def lastRecord : List Char → Option HeartbeatGroups
  | [] => none
  | char :: rest => (lastRecord rest).or (matchRecord (char :: rest))

/-- The text behind the first occurrence of a key. -/
def afterFirst (key : List Char) : List Char → Option (List Char)
  | [] => key.isPrefixOf? []
  | char :: rest => (key.isPrefixOf? (char :: rest)).or (afterFirst key rest)

def heartbeatKey : List Char := "protobuf heartbeat from ".toList

/-- `heartbeatLinePattern.FindStringSubmatch`, for a text of one line. -/
def heartbeatLinePattern (line : List Char) : Option HeartbeatGroups :=
  (afterFirst heartbeatKey line).bind lastRecord

/-! ## The log writer -/

/-- `strconv.ParseUint` with base 10 and 32 bits, for a text of digits. -/
def parseUint32 (digits : List Char) : Option UInt32 :=
  (parseDigits 10 digits 0).bind fun value =>
    if value < 2 ^ 32 then some (UInt32.ofNat value) else none

/-- The state that the groups of a line stand for. -/
def HeartbeatGroups.state (now : Int) (groups : HeartbeatGroups) : Option HeartbeatState := do
  let fingerprint := trimSpace (String.ofList groups.fingerprint)
  if fingerprint = "" then none
  else
    let active ← parseUint32 groups.active
    let version ← parseUint32 groups.version
    some ⟨fingerprint, now, groups.online, active, version⟩

def recordHeartbeat (now : Int) (beats : String → Option HeartbeatState) (line : String) :
    String → Option HeartbeatState :=
  match (heartbeatLinePattern line.toList).bind (HeartbeatGroups.state now) with
  | none => beats
  | some state => Function.update beats state.fingerprint (some state)

/-- The lines for which `logWriter.Write` calls `recordHeartbeat`. -/
def logLines (data : String) : List String := entries goSpace '\n' (trimSpace data)

end VkTurn.Panel
