import VkTurn.Panel.HeartbeatLines
import VkTurn.Text.CutLines

/-! # The log writer of a server process

The output of a server process reaches `logWriter.Write` in the chunks in which the pipe delivers
it. Each chunk is read for itself, so that a line that is cut comes out as two.

A Go string is its bytes, here as a list; where a text is needed a byte stands for the character of
its number.
-/

namespace VkTurn.Panel

open VkTurn.Text

/-! ## Bytes -/

def latinText (bytes : List UInt8) : List Char := bytes.map (Char.ofNat ·.toNat)

def latinBytes (chars : List Char) : List UInt8 := chars.map (UInt8.ofNat ·.toNat)

/-- The characters of `unicode.IsSpace`, in UTF-8. -/
def spaceWords : List (List UInt8) :=
  [[0x09], [0x0A], [0x0B], [0x0C], [0x0D], [0x20], [0xC2, 0x85], [0xC2, 0xA0], [0xE1, 0x9A, 0x80],
    [0xE2, 0x80, 0x80], [0xE2, 0x80, 0x81], [0xE2, 0x80, 0x82], [0xE2, 0x80, 0x83],
    [0xE2, 0x80, 0x84], [0xE2, 0x80, 0x85], [0xE2, 0x80, 0x86], [0xE2, 0x80, 0x87],
    [0xE2, 0x80, 0x88], [0xE2, 0x80, 0x89], [0xE2, 0x80, 0x8A], [0xE2, 0x80, 0xA8],
    [0xE2, 0x80, 0xA9], [0xE2, 0x80, 0xAF], [0xE2, 0x81, 0x9F], [0xE3, 0x80, 0x80]]

theorem spaceWords_code : Code spaceWords := code_of_isCode (by decide +kernel)

/-- `bytes.TrimSpace` and `strings.TrimSpace`. Bytes that are not UTF-8 are not blank. -/
def trimSpaceBytes (bytes : List UInt8) : List UInt8 := strip spaceWords bytes

def newline : UInt8 := 0x0A

/-! ## The writer -/

/-- What a log writer keeps, with the lines that it handed to the logger. -/
structure LogWriter where
  last : List UInt8
  beats : String → Option HeartbeatState
  logged : List (List UInt8)

/-- The state that a line holds. -/
def lineHeartbeat (now : Int) (line : List UInt8) : Option HeartbeatState := do
  let groups ← heartbeatLinePattern (latinText line)
  let fingerprint := trimSpaceBytes (latinBytes groups.fingerprint)
  if fingerprint = [] then none
  else
    let active ← parseUint32 groups.active
    let version ← parseUint32 groups.version
    some ⟨String.ofList (latinText fingerprint), now, groups.online, active, version⟩

namespace LogWriter

def new : LogWriter := ⟨[], fun _ => none, []⟩

/-- `clock` is the time at which each line is logged. -/
def noteLine (clock : Nat → Int) (writer : LogWriter) (line : List UInt8) : LogWriter where
  last := line
  beats :=
    match lineHeartbeat (clock writer.logged.length) line with
    | none => writer.beats
    | some state => Function.update writer.beats state.fingerprint (some state)
  logged := writer.logged ++ [line]

def write (clock : Nat → Int) (writer : LogWriter) (data : List UInt8) : LogWriter :=
  let message := trimSpaceBytes (trimSpaceBytes data)
  if message = [] then writer
  else
    (message.splitOn newline).foldl
      (fun writer line =>
        let line := trimSpaceBytes line
        if line = [] then writer else writer.noteLine clock line)
      writer

/-- What is left of an output that comes in chunks. -/
def capture (clock : Nat → Int) (chunks : List (List UInt8)) : LogWriter :=
  chunks.foldl (write clock) new

end LogWriter

/-! ## The lines of a chunk -/

open LogWriter

variable {clock : Nat → Int}

theorem foldl_inked (pieces : List (List UInt8)) (writer : LogWriter) :
    pieces.foldl
        (fun writer line =>
          let line := trimSpaceBytes line
          if line = [] then writer else writer.noteLine clock line)
        writer =
      (inked spaceWords pieces).foldl (noteLine clock) writer := by
  induction pieces generalizing writer with
  | nil => rfl
  | cons piece pieces inductionHypothesis =>
    rw [List.foldl_cons, inductionHypothesis, inked_cons, List.foldl_append]
    congr 1
    by_cases blank : trimSpaceBytes piece = []
    · have none : inked spaceWords [piece] = [] :=
        inked_blank spaceWords_code ((strip_eq_nil spaceWords_code).mp blank)
      rw [none]
      simp [blank]
    · have one : inked spaceWords [piece] = [trimSpaceBytes piece] :=
        inked_not_blank spaceWords_code (mt (strip_eq_nil spaceWords_code).mpr blank)
      rw [one]
      simp [blank]

/-- A chunk is read as its own lines. -/
theorem write_eq (writer : LogWriter) (data : List UInt8) :
    writer.write clock data =
      (inkedLines spaceWords newline data).foldl (noteLine clock) writer := by
  have isWord : [newline] ∈ spaceWords := by decide
  have lines : inkedLines spaceWords newline (trimSpaceBytes (trimSpaceBytes data)) =
      inkedLines spaceWords newline data := by
    unfold trimSpaceBytes
    rw [inkedLines_strip spaceWords_code isWord, inkedLines_strip spaceWords_code isWord]
  rw [← lines]
  unfold write
  by_cases empty : trimSpaceBytes (trimSpaceBytes data) = []
  · rw [if_pos empty, empty]
    have none : inkedLines spaceWords newline [] = [] :=
      inked_blank spaceWords_code blank_nil
    rw [none]
    rfl
  · rw [if_neg empty, foldl_inked]
    rfl

theorem capture_eq (chunks : List (List UInt8)) :
    capture clock chunks =
      (chunks.flatMap (inkedLines spaceWords newline)).foldl (noteLine clock) new := by
  unfold capture
  generalize new = writer
  induction chunks generalizing writer with
  | nil => rfl
  | cons chunk chunks inductionHypothesis =>
    rw [List.foldl_cons, inductionHypothesis, List.flatMap_cons, List.foldl_append, write_eq]

theorem logged_foldl (lines : List (List UInt8)) (writer : LogWriter) :
    (lines.foldl (noteLine clock) writer).logged = writer.logged ++ lines := by
  induction lines generalizing writer with
  | nil => simp
  | cons line lines inductionHypothesis =>
    rw [List.foldl_cons, inductionHypothesis]
    simp [noteLine]

theorem capture_logged (chunks : List (List UInt8)) :
    (capture clock chunks).logged = chunks.flatMap (inkedLines spaceWords newline) := by
  rw [capture_eq, logged_foldl]
  rfl

/-! ## Chunking -/

/-- The same heartbeats and the same lines. -/
def SameLog (writer other : LogWriter) : Prop :=
  writer.beats = other.beats ∧ writer.logged = other.logged

theorem sameLog_iff {chunks others : List (List UInt8)} :
    SameLog (capture clock chunks) (capture clock others) ↔
      chunks.flatMap (inkedLines spaceWords newline) =
        others.flatMap (inkedLines spaceWords newline) := by
  constructor
  · rintro ⟨-, logged⟩
    rwa [capture_logged, capture_logged] at logged
  · intro lines
    -- the heartbeats are taken from the lines alone
    have same : capture clock chunks = capture clock others := by
      rw [capture_eq, capture_eq, lines]
    exact ⟨congrArg beats same, congrArg logged same⟩

/-- An output in chunks is captured like the whole output exactly when no line has ink in two
    chunks; all cuttings of it are captured alike exactly when each line has one byte at most that
    is not ASCII white space. -/
theorem capture_chunking_iff (clock : Nat → Int) (output : List UInt8) :
    (∀ chunks : List (List UInt8), chunks.flatten = output →
        (SameLog (capture clock chunks) (capture clock [output]) ↔
          ∀ pieces ∈ cutLines newline chunks,
            (pieces.filter (trimSpaceBytes · ≠ [])).length ≤ 1)) ∧
      ((∀ chunks others : List (List UInt8), chunks.flatten = output → others.flatten = output →
          SameLog (capture clock chunks) (capture clock others)) ↔
        ∀ line ∈ output.splitOn newline, (line.filter ([·] ∉ spaceWords)).length ≤ 1) := by
  have inkedLength : ∀ pieces : List (List UInt8), (inked spaceWords pieces).length =
      (pieces.filter (trimSpaceBytes · ≠ [])).length := by
    intro pieces
    unfold inked
    rw [List.filter_map, List.length_map]
    rfl
  constructor
  · rintro chunks rfl
    have uncut : [chunks.flatten].flatMap (inkedLines spaceWords newline) =
        inkedLines spaceWords newline chunks.flatten := by simp
    rw [sameLog_iff, uncut, inkedLines_cut_iff spaceWords_code]
    simp only [inkedLength]
  · simp only [sameLog_iff]
    exact inkedLines_cuts_iff spaceWords_code output

def heartbeatStart : List UInt8 :=
  latinBytes "protobuf heartbeat from a: online=true active_".toList

def heartbeatEnd : List UInt8 := latinBytes "streams=1 version=1 wg_fp=\"f\"".toList

/-- The bytes of a text, by way of its characters. -/
theorem latinBytes_ofList (chars : List Char) :
    latinBytes (String.ofList chars).toList = chars.map (UInt8.ofNat ·.toNat) := by
  rw [String.toList_ofList, latinBytes]

theorem heartbeatStart_eq : heartbeatStart =
    [112, 114, 111, 116, 111, 98, 117, 102, 32, 104, 101, 97, 114, 116, 98, 101, 97, 116, 32, 102,
      114, 111, 109, 32, 97, 58, 32, 111, 110, 108, 105, 110, 101, 61, 116, 114, 117, 101, 32, 97,
      99, 116, 105, 118, 101, 95] :=
  latinBytes_ofList
      ['p', 'r', 'o', 't', 'o', 'b', 'u', 'f', ' ', 'h', 'e', 'a', 'r', 't', 'b', 'e', 'a', 't',
        ' ', 'f', 'r', 'o', 'm', ' ', 'a', ':', ' ', 'o', 'n', 'l', 'i', 'n', 'e', '=', 't',
        'r', 'u', 'e', ' ', 'a', 'c', 't', 'i', 'v', 'e', '_']

theorem heartbeatEnd_eq : heartbeatEnd =
    [115, 116, 114, 101, 97, 109, 115, 61, 49, 32, 118, 101, 114, 115, 105, 111, 110, 61, 49, 32,
      119, 103, 95, 102, 112, 61, 34, 102, 34] :=
  latinBytes_ofList
      ['s', 't', 'r', 'e', 'a', 'm', 's', '=', '1', ' ', 'v', 'e', 'r', 's', 'i', 'o', 'n', '=',
        '1', ' ', 'w', 'g', '_', 'f', 'p', '=', '"', 'f', '"']

/-- A heartbeat whose line is cut is lost. -/
theorem capture_loses_heartbeat :
    ¬ ∀ (clock : Nat → Int) (output : List UInt8) (chunks others : List (List UInt8)),
      chunks.flatten = output → others.flatten = output →
        SameLog (capture clock chunks) (capture clock others) := by
  intro claim
  have same := claim (fun _ => 0) (heartbeatStart ++ heartbeatEnd)
    [heartbeatStart ++ heartbeatEnd] [heartbeatStart, heartbeatEnd] (by simp) (by simp)
  have beat := congrFun same.1 "f"
  have uncut : (capture (fun _ => 0) [heartbeatStart ++ heartbeatEnd]).beats "f" =
      some ⟨"f", 0, true, 1, 1⟩ := by
    rw [heartbeatStart_eq, heartbeatEnd_eq]
    decide +kernel
  have cut : (capture (fun _ => 0) [heartbeatStart, heartbeatEnd]).beats "f" = none := by
    rw [heartbeatStart_eq, heartbeatEnd_eq]
    decide +kernel
  rw [uncut, cut] at beat
  cases beat

end VkTurn.Panel
