import Mathlib.Data.Bool.AllAny
import VkTurn.Panel.HeartbeatLines
import VkTurn.Server.Mainline
import VkTurn.Text.OneLine

/-! # Heartbeats on their way to the panel

The server writes a line for every heartbeat that it accepts, and the panel looks for a pattern in
it.  The line has the version behind the online flag, where the pattern has the active streams, and
it has no fingerprint: the pattern only matches where the client has written a whole record into
one of its own texts.
-/

namespace VkTurn.Server

open VkTurn.Panel VkTurn.SessionProto VkTurn.Text

/-! ## The line -/

def describePart (key value : String) : List String :=
  if trimSpace value = "" then [] else [key ++ "=" ++ trimSpace value]

/-- What follows the online flag and the version. -/
def describeDetails (heartbeat : Heartbeat) : List String :=
  describePart "session_mode" heartbeat.sessionMode ++
    describePart "control_path" heartbeat.controlPath ++
    describePart "provider" heartbeat.provider ++
    (if heartbeat.transport = .unspecified then []
      else ["transport=" ++ heartbeat.transport.string]) ++
    (if 0 < heartbeat.activeStreams then
      ["active_streams=" ++ toString heartbeat.activeStreams.toNat] else [])

/-- `controlpath.DescribeHeartbeat`. -/
def describeHeartbeat (heartbeat : Heartbeat) : String :=
  joinToString " " (("online=" ++ toString heartbeat.online) ::
    ("version=" ++ toString heartbeat.version.toNat) :: describeDetails heartbeat)

/-- The date and the time that `log.Printf` puts before a message. -/
structure LogStamp where
  text : String
  starts : ∃ first rest, text.toList = first :: rest ∧ first.isDigit
  plain : ∀ char ∈ text.toList, char.isDigit ∨ char = '/' ∨ char = ':' ∨ char = ' '

/-- `conn.RemoteAddr().String()`. -/
structure RemoteAddr where
  text : String
  solid : ∀ char ∈ text.toList, goSpace char = false

/-- What `log.Printf` writes in `handleControlHeartbeatPacket`, when the packet is a heartbeat
    request. -/
def controlHeartbeatLog (proto : Proto) (stamp : LogStamp) (remote : RemoteAddr)
    (payload : Bytes) : Option String :=
  (parseControlHeartbeatRequest payload).map fun heartbeatPayload =>
    match parseHeartbeatMessage proto heartbeatPayload with
    | .error error =>
      stamp.text ++ "protobuf heartbeat parse failed from " ++ remote.text ++ ": " ++ error ++ "\n"
    | .ok heartbeat =>
      stamp.text ++ "protobuf heartbeat from " ++ remote.text ++ ": " ++
        describeHeartbeat heartbeat ++ "\n"

/-! ## The agreement -/

def Carries (state : HeartbeatState) (heartbeat : Heartbeat) : Prop :=
  state.online = heartbeat.online ∧ state.version = heartbeat.version ∧
    state.active = heartbeat.activeStreams

/-- The panel records the heartbeat from a line of the log output. -/
def HeartbeatRecorded (now : Int) (data : String) (heartbeat : Heartbeat) : Prop :=
  ∃ line ∈ logLines data, ∃ fingerprint state,
    recordHeartbeat now (fun _ => none) line fingerprint = some state ∧ Carries state heartbeat

/-- The lines of the details, as the panel trims them. -/
def detailLines (heartbeat : Heartbeat) : List (List Char) :=
  (((describeDetails heartbeat).flatMap fun part => ' ' :: part.toList).rdropWhile goSpace).splitOn
    '\n'

/-- The groups stand for the state of the heartbeat. -/
def GroupsCarry (now : Int) (heartbeat : Heartbeat) (groups : HeartbeatGroups) : Prop :=
  ∃ state, groups.state now = some state ∧ Carries state heartbeat

/-- The texts of the client spell a record with the values of the heartbeat: on the first line
    behind the version, or as a heartbeat line of its own behind a line feed. -/
def SpellsRecord (now : Int) (heartbeat : Heartbeat) : Prop :=
  (∃ groups, lastRecord (((detailLines heartbeat).headD []).rdropWhile goSpace) = some groups ∧
      GroupsCarry now heartbeat groups) ∨
    ∃ line ∈ (detailLines heartbeat).tail, ∃ groups,
      heartbeatLinePattern (trimChars goSpace line) = some groups ∧
        GroupsCarry now heartbeat groups

/-! ## Matching behind a text -/

section Matching

variable {before rest : List Char}

theorem isPrefixOf?_append (key rest : List Char) : key.isPrefixOf? (key ++ rest) = some rest :=
  List.isPrefixOf?_eq_some_iff_append_eq.mpr rfl

theorem matchRecord_other {char : Char} (isOther : char ≠ ':') (rest : List Char) :
    matchRecord (char :: rest) = none := by
  have noKey : ": online=".toList.isPrefixOf? (char :: rest) = none := by
    simp [List.isPrefixOf?, isOther.symm]
  rw [matchRecord, noKey]
  rfl

theorem matchRecord_noBlank {char : Char} (isOther : char ≠ ' ') (rest : List Char) :
    matchRecord (':' :: char :: rest) = none := by
  have noKey : ": online=".toList.isPrefixOf? (':' :: char :: rest) = none := by
    simp [List.isPrefixOf?, isOther.symm]
  rw [matchRecord, noKey]
  rfl

theorem lastRecord_cons {char : Char} (unmatched : matchRecord (char :: rest) = none) :
    lastRecord (char :: rest) = lastRecord rest := by
  rw [lastRecord, unmatched, Option.or_none]

/-- No record starts in a text without a colon. -/
theorem lastRecord_free_append (free : ':' ∉ before) :
    lastRecord (before ++ rest) = lastRecord rest := by
  induction before with
  | nil => rfl
  | cons char before inductionHypothesis =>
    have isOther : char ≠ ':' := fun same => free (same ▸ List.mem_cons_self)
    rw [List.cons_append, lastRecord_cons (matchRecord_other isOther _),
      inductionHypothesis fun member => free (List.mem_cons_of_mem _ member)]

/-- No record starts in a text without a blank that a colon follows. -/
theorem lastRecord_solid_append (solid : ' ' ∉ before) :
    lastRecord (before ++ ':' :: rest) = lastRecord (':' :: rest) := by
  induction before with
  | nil => rfl
  | cons char before inductionHypothesis =>
    have unmatched : matchRecord (char :: (before ++ ':' :: rest)) = none := by
      by_cases isColon : char = ':'
      · subst isColon
        cases before with
        | nil => exact matchRecord_noBlank (by decide) rest
        | cons second others =>
          exact matchRecord_noBlank (fun same => solid (by simp [same])) _
      · exact matchRecord_other isColon _
    rw [List.cons_append, lastRecord_cons unmatched,
      inductionHypothesis fun member => solid (List.mem_cons_of_mem _ member)]

theorem afterFirst_append {key others : List Char} {first : Char} (isKey : key = first :: others)
    (free : first ∉ before) : afterFirst key (before ++ (key ++ rest)) = some rest := by
  subst isKey
  induction before with
  | nil =>
    rw [List.nil_append, List.cons_append, afterFirst, ← List.cons_append, isPrefixOf?_append,
      Option.some_or]
  | cons char before inductionHypothesis =>
    have isOther : first ≠ char := fun same => free (same ▸ List.mem_cons_self)
    have unmatched (later : List Char) : (first :: others).isPrefixOf? (char :: later) = none := by
      simp [List.isPrefixOf?, isOther]
    rw [List.cons_append, afterFirst, unmatched, Option.none_or,
      inductionHypothesis fun member => free (List.mem_cons_of_mem _ member)]

end Matching

/-! ## Records need a quote -/

section Quotes

variable {chars rest : List Char}

theorem suffix_of_isPrefixOf? {key : List Char} (found : key.isPrefixOf? chars = some rest) :
    rest <:+ chars :=
  ⟨key, List.isPrefixOf?_eq_some_iff_append_eq.mp found⟩

theorem matchBool_suffix {flag : Bool} (matched : matchBool chars = some (flag, rest)) :
    rest <:+ chars := by
  unfold matchBool at matched
  split at matched
  · rename_i found
    obtain ⟨_, rfl⟩ := Prod.mk.inj (Option.some.inj matched)
    exact suffix_of_isPrefixOf? found
  · obtain ⟨behind, found, same⟩ := Option.map_eq_some_iff.mp matched
    obtain ⟨_, rfl⟩ := Prod.mk.inj same
    exact suffix_of_isPrefixOf? found

theorem matchDigits_suffix {digits : List Char} (matched : matchDigits chars = some (digits, rest)) :
    rest <:+ chars := by
  unfold matchDigits at matched
  split at matched
  · cases matched
  · obtain ⟨_, rfl⟩ := Prod.mk.inj (Option.some.inj matched)
    exact List.dropWhile_suffix _

theorem matchFingerprint_quote {fingerprint : List Char}
    (matched : matchFingerprint chars = some fingerprint) : '"' ∈ chars := by
  obtain ⟨rest, found, isQuoted⟩ := Option.bind_eq_some_iff.mp matched
  have suffix : rest <:+ chars := by
    obtain found | ⟨_, found⟩ := Option.or_eq_some_iff.mp found
    · exact suffix_of_isPrefixOf? found
    · exact suffix_of_isPrefixOf? found
  split at isQuoted
  · rename_i inRest
    exact suffix.subset inRest
  · cases isQuoted

theorem matchRecord_quote {groups : HeartbeatGroups} (matched : matchRecord chars = some groups) :
    '"' ∈ chars := by
  simp only [matchRecord, Option.bind_eq_bind, Option.bind_eq_some_iff] at matched
  obtain ⟨afterKey, isKey, ⟨flag, afterFlag⟩, isFlag, afterStreams, isStreams, ⟨active, afterActive⟩,
    isActive, afterVersionKey, isVersionKey, ⟨version, afterVersion⟩, isVersion, afterBlank, isBlank,
    fingerprint, isFingerprint, _⟩ := matched
  have suffix : afterBlank <:+ chars :=
    calc afterBlank <:+ afterVersion := suffix_of_isPrefixOf? isBlank
      _ <:+ afterVersionKey := matchDigits_suffix isVersion
      _ <:+ afterActive := suffix_of_isPrefixOf? isVersionKey
      _ <:+ afterStreams := matchDigits_suffix isActive
      _ <:+ afterFlag := suffix_of_isPrefixOf? isStreams
      _ <:+ afterKey := matchBool_suffix isFlag
      _ <:+ chars := suffix_of_isPrefixOf? isKey
  exact suffix.subset (matchFingerprint_quote isFingerprint)

theorem lastRecord_quote {groups : HeartbeatGroups} (found : lastRecord chars = some groups) :
    '"' ∈ chars := by
  induction chars with
  | nil => cases found
  | cons char chars inductionHypothesis =>
    obtain later | ⟨_, matched⟩ := Option.or_eq_some_iff.mp found
    · exact List.mem_cons_of_mem _ (inductionHypothesis later)
    · exact matchRecord_quote matched

theorem afterFirst_suffix {key : List Char} (found : afterFirst key chars = some rest) :
    rest <:+ chars := by
  induction chars with
  | nil => exact suffix_of_isPrefixOf? found
  | cons char chars inductionHypothesis =>
    obtain here | ⟨_, later⟩ := Option.or_eq_some_iff.mp found
    · exact suffix_of_isPrefixOf? here
    · exact (inductionHypothesis later).trans (List.suffix_cons char chars)

theorem heartbeatLinePattern_quote {groups : HeartbeatGroups}
    (matched : heartbeatLinePattern chars = some groups) : '"' ∈ chars := by
  obtain ⟨rest, found, isRecord⟩ := Option.bind_eq_some_iff.mp matched
  exact (afterFirst_suffix found).subset (lastRecord_quote isRecord)

end Quotes

/-! ## The line of a heartbeat -/

section Line

variable (stamp : LogStamp) (remote : RemoteAddr) (heartbeat : Heartbeat)

theorem joinToString_blank (first : String) (parts : List String) :
    (joinToString " " (first :: parts)).toList =
      first.toList ++ parts.flatMap fun part => ' ' :: part.toList := by
  rw [joinToString, String.toList_ofList]
  induction parts generalizing first with
  | nil => simp [List.intercalate]
  | cons second others inductionHypothesis =>
    have split : " ".toList.intercalate ((first :: second :: others).map String.toList) =
        first.toList ++ ' ' :: " ".toList.intercalate ((second :: others).map String.toList) := by
      simp [List.intercalate]
    rw [split, inductionHypothesis]
    simp

/-- The flag and the version, behind the colon after the address. -/
def flagAndVersion : List Char :=
  " online=".toList ++ (toString heartbeat.online).toList ++ " version=".toList ++
    (toString heartbeat.version.toNat).toList

/-- The line up to the details. -/
def lineHead : List Char :=
  stamp.text.toList ++ (heartbeatKey ++ (remote.text.toList ++ ':' :: flagAndVersion heartbeat))

theorem version_digits {char : Char} (member : char ∈ (toString heartbeat.version.toNat).toList) :
    char.isDigit := by
  rw [Nat.toString_eq_ofList_toDigits, String.toList_ofList] at member
  exact Nat.isDigit_of_mem_toDigits (by decide) (by decide) member

theorem digit_solid {char : Char} (isDigit : char.isDigit) : goSpace char = false := by
  obtain ⟨low, high⟩ := Char.isDigit_iff_toNat.mp isDigit
  have low : 0x30 ≤ char.toNat := low
  have high : char.toNat ≤ 0x39 := high
  simp only [goSpace, Bool.or_eq_false_iff, Bool.and_eq_false_iff, decide_eq_false_iff_not,
    beq_eq_false_iff_ne]
  omega

theorem flagAndVersion_plain {char : Char} (member : char ∈ flagAndVersion heartbeat) :
    char ≠ ':' ∧ char ≠ '\n' := by
  have letters : ∀ char ∈ " online=".toList ++ (toString heartbeat.online).toList ++
      " version=".toList, char ≠ ':' ∧ char ≠ '\n' := by
    cases heartbeat.online with
    | true => exact List.all_iff_forall_prop.mp (by decide)
    | false => exact List.all_iff_forall_prop.mp (by decide)
  obtain inLetters | inVersion := List.mem_append.mp member
  · exact letters char inLetters
  · have isDigit := version_digits heartbeat inVersion
    constructor
    · rintro rfl
      cases isDigit
    · rintro rfl
      cases isDigit

theorem matchBool_append (flag : Bool) (rest : List Char) :
    matchBool ((toString flag).toList ++ rest) = some (flag, rest) := by
  cases flag with
  | true =>
    rw [matchBool, show toString true = "true" from rfl, isPrefixOf?_append]
  | false =>
    have notTrue : "true".toList.isPrefixOf? ("false".toList ++ rest) = none := by
      simp [List.isPrefixOf?]
    rw [matchBool, show toString false = "false" from rfl, notTrue, isPrefixOf?_append,
      Option.map_some]

/-- Behind the flag stands the version, and not the active streams. -/
theorem matchRecord_flagAndVersion (rest : List Char) :
    matchRecord (':' :: flagAndVersion heartbeat ++ rest) = none := by
  have parts : ':' :: flagAndVersion heartbeat ++ rest = ": online=".toList ++
      ((toString heartbeat.online).toList ++ (" version=".toList ++
        ((toString heartbeat.version.toNat).toList ++ rest))) := by
    have isKey : ": online=".toList = ':' :: " online=".toList := by simp
    unfold flagAndVersion
    simp only [isKey, List.append_assoc, List.cons_append]
  have noStreams (behind : List Char) :
      " active_streams=".toList.isPrefixOf? (" version=".toList ++ behind) = none := by
    simp [List.isPrefixOf?]
  rw [matchRecord, parts, isPrefixOf?_append]
  simp only [Option.bind_eq_bind, Option.bind_some, matchBool_append, noStreams, Option.bind_none]

theorem heartbeatLinePattern_lineHead (rest : List Char) :
    heartbeatLinePattern (lineHead stamp remote heartbeat ++ rest) = lastRecord rest := by
  have noKey : 'p' ∉ stamp.text.toList := by
    intro member
    have plain := stamp.plain 'p' member
    revert plain
    decide
  have solid : ' ' ∉ remote.text.toList := by
    intro member
    cases (remote.solid ' ' member).symm.trans (show goSpace ' ' = true by decide)
  have noColon : ':' ∉ flagAndVersion heartbeat :=
    fun member => (flagAndVersion_plain heartbeat member).1 rfl
  obtain ⟨others, isKey⟩ : ∃ others, heartbeatKey = 'p' :: others := by
    unfold heartbeatKey
    simp
  have found : afterFirst heartbeatKey (lineHead stamp remote heartbeat ++ rest) =
      some (remote.text.toList ++ ':' :: (flagAndVersion heartbeat ++ rest)) := by
    unfold lineHead
    simp only [List.append_assoc, List.cons_append]
    exact afterFirst_append isKey noKey
  have unmatched : matchRecord (':' :: (flagAndVersion heartbeat ++ rest)) = none :=
    matchRecord_flagAndVersion heartbeat rest
  rw [heartbeatLinePattern, found, Option.bind_some, lastRecord_solid_append solid,
    lastRecord_cons unmatched, lastRecord_free_append noColon]

theorem lineHead_starts :
    ∃ first rest, lineHead stamp remote heartbeat = first :: rest ∧ goSpace first = false := by
  obtain ⟨first, rest, isText, isDigit⟩ := stamp.starts
  unfold lineHead
  rw [isText]
  exact ⟨first, _, rfl, digit_solid isDigit⟩

theorem lineHead_ends :
    ∃ init last, lineHead stamp remote heartbeat = init ++ [last] ∧ goSpace last = false := by
  have nonempty : (toString heartbeat.version.toNat).toList ≠ [] := by
    rw [Nat.toString_eq_ofList_toDigits, String.toList_ofList]
    exact Nat.toDigits_ne_nil
  obtain ⟨init, last, isVersion⟩ :
      ∃ init last, (toString heartbeat.version.toNat).toList = init ++ [last] :=
    ⟨_, _, (List.dropLast_append_getLast nonempty).symm⟩
  have isDigit : last.isDigit := by
    apply version_digits heartbeat
    rw [isVersion]
    exact List.mem_concat_self
  refine ⟨stamp.text.toList ++ (heartbeatKey ++ (remote.text.toList ++ ':' ::
    (" online=".toList ++ (toString heartbeat.online).toList ++ " version=".toList ++ init))),
    last, ?_, digit_solid isDigit⟩
  unfold lineHead flagAndVersion
  simp only [isVersion, List.append_assoc, List.cons_append]

theorem lineHead_oneLine : '\n' ∉ lineHead stamp remote heartbeat := by
  unfold lineHead
  simp only [List.mem_append, List.mem_cons, not_or]
  refine ⟨fun inStamp => ?_, by decide, fun inAddress => ?_, by decide, fun inVersion => ?_⟩
  · have plain := stamp.plain _ inStamp
    revert plain
    decide
  · cases (remote.solid _ inAddress).symm.trans (show goSpace '\n' = true by decide)
  · exact (flagAndVersion_plain heartbeat inVersion).2 rfl

def details : List Char := (describeDetails heartbeat).flatMap fun part => ' ' :: part.toList

/-- The log output of a heartbeat. -/
def heartbeatData : String :=
  stamp.text ++ "protobuf heartbeat from " ++ remote.text ++ ": " ++
    describeHeartbeat heartbeat ++ "\n"

theorem heartbeatData_chars : (heartbeatData stamp remote heartbeat).toList =
    lineHead stamp remote heartbeat ++ (details heartbeat ++ ['\n']) := by
  have described : (describeHeartbeat heartbeat).toList = "online=".toList ++
      (toString heartbeat.online).toList ++ (' ' :: "version=".toList ++
        (toString heartbeat.version.toNat).toList) ++ details heartbeat := by
    unfold describeHeartbeat details
    simp only [joinToString_blank, List.flatMap_cons, String.toList_append, List.append_assoc,
      List.cons_append]
  have colon : ": ".toList = [':', ' '] := by simp
  have lineFeed : "\n".toList = ['\n'] := by simp
  have flag : " online=".toList = ' ' :: "online=".toList := by simp
  have version : " version=".toList = ' ' :: "version=".toList := by simp
  unfold heartbeatData lineHead flagAndVersion heartbeatKey
  simp only [String.toList_append, described, colon, lineFeed, flag, version, List.append_assoc,
    List.cons_append, List.nil_append]

/-- The lines of the log output: the first one behind the head, and those that the texts of the
    client bring along. -/
theorem mem_logLines {line : String} :
    line ∈ logLines (heartbeatData stamp remote heartbeat) ↔
      line = String.ofList (lineHead stamp remote heartbeat ++
        ((detailLines heartbeat).headD []).rdropWhile goSpace) ∨
      ∃ part ∈ (detailLines heartbeat).tail, line = String.ofList (trimChars goSpace part) ∧
        line ≠ "" := by
  obtain ⟨first, rest, starts, solidFirst⟩ := lineHead_starts stamp remote heartbeat
  obtain ⟨init, last, ends, solidLast⟩ := lineHead_ends stamp remote heartbeat
  have lineFeed : goSpace '\n' = true := by decide
  have trimmed : trimSpace (heartbeatData stamp remote heartbeat) =
      String.ofList (lineHead stamp remote heartbeat ++ (details heartbeat).rdropWhile goSpace) := by
    rw [trimSpace, trim, heartbeatData_chars,
      trimChars_append_solid starts solidFirst ends solidLast,
      List.rdropWhile_concat_pos _ _ _ lineFeed]
  obtain ⟨head, tail, split, prefixed⟩ := @splitOn_free_append '\n'
    (lineHead stamp remote heartbeat) ((details heartbeat).rdropWhile goSpace)
    (lineHead_oneLine stamp remote heartbeat)
  have isSplit : detailLines heartbeat = head :: tail := split
  have nonempty : String.ofList (lineHead stamp remote heartbeat ++ head.rdropWhile goSpace) ≠
      "" := by
    rw [starts]
    simp [← String.toList_inj]
  rw [logLines, trimmed, entries, splitOn, String.toList_ofList, prefixed, isSplit]
  simp only [List.map_cons, List.map_map, trim, String.toList_ofList,
    trimChars_append_solid starts solidFirst ends solidLast, List.mem_filter, List.mem_cons,
    List.mem_map, Function.comp_apply, decide_eq_true_eq, List.headD_cons, List.tail_cons]
  constructor
  · rintro ⟨rfl | ⟨part, isPart, rfl⟩, given⟩
    · exact .inl rfl
    · exact .inr ⟨part, isPart, rfl, given⟩
  · rintro (rfl | ⟨part, isPart, rfl, given⟩)
    · exact ⟨.inl rfl, nonempty⟩
    · exact ⟨.inr ⟨part, isPart, rfl⟩, given⟩

end Line

section Agreement

variable {now : Int} {heartbeat : Heartbeat}

/-- A line without a match leaves the heartbeats alone. -/
theorem recordHeartbeat_iff (line : String) :
    (∃ fingerprint state, recordHeartbeat now (fun _ => none) line fingerprint = some state ∧
        Carries state heartbeat) ↔
      ∃ groups, heartbeatLinePattern line.toList = some groups ∧
        GroupsCarry now heartbeat groups := by
  unfold recordHeartbeat GroupsCarry
  cases matched : heartbeatLinePattern line.toList with
  | none => simp
  | some groups =>
    cases isState : groups.state now with
    | none => simp [isState]
    | some state =>
      simp only [Option.bind_some, isState, Option.some.injEq, exists_eq_left']
      constructor
      · rintro ⟨fingerprint, recorded, isRecorded, carries⟩
        rw [Function.update_apply] at isRecorded
        split at isRecorded
        · obtain rfl := Option.some.inj isRecorded
          exact carries
        · cases isRecorded
      · intro carries
        exact ⟨state.fingerprint, state, Function.update_self _ _ _, carries⟩

/-- The heartbeat is recorded exactly when the client spells the record itself. -/
theorem heartbeatRecorded_iff (stamp : LogStamp) (remote : RemoteAddr) :
    HeartbeatRecorded now (heartbeatData stamp remote heartbeat) heartbeat ↔
      SpellsRecord now heartbeat := by
  have onHead (rest : List Char) := heartbeatLinePattern_lineHead stamp remote heartbeat rest
  unfold HeartbeatRecorded SpellsRecord
  simp only [recordHeartbeat_iff, mem_logLines]
  constructor
  · rintro ⟨line, rfl | ⟨part, isPart, rfl, given⟩, groups, matched, carries⟩
    · rw [String.toList_ofList, onHead] at matched
      exact .inl ⟨groups, matched, carries⟩
    · rw [String.toList_ofList] at matched
      exact .inr ⟨part, isPart, groups, matched, carries⟩
  · rintro (⟨groups, matched, carries⟩ | ⟨part, isPart, groups, matched, carries⟩)
    · refine ⟨_, .inl rfl, groups, ?_, carries⟩
      rw [String.toList_ofList, onHead, matched]
    · refine ⟨_, .inr ⟨part, isPart, rfl, ?_⟩, groups, ?_, carries⟩
      · intro isEmpty
        have blank : trimChars goSpace part = [] := by
          simpa [← String.toList_inj] using isEmpty
        rw [blank] at matched
        cases matched
      · rw [String.toList_ofList, matched]

theorem toString_no_quote (value : Int) : '"' ∉ (toString value).toList := by
  have digits (value : Nat) : '"' ∉ (toString value).toList := by
    intro member
    rw [Nat.toString_eq_ofList_toDigits, String.toList_ofList] at member
    cases Nat.isDigit_of_mem_toDigits (by decide) (by decide) member
  cases value with
  | ofNat value => exact digits value
  | negSucc value =>
    intro member
    have parts : '"' ∈ "-".toList ∨ '"' ∈ (toString (value + 1)).toList := by
      rw [← List.mem_append, ← String.toList_append]
      exact member
    obtain inSign | inDigits := parts
    · revert inSign
      decide
    · exact digits _ inDigits

theorem transport_no_quote (transport : TransportMode) : '"' ∉ transport.string.toList := by
  unfold TransportMode.string
  split
  · decide
  · split
    · decide
    · split
      · decide
      · exact toString_no_quote transport.number.toInt

theorem keyed_quote {key value : String} (plain : '"' ∉ key.toList)
    (isQuoted : '"' ∈ (key ++ value).toList) : '"' ∈ value.toList := by
  rw [String.toList_append, List.mem_append] at isQuoted
  exact isQuoted.resolve_left plain

theorem describePart_quote {key value part : String} (plain : '"' ∉ key.toList)
    (isPart : part ∈ describePart key value) (inPart : '"' ∈ part.toList) :
    '"' ∈ value.toList := by
  unfold describePart at isPart
  split at isPart
  · cases isPart
  · obtain rfl := List.mem_singleton.mp isPart
    have noQuote : '"' ∉ (key ++ "=").toList := by
      rw [String.toList_append, List.mem_append, not_or]
      exact ⟨plain, by decide⟩
    exact (trim_sublist goSpace value).subset (keyed_quote noQuote inPart)

/-- A quote in the details is one of the client's texts. -/
theorem details_quote (isQuoted : '"' ∈ details heartbeat) :
    '"' ∈ heartbeat.sessionMode.toList ∨ '"' ∈ heartbeat.controlPath.toList ∨
      '"' ∈ heartbeat.provider.toList := by
  have modeKey : '"' ∉ "session_mode".toList := by decide
  have pathKey : '"' ∉ "control_path".toList := by decide
  have providerKey : '"' ∉ "provider".toList := by decide
  have transportKey : '"' ∉ "transport=".toList := by decide
  have streamsKey : '"' ∉ "active_streams=".toList := by decide
  obtain ⟨part, isPart, member⟩ := List.mem_flatMap.mp isQuoted
  have inPart : '"' ∈ part.toList := (List.mem_cons.mp member).resolve_left (by decide)
  unfold describeDetails at isPart
  simp only [List.mem_append] at isPart
  obtain (((isMode | isPath) | isProvider) | isTransport) | isStreams := isPart
  · exact .inl (describePart_quote modeKey isMode inPart)
  · exact .inr (.inl (describePart_quote pathKey isPath inPart))
  · exact .inr (.inr (describePart_quote providerKey isProvider inPart))
  · split at isTransport
    · cases isTransport
    · obtain rfl := List.mem_singleton.mp isTransport
      exact absurd (keyed_quote transportKey inPart) (transport_no_quote heartbeat.transport)
  · split at isStreams
    · obtain rfl := List.mem_singleton.mp isStreams
      exact absurd (keyed_quote streamsKey inPart) (toString_no_quote heartbeat.activeStreams.toNat)
    · cases isStreams

/-- No record is spelled without a quote. -/
theorem spellsRecord_quote (spells : SpellsRecord now heartbeat) :
    '"' ∈ heartbeat.sessionMode.toList ∨ '"' ∈ heartbeat.controlPath.toList ∨
      '"' ∈ heartbeat.provider.toList := by
  have untrimmed (line : List Char) {char : Char} (member : char ∈ trimChars goSpace line) :
      char ∈ line := by
    obtain ⟨before, after, split, _⟩ := trimChars_split goSpace line
    rw [split]
    simp [member]
  have inDetails {line : List Char} (isLine : line ∈ detailLines heartbeat)
      (inLine : '"' ∈ line) : '"' ∈ details heartbeat := by
    have inTrimmed := mem_of_mem_splitOn isLine inLine
    exact (List.rdropWhile_prefix goSpace _).subset inTrimmed
  have headLine (inHead : '"' ∈ (detailLines heartbeat).headD []) :
      (detailLines heartbeat).headD [] ∈ detailLines heartbeat := by
    generalize detailLines heartbeat = lines at inHead ⊢
    cases lines with
    | nil => cases inHead
    | cons head tail => exact List.mem_cons_self
  apply details_quote
  obtain ⟨groups, found, _⟩ | ⟨line, isLine, groups, matched, _⟩ := spells
  · have inHead := (List.rdropWhile_prefix goSpace _).subset (lastRecord_quote found)
    exact inDetails (headLine inHead) inHead
  · exact inDetails (List.mem_of_mem_tail isLine)
      (untrimmed line (heartbeatLinePattern_quote matched))

end Agreement

/-- A heartbeat that the server accepts reaches the panel exactly when the client spells a whole
    record in one of its texts. -/
theorem heartbeat_reaches_panel_iff {proto : Proto} (stamp : LogStamp) (remote : RemoteAddr)
    (now : Int) {payload inner : Bytes} {heartbeat : Heartbeat}
    (request : parseControlHeartbeatRequest payload = some inner)
    (parsed : parseHeartbeatMessage proto inner = .ok heartbeat) :
    (∃ data, controlHeartbeatLog proto stamp remote payload = some data ∧
      HeartbeatRecorded now data heartbeat) ↔ SpellsRecord now heartbeat := by
  have isData : controlHeartbeatLog proto stamp remote payload =
      some (heartbeatData stamp remote heartbeat) := by
    unfold controlHeartbeatLog
    rw [request, Option.map_some, parsed]
    rfl
  rw [isData]
  simp only [Option.some.injEq, exists_eq_left', heartbeatRecorded_iff]

/-! ## A heartbeat of an ordinary client -/

def logStamp : LogStamp where
  text := "2009/11/10 23:00:00 "
  starts := ⟨'2', "009/11/10 23:00:00 ".toList, by decide, by decide⟩
  plain := List.all_iff_forall_prop.mp (by decide)

def remoteAddr : RemoteAddr where
  text := "192.0.2.1:5060"
  solid := List.all_iff_forall_prop.mp (by decide)

def ordinaryHeartbeat : Heartbeat :=
  { version := 1, activeStreams := 2, online := true, sessionMode := "mu" }

def heartbeatBytes : Bytes := [0x08, 1]

def heartbeatProto : Proto where
  clientHello := .single {} []
  serverHello := .single {} []
  heartbeat := .single ordinaryHeartbeat heartbeatBytes

theorem heartbeat_reaches_panel_iff_ordinary :
    (∃ data, controlHeartbeatLog heartbeatProto logStamp remoteAddr
        (buildControlHeartbeatRequest heartbeatBytes) = some data ∧
      HeartbeatRecorded 0 data ordinaryHeartbeat) ↔ SpellsRecord 0 ordinaryHeartbeat :=
  heartbeat_reaches_panel_iff logStamp remoteAddr 0
    (parseControlPacket_build .heartbeatReq heartbeatBytes) rfl

/-- The heartbeat of an ordinary client is not recorded. -/
theorem ordinary_heartbeat_not_recorded :
    ¬ ∀ (proto : Proto) (stamp : LogStamp) (remote : RemoteAddr) (now : Int)
      (payload inner : Bytes) (heartbeat : Heartbeat),
      parseControlHeartbeatRequest payload = some inner →
      parseHeartbeatMessage proto inner = .ok heartbeat →
      ∃ data, controlHeartbeatLog proto stamp remote payload = some data ∧
        HeartbeatRecorded now data heartbeat := by
  intro claimed
  have request := parseControlPacket_build .heartbeatReq heartbeatBytes
  obtain ⟨data, isData, recorded⟩ := claimed heartbeatProto logStamp remoteAddr 0 _ heartbeatBytes
    ordinaryHeartbeat request rfl
  have isOrdinary : controlHeartbeatLog heartbeatProto logStamp remoteAddr
      (buildControlHeartbeatRequest heartbeatBytes) =
        some (heartbeatData logStamp remoteAddr ordinaryHeartbeat) := by
    unfold controlHeartbeatLog
    rw [show parseControlHeartbeatRequest (buildControlHeartbeatRequest heartbeatBytes) =
      some heartbeatBytes from request]
    rfl
  obtain rfl := Option.some.inj (isData.symm.trans isOrdinary)
  have quoted := spellsRecord_quote ((heartbeatRecorded_iff logStamp remoteAddr).mp recorded)
  revert quoted
  decide

end VkTurn.Server
