import VkTurn.Client.StatusMarkers
import VkTurn.Frontend.CaptchaPrompts
import VkTurn.Text.OneLine

/-! # Status markers and the app

The app reads any line, except an event with an array or an object where it looks for a text or a
number.  It takes the first word of a status line for the phase and the whole text of a status
event, so that the two differ for the marker of a lockout.
-/

namespace VkTurn.Frontend

open VkTurn.Client VkTurn.Launcher VkTurn.Text

/-- The fields besides the type that an event must have as primitives, if it has them. -/
def primitiveKeys : String → List String
  | "caps" => ["version"]
  | "status" => ["phase"]
  | "lockout" => ["seconds"]
  | "captcha" => ["state", "source", "url", "userAgent"]
  | "telemetry" =>
    ["timestampMs", "sessionMode", "activeStreams", "connectedStreams", "leaderStream",
      "primaryStream"]
  | _ => []

/-- The field is missing, or a text, a number, a truth value or `null`. -/
def PrimitiveField (root : Json) (key : String) : Prop :=
  ∀ element, root.field? key = some element → element.content? ≠ none

def PrimitiveFields (root : Json) : Prop :=
  PrimitiveField root "type" ∧
    ∀ type, textField root "type" = some type → ∀ key ∈ primitiveKeys type, PrimitiveField root key

/-- What stands behind the prefix of an event. -/
def eventPayload (rawLine : String) : Option String :=
  ("PROXY_EVENT:".toList.isPrefixOf? (rawLine.toList.rdropWhile kotlinSpace)).map fun payload =>
    String.ofList (trimChars kotlinSpace payload)

section Reader

variable (parseToJsonElement : String → Option Json) (decodeStream : Json → Option StreamTelemetry)

/-- The line is no event, or no object, or its fields are primitive where they must be. -/
def ReadableLine (rawLine : String) : Prop :=
  ∀ payload, eventPayload rawLine = some payload → payload.toList.head? = some '{' →
    ∀ fields, parseToJsonElement payload = some (.object fields) → PrimitiveFields (.object fields)

/-- All lines for a marker are read as the same phase. -/
def SamePhase (marker : String) : Prop :=
  ∃ phase, ∀ line ∈ emitProxyStatus marker,
    ProxyEvents.parse parseToJsonElement decodeStream line = some (.statusPhase phase)

end Reader

/-! ## The lines that are read -/

section Fields

variable {root : Json} {key : String}

theorem fieldContent_ne_none : fieldContent root key ≠ none ↔ PrimitiveField root key := by
  unfold fieldContent PrimitiveField
  cases root.field? key with
  | none => simp
  | some element => simp

theorem textField_ne_none : textField root key ≠ none ↔ PrimitiveField root key := by
  rw [textField, ne_eq, Option.map_eq_none_iff]
  exact fieldContent_ne_none

theorem intField_ne_none : intField root key ≠ none ↔ PrimitiveField root key := by
  rw [intField, ne_eq, Option.map_eq_none_iff]
  exact fieldContent_ne_none

theorem bind_ne_none {α β : Type} {first : Option α} {next : α → Option β} {Later : Prop}
    (later : ∀ value, next value ≠ none ↔ Later) :
    first.bind next ≠ none ↔ first ≠ none ∧ Later := by
  cases first with
  | none => simp
  | some value => simpa using later value

variable {decodeStream : Json → Option StreamTelemetry}

theorem some_ne_none_iff {α : Type} (value : α) : some value ≠ none ↔ True :=
  iff_of_true (Option.some_ne_none value) trivial

theorem captchaEvent_ne_none : captchaEvent root ≠ none ↔
    ∀ key ∈ primitiveKeys "captcha", PrimitiveField root key := by
  have each : captchaEvent root ≠ none ↔ textField root "state" ≠ none ∧
      textField root "source" ≠ none ∧ textField root "url" ≠ none ∧
      textField root "userAgent" ≠ none ∧ True :=
    bind_ne_none fun _ => bind_ne_none fun _ => bind_ne_none fun _ => bind_ne_none fun _ =>
      some_ne_none_iff _
  simpa only [primitiveKeys, List.forall_mem_cons, List.not_mem_nil, false_implies, implies_true,
    textField_ne_none] using each

theorem telemetryEvent_ne_none : telemetryEvent decodeStream root ≠ none ↔
    ∀ key ∈ primitiveKeys "telemetry", PrimitiveField root key := by
  have each : telemetryEvent decodeStream root ≠ none ↔
      fieldContent root "timestampMs" ≠ none ∧ textField root "sessionMode" ≠ none ∧
      intField root "activeStreams" ≠ none ∧ intField root "connectedStreams" ≠ none ∧
      fieldContent root "leaderStream" ≠ none ∧ fieldContent root "primaryStream" ≠ none ∧ True :=
    bind_ne_none fun _ => bind_ne_none fun _ => bind_ne_none fun _ => bind_ne_none fun _ =>
      bind_ne_none fun _ => bind_ne_none fun _ => some_ne_none_iff _
  simpa only [primitiveKeys, List.forall_mem_cons, List.not_mem_nil, false_implies, implies_true,
    fieldContent_ne_none, textField_ne_none, intField_ne_none] using each

theorem capsEvent_ne_none : capsEvent root ≠ none ↔
    ∀ key ∈ primitiveKeys "caps", PrimitiveField root key := by
  have each : capsEvent root ≠ none ↔ intField root "version" ≠ none ∧ True :=
    bind_ne_none fun _ => some_ne_none_iff _
  simpa only [primitiveKeys, List.forall_mem_cons, List.not_mem_nil, false_implies, implies_true,
    intField_ne_none] using each

/-- An event is read when the fields of its type are primitive. -/
theorem eventOf_ne_none (type : String) : eventOf decodeStream root type ≠ none ↔
    ∀ key ∈ primitiveKeys type, PrimitiveField root key := by
  unfold eventOf
  split
  · exact capsEvent_ne_none
  · simp [primitiveKeys, ← textField_ne_none]
  · simp [primitiveKeys, ← intField_ne_none]
  · exact captchaEvent_ne_none
  · exact telemetryEvent_ne_none
  · simp [primitiveKeys]

end Fields

section Lines

variable {parseToJsonElement : String → Option Json}
  {decodeStream : Json → Option StreamTelemetry}

theorem fieldsEvent_ne_none {root : Json} :
    (textField root "type").bind (eventOf decodeStream root) ≠ none ↔ PrimitiveFields root := by
  rw [PrimitiveFields, ← textField_ne_none]
  cases textField root "type" with
  | none => simp
  | some type => simpa using eventOf_ne_none type

theorem parseJson_ne_none {payload : String} :
    ProxyEvents.parseJson parseToJsonElement decodeStream payload ≠ none ↔
      (payload.toList.head? = some '{' → ∀ fields,
        parseToJsonElement payload = some (.object fields) → PrimitiveFields (.object fields)) := by
  unfold ProxyEvents.parseJson
  split
  · rename_i noBrace
    simp [noBrace]
  · rename_i isBrace
    rw [not_not] at isBrace
    split
    · rename_i fields isObject
      simp only [isBrace, isObject, Option.some.injEq, Json.object.injEq, forall_eq', true_implies]
      exact fieldsEvent_ne_none
    · rename_i notObject
      refine iff_of_true (Option.some_ne_none _) fun _ fields isObject => ?_
      exact absurd isObject (notObject fields)

/-- A line with another prefix is no event. -/
theorem eventPayload_of_marker {rawLine : String} {key rest : List Char}
    (isPrefix : key.isPrefixOf? (rawLine.toList.rdropWhile kotlinSpace) = some rest)
    (other : ∀ rest, "PROXY_EVENT:".toList.isPrefixOf? (key ++ rest) = none) :
    eventPayload rawLine = none := by
  rw [eventPayload, ← List.isPrefixOf?_eq_some_iff_append_eq.mp isPrefix, other]
  rfl

/-- The reader throws on no other line. -/
theorem parse_ne_none (rawLine : String) :
    ProxyEvents.parse parseToJsonElement decodeStream rawLine ≠ none ↔
      ReadableLine parseToJsonElement rawLine := by
  have readable (event : ProxyEvent) (noEvent : eventPayload rawLine = none) :
      some event ≠ none ↔ ReadableLine parseToJsonElement rawLine := by
    refine iff_of_true (Option.some_ne_none event) fun payload isPayload => ?_
    cases noEvent.symm.trans isPayload
  unfold ProxyEvents.parse
  dsimp only
  split
  · rename_i isStatus
    exact readable _ (eventPayload_of_marker isStatus fun _ => rfl)
  split
  · rename_i isCaps
    exact readable _ (eventPayload_of_marker isCaps fun _ => rfl)
  split
  · rename_i payload isEvent
    rw [parseJson_ne_none, ReadableLine, eventPayload, isEvent]
    simp only [Option.map_some, Option.some.injEq, forall_eq']
  · rename_i notEvent
    exact readable _ (by rw [eventPayload, notEvent, Option.map_none])

end Lines

/-! ## The lines for a marker -/

section Markers

theorem kotlinTrim_rdropWhile (chars : List Char) :
    trimChars kotlinSpace (chars.rdropWhile kotlinSpace) = trimChars kotlinSpace chars := by
  have blank : ∀ char ∈ chars.rtakeWhile kotlinSpace, kotlinSpace char = true :=
    fun char => List.mem_rtakeWhile_imp
  rw [← trimChars_append_blank blank, List.rdropWhile_append_rtakeWhile]

theorem substringBefore_free {separator : Char} {text : String} (free : separator ∉ text.toList) :
    substringBefore separator text = text := by
  have all : ∀ char ∈ text.toList, decide (char ≠ separator) = true := by
    intro char member
    exact decide_eq_true fun same => free (same ▸ member)
  rw [substringBefore, List.takeWhile_eq_self_iff.mpr all, String.ofList_toList]

theorem not_mem_substringBefore (separator : Char) (text : String) :
    separator ∉ (substringBefore separator text).toList := by
  rw [substringBefore, String.toList_ofList]
  intro member
  simpa using List.mem_takeWhile_imp member

/-- The phase that a status line stands for. -/
def linePhase (marker : String) : String := kotlinTrim (substringBefore ' ' (kotlinTrim marker))

/-- The phase is the marker when that is one word. -/
theorem linePhase_eq_self {marker : String} :
    linePhase marker = marker ↔ ' ' ∉ marker.toList ∧ kotlinTrim marker = marker := by
  constructor
  · intro isPhase
    have free : ' ' ∉ marker.toList := by
      intro member
      rw [← isPhase] at member
      exact not_mem_substringBefore ' ' _ ((trim_sublist kotlinSpace _).subset member)
    have freeTrim : ' ' ∉ (kotlinTrim marker).toList :=
      fun member => free ((trim_sublist kotlinSpace _).subset member)
    refine ⟨free, ?_⟩
    rw [linePhase, substringBefore_free freeTrim] at isPhase
    exact (trim_trim marker).symm.trans isPhase
  · rintro ⟨free, trimmed⟩
    rw [linePhase, trimmed, substringBefore_free free, trimmed]

variable {parseToJsonElement : String → Option Json}
  {decodeStream : Json → Option StreamTelemetry}

theorem parse_statusLine (marker : String) :
    ProxyEvents.parse parseToJsonElement decodeStream ("PROXY_STATUS: " ++ marker) =
      some (.statusPhase (linePhase marker)) := by
  have solid : trimChars kotlinSpace ("PROXY_STATUS:".toList ++ ' ' :: marker.toList) =
      "PROXY_STATUS:".toList ++ (' ' :: marker.toList).rdropWhile kotlinSpace := by
    apply trimChars_append_solid
    · exact rfl
    · exact (by decide : kotlinSpace 'P' = false)
    · exact (rfl : _ = "PROXY_STATUS".toList ++ [':'])
    · decide
  have line : ("PROXY_STATUS: " ++ marker).toList.rdropWhile kotlinSpace =
      "PROXY_STATUS:".toList ++ (' ' :: marker.toList).rdropWhile kotlinSpace := by
    rw [String.toList_append]
    exact solid
  have behind : "PROXY_STATUS:".toList.isPrefixOf?
      (("PROXY_STATUS: " ++ marker).toList.rdropWhile kotlinSpace) =
      some ((' ' :: marker.toList).rdropWhile kotlinSpace) :=
    List.isPrefixOf?_eq_some_iff_append_eq.mpr line.symm
  have blank : ∀ char ∈ [' '], kotlinSpace char = true := List.forall_mem_singleton.mpr (by decide)
  have trimmed : trimChars kotlinSpace ((' ' :: marker.toList).rdropWhile kotlinSpace) =
      trimChars kotlinSpace marker.toList :=
    (kotlinTrim_rdropWhile _).trans (trimChars_blank_append blank)
  unfold ProxyEvents.parse
  simp only [behind, trimmed]
  rfl

theorem parse_statusEvent (reads : ReadsStrings parseToJsonElement) (marker : String) :
    ProxyEvents.parse parseToJsonElement decodeStream
        (emitProxyEvent [("type", "status"), ("phase", marker)]) = some (.statusPhase marker) := by
  have distinct : ([("type", "status"), ("phase", marker)].map Prod.fst).Nodup := by
    simp only [List.map_cons, List.map_nil]
    decide
  rw [parse_emitProxyEvent reads distinct, textField_ofStrings]
  change (textField (.ofStrings [("type", "status"), ("phase", marker)]) "phase").map
    ProxyEvent.statusPhase = _
  rw [textField_ofStrings]
  rfl

theorem samePhase_iff (reads : ReadsStrings parseToJsonElement) {marker : String}
    (given : marker ≠ "") : SamePhase parseToJsonElement decodeStream marker ↔
      ' ' ∉ marker.toList ∧ kotlinTrim marker = marker := by
  rw [← linePhase_eq_self]
  simp only [SamePhase, emitProxyStatus, if_neg given, List.forall_mem_cons, parse_statusLine,
    parse_statusEvent reads, Option.some.injEq, ProxyEvent.statusPhase.injEq]
  constructor
  · rintro ⟨phase, isLine, isEvent, _⟩
    exact isLine.trans isEvent.symm
  · intro same
    exact ⟨marker, same, rfl, by simp⟩

/-- Of the markers of the client, that of a lockout is read in two ways. -/
theorem marker_samePhase_iff (reads : ReadsStrings parseToJsonElement) {marker : String}
    (isMarker : StatusMarker marker) :
    SamePhase parseToJsonElement decodeStream marker ↔ ' ' ∉ marker.toList := by
  cases isMarker with
  | word isWord =>
    have single : ∀ word ∈ statusWords,
        word ≠ "" ∧ ' ' ∉ word.toList ∧ kotlinTrim word = word := by decide +kernel
    obtain ⟨given, free, trimmed⟩ := single marker isWord
    exact iff_of_true ((samePhase_iff reads given).mpr ⟨free, trimmed⟩) free
  | lockout duration =>
    have hasBlank := mem_captchaLockoutMarker duration
    have given : captchaLockoutMarker duration ≠ "" := by
      intro isEmpty
      simp [isEmpty] at hasBlank
    refine iff_of_false (fun same => ?_) (not_not_intro hasBlank)
    exact ((samePhase_iff reads given).mp same).1 hasBlank

end Markers

/-- The reader returns for exactly the lines without an array or an object where it looks for a
    primitive, and reads one phase from the lines for exactly the markers of one word. -/
theorem status_events_read_iff {parseToJsonElement : String → Option Json}
    (reads : ReadsStrings parseToJsonElement) (decodeStream : Json → Option StreamTelemetry) :
    (∀ rawLine, ProxyEvents.parse parseToJsonElement decodeStream rawLine ≠ none ↔
      ReadableLine parseToJsonElement rawLine) ∧
    ∀ marker, StatusMarker marker →
      (SamePhase parseToJsonElement decodeStream marker ↔ ' ' ∉ marker.toList) :=
  ⟨fun rawLine => parse_ne_none rawLine, fun _ isMarker => marker_samePhase_iff reads isMarker⟩

/-! ## An event with an array for its type -/

/-- Reads one more object than those of strings. -/
def readTypeArray (text : String) : Option Json :=
  if text = "\x7b\"type\":[]\x7d" then some (.object [("type", .array [])]) else readStrings text

theorem readTypeArray_reads : ReadsStrings readTypeArray := by
  intro fields distinct
  have isOther : marshalStrings fields ≠ "\x7b\"type\":[]\x7d" := by
    intro same
    have read := readStrings_marshalStrings fields
    rw [same] at read
    have unread : readStrings "\x7b\"type\":[]\x7d" = none := by decide
    cases unread.symm.trans read
  rw [readTypeArray, if_neg isOther, readStrings_marshalStrings]

theorem status_events_read_iff_typeArray :
    (∀ rawLine, ProxyEvents.parse readTypeArray (fun _ => none) rawLine ≠ none ↔
      ReadableLine readTypeArray rawLine) ∧
    ∀ marker, StatusMarker marker →
      (SamePhase readTypeArray (fun _ => none) marker ↔ ' ' ∉ marker.toList) :=
  status_events_read_iff readTypeArray_reads fun _ => none

theorem parse_typeArray : ProxyEvents.parse readTypeArray (fun _ => none)
    "PROXY_EVENT: \x7b\"type\":[]\x7d" = none := by
  decide +kernel

theorem captchaLockoutMarker_halfMinute :
    captchaLockoutMarker 30000000000 = "captcha_lockout 30" := by
  decide

/-- An event whose type is an array throws, and a lockout of 30 s has two phases. -/
theorem status_events_misread :
    (¬ ∀ rawLine, ProxyEvents.parse readTypeArray (fun _ => none) rawLine ≠ none) ∧
    ¬ ∀ marker, StatusMarker marker → SamePhase readTypeArray (fun _ => none) marker := by
  constructor
  · intro claimed
    exact claimed _ parse_typeArray
  · intro claimed
    have same := claimed _ (.lockout 30000000000)
    rw [captchaLockoutMarker_halfMinute, samePhase_iff readTypeArray_reads (by decide)] at same
    exact same.1 (by decide)

end VkTurn.Frontend
