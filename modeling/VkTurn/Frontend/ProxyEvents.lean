import VkTurn.Frontend.VkTurnRunner
import VkTurn.Text.Json
import VkTurn.Text.Kotlin

/-! # Reading the client's output

A line of the client is a status, a list of capabilities or a JSON event behind a prefix, or just
text.  The reader throws where a field of an event is an array or an object.
-/

namespace VkTurn.Frontend

open VkTurn.Launcher VkTurn.Text

/-- The text of a field, when it is there; `none` when the field is no primitive and the reader
    throws. -/
def fieldContent (root : Json) (key : String) : Option (Option String) :=
  match root.field? key with
  | none => some none
  | some element => element.content?.map some

/-- The elements of an array field; a field of another type counts as empty. -/
def fieldElements (root : Json) (key : String) : List Json :=
  match root.field? key with
  | some (.array elements) => elements
  | _ => []

def textField (root : Json) (key : String) : Option String :=
  (fieldContent root key).map (·.getD "")

def intField (root : Json) (key : String) : Option Int :=
  (fieldContent root key).map fun content => ((content.bind toIntOrNull).getD 0).toInt

/-- A token of `PROXY_CAPS`. -/
def capsToken (caps : Int × List String) (token : String) : Int × List String :=
  let key := substringBefore '=' token
  let value := removePrefix (key ++ "=") token
  if '=' ∉ token.toList ∨ key = "" then caps
  else if key = "version" then (((toIntOrNull value).getD 0).toInt, caps.2)
  else if key = "caps" then (caps.1, entries kotlinSpace ',' value)
  else caps

section Parse

-- The JSON parser, and the deserializer of the telemetry of a stream.
variable (parseToJsonElement : String → Option Json) (decodeStream : Json → Option StreamTelemetry)

def telemetryEvent (root : Json) : Option ProxyEvent := do
  let _ ← fieldContent root "timestampMs"
  let sessionMode ← textField root "sessionMode"
  let activeStreams ← intField root "activeStreams"
  let connectedStreams ← intField root "connectedStreams"
  let _ ← fieldContent root "leaderStream"
  let _ ← fieldContent root "primaryStream"
  some (.telemetry sessionMode activeStreams connectedStreams
    ((fieldElements root "streams").filterMap decodeStream))

def captchaEvent (root : Json) : Option ProxyEvent := do
  let state ← textField root "state"
  let _ ← textField root "source"
  let url ← textField root "url"
  let userAgent ← textField root "userAgent"
  some (.captchaPrompt state url userAgent)

def capsEvent (root : Json) : Option ProxyEvent := do
  let version ← intField root "version"
  some (.caps version ((fieldElements root "capabilities").filterMap Json.content?))

def eventOf (root : Json) (type : String) : Option ProxyEvent :=
  match type with
  | "caps" => capsEvent root
  | "status" => (textField root "phase").map .statusPhase
  | "lockout" => (intField root "seconds").map .lockout
  | "captcha" => captchaEvent root
  | "telemetry" => telemetryEvent decodeStream root
  | _ => some .unknown

def ProxyEvents.parseJson (payload : String) : Option ProxyEvent :=
  if payload.toList.head? ≠ some '{' then some .raw
  else
    match parseToJsonElement payload with
    | some (.object fields) =>
      (textField (.object fields) "type").bind (eventOf decodeStream (.object fields))
    | _ => some .raw

/-- `ProxyEvents.parse`. -/
def ProxyEvents.parse (rawLine : String) : Option ProxyEvent :=
  let line := rawLine.toList.rdropWhile kotlinSpace
  match "PROXY_STATUS:".toList.isPrefixOf? line with
  | some marker =>
    let marker := String.ofList (trimChars kotlinSpace marker)
    some (.statusPhase (kotlinTrim (substringBefore ' ' marker)))
  | none =>
    match "PROXY_CAPS:".toList.isPrefixOf? line with
    | some body =>
      let caps := (splitOn ' ' (String.ofList (trimChars kotlinSpace body))).foldl capsToken (0, [])
      some (.caps caps.1 caps.2)
    | none =>
      match "PROXY_EVENT:".toList.isPrefixOf? line with
      | some payload =>
        ProxyEvents.parseJson parseToJsonElement decodeStream (String.ofList (trimChars kotlinSpace payload))
      | none => some .raw

/-- `consume`: the status after a line, or nothing when the reader throws. -/
def RouteStatus.consumeLine (effectiveStreams : Int) (current : RouteStatus) (line : String) :
    Option RouteStatus :=
  (ProxyEvents.parse parseToJsonElement decodeStream line).map (current.consume effectiveStreams)

def RouteStatus.consumeLines (effectiveStreams : Int) (current : RouteStatus)
    (lines : List String) : Option RouteStatus :=
  lines.foldlM (RouteStatus.consumeLine parseToJsonElement decodeStream effectiveStreams) current

/-- An event is read from the JSON text behind its prefix. -/
theorem ProxyEvents.parse_event {body : List Char} {last : Char}
    (notBlank : kotlinSpace last = false) :
    ProxyEvents.parse parseToJsonElement decodeStream
        (String.ofList ("PROXY_EVENT: ".toList ++ '{' :: body ++ [last])) =
      ProxyEvents.parseJson parseToJsonElement decodeStream
        (String.ofList ('{' :: body ++ [last])) := by
  have whole : ("PROXY_EVENT: ".toList ++ '{' :: body ++ [last]).rdropWhile kotlinSpace =
      "PROXY_EVENT: ".toList ++ '{' :: body ++ [last] :=
    List.rdropWhile_concat_neg _ _ _ (by simp [notBlank])
  have trimmed : trimChars kotlinSpace (' ' :: '{' :: body ++ [last]) = '{' :: body ++ [last] := by
    have blank : ∀ char ∈ [' '], kotlinSpace char = true :=
      List.forall_mem_singleton.mpr (by decide)
    have started : ∀ first ∈ ('{' :: body ++ [last]).head?, kotlinSpace first = false := by
      rintro first ⟨⟩
      rfl
    exact (trimChars_blank_append blank).trans (trimChars_eq_self started notBlank)
  have payload : "PROXY_EVENT:".toList.isPrefixOf?
      ("PROXY_EVENT: ".toList ++ '{' :: body ++ [last]) = some (' ' :: '{' :: body ++ [last]) := rfl
  simp only [ProxyEvents.parse, String.toList_ofList, whole, payload, trimmed]
  rfl

end Parse

end VkTurn.Frontend
