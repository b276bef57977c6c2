import VkTurn.Text.Base64
import VkTurn.Text.Json
import VkTurn.Text.Trim

/-! # Captcha prompts of the client

A prompt is served by a local web server.  The client prints a line and an event when it opens
the prompt, and again when the prompt ends in one of the ways that it tells the app about.
-/

namespace VkTurn.Client

open VkTurn.Text

structure CaptchaBrowserMode where
  eventPrefix : String
  source : String
  userAgent : String
  /-- In seconds; 0 waits without a limit. -/
  waitTimeout : Nat
  deriving DecidableEq

/-- The mode of `solveCaptchaViaHTTP` and `solveCaptchaViaProxy`, and of their deferred forms. -/
def captchaMode (deferred : Bool) (userAgent : String) : CaptchaBrowserMode :=
  match deferred with
  | true => ⟨"CAPTCHA_PENDING: ", "pool", userAgent, 5 * 60⟩
  | false => ⟨"CAPTCHA_REQUIRED: ", "primary", userAgent, 0⟩

structure CaptchaOutcome where
  value : String := ""
  cancelled : Bool := false
  deriving DecidableEq

/-- What ends the wait of a prompt. -/
inductive CaptchaEnd where
  | received (outcome : CaptchaOutcome)
  | timeout
  deriving DecidableEq

/-- A prompt whose web server runs. -/
structure CaptchaPrompt where
  mode : CaptchaBrowserMode
  port : Nat
  deriving DecidableEq

/-! ## Events -/

structure ProxyCaptchaEvent where
  state : String
  source : String := ""
  url : String := ""
  userAgent : String := ""

def omitEmpty (key value : String) : List (String × String) :=
  if value = "" then [] else [(key, value)]

def ProxyCaptchaEvent.fields (event : ProxyCaptchaEvent) : List (String × String) :=
  [("type", "captcha"), ("state", event.state)] ++ omitEmpty "source" event.source ++
    omitEmpty "url" event.url ++ omitEmpty "userAgent" event.userAgent

/-- What a reader of the fields gets, with the empty string where a field is left out. -/
theorem ProxyCaptchaEvent.lookup_fields (event : ProxyCaptchaEvent) :
    (event.fields.lookup "type").getD "" = "captcha" ∧
      (event.fields.lookup "state").getD "" = event.state ∧
      (event.fields.lookup "url").getD "" = event.url ∧
      (event.fields.lookup "userAgent").getD "" = event.userAgent := by
  unfold ProxyCaptchaEvent.fields omitEmpty
  split <;> split <;> split <;> simp_all [List.lookup_cons]

def emitProxyEvent (fields : List (String × String)) : String :=
  "PROXY_EVENT: " ++ marshalStrings fields

def emitCaptchaPromptEvent (state source url userAgent : String) : List String :=
  if state = "" then []
  else
    let event : ProxyCaptchaEvent :=
      { state := state, source := trimSpace source, url := trimSpace url,
        userAgent := trimSpace userAgent }
    [emitProxyEvent event.fields]

def emitCaptchaStateEvent (state : String) : List String :=
  if state = "" then []
  else
    let event : ProxyCaptchaEvent := { state := state }
    [emitProxyEvent event.fields]

/-! ## The life of a prompt -/

/-- `base64.RawURLEncoding`. -/
def base64RawURLEncode (bytes : List UInt8) : String :=
  String.ofList (((base64Chars bytes).filter (· ≠ '=')).map fun char =>
    if char = '+' then '-' else if char = '/' then '_' else char)

namespace CaptchaPrompt

variable (prompt : CaptchaPrompt)

def isDeferred : Bool := "CAPTCHA_PENDING".toList.isPrefixOf prompt.mode.eventPrefix.toList

def captchaURL : String := "http://127.0.0.1:" ++ toString prompt.port ++ "/"

def source : String :=
  let source := trimSpace prompt.mode.source
  if source = "" then "primary" else source

def eventLine : String :=
  let eventPrefix :=
    if prompt.mode.eventPrefix = "" then "CAPTCHA_REQUIRED: " else prompt.mode.eventPrefix
  let line := eventPrefix ++ "source=" ++ prompt.source ++ " url=" ++ prompt.captchaURL
  if trimSpace prompt.mode.userAgent = "" then line
  else line ++ " ua_b64=" ++ base64RawURLEncode prompt.mode.userAgent.toUTF8.toList

/-- The lines printed when the prompt is opened. -/
def openLines : List String :=
  let state := if prompt.isDeferred then "pending" else "required"
  prompt.eventLine ::
    emitCaptchaPromptEvent state prompt.source prompt.captchaURL prompt.mode.userAgent

/-- The lines printed when the prompt ends; only a prompt with a limit times out. -/
def endLines : CaptchaEnd → Option (List String)
  | .timeout =>
    if 0 < prompt.mode.waitTimeout then some ("CAPTCHA_EXPIRED" :: emitCaptchaStateEvent "expired")
    else none
  | .received outcome =>
    if outcome.cancelled then some ("CAPTCHA_CANCELLED" :: emitCaptchaStateEvent "cancelled")
    else if trimSpace outcome.value = "" then some []
    else some ("CAPTCHA_SOLVED" :: emitCaptchaStateEvent "solved")

end CaptchaPrompt

/-- The prompt that `runCaptchaBrowserServer` opens, or nothing when it fails before that: it has
    no listener, or another deferred prompt is open. -/
def openPrompt (outstanding : List CaptchaPrompt) (mode : CaptchaBrowserMode)
    (listener : Option Nat) : Option CaptchaPrompt :=
  listener.bind fun port =>
    let prompt : CaptchaPrompt := ⟨mode, port⟩
    if prompt.isDeferred && outstanding.any CaptchaPrompt.isDeferred then none else some prompt

end VkTurn.Client
