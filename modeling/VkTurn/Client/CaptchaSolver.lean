import VkTurn.Panel.XrayClients
import VkTurn.Text.JsonValue

/-! # The second captcha solver of the client

The solver makes its requests one after another, so that it is a step function between requests: a
stage says which answer the code waits for and what it knows by then.  What it sends is left out,
since the answers are arbitrary, and so is the order of the slider's guesses, which decides only
what is sent.
-/

namespace VkTurn.Client

open VkTurn.Text
open VkTurn.Panel (atoi)

structure CaptchaV2InitSetting where
  type : String
  settings : String
  deriving DecidableEq

structure CaptchaV2Init where
  showCaptchaType : String
  captchaSettings : List CaptchaV2InitSetting
  deriving DecidableEq

structure CaptchaV2Page where
  powInput : String
  powDifficulty : Int
  scriptURL : String
  init : CaptchaV2Init
  deriving DecidableEq

structure CaptchaV2Check where
  status : String
  successToken : String
  showType : String
  deriving DecidableEq

/-- The errors that the solver tells apart. -/
inductive V2Error where
  | rateLimit
  | showType (showType : String)
  | other
  deriving DecidableEq

/-- What the solver takes from libraries.  Of a regular expression it takes the first group of the
    first match. -/
structure CaptchaLibrary where
  windowInit : String → Option String
  scriptSrc : String → Option String
  powInput : String → Option String
  difficulty : String → Option String
  debugInfo : String → Option String
  unmarshalInit : String → Option CaptchaV2Init
  /-- `json.Unmarshal` into a map. -/
  unmarshal : String → Option JsonFields
  marshal : JsonValue → String
  /-- The text of the float that a number is read as. -/
  formatFloat : String → String
  /-- The integer of that float. -/
  floatInt : String → Int64
  /-- The sum of a text in hexadecimal digits. -/
  sha256Hex : String → String
  /-- The text is an image in base64. -/
  decodesImage : String → Bool

/-- `strings.EqualFold` with an ASCII text in lower case: besides the ASCII capitals, the Kelvin
    sign and the long s fold to ASCII letters. -/
def equalFold (text lower : String) : Bool :=
  text.toList.map (fun char =>
    if char.toNat = 0x212a then 'k' else if char.toNat = 0x17f then 's' else char.toLower) =
      lower.toList

namespace CaptchaLibrary

variable (library : CaptchaLibrary)

/-! ## Pages and answers -/

def parseCaptchaV2Page (html : String) : Option CaptchaV2Page := do
  let init ← (library.windowInit html).bind library.unmarshalInit
  let scriptURL ← library.scriptSrc html
  let powInput := (library.powInput html).getD ""
  if powInput = "" then some ⟨"", 0, scriptURL, init⟩
  else
    let difficulty ← (library.difficulty html).bind fun digits => (atoi digits).toOption
    if difficulty ≤ 0 then none else some ⟨powInput, difficulty, scriptURL, init⟩

/-- The first sum with enough zeros; a context that is done is noticed at the 4096th. -/
def solveCaptchaPoWV2 (done : Bool) (input : String) (difficulty : Int) : Option String :=
  if input = "" ∨ difficulty ≤ 0 then none
  else
    let target := List.replicate difficulty.toNat '0'
    ((List.range' 1 (if done then 4095 else 10000000)).map fun nonce =>
      library.sha256Hex (input ++ toString nonce)).find? fun sum => target.isPrefixOf sum.toList

def captchaV2StringifyAny : Option JsonValue → String
  | none => ""
  | some .null => ""
  | some (.string text) => text
  | some (.number text) => library.formatFloat text
  | some (.bool truth) => if truth then "true" else "false"
  | some value => library.marshal value

/-- The object that `captchaRequest` makes of an answer, when there is one. -/
def captchaRequest (answer : Option String) : Option JsonFields := answer.bind library.unmarshal

def parseCaptchaV2Check (raw : JsonFields) : Option CaptchaV2Check := do
  let response ← objectField "response" raw
  let check : CaptchaV2Check :=
    { status := library.captchaV2StringifyAny (response "status")
      successToken := library.captchaV2StringifyAny (response "success_token")
      showType := library.captchaV2StringifyAny (response "show_captcha_type") }
  if check.status = "" then none else some check

def performCaptchaCheck (answer : Option String) : Option CaptchaV2Check :=
  (library.captchaRequest answer).bind library.parseCaptchaV2Check

/-- The end of `solveCheckboxCaptcha`, from its check on. -/
def checkboxResult (answer : Option String) : Except V2Error String :=
  match library.performCaptchaCheck answer with
  | none => .error .other
  | some check =>
    if check.showType ≠ "" ∧ equalFold check.showType "checkbox" = false then
      .error (.showType check.showType)
    else if equalFold check.status "error_limit" then .error .rateLimit
    else if equalFold check.status "ok" = false then .error .rateLimit
    else if check.successToken = "" then .error .other
    else .ok check.successToken

/-! ## The slider -/

structure SliderPuzzle where
  size : Int64
  swaps : List Int64
  attempts : Int64

def sliderStep : JsonValue → Option Int64
  | .number text => some (library.floatInt text)
  | .string text => (atoi (trimSpace text)).toOption.map Int64.ofInt
  | _ => none

def splitSliderStepsV2 : List Int64 → Option SliderPuzzle
  | [] => none
  | size :: tail =>
    if tail.length < 2 ∨ size ≤ 0 then none
    else
      let (tail, attempts) :=
        if tail.length % 2 ≠ 0 then (tail.dropLast, tail.getLastD 4) else (tail, 4)
      let attempts := if attempts ≤ 0 then 4 else attempts
      if tail = [] ∨ tail.length % 2 ≠ 0 then none else some ⟨size, tail, attempts⟩

def parseSliderPuzzleV2 (raw : JsonFields) : Option SliderPuzzle := do
  let response ← objectField "response" raw
  if equalFold (library.captchaV2StringifyAny (response "status")) "ok" = false then none
  else
    let rawImage := library.captchaV2StringifyAny (response "image")
    if rawImage = "" then none
    else
      match response "steps" with
      | some (.array rawSteps) =>
        let steps ← rawSteps.mapM library.sliderStep
        let puzzle ← splitSliderStepsV2 steps
        if library.decodesImage rawImage then some puzzle else none
      | _ => none

/-- `applySliderSwapsV2` gives no error. -/
def applySliderSwapsV2 (gridSize : Int64) (swaps : List Int64) : Bool :=
  let tileCount := gridSize * gridSize
  0 < tileCount && swaps.length % 2 == 0 && swaps.all fun tile => 0 ≤ tile && tile < tileCount

/-- The guesses, in the order of the swaps. -/
def rankSliderGuessesV2 (gridSize : Int64) (swaps : List Int64) : Option (List (List Int64)) :=
  let guesses := (List.range' 1 (swaps.length / 2)).map fun index => swaps.take (index * 2)
  if guesses = [] then none
  else if guesses.all (applySliderSwapsV2 gridSize) then some guesses
  else none

/-- How often `solveSliderCaptcha` guesses. -/
def sliderLimit (answer : Option String) : Option Nat := do
  let raw ← library.captchaRequest answer
  let puzzle ← library.parseSliderPuzzleV2 raw
  let guesses ← rankSliderGuessesV2 puzzle.size puzzle.swaps
  let limit := min puzzle.attempts.toInt guesses.length
  if limit ≤ 0 then none else some limit.toNat

/-- The result of a guess, or nothing when the next one follows. -/
def sliderResult (answer : Option String) : Option (Except V2Error String) :=
  match library.performCaptchaCheck answer with
  | none => some (.error .other)
  | some check =>
    if equalFold check.status "ok" then
      some (if check.successToken = "" then .error .other else .ok check.successToken)
    else if equalFold check.status "error_limit" then some (.error .rateLimit)
    else none

end CaptchaLibrary

/-! ## The stages -/

/-- What an attempt knows after its page. -/
structure V2Attempt where
  number : Nat
  page : CaptchaV2Page
  sliderSettings : String
  hash : String
  deriving DecidableEq

/-- The answer or the end of a wait that comes next. -/
inductive V2Stage where
  | html (number : Nat)
  | settings (attempt : V2Attempt)
  | debugInfo (attempt : V2Attempt)
  | checkboxDone (attempt : V2Attempt)
  | checkboxCheck (attempt : V2Attempt)
  | sliderContent (attempt : V2Attempt)
  | sliderDone (attempt : V2Attempt) (limit : Nat)
  | sliderCheck (attempt : V2Attempt) (index limit : Nat)
  | endSession (token : String)
  | backoff (number : Nat)
  | finished (result : Except V2Error String)

structure V2State where
  stage : V2Stage
  /-- `captchaV2DebugCache`. -/
  debugCache : List (String × String) := []

/-- What `solveVkCaptchaV2` does with the error of an attempt. -/
def failAttempt (number : Nat) : V2Error → V2Stage
  | .rateLimit => .finished (.error .rateLimit)
  | _ => .backoff number

/-- An iteration of the loop over the types of the captcha. -/
def V2Attempt.solve (attempt : V2Attempt) (showType : String) : V2Stage :=
  if showType = "slider" then .sliderContent attempt
  else if showType = "checkbox" ∨ showType = "" then .checkboxDone attempt
  else failAttempt attempt.number .other

/-- The end of such an iteration. -/
def V2Attempt.solved (attempt : V2Attempt) : Except V2Error String → V2Stage
  | .ok token => .endSession token
  | .error (.showType showType) =>
    if showType = "" then failAttempt attempt.number (.showType showType)
    else attempt.solve showType
  | .error error => failAttempt attempt.number error

namespace CaptchaLibrary

variable (library : CaptchaLibrary)

/-- The beginning of `solveOnce`, up to its first request to the API. -/
def beginAttempt (number : Nat) (done : Bool) (html : String) : Option V2Attempt := do
  let page ← library.parseCaptchaV2Page html
  let sliderSettings :=
    (((page.init.captchaSettings.filter (·.type = "slider")).getLast?).map (·.settings)).getD ""
  if page.powInput = "" ∨ (page.init.showCaptchaType = "slider" ∧ sliderSettings = "") then none
  else
    let hash ← library.solveCaptchaPoWV2 done page.powInput page.powDifficulty
    some ⟨number, page, sliderSettings, hash⟩

/-- What the solver does with an answer, or at the end of a wait; `done` says whether the context
    is done by then. -/
def step (state : V2State) (done : Bool) (answer : Option String) : V2State :=
  match state.stage with
  | .html number =>
    match answer.bind (library.beginAttempt number done) with
    | none => { state with stage := failAttempt number .other }
    | some attempt => { state with stage := .settings attempt }
  | .settings attempt =>
    if library.captchaRequest answer |>.isNone then
      { state with stage := failAttempt attempt.number .other }
    else
      match state.debugCache.lookup attempt.page.scriptURL with
      | some _ => { state with stage := attempt.solve attempt.page.init.showCaptchaType }
      | none => { state with stage := .debugInfo attempt }
  | .debugInfo attempt =>
    match answer.bind library.debugInfo with
    | none => { state with stage := failAttempt attempt.number .other }
    | some value =>
      { stage := attempt.solve attempt.page.init.showCaptchaType
        debugCache := (attempt.page.scriptURL, value) :: state.debugCache }
  | .checkboxDone attempt =>
    -- the wait before the check ends at once when the context is done
    if (library.captchaRequest answer).isNone ∨ done then
      { state with stage := failAttempt attempt.number .other }
    else { state with stage := .checkboxCheck attempt }
  | .checkboxCheck attempt =>
    { state with stage := attempt.solved (library.checkboxResult answer) }
  | .sliderContent attempt =>
    match library.sliderLimit answer with
    | none => { state with stage := failAttempt attempt.number .other }
    | some limit => { state with stage := .sliderDone attempt limit }
  | .sliderDone attempt limit =>
    if (library.captchaRequest answer).isNone then
      { state with stage := failAttempt attempt.number .other }
    else { state with stage := .sliderCheck attempt 0 limit }
  | .sliderCheck attempt index limit =>
    match library.sliderResult answer with
    | some result => { state with stage := attempt.solved result }
    | none =>
      if index + 1 < limit then { state with stage := .sliderCheck attempt (index + 1) limit }
      else { state with stage := failAttempt attempt.number .other }
  | .endSession token => { state with stage := .finished (.ok token) }
  | .backoff number =>
    if done then { state with stage := .finished (.error .other) }
    else { state with stage := .html (number + 1) }
  | .finished _ => state

end CaptchaLibrary

/-- A context, by whether it is done at a time. -/
structure CaptchaContext where
  done : Nat → Bool
  stays : ∀ time, done time = true → done (time + 1) = true

/-- `context.Background()`. -/
def CaptchaContext.background : CaptchaContext := ⟨fun _ => false, fun _ isDone => isDone⟩

/-- `solveVkCaptchaV2` up to its first request; there may be no error to solve, and the HTTP client
    may fail. -/
def startV2 (sessionToken : Option String) (hasClient : Bool)
    (debugCache : List (String × String)) : V2State :=
  if sessionToken.getD "" = "" ∨ hasClient = false then ⟨.finished (.error .other), debugCache⟩
  else ⟨.html 1, debugCache⟩

/-- Where `dispatchAutoVkCaptcha` gets to. -/
inductive Dispatched where
  | token (token : String)
  /-- It calls `solveVkCaptcha`. -/
  | v1
  deriving DecidableEq

def dispatchAutoVkCaptcha (captchaSolverVersion : String) (stage : V2Stage) : Option Dispatched :=
  if equalFold captchaSolverVersion "v1" then some .v1
  else
    match stage with
    | .finished (.ok token) => some (.token token)
    | .finished (.error _) => some .v1
    | _ => none

end VkTurn.Client
