import VkTurn.Client.Captcha
import VkTurn.Frontend.ProxyEvents
import VkTurn.Transition.Machine

/-! # Captcha prompts and the app

The client opens and ends prompts, and the app follows them by the lines that the client prints.
A prompt that is opened as pending is told to the app in a word that it does not know, and so is
the end of one that times out; a prompt that ends with an empty result is not told at all.
-/

namespace VkTurn.Frontend

open VkTurn.Client VkTurn.Launcher VkTurn.Text VkTurn.Transition

/-- The prompts whose web server runs, and the status of the route. -/
structure CaptchaState where
  outstanding : List CaptchaPrompt := []
  status : RouteStatus

inductive CaptchaLabel where
  /-- A prompt is asked for; a listener that cannot be opened makes it fail. -/
  | begin (deferred : Bool) (userAgent : String) (listener : Option Nat)
  | finish (position : Nat) (ending : CaptchaEnd)
  /-- The client prints a line of another kind. -/
  | other (line : String)
  deriving DecidableEq

def ProxyEvent.isCaptcha : ProxyEvent → Bool
  | .captchaPrompt .. => true
  | _ => false

section Prompts

variable (parseToJsonElement : String → Option Json) (decodeStream : Json → Option StreamTelemetry)
  (effectiveStreams : Int)

/-- The client prints lines and the app consumes them. -/
def CaptchaState.print (state : CaptchaState) (outstanding : List CaptchaPrompt)
    (lines : List String) : Option CaptchaState :=
  (state.status.consumeLines parseToJsonElement decodeStream effectiveStreams lines).map
    fun status => ⟨outstanding, status⟩

def captchaStep (state : CaptchaState) : CaptchaLabel → Option CaptchaState
  | .begin deferred userAgent listener =>
    match openPrompt state.outstanding (captchaMode deferred userAgent) listener with
    | none => some state
    | some prompt =>
      state.print parseToJsonElement decodeStream effectiveStreams
        (state.outstanding ++ [prompt]) prompt.openLines
  | .finish position ending =>
    state.outstanding[position]?.bind fun prompt => (prompt.endLines ending).bind fun lines =>
      state.print parseToJsonElement decodeStream effectiveStreams
        (state.outstanding.eraseIdx position) lines
  | .other line =>
    if (ProxyEvents.parse parseToJsonElement decodeStream line).any ProxyEvent.isCaptcha then none
    else state.print parseToJsonElement decodeStream effectiveStreams state.outstanding [line]

def captchaPrompts : Machine CaptchaState CaptchaLabel where
  step := captchaStep parseToJsonElement decodeStream effectiveStreams

end Prompts

/-- No prompt has been opened. -/
def CaptchaState.Initial (state : CaptchaState) : Prop :=
  state.outstanding = [] ∧ state.status.captchaUrl = none

/-- The app shows a prompt exactly when one is outstanding, by the URL of an outstanding one. -/
structure ShowsPrompt (state : CaptchaState) : Prop where
  shown : state.status.captchaUrl = none ↔ state.outstanding = []
  url : ∀ url, state.status.captchaUrl = some url →
    ∃ prompt ∈ state.outstanding, prompt.captchaURL = url

/-- The client tells the app that the captcha is solved or cancelled. -/
def endsClear : CaptchaEnd → Bool
  | .received outcome => outcome.cancelled || trimSpace outcome.value ≠ ""
  | .timeout => false

/-- A prompt is opened as pending only beside another one; a prompt that is solved or cancelled is
    the last one; a prompt that ends otherwise is not the one that is shown. -/
def TellsPrompt (state : CaptchaState) : CaptchaLabel → Prop
  | .begin deferred _ listener => deferred = false ∨ listener = none ∨ state.outstanding ≠ []
  | .finish position ending =>
    if endsClear ending then state.outstanding.eraseIdx position = []
    else ∃ other ∈ state.outstanding.eraseIdx position,
      state.status.captchaUrl = some other.captchaURL
  | .other _ => True

/-! ## What the app makes of the lines -/

section Lines

variable {parseToJsonElement : String → Option Json}
  {decodeStream : Json → Option StreamTelemetry} {effectiveStreams : Int}

/-- A line that does not start like a prefix is text. -/
theorem ProxyEvents.parse_raw {line : String} {first : Char} {rest : List Char}
    (isLine : line.toList = first :: rest) (notPrefix : first ≠ 'P') :
    ProxyEvents.parse parseToJsonElement decodeStream line = some .raw := by
  have other (key : List Char) :
      ('P' :: key).isPrefixOf? ((first :: rest).rdropWhile kotlinSpace) = none := by
    cases trimmed : (first :: rest).rdropWhile kotlinSpace with
    | nil => rfl
    | cons head tail =>
      have isPrefix : head :: tail <+: first :: rest := trimmed ▸ List.rdropWhile_prefix _ _
      obtain rfl : head = first := isPrefix.head (List.cons_ne_nil head tail)
      simp [List.isPrefixOf?, notPrefix.symm]
  simp only [ProxyEvents.parse, isLine]
  rw [show "PROXY_STATUS:".toList = 'P' :: "ROXY_STATUS:".toList from rfl,
    show "PROXY_CAPS:".toList = 'P' :: "ROXY_CAPS:".toList from rfl,
    show "PROXY_EVENT:".toList = 'P' :: "ROXY_EVENT:".toList from rfl, other, other, other]

theorem textField_ofStrings (fields : List (String × String)) (key : String) :
    textField (.ofStrings fields) key = some ((fields.lookup key).getD "") := by
  rw [textField, fieldContent, field?_ofStrings]
  cases fields.lookup key with
  | none => rfl
  | some value => rfl

/-- An event of strings is read from its fields. -/
theorem parse_emitProxyEvent (reads : ReadsStrings parseToJsonElement)
    {fields : List (String × String)} (distinct : (fields.map Prod.fst).Nodup) :
    ProxyEvents.parse parseToJsonElement decodeStream (emitProxyEvent fields) =
      (textField (.ofStrings fields) "type").bind (eventOf decodeStream (.ofStrings fields)) := by
  have isLine : emitProxyEvent fields =
      String.ofList ("PROXY_EVENT: ".toList ++ '{' :: marshalFields fields ++ ['}']) := by
    rw [← String.toList_inj]
    simp [emitProxyEvent, marshalStrings]
  have isObject : parseToJsonElement (String.ofList ('{' :: marshalFields fields ++ ['}'])) =
      some (.object _) := reads fields distinct
  rw [isLine, ProxyEvents.parse_event _ _ rfl]
  simp only [ProxyEvents.parseJson, isObject]
  rw [← Json.ofStrings]
  simp

/-- The app reads a captcha event as the client means it. -/
theorem parse_captchaEvent (reads : ReadsStrings parseToJsonElement) (event : ProxyCaptchaEvent) :
    ProxyEvents.parse parseToJsonElement decodeStream (emitProxyEvent event.fields) =
      some (.captchaPrompt event.state event.url event.userAgent) := by
  have distinct : (event.fields.map Prod.fst).Nodup := by
    unfold ProxyCaptchaEvent.fields omitEmpty
    split <;> split <;> split <;> simp
  have field (key : String) : textField (.ofStrings event.fields) key =
      some ((event.fields.lookup key).getD "") := textField_ofStrings _ key
  obtain ⟨isType, isState, isUrl, isAgent⟩ := event.lookup_fields
  rw [parse_emitProxyEvent reads distinct]
  simp [field, isType, isState, isUrl, isAgent, eventOf, captchaEvent]

variable (status : RouteStatus)

/-- The app takes a text and a captcha event for the event. -/
theorem consumeLines_event (reads : ReadsStrings parseToJsonElement) {line : String}
    {rest : List Char} (isLine : line.toList = 'C' :: rest) (event : ProxyCaptchaEvent) :
    status.consumeLines parseToJsonElement decodeStream effectiveStreams
        [line, emitProxyEvent event.fields] =
      some (status.applyCaptcha event.state event.url event.userAgent) := by
  have isText : ProxyEvents.parse parseToJsonElement decodeStream line = some .raw :=
    ProxyEvents.parse_raw isLine (by decide)
  simp [RouteStatus.consumeLines, RouteStatus.consumeLine, isText, parse_captchaEvent reads event,
    RouteStatus.consume]

theorem captchaURL_chars (prompt : CaptchaPrompt) :
    ∃ rest, prompt.captchaURL.toList = 'h' :: rest ++ ['/'] := by
  obtain ⟨tail, isTail⟩ : ∃ tail, "http://127.0.0.1:".toList = 'h' :: tail := by simp
  have isSlash : "/".toList = ['/'] := by simp
  refine ⟨tail ++ (toString prompt.port).toList, ?_⟩
  unfold CaptchaPrompt.captchaURL
  simp only [String.toList_append, isTail, isSlash, List.cons_append, List.append_assoc]

theorem trimSpace_captchaURL (prompt : CaptchaPrompt) :
    trimSpace prompt.captchaURL = prompt.captchaURL := by
  obtain ⟨rest, whole⟩ := captchaURL_chars prompt
  have starts : goSpace 'h' = false := by decide
  have ends : goSpace '/' = false := by decide
  have trimmed : trimChars goSpace ('h' :: rest ++ ['/']) = 'h' :: rest ++ ['/'] := by
    apply trimChars_eq_self _ ends
    simp [starts]
  rw [trimSpace, trim, whole, trimmed, ← whole, String.ofList_toList]

theorem captchaURL_ne_empty (prompt : CaptchaPrompt) : prompt.captchaURL ≠ "" := by
  obtain ⟨rest, whole⟩ := captchaURL_chars prompt
  intro isEmpty
  rw [isEmpty] at whole
  cases whole

theorem captchaMode_eventPrefix (deferred : Bool) (userAgent : String) :
    ∃ rest, (captchaMode deferred userAgent).eventPrefix.toList = 'C' :: rest := by
  cases deferred with
  | true => simp [captchaMode]
  | false => simp [captchaMode]

theorem eventLine_chars (deferred : Bool) (userAgent : String) (port : Nat) :
    ∃ rest, (CaptchaPrompt.mk (captchaMode deferred userAgent) port).eventLine.toList =
      'C' :: rest := by
  obtain ⟨rest, isPrefix⟩ := captchaMode_eventPrefix deferred userAgent
  have given : (captchaMode deferred userAgent).eventPrefix ≠ "" := by
    intro isEmpty
    rw [isEmpty] at isPrefix
    cases isPrefix
  simp only [CaptchaPrompt.eventLine, if_neg given]
  split
  · simp only [String.toList_append, isPrefix, List.cons_append]
    exact ⟨_, rfl⟩
  · simp only [String.toList_append, isPrefix, List.cons_append]
    exact ⟨_, rfl⟩

theorem captchaMode_isDeferred (deferred : Bool) (userAgent : String) (port : Nat) :
    (CaptchaPrompt.mk (captchaMode deferred userAgent) port).isDeferred = deferred := by
  cases deferred with
  | true => simp [CaptchaPrompt.isDeferred, captchaMode]
  | false => simp [CaptchaPrompt.isDeferred, captchaMode, List.isPrefixOf]

/-- What the app makes of the lines that open a prompt. -/
theorem consumeLines_open (reads : ReadsStrings parseToJsonElement) (deferred : Bool)
    (userAgent : String) (port : Nat) :
    status.consumeLines parseToJsonElement decodeStream effectiveStreams
        (CaptchaPrompt.mk (captchaMode deferred userAgent) port).openLines =
      some (status.applyCaptcha (if deferred then "pending" else "required")
        (CaptchaPrompt.mk (captchaMode deferred userAgent) port).captchaURL
        (trimSpace userAgent)) := by
  obtain ⟨rest, isLine⟩ := eventLine_chars deferred userAgent port
  have told : (if deferred then "pending" else "required") ≠ "" := by
    cases deferred with
    | true => decide
    | false => decide
  unfold CaptchaPrompt.openLines emitCaptchaPromptEvent
  simp only [captchaMode_isDeferred, told, if_false, trimSpace_captchaURL]
  have isAgent : (captchaMode deferred userAgent).userAgent = userAgent := by
    cases deferred with
    | true => rfl
    | false => rfl
  rw [isAgent]
  exact consumeLines_event status reads isLine _

variable (decodeStream effectiveStreams) in
/-- The app forgets the prompt when it is told that the captcha is solved or cancelled. -/
theorem consumeLines_end (reads : ReadsStrings parseToJsonElement) {prompt : CaptchaPrompt}
    {ending : CaptchaEnd} {lines : List String} (isEnd : prompt.endLines ending = some lines) :
    ∃ later, status.consumeLines parseToJsonElement decodeStream effectiveStreams lines =
        some later ∧
      later.captchaUrl = if endsClear ending then none else status.captchaUrl := by
  have told {line : String} {rest : List Char} (isLine : line.toList = 'C' :: rest)
      {state : String} (nonempty : state ≠ "") :
      status.consumeLines parseToJsonElement decodeStream effectiveStreams
        (line :: emitCaptchaStateEvent state) = some (status.applyCaptcha state "" "") := by
    simp only [emitCaptchaStateEvent, nonempty, if_false]
    exact consumeLines_event status reads isLine _
  cases ending with
  | timeout =>
    simp only [CaptchaPrompt.endLines, Option.ite_none_right_eq_some, Option.some.injEq] at isEnd
    obtain ⟨_, rfl⟩ := isEnd
    obtain ⟨rest, isLine⟩ : ∃ rest, "CAPTCHA_EXPIRED".toList = 'C' :: rest := by simp
    exact ⟨_, told isLine (by decide), rfl⟩
  | received outcome =>
    simp only [CaptchaPrompt.endLines] at isEnd
    split at isEnd
    · rename_i cancelled
      obtain rfl := Option.some.inj isEnd
      obtain ⟨rest, isLine⟩ : ∃ rest, "CAPTCHA_CANCELLED".toList = 'C' :: rest := by simp
      refine ⟨_, told isLine (by decide), ?_⟩
      simp [endsClear, cancelled, RouteStatus.applyCaptcha]
    · rename_i notCancelled
      split at isEnd
      · rename_i isBlank
        obtain rfl := Option.some.inj isEnd
        exact ⟨status, rfl, by simp [endsClear, notCancelled, isBlank]⟩
      · rename_i notBlank
        obtain rfl := Option.some.inj isEnd
        obtain ⟨rest, isLine⟩ : ∃ rest, "CAPTCHA_SOLVED".toList = 'C' :: rest := by simp
        refine ⟨_, told isLine (by decide), ?_⟩
        simp [endsClear, notBlank, RouteStatus.applyCaptcha]

/-- An event of another kind leaves the prompt that is shown alone. -/
theorem consume_captchaUrl {event : ProxyEvent} (isOther : event.isCaptcha = false) :
    (status.consume effectiveStreams event).captchaUrl = status.captchaUrl := by
  cases event with
  | captchaPrompt state url userAgent => cases isOther
  | _ => rfl

end Lines

/-! ## Steps -/

section Steps

variable {parseToJsonElement : String → Option Json}
  {decodeStream : Json → Option StreamTelemetry} {effectiveStreams : Int}
  {state next : CaptchaState}

/-- A prompt fails before it is opened, or joins the outstanding ones. -/
theorem begin_cases (reads : ReadsStrings parseToJsonElement) {deferred : Bool}
    {userAgent : String} {listener : Option Nat}
    (stepped : captchaStep parseToJsonElement decodeStream effectiveStreams state
      (.begin deferred userAgent listener) = some next) :
    (next = state ∧ (deferred = false ∨ listener = none ∨ state.outstanding ≠ [])) ∨
      ∃ prompt, listener = some prompt.port ∧ next.outstanding = state.outstanding ++ [prompt] ∧
        next.status.captchaUrl =
          if deferred then state.status.captchaUrl else some prompt.captchaURL := by
  simp only [captchaStep] at stepped
  cases listener with
  | none =>
    obtain rfl := Option.some.inj stepped
    exact .inl ⟨rfl, .inr (.inl rfl)⟩
  | some port =>
    simp only [openPrompt, Option.bind_some, captchaMode_isDeferred] at stepped
    split at stepped
    · rename_i refused
      split at refused
      · rename_i pending
        obtain rfl := Option.some.inj stepped
        refine .inl ⟨rfl, .inr (.inr ?_)⟩
        intro isEmpty
        simp [isEmpty] at pending
      · cases refused
    · rename_i prompt opened
      split at opened
      · cases opened
      · obtain rfl := Option.some.inj opened
        simp only [CaptchaState.print, consumeLines_open _ reads, Option.map_some] at stepped
        obtain rfl := Option.some.inj stepped
        refine .inr ⟨_, rfl, rfl, ?_⟩
        cases deferred with
        | true => rfl
        | false => simp [RouteStatus.applyCaptcha, captchaURL_ne_empty]

theorem finish_cases (reads : ReadsStrings parseToJsonElement) {position : Nat}
    {ending : CaptchaEnd}
    (stepped : captchaStep parseToJsonElement decodeStream effectiveStreams state
      (.finish position ending) = some next) :
    position < state.outstanding.length ∧
      next.outstanding = state.outstanding.eraseIdx position ∧
      next.status.captchaUrl = if endsClear ending then none else state.status.captchaUrl := by
  simp only [captchaStep, Option.bind_eq_some_iff] at stepped
  obtain ⟨prompt, present, lines, isEnd, printed⟩ := stepped
  obtain ⟨later, consumed, isUrl⟩ :=
    consumeLines_end decodeStream effectiveStreams state.status reads isEnd
  simp only [CaptchaState.print, consumed, Option.map_some] at printed
  obtain rfl := Option.some.inj printed
  exact ⟨(List.getElem?_eq_some_iff.mp present).1, rfl, isUrl⟩

theorem other_cases {line : String}
    (stepped : captchaStep parseToJsonElement decodeStream effectiveStreams state
      (.other line) = some next) :
    next.outstanding = state.outstanding ∧ next.status.captchaUrl = state.status.captchaUrl := by
  simp only [captchaStep] at stepped
  split at stepped
  · cases stepped
  · rename_i isOther
    simp only [CaptchaState.print, RouteStatus.consumeLines, List.foldlM_cons, List.foldlM_nil,
      RouteStatus.consumeLine] at stepped
    cases isEvent : ProxyEvents.parse parseToJsonElement decodeStream line with
    | none => simp [isEvent] at stepped
    | some event =>
      simp only [isEvent, Option.any_some, Bool.not_eq_true] at isOther
      simp only [isEvent, Option.map_some, Option.bind_eq_bind, Option.bind_some, Option.pure_def]
        at stepped
      obtain rfl := Option.some.inj stepped
      exact ⟨rfl, consume_captchaUrl state.status isOther⟩

/-- A step from a state in which the app shows what is outstanding keeps it so exactly when the
    prompt is told. -/
theorem showsPrompt_iff (reads : ReadsStrings parseToJsonElement) {label : CaptchaLabel}
    (shows : ShowsPrompt state)
    (stepped : captchaStep parseToJsonElement decodeStream effectiveStreams state label =
      some next) : ShowsPrompt next ↔ TellsPrompt state label := by
  cases label with
  | begin deferred userAgent listener =>
    obtain ⟨rfl, refused⟩ | ⟨prompt, isListener, outstanding, isUrl⟩ := begin_cases reads stepped
    · exact iff_of_true shows refused
    · have isOpen : next.outstanding ≠ [] := by simp [outstanding]
      cases deferred with
      | false =>
        have isUrl : next.status.captchaUrl = some prompt.captchaURL := isUrl
        refine iff_of_true ⟨by simp [isUrl, isOpen], ?_⟩ (.inl rfl)
        intro url isShown
        obtain rfl : prompt.captchaURL = url := by simpa [isUrl] using isShown
        exact ⟨prompt, by simp [outstanding], rfl⟩
      | true =>
        -- a deferred prompt leaves what is shown alone
        have isUrl : next.status.captchaUrl = state.status.captchaUrl := isUrl
        constructor
        · intro shown
          refine .inr (.inr fun isEmpty => isOpen (shown.shown.mp ?_))
          exact isUrl.trans (shows.shown.mpr isEmpty)
        · rintro (notDeferred | noListener | isOutstanding)
          · cases notDeferred
          · cases noListener.symm.trans isListener
          · refine ⟨by simp [isUrl, shows.shown, isOutstanding, isOpen], fun url isShown => ?_⟩
            obtain ⟨other, isOther, same⟩ := shows.url url (isUrl.symm.trans isShown)
            exact ⟨other, by simp [outstanding, isOther], same⟩
  | finish position ending =>
    obtain ⟨present, outstanding, isUrl⟩ := finish_cases reads stepped
    have wasOutstanding : state.outstanding ≠ [] := List.ne_nil_of_length_pos (by omega)
    simp only [TellsPrompt]
    split
    · rename_i clears
      have isUrl : next.status.captchaUrl = none := by simpa [clears] using isUrl
      rw [← outstanding]
      exact ⟨fun shown => shown.shown.mp isUrl,
        fun isEmpty => ⟨by simp [isUrl, isEmpty], by simp [isUrl]⟩⟩
    · rename_i notClear
      have isUrl : next.status.captchaUrl = state.status.captchaUrl := by
        simpa [notClear] using isUrl
      obtain ⟨url, wasShown⟩ := Option.ne_none_iff_exists'.mp
        (fun hidden => wasOutstanding (shows.shown.mp hidden))
      rw [← outstanding, wasShown]
      constructor
      · intro shown
        obtain ⟨other, isOther, same⟩ := shown.url url (isUrl.trans wasShown)
        exact ⟨other, isOther, by rw [same]⟩
      · rintro ⟨other, isOther, same⟩
        have isOpen : next.outstanding ≠ [] := List.ne_nil_of_mem isOther
        refine ⟨by simp [isUrl, wasShown, isOpen], fun shownUrl isShown => ⟨other, isOther, ?_⟩⟩
        rw [isUrl, wasShown, same] at isShown
        exact Option.some.inj isShown
  | other line =>
    obtain ⟨outstanding, isUrl⟩ := other_cases stepped
    refine iff_of_true ⟨by rw [isUrl, outstanding, shows.shown], fun url isShown => ?_⟩ trivial
    obtain ⟨other, isOther, same⟩ := shows.url url (isUrl.symm.trans isShown)
    exact ⟨other, outstanding ▸ isOther, same⟩

theorem initial_showsPrompt (initial : state.Initial) : ShowsPrompt state :=
  ⟨by simp [initial.1, initial.2], by simp [initial.2]⟩

end Steps

/-- The app shows the outstanding prompt in every run in which each prompt is told, and a step that
    is not told ends that. -/
theorem captcha_prompts_shown {parseToJsonElement : String → Option Json}
    (reads : ReadsStrings parseToJsonElement) (decodeStream : Json → Option StreamTelemetry)
    (effectiveStreams : Int) (state : CaptchaState)
    (reached : (captchaPrompts parseToJsonElement decodeStream effectiveStreams).ReachableWhile
      TellsPrompt CaptchaState.Initial state) :
    ShowsPrompt state ∧ ∀ label next,
      (captchaPrompts parseToJsonElement decodeStream effectiveStreams).step state label =
        some next → (ShowsPrompt next ↔ TellsPrompt state label) := by
  have shows : ShowsPrompt state := by
    apply reached.invariant
    · exact fun state => initial_showsPrompt
    · exact fun state next label shows told stepped =>
        (showsPrompt_iff reads shows stepped).mpr told
  exact ⟨shows, fun label next => showsPrompt_iff reads shows⟩

/-! ## A deferred prompt -/

def idleRoute : CaptchaState := { status := { routeId := "r", routeLabel := "vk" } }

/-- The route after its first prompt is opened. -/
def afterPrompt (deferred : Bool) : CaptchaState :=
  let prompt : CaptchaPrompt := ⟨captchaMode deferred "Mozilla", 40000⟩
  let state := if deferred then "pending" else "required"
  ⟨[prompt], idleRoute.status.applyCaptcha state prompt.captchaURL (trimSpace "Mozilla")⟩

theorem begin_afterPrompt (deferred : Bool) :
    (captchaPrompts readStrings (fun _ => none) 1).step idleRoute
      (.begin deferred "Mozilla" (some 40000)) = some (afterPrompt deferred) := by
  simp [captchaPrompts, captchaStep, openPrompt, idleRoute, captchaMode_isDeferred,
    CaptchaState.print, consumeLines_open _ readStrings_reads, afterPrompt]

theorem captcha_prompts_shown_required :
    ShowsPrompt (afterPrompt false) ∧ ∀ label next,
      (captchaPrompts readStrings (fun _ => none) 1).step (afterPrompt false) label = some next →
        (ShowsPrompt next ↔ TellsPrompt (afterPrompt false) label) :=
  captcha_prompts_shown readStrings_reads (fun _ => none) 1 _
    (.step (.start ⟨rfl, rfl⟩)
      (show TellsPrompt idleRoute (.begin false "Mozilla" (some 40000)) from .inl rfl)
      (begin_afterPrompt false))

/-- The app does not know the word for a deferred prompt. -/
theorem deferred_prompt_not_shown :
    ¬ ∀ (parseToJsonElement : String → Option Json) (decodeStream : Json → Option StreamTelemetry)
      (effectiveStreams : Int), ReadsStrings parseToJsonElement → ∀ state,
      (captchaPrompts parseToJsonElement decodeStream effectiveStreams).Reachable
        CaptchaState.Initial state → ShowsPrompt state := by
  intro claimed
  have reached : (captchaPrompts readStrings (fun _ => none) 1).Reachable CaptchaState.Initial
      (afterPrompt true) :=
    .step (.start ⟨rfl, rfl⟩) trivial (begin_afterPrompt true)
  have shown := claimed readStrings (fun _ => none) 1 readStrings_reads _ reached
  have hidden : (afterPrompt true).status.captchaUrl = none := rfl
  exact absurd (shown.shown.mp hidden) (List.cons_ne_nil _ _)

end VkTurn.Frontend
