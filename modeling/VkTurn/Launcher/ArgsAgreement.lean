import VkTurn.Client.Options
import VkTurn.Launcher.ProxyArgs

/-! # Agreement of the launcher with the client

What the Go client makes of the launcher's arguments.  The client knows every flag that
`ProxyArgs.build` may add except `-debug`.
-/

namespace VkTurn.Launcher

open VkTurn.Flags VkTurn.Client VkTurn.Text

/-! ## Parsing the parts of the vector -/

section Parts

variable {Options : Type} {flags : List (Flag Options)} {argument name : String}
  {rest : List String} {options : Options}

/-- A value flag that may be missing stores its value or what was there before. -/
theorem parse_valueArg {store : String → Options → Options} {current : String}
    (isFlag : readArgument argument = .flag name none)
    (found : flags.find? (·.name == name) = some (stringVar name store))
    (same : store current options = options) (present : Bool) (value : String) :
    parse flags (valueArg present argument value ++ rest) options =
      parse flags rest (store (if present then value else current) options) := by
  cases present with
  | true => exact parse_value isFlag found rfl rfl
  | false =>
    simp only [valueArg, Bool.false_eq_true, if_false, List.nil_append]
    rw [same]

theorem parse_switchArg {store : Bool → Options → Options}
    (isFlag : readArgument argument = .flag name none)
    (found : flags.find? (·.name == name) = some (boolVar name store))
    (same : store false options = options) (present : Bool) :
    parse flags (switchArg present argument ++ rest) options =
      parse flags rest (store present options) := by
  cases present with
  | true => exact parse_switch isFlag found rfl rfl
  | false =>
    simp only [switchArg, Bool.false_eq_true, if_false, List.nil_append]
    rw [same]

theorem toString_positive {count : Int32} (positive : 0 < count) :
    parseInt (toString count.toInt) = .ok count.toInt := by
  have bound := count.toInt_lt
  have low : 0 < count.toInt := Int32.lt_iff_toInt_lt.mp positive
  obtain ⟨number, isNumber⟩ := Int.eq_ofNat_of_zero_le (Int.le_of_lt low)
  rw [isNumber] at low bound ⊢
  exact @parseInt_repr number (by omega) (by omega)

theorem parse_countArg {store : Int → Options → Options} {current : Int}
    (isFlag : readArgument argument = .flag name none)
    (found : flags.find? (·.name == name) = some (intVar name store))
    (same : store current options = options) (count : Int32) :
    parse flags (countArg argument count ++ rest) options =
      parse flags rest (store (if 0 < count then count.toInt else current) options) := by
  by_cases positive : 0 < count
  · simp only [countArg, valueArg, positive, decide_true, if_true, List.cons_append,
      List.nil_append]
    apply parse_value isFlag found rfl
    simp only [intVar, toString_positive positive, Except.map]
  · simp only [countArg, valueArg, positive, decide_false, Bool.false_eq_true, if_false,
      List.nil_append]
    rw [same]

end Parts

/-! ## The whole vector -/

/-- The options after the arguments up to `-no-dtls`. -/
def openingOptions (server : Server) (route : VkTurnProxy) : ClientOptions :=
  let isVk := route.linkKind = .vk
  { host := if isNotBlank route.overrideTurnHost then kotlinTrim route.overrideTurnHost else ""
    port := if isNotBlank route.overrideTurnPort then kotlinTrim route.overrideTurnPort else ""
    listen := hostPort route.listenHost route.listenPort
    vklink := if isVk ∧ route.cleanLinks ≠ [] then join ',' route.cleanLinks else ""
    vklinkSecondary :=
      if isVk ∧ isNotBlank route.secondaryLink then kotlinTrim route.secondaryLink else ""
    yalink := if ¬ isVk ∧ route.firstLink ≠ "" then route.firstLink else ""
    peerAddr := hostPort server.host server.proxyPort
    n := if 0 < route.streams then route.streams.toInt else 0
    transport := route.transport.flag
    udp := route.turnTransport = .udp
    direct := route.directNoDtls
    tcpFlavor := if route.transport = .tcp then route.tcpFlavor.flag else "auto" }

/-- The options after all arguments. -/
def parsedOptions (server : Server) (route : VkTurnProxy) (protectSocketPath : Option String) :
    ClientOptions :=
  let hasRoom := route.wbStream.enabled && isNotBlank route.wbStream.roomId
  { openingOptions server route with
    manualCaptcha := route.captchaMode = .manualOnly
    captchaSolver := route.captchaSolver.flag
    credsGroupSize := if 0 < route.credsGroupSize then route.credsGroupSize.toInt else 12
    protectSock := if protectSocketPath.any isNotBlank then protectSocketPath.getD "" else ""
    sessionMode := route.sessionMode.flag
    sessionID := if isNotBlank route.sessionId then kotlinTrim route.sessionId else ""
    adaptivePoolMin := if 0 < route.adaptivePoolMin then route.adaptivePoolMin.toInt else 1
    adaptivePoolMax := if 0 < route.adaptivePoolMax then route.adaptivePoolMax.toInt else 0
    adaptivePoolStreamsPerIdentity :=
      if 0 < route.adaptivePoolStreamsPerIdentity then
        route.adaptivePoolStreamsPerIdentity.toInt
      else 1
    wbStreamRoomID := if hasRoom then kotlinTrim route.wbStream.roomId else ""
    wbStreamDisplayName :=
      if hasRoom ∧ isNotBlank route.wbStream.displayName then
        kotlinTrim route.wbStream.displayName
      else "vk-turn-proxy-client"
    wbStreamE2ESecret :=
      if hasRoom ∧ isNotBlank route.wbStream.e2eSecretB64 then
        kotlinTrim route.wbStream.e2eSecretB64
      else "" }

theorem parse_linkArgs (route : VkTurnProxy) (rest : List String) (options : ClientOptions)
    (fresh : options.vklink = "" ∧ options.vklinkSecondary = "" ∧ options.yalink = "") :
    parse clientFlags (linkArgs route ++ rest) options =
      parse clientFlags rest { options with
        vklink :=
          if route.linkKind = .vk ∧ route.cleanLinks ≠ [] then join ',' route.cleanLinks else ""
        vklinkSecondary :=
          if route.linkKind = .vk ∧ isNotBlank route.secondaryLink then
            kotlinTrim route.secondaryLink
          else ""
        yalink :=
          if ¬ route.linkKind = .vk ∧ route.firstLink ≠ "" then route.firstLink else "" } := by
  obtain ⟨noVk, noSecondary, noYandex⟩ := fresh
  cases kind : route.linkKind with
  | vk =>
    rw [linkArgs, kind]
    simp only [List.append_assoc]
    rw [parse_valueArg rfl rfl rfl, parse_valueArg rfl rfl rfl]
    simp [noVk, noSecondary, noYandex]
  | yandex =>
    rw [linkArgs, kind]
    simp only
    rw [parse_valueArg rfl rfl rfl]
    simp [noVk, noSecondary, noYandex]

theorem parse_wbStreamArgs (wbStream : WbStream) (rest : List String) (options : ClientOptions)
    (fresh : options.wbStreamRoomID = "" ∧
      options.wbStreamDisplayName = "vk-turn-proxy-client" ∧ options.wbStreamE2ESecret = "") :
    parse clientFlags (wbStreamArgs wbStream ++ rest) options =
      parse clientFlags rest { options with
        wbStreamRoomID :=
          if wbStream.enabled && isNotBlank wbStream.roomId then kotlinTrim wbStream.roomId else ""
        wbStreamDisplayName :=
          if (wbStream.enabled && isNotBlank wbStream.roomId) ∧ isNotBlank wbStream.displayName then
            kotlinTrim wbStream.displayName
          else "vk-turn-proxy-client"
        wbStreamE2ESecret :=
          if (wbStream.enabled && isNotBlank wbStream.roomId) ∧
              isNotBlank wbStream.e2eSecretB64 then
            kotlinTrim wbStream.e2eSecretB64
          else "" } := by
  obtain ⟨noRoom, noName, noSecret⟩ := fresh
  cases hasRoom : wbStream.enabled && isNotBlank wbStream.roomId with
  | true =>
    rw [wbStreamArgs, hasRoom]
    simp only [if_true, List.append_assoc, List.cons_append, List.nil_append]
    rw [parse_value rfl rfl rfl rfl, parse_valueArg rfl rfl rfl, parse_valueArg rfl rfl rfl]
    simp [noName, noSecret]
  | false =>
    rw [wbStreamArgs, hasRoom]
    simp only [Bool.false_eq_true, if_false, false_and, List.nil_append]
    congr 1
    cases options
    simp_all

/-! ### The client's flags, one by one -/

section ClientFlags

variable (rest : List String) (options : ClientOptions) (present : Bool) (value : String)
  (count : Int32)

theorem parse_listen :
    parse clientFlags (["-listen", value] ++ rest) options =
      parse clientFlags rest { options with listen := value } :=
  parse_value rfl rfl rfl rfl

theorem parse_peer :
    parse clientFlags (["-peer", value] ++ rest) options =
      parse clientFlags rest { options with peerAddr := value } :=
  parse_value rfl rfl rfl rfl

theorem parse_turn :
    parse clientFlags (valueArg present "-turn" value ++ rest) options =
      parse clientFlags rest
        { options with host := if present then value else options.host } := by
  rw [parse_valueArg rfl rfl rfl]

theorem parse_port :
    parse clientFlags (valueArg present "-port" value ++ rest) options =
      parse clientFlags rest
        { options with port := if present then value else options.port } := by
  rw [parse_valueArg rfl rfl rfl]

theorem parse_n :
    parse clientFlags (countArg "-n" count ++ rest) options =
      parse clientFlags rest
        { options with n := if 0 < count then count.toInt else options.n } := by
  rw [parse_countArg rfl rfl rfl]

theorem parse_transport :
    parse clientFlags (["-transport", value] ++ rest) options =
      parse clientFlags rest { options with transport := value } :=
  parse_value rfl rfl rfl rfl

theorem parse_tcpFlavor :
    parse clientFlags (valueArg present "-tcp-flavor" value ++ rest) options =
      parse clientFlags rest
        { options with tcpFlavor := if present then value else options.tcpFlavor } := by
  rw [parse_valueArg rfl rfl rfl]

theorem parse_udp (isOff : options.udp = false) :
    parse clientFlags (switchArg present "-udp" ++ rest) options =
      parse clientFlags rest { options with udp := present } := by
  rw [parse_switchArg rfl rfl (by rw [← isOff])]

theorem parse_noDtls (isOff : options.direct = false) :
    parse clientFlags (switchArg present "-no-dtls" ++ rest) options =
      parse clientFlags rest { options with direct := present } := by
  rw [parse_switchArg rfl rfl (by rw [← isOff])]

theorem parse_manualCaptcha (isOff : options.manualCaptcha = false) :
    parse clientFlags (switchArg present "-manual-captcha" ++ rest) options =
      parse clientFlags rest { options with manualCaptcha := present } := by
  rw [parse_switchArg rfl rfl (by rw [← isOff])]

theorem parse_captchaSolver :
    parse clientFlags (["-captcha-solver", value] ++ rest) options =
      parse clientFlags rest { options with captchaSolver := value } :=
  parse_value rfl rfl rfl rfl

theorem parse_sessionMode :
    parse clientFlags (["-session-mode", value] ++ rest) options =
      parse clientFlags rest { options with sessionMode := value } :=
  parse_value rfl rfl rfl rfl

theorem parse_sessionID :
    parse clientFlags (valueArg present "-session-id" value ++ rest) options =
      parse clientFlags rest
        { options with sessionID := if present then value else options.sessionID } := by
  rw [parse_valueArg rfl rfl rfl]

theorem parse_credsGroupSize :
    parse clientFlags (countArg "-creds-group-size" count ++ rest) options =
      parse clientFlags rest
        { options with
          credsGroupSize := if 0 < count then count.toInt else options.credsGroupSize } := by
  rw [parse_countArg rfl rfl rfl]

theorem parse_adaptivePoolMin :
    parse clientFlags (countArg "-adaptive-pool-min" count ++ rest) options =
      parse clientFlags rest
        { options with
          adaptivePoolMin := if 0 < count then count.toInt else options.adaptivePoolMin } := by
  rw [parse_countArg rfl rfl rfl]

theorem parse_adaptivePoolMax :
    parse clientFlags (countArg "-adaptive-pool-max" count ++ rest) options =
      parse clientFlags rest
        { options with
          adaptivePoolMax := if 0 < count then count.toInt else options.adaptivePoolMax } := by
  rw [parse_countArg rfl rfl rfl]

theorem parse_adaptivePoolStreams :
    parse clientFlags (countArg "-adaptive-pool-streams-per-id" count ++ rest) options =
      parse clientFlags rest
        { options with
          adaptivePoolStreamsPerIdentity :=
            if 0 < count then count.toInt else options.adaptivePoolStreamsPerIdentity } := by
  rw [parse_countArg rfl rfl rfl]

theorem parse_protectSock :
    parse clientFlags (valueArg present "-protect-sock" value ++ rest) options =
      parse clientFlags rest
        { options with protectSock := if present then value else options.protectSock } := by
  rw [parse_valueArg rfl rfl rfl]

end ClientFlags

/-! ### Before and after the undefined flag -/

/-- The arguments before `-debug`. -/
def openingArgs (server : Server) (route : VkTurnProxy) : List (List String) := [
  ["-listen", hostPort route.listenHost route.listenPort],
  ["-peer", hostPort server.host server.proxyPort],
  linkArgs route,
  valueArg (isNotBlank route.overrideTurnHost) "-turn" (kotlinTrim route.overrideTurnHost),
  valueArg (isNotBlank route.overrideTurnPort) "-port" (kotlinTrim route.overrideTurnPort),
  countArg "-n" route.streams,
  ["-transport", route.transport.flag],
  valueArg (route.transport = .tcp) "-tcp-flavor" route.tcpFlavor.flag,
  switchArg (route.turnTransport = .udp) "-udp",
  switchArg route.directNoDtls "-no-dtls"]

/-- The arguments after `-debug`. -/
def closingArgs (route : VkTurnProxy) (protectSocketPath : Option String) :
    List (List String) := [
  switchArg (route.captchaMode = .manualOnly) "-manual-captcha",
  ["-captcha-solver", route.captchaSolver.flag],
  ["-session-mode", route.sessionMode.flag],
  valueArg (isNotBlank route.sessionId) "-session-id" (kotlinTrim route.sessionId),
  countArg "-creds-group-size" route.credsGroupSize,
  countArg "-adaptive-pool-min" route.adaptivePoolMin,
  countArg "-adaptive-pool-max" route.adaptivePoolMax,
  countArg "-adaptive-pool-streams-per-id" route.adaptivePoolStreamsPerIdentity,
  wbStreamArgs route.wbStream,
  valueArg (protectSocketPath.any isNotBlank) "-protect-sock" (protectSocketPath.getD "")]

section WholeVector

variable (server : Server) (route : VkTurnProxy) (protectSocketPath : Option String)

theorem build_split :
    build server route protectSocketPath =
      (openingArgs server route).flatten ++ (switchArg route.debug "-debug" ++
        (closingArgs route protectSocketPath).flatten) :=
  @List.flatten_append _ (openingArgs server route)
    (switchArg route.debug "-debug" :: closingArgs route protectSocketPath)

theorem parse_openingArgs (rest : List String) :
    parse clientFlags ((openingArgs server route).flatten ++ rest) {} =
      parse clientFlags rest (openingOptions server route) := by
  -- The record of options is reduced after each part, or it grows with every update.
  simp only [openingArgs, List.flatten_cons, List.flatten_nil, List.append_assoc]
  rw [parse_listen]
  rw [parse_peer]; dsimp only
  rw [parse_linkArgs _ _ _ ⟨rfl, rfl, rfl⟩]; dsimp only
  rw [parse_turn]; dsimp only
  rw [parse_port]; dsimp only
  rw [parse_n]; dsimp only
  rw [parse_transport]; dsimp only
  rw [parse_tcpFlavor]; dsimp only
  rw [parse_udp _ _ _ rfl]; dsimp only
  rw [parse_noDtls _ _ _ rfl]
  simp only [List.nil_append, openingOptions, decide_eq_true_eq]

theorem parse_closingArgs :
    parse clientFlags (closingArgs route protectSocketPath).flatten
        (openingOptions server route) =
      .ok (parsedOptions server route protectSocketPath) := by
  simp only [closingArgs, List.flatten_cons, List.flatten_nil, openingOptions]
  rw [parse_manualCaptcha _ _ _ rfl]; dsimp only
  rw [parse_captchaSolver]; dsimp only
  rw [parse_sessionMode]; dsimp only
  rw [parse_sessionID]; dsimp only
  rw [parse_credsGroupSize]; dsimp only
  rw [parse_adaptivePoolMin]; dsimp only
  rw [parse_adaptivePoolMax]; dsimp only
  rw [parse_adaptivePoolStreams]; dsimp only
  rw [parse_wbStreamArgs _ _ _ ⟨rfl, rfl, rfl⟩]; dsimp only
  rw [parse_protectSock]
  rfl

/-- The flag parser reads the whole vector unless it holds `-debug`, which the client lacks. -/
theorem parse_build :
    parse clientFlags (build server route protectSocketPath) {} =
      if route.debug then .error (.failed ("flag provided but not defined: -" ++ "debug"))
      else .ok (parsedOptions server route protectSocketPath) := by
  rw [build_split, parse_openingArgs]
  cases route.debug with
  | true =>
    have isFlag : readArgument "-debug" = .flag "debug" none := rfl
    have notFound : clientFlags.find? (·.name == "debug") = none := rfl
    rw [switchArg, if_pos rfl, if_pos rfl, List.cons_append, List.nil_append]
    exact parse_undefined isFlag notFound (by decide)
  | false =>
    rw [switchArg, if_neg (by decide), if_neg (by decide), List.nil_append]
    exact parse_closingArgs server route protectSocketPath

end WholeVector

/-! ## Agreement -/

/-- The links a route stands for, as the client would use them: all VK links in order, or the one
    Yandex link. -/
def VkTurnProxy.carriedLinks (route : VkTurnProxy) : List String :=
  match route.linkKind with
  | .vk => (route.cleanLinks.map trimSpace).filter (· ≠ "")
  | .yandex => [trimSpace route.firstLink].filter (· ≠ "")

/-- A count of the route, or the client's default for a count that is not set. -/
def countOr (default : Int) (count : Int32) : Int :=
  if 0 < count then count.toInt else default

/-- The options of the client hold the fields of the server and the route. -/
structure Carries (server : Server) (route : VkTurnProxy) (opts : ClientOptions) : Prop where
  listen : opts.listen = hostPort route.listenHost route.listenPort
  peer : opts.peerAddr = trimSpace (hostPort server.host server.proxyPort)
  links : opts.links = route.carriedLinks
  secondary : route.linkKind = .vk →
    opts.vklinkSecondary = trimSpace (kotlinTrim route.secondaryLink)
  threads : opts.n = countOr 0 route.streams
  transport : opts.transport = route.transport.flag
  tcpFlavor : route.transport = .tcp → opts.tcpFlavor = route.tcpFlavor.flag
  sessionMode : opts.sessionMode = route.sessionMode.flag
  sessionID : opts.sessionID = kotlinTrim route.sessionId
  credsGroupSize : opts.credsGroupSize = countOr 12 route.credsGroupSize
  adaptivePoolMin : opts.adaptivePoolMin = countOr 1 route.adaptivePoolMin
  adaptivePoolMax : opts.adaptivePoolMax = countOr 0 route.adaptivePoolMax
  adaptivePoolStreams : opts.adaptivePoolStreamsPerIdentity =
    countOr 1 route.adaptivePoolStreamsPerIdentity
  wbRoom : route.wbStream.enabled = true →
    opts.wbStreamRoomID = trimSpace (kotlinTrim route.wbStream.roomId)
  noWbRoom : route.wbStream.enabled = false → opts.wbStreamRoomID = ""
  wbDisplayName : opts.wbStreamRoomID ≠ "" → isNotBlank route.wbStream.displayName = true →
    opts.wbStreamDisplayName = trimSpace (kotlinTrim route.wbStream.displayName)
  wbSecret : opts.wbStreamRoomID ≠ "" →
    opts.wbStreamE2ESecret = trimSpace (kotlinTrim route.wbStream.e2eSecretB64)

/-- No link of the route reads as two in the client's comma-separated list. -/
def VkTurnProxy.SeparableLinks (route : VkTurnProxy) : Prop :=
  route.linkKind = .vk → ∀ link ∈ route.cleanLinks, ',' ∉ link.toList

/-- The text in which the client looks for links. -/
def VkTurnProxy.linkText (route : VkTurnProxy) : String :=
  match route.linkKind with
  | .vk => trimSpace (join ',' route.cleanLinks)
  | .yandex => trimSpace route.firstLink

/-- The client is told what to connect to. -/
def VkTurnProxy.HasTarget (route : VkTurnProxy) : Prop :=
  route.wbStream.enabled = true ∧ trimSpace (kotlinTrim route.wbStream.roomId) ≠ "" ∨
    route.linkText ≠ ""

theorem trim_empty (blank : Char → Bool) : trim blank "" = "" :=
  trim_eq_empty.mpr (by simp)

theorem hostPort_present (host : String) (port : Int32) :
    trimSpace (hostPort host port) ≠ "" := by
  intro empty
  have colon : goSpace ':' = true :=
    trim_eq_empty.mp empty ':' (by simp [hostPort])
  exact absurd colon (by decide)

section Normalized

variable (server : Server) (route : VkTurnProxy) (protectSocketPath : Option String)

/-- The options the client would run with. -/
def normalizedOptions : ClientOptions :=
  normalizeClientOptions (parsedOptions server route protectSocketPath)

theorem normalized_vklink :
    (normalizedOptions server route protectSocketPath).vklink =
      if route.linkKind = .vk then route.linkText else "" := by
  show trimSpace (if route.linkKind = .vk ∧ route.cleanLinks ≠ [] then _ else _) = _
  cases kind : route.linkKind with
  | vk =>
    by_cases noLinks : route.cleanLinks = []
    · simp [VkTurnProxy.linkText, kind, noLinks, join, joinChars]
    · simp [VkTurnProxy.linkText, kind, noLinks]
  | yandex => simp [trimSpace, trim_empty]

theorem normalized_yalink :
    (normalizedOptions server route protectSocketPath).yalink =
      if route.linkKind = .vk then "" else route.linkText := by
  show trimSpace (if ¬ route.linkKind = .vk ∧ route.firstLink ≠ "" then _ else _) = _
  cases kind : route.linkKind with
  | vk => simp [trimSpace, trim_empty]
  | yandex =>
    by_cases noLink : route.firstLink = ""
    · simp [VkTurnProxy.linkText, kind, noLink]
    · simp [VkTurnProxy.linkText, kind, noLink]

theorem normalized_room :
    (normalizedOptions server route protectSocketPath).wbStreamRoomID =
      if route.wbStream.enabled then trimSpace (kotlinTrim route.wbStream.roomId) else "" := by
  show trimSpace (if route.wbStream.enabled && isNotBlank route.wbStream.roomId then _ else _) = _
  cases route.wbStream.enabled with
  | false => simp [trimSpace, trim_empty]
  | true =>
    by_cases blank : kotlinTrim route.wbStream.roomId = ""
    · simp [isNotBlank, blank]
    · simp [isNotBlank, blank]

/-- The client runs if and only if it knows what to connect to. -/
theorem validate_parsed :
    (route.HasTarget ∧ validateClientOptions (parsedOptions server route protectSocketPath) =
        .ok (normalizedOptions server route protectSocketPath)) ∨
      ¬ route.HasTarget ∧ ∃ message,
        validateClientOptions (parsedOptions server route protectSocketPath) = .error message := by
  have peer : (normalizedOptions server route protectSocketPath).peerAddr ≠ "" :=
    hostPort_present server.host server.proxyPort
  have vklink := normalized_vklink server route protectSocketPath
  have yalink := normalized_yalink server route protectSocketPath
  have room := normalized_room server route protectSocketPath
  have oneLink : ([(normalizedOptions server route protectSocketPath).vklink,
      (normalizedOptions server route protectSocketPath).yalink].filter (· ≠ "")).length ≠ 1 ↔
      route.linkText = "" := by
    rw [vklink, yalink]
    by_cases isVk : route.linkKind = .vk
    · by_cases noText : route.linkText = "" <;> simp [isVk, noText]
    · by_cases noText : route.linkText = "" <;> simp [isVk, noText]
  have noExchange : (normalizedOptions server route protectSocketPath).roomExchangeMode = false :=
    rfl
  have folded : normalizeClientOptions (parsedOptions server route protectSocketPath) =
      normalizedOptions server route protectSocketPath := rfl
  rw [validateClientOptions]
  simp only [folded, noExchange, Bool.false_eq_true, if_false, if_neg peer, oneLink,
    VkTurnProxy.HasTarget, room]
  cases route.wbStream.enabled with
  | false =>
    by_cases noText : route.linkText = ""
    · exact .inr ⟨by simp [noText], _, by rw [if_neg (by simp), if_pos noText]⟩
    · exact .inl ⟨by simp [noText], by simp [noText]⟩
  | true =>
    by_cases hasRoom : trimSpace (kotlinTrim route.wbStream.roomId) = ""
    · by_cases noText : route.linkText = ""
      · exact .inr ⟨by simp [noText, hasRoom], _, by simp only [hasRoom, noText]; rfl⟩
      · exact .inl ⟨by simp [noText], by simp [noText, hasRoom]⟩
    · exact .inl ⟨by simp [hasRoom], by simp [hasRoom]⟩

theorem normalized_links :
    (normalizedOptions server route protectSocketPath).links =
      match route.linkKind with
      | .vk => entries goSpace ',' (join ',' route.cleanLinks)
      | .yandex => route.carriedLinks := by
  rw [ClientOptions.links, normalized_vklink, normalized_yalink]
  cases kind : route.linkKind with
  | yandex => simp [VkTurnProxy.carriedLinks, VkTurnProxy.linkText, kind]
  | vk =>
    have trimmed := @entries_trim goSpace ',' (by decide) (join ',' route.cleanLinks)
    have isText : route.linkText = trim goSpace (join ',' route.cleanLinks) := by
      rw [VkTurnProxy.linkText, kind]
      rfl
    simp only [if_true, isText]
    rw [← trimmed]
    split
    · rfl
    · rename_i empty
      rw [not_not.mp empty]
      simp [entries, splitOn, trim_empty]

/-- The client reads back the links of the route if and only if none of them holds a comma. -/
theorem links_carried_iff :
    (normalizedOptions server route protectSocketPath).links = route.carriedLinks ↔
      route.SeparableLinks := by
  rw [normalized_links, VkTurnProxy.SeparableLinks]
  cases kind : route.linkKind with
  | yandex => simp
  | vk =>
    have carried : route.carriedLinks =
        (route.cleanLinks.map (trim goSpace)).filter (· ≠ "") := by
      rw [VkTurnProxy.carriedLinks, kind]
      rfl
    rw [carried]
    show entries goSpace ',' (join ',' route.cleanLinks) = _ ↔ _
    constructor
    · intro same _ link isLink comma
      -- A comma survives trimming, but no entry of the client's list can hold one.
      have survives : ',' ∈ (trim goSpace link).toList := by
        rw [trim, String.toList_ofList]
        exact (mem_trimChars (by decide)).mpr comma
      have notEmpty : trim goSpace link ≠ "" := by
        intro empty
        rw [empty] at survives
        cases survives
      have isEntry : trim goSpace link ∈ entries goSpace ',' (join ',' route.cleanLinks) := by
        rw [same]
        exact List.mem_filter.mpr ⟨List.mem_map_of_mem isLink, by simp [notEmpty]⟩
      exact entries_free isEntry survives
    · intro separable
      exact entries_join _ (separable rfl)

theorem kotlinTrim_of_notBlank (text : String) :
    (if isNotBlank text then kotlinTrim text else "") = kotlinTrim text := by
  by_cases blank : kotlinTrim text = ""
  · rw [blank, ite_self]
  · rw [isNotBlank, if_pos (decide_eq_true blank)]

/-- The checks after parsing leave the launcher's spellings alone. -/
theorem flavor_kept (flavor : TcpFlavor) :
    (let tcpFlavor := lowerTrimmed flavor.flag
      if tcpFlavor ≠ "direct" ∧ tcpFlavor ≠ "legacy" then "auto" else tcpFlavor) = flavor.flag := by
  cases flavor <;> decide

theorem groupSize_kept (count : Int32) :
    (if countOr 12 count < 1 then 1 else countOr 12 count) = countOr 12 count := by
  rw [if_neg]
  rw [countOr]
  split
  · rename_i positive
    have : 0 < count.toInt := Int32.lt_iff_toInt_lt.mp positive
    omega
  · omega

/-- Every field but the links is carried in any case. -/
theorem carries_iff :
    Carries server route (normalizedOptions server route protectSocketPath) ↔
      route.SeparableLinks := by
  rw [← links_carried_iff server route protectSocketPath]
  refine ⟨Carries.links, fun links => ?_⟩
  have room := normalized_room server route protectSocketPath
  have roomPresent : (normalizedOptions server route protectSocketPath).wbStreamRoomID ≠ "" →
      (route.wbStream.enabled && isNotBlank route.wbStream.roomId) = true := by
    intro hasRoom
    rw [room] at hasRoom
    cases enabled : route.wbStream.enabled with
    | false => simp [enabled] at hasRoom
    | true =>
      by_cases blank : kotlinTrim route.wbStream.roomId = ""
      · simp [enabled, blank, trimSpace, trim_empty] at hasRoom
      · simp [isNotBlank, blank]
  exact {
    listen := rfl
    peer := rfl
    links := links
    secondary := by
      intro isVk
      simp only [normalizedOptions, normalizeClientOptions, parsedOptions, openingOptions, isVk,
        true_and, kotlinTrim_of_notBlank]
    threads := rfl
    transport := rfl
    tcpFlavor := by
      intro isTcp
      simp only [normalizedOptions, normalizeClientOptions, parsedOptions, openingOptions, isTcp,
        if_true]
      exact flavor_kept route.tcpFlavor
    sessionMode := rfl
    sessionID := by
      simp only [normalizedOptions, normalizeClientOptions, parsedOptions, kotlinTrim_of_notBlank]
    credsGroupSize := groupSize_kept route.credsGroupSize
    adaptivePoolMin := rfl
    adaptivePoolMax := rfl
    adaptivePoolStreams := rfl
    wbRoom := by
      intro enabled
      rw [room, if_pos enabled]
    noWbRoom := by
      intro disabled
      rw [room, disabled, if_neg (by decide)]
    wbDisplayName := by
      intro hasRoom notBlank
      simp only [normalizedOptions, normalizeClientOptions, parsedOptions, roomPresent hasRoom,
        notBlank, and_self, if_true]
    wbSecret := by
      intro hasRoom
      simp only [normalizedOptions, normalizeClientOptions, parsedOptions, roomPresent hasRoom,
        true_and, kotlinTrim_of_notBlank] }

end Normalized

/-- The client runs on the launcher's arguments with the route's fields exactly when the route does
    not ask for debug output, no link holds a comma, and there is something to connect to. -/
theorem client_carries_route_iff (server : Server) (route : VkTurnProxy)
    (protectSocketPath : Option String) :
    (∃ opts, parseClientOptions (build server route protectSocketPath) = .ok opts ∧
        Carries server route opts) ↔
      route.debug = false ∧ route.SeparableLinks ∧ route.HasTarget := by
  have notEmpty : build server route protectSocketPath ≠ [] := by
    rw [build_split, openingArgs]
    simp
  rw [parseClientOptions, runProgram, if_neg notEmpty, parse_build]
  cases route.debug with
  | true => simp
  | false =>
    rw [← carries_iff server route protectSocketPath]
    simp only [Bool.false_eq_true, if_false, true_and]
    obtain ⟨target, isValid⟩ | ⟨noTarget, message, isError⟩ :=
      validate_parsed server route protectSocketPath
    · simp [isValid, target]
    · simp [isError, noTarget]

/-- Debug output alone keeps the client from starting. -/
theorem debug_route_rejected :
    let server : Server := { host := "203.0.113.7" }
    let route : VkTurnProxy :=
      { primaryLinks := ["https://vk.com/call/join/abc"], debug := true }
    route.HasTarget ∧ route.SeparableLinks ∧
      parseClientOptions (build server route none) = .error 2 ∧
      ¬ ∃ opts, parseClientOptions (build server route none) = .ok opts ∧
        Carries server route opts := by
  intro server route
  have rejected : parseClientOptions (build server route none) = .error 2 := by
    rw [parseClientOptions, runProgram, if_neg (by decide +kernel), parse_build]
    rfl
  refine ⟨.inr (by decide +kernel), fun _ => by decide +kernel, rejected, ?_⟩
  rintro ⟨opts, accepted, _⟩
  rw [rejected] at accepted
  cases accepted

end VkTurn.Launcher
