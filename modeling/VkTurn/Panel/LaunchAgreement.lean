import VkTurn.Panel.DesiredSpecs
import VkTurn.Server.Options
import VkTurn.Text.Base64

/-! # Agreement of the panel with the server it starts

The panel and the server name the session modes apart: the panel offers `mux`, the server knows
`mu`.
-/

namespace VkTurn.Panel

open VkTurn.Flags VkTurn.Server VkTurn.SessionProto
open VkTurn.Text

/-- The mode that a session mode of the panel stands for. -/
def panelMode (sessionMode : String) : Option Mode :=
  if sessionMode = "" ∨ sessionMode = "auto" then some .auto
  else if sessionMode = "mainline" then some .mainline
  else if sessionMode = "mux" then some .mu
  else none

/-- The server takes the arguments, and its options are those of the settings. -/
structure LaunchAgrees (inbound : Inbound) (settings : VKTurnProxySettings) (connect : String)
    (opts : ServerOptions) : Prop where
  mode : ∃ mode, panelMode settings.sessionMode = some mode ∧ parseMode opts.sessionMode = .ok mode
  listen : opts.listen = listenAddress inbound
  forward : opts.connect = connect
  backends : opts.backends = .ok { udpConnect := connect, tcpConnect := "" }
  roomID : opts.wbStreamRoomID =
    if settings.joinsRoom then trimSpace settings.wbStreamRoomID else ""
  /-- A blank name leaves the server's own. -/
  displayName : opts.wbStreamDisplayName =
    if settings.joinsRoom ∧ trimSpace settings.wbStreamDisplayName ≠ "" then
      trimSpace settings.wbStreamDisplayName
    else "vk-turn-proxy-server"
  secret : opts.wbStreamE2ESecret =
    if settings.joinsRoom ∧ settings.wbStreamE2EEnabled then trimSpace settings.wbStreamE2ESecret
    else ""

/-! ## Addresses -/

/-- A number in decimal ends with a digit. -/
theorem toString_ends (port : Int) :
    ∃ init last, (toString port).toList = init ++ [last] ∧ goSpace last = false := by
  have digits : ∀ number : Nat,
      ∃ init last, (toString number).toList = init ++ [last] ∧ goSpace last = false := by
    intro number
    rw [Nat.toString_eq_ofList_toDigits, String.toList_ofList]
    obtain ⟨init, last, split⟩ : ∃ init last, Nat.toDigits 10 number = init ++ [last] :=
      List.eq_nil_or_concat'  _ |>.resolve_left (Nat.toDigits_ne_nil)
    refine ⟨init, last, split, ?_⟩
    have member : last ∈ Nat.toDigits 10 number := by simp [split]
    have isDigit : last.isDigit = true :=
      Nat.isDigit_of_mem_toDigits (by decide) (by decide) member
    simp only [Char.isDigit, Bool.and_eq_true, decide_eq_true_eq] at isDigit
    have low : 48 ≤ last.toNat := isDigit.1
    have high : last.toNat ≤ 57 := isDigit.2
    simp [goSpace]
    omega
  cases port with
  | ofNat number => exact digits number
  | negSucc number =>
    obtain ⟨init, last, split, notBlank⟩ := digits (number + 1)
    have written : (toString (Int.negSucc number)).toList =
        '-' :: (toString (number + 1)).toList :=
      String.toList_append
    exact ⟨'-' :: init, last, by rw [written, split, List.cons_append], notBlank⟩

theorem joinHostPort_toList (host : String) (port : Int) :
    ∃ start, (joinHostPort host port).toList = start ++ (toString port).toList ∧
      ∃ first ∈ start.head?, first = '[' ∨ first = ':' ∨ first ∈ host.toList.head? := by
  rw [joinHostPort]
  split
  · exact ⟨'[' :: (host.toList ++ [']', ':']), by simp, '[', rfl, .inl rfl⟩
  · refine ⟨host.toList ++ [':'], by simp, ?_⟩
    cases host.toList with
    | nil => exact ⟨':', rfl, .inr (.inl rfl)⟩
    | cons first rest => exact ⟨first, rfl, .inr (.inr rfl)⟩

theorem joinHostPort_trimmed (host : String) (port : Int) :
    trimSpace (joinHostPort (trimSpace host) port) = joinHostPort (trimSpace host) port ∧
      joinHostPort (trimSpace host) port ≠ "" := by
  obtain ⟨init, last, portEnds, notBlank⟩ := toString_ends port
  obtain ⟨start, joined, first, isFirst, starts⟩ := joinHostPort_toList (trimSpace host) port
  rw [portEnds, ← List.append_assoc] at joined
  have firstNotBlank : goSpace first = false := by
    obtain rfl | rfl | inHost := starts
    · rfl
    · rfl
    · rw [trimSpace, trim, String.toList_ofList] at inHost
      exact head_trimChars inHost
  have isHead : ∀ other ∈ (start ++ init ++ [last]).head?, goSpace other = false := by
    cases start with
    | nil => cases isFirst
    | cons head rest =>
      cases isFirst
      rintro other ⟨⟩
      exact firstNotBlank
  constructor
  · rw [← String.toList_inj, trimSpace, trim, String.toList_ofList, joined]
    exact trimChars_eq_self isHead notBlank
  · intro empty
    rw [empty] at joined
    simp at joined

/-- The address that the server is to forward to is its own trimming, and is not blank. -/
theorem forwardAddress_trimmed {db : Database} {targetFails : Bool}
    {settings : VKTurnProxySettings} {connect : String}
    (resolved : resolveVKTurnProxyForwardAddress db targetFails settings = .ok connect) :
    trimSpace connect = connect ∧ connect ≠ "" := by
  simp only [resolveVKTurnProxyForwardAddress] at resolved
  split at resolved
  · obtain rfl := Except.ok.inj resolved
    exact joinHostPort_trimmed _ _
  · split at resolved
    · cases resolved
    · split at resolved
      · cases resolved
      · rename_i target _ _
        obtain rfl := Except.ok.inj resolved
        have isTrimmed : ∃ host, (if Database.listensEverywhere (trimSpace target.listen) then
            "127.0.0.1" else trimSpace target.listen) = trimSpace host := by
          split
          · exact ⟨"127.0.0.1", by decide⟩
          · exact ⟨target.listen, rfl⟩
        obtain ⟨host, isHost⟩ := isTrimmed
        rw [isHost]
        exact joinHostPort_trimmed _ _
  · cases resolved

/-! ## The arguments -/

/-- The options as the flags set them. -/
def parsedOptions (spec : Spec) : ServerOptions :=
  let hasRoom := trimSpace spec.wbStreamRoomID ≠ ""
  { listen := spec.listen
    connect := spec.connect
    sessionMode :=
      if trimSpace spec.sessionMode ≠ "" ∧ spec.sessionMode ≠ "auto" then spec.sessionMode
      else "auto"
    wbStreamRoomID := trimSpace spec.wbStreamRoomID
    wbStreamDisplayName :=
      if hasRoom ∧ trimSpace spec.wbStreamDisplayName ≠ "" then
        trimSpace spec.wbStreamDisplayName
      else "vk-turn-proxy-server"
    wbStreamE2ESecret := if hasRoom then trimSpace spec.wbStreamE2ESecret else "" }

theorem parsedOptions_sessionMode (spec : Spec) :
    (parsedOptions spec).sessionMode =
      if trimSpace spec.sessionMode ≠ "" ∧ spec.sessionMode ≠ "auto" then spec.sessionMode
      else "auto" := by
  simp only [parsedOptions]

/-! ### The flags that may be missing -/

section OptionalFlags

variable {rest : List String} {options : ServerOptions} {value : String} (present : Prop)
  [Decidable present]

/-- A missing flag leaves what was there before. -/
theorem parse_optional {name argument current : String}
    {store : String → ServerOptions → ServerOptions}
    (isFlag : readArgument argument = .flag name none)
    (found : serverFlags.find? (·.name == name) = some (stringVar name store))
    (same : store current options = options) :
    parse serverFlags ((if present then [argument, value] else []) ++ rest) options =
      parse serverFlags rest (store (if present then value else current) options) := by
  split
  · exact parse_value isFlag found rfl rfl
  · rw [same, List.nil_append]

theorem parse_sessionMode :
    parse serverFlags ((if present then ["-session-mode", value] else []) ++ rest) options =
      parse serverFlags rest
        { options with sessionMode := if present then value else options.sessionMode } := by
  rw [parse_optional present rfl rfl rfl]

theorem parse_displayName :
    parse serverFlags ((if present then ["-wb-stream-display-name", value] else []) ++ rest)
        options =
      parse serverFlags rest
        { options with
          wbStreamDisplayName := if present then value else options.wbStreamDisplayName } := by
  rw [parse_optional present rfl rfl rfl]

theorem parse_secret :
    parse serverFlags ((if present then ["-wb-stream-e2e-secret", value] else []) ++ rest)
        options =
      parse serverFlags rest
        { options with
          wbStreamE2ESecret := if present then value else options.wbStreamE2ESecret } := by
  rw [parse_optional present rfl rfl rfl]

end OptionalFlags

theorem parse_startArgs (spec : Spec) :
    parse serverFlags (startArgs spec) {} = .ok (parsedOptions spec) := by
  rw [← List.append_nil (startArgs spec), startArgs]
  simp only [List.append_assoc, List.cons_append, List.nil_append]
  rw [parse_value rfl rfl rfl rfl, parse_value rfl rfl rfl rfl, parse_sessionMode]
  by_cases hasRoom : trimSpace spec.wbStreamRoomID = ""
  · simp only [hasRoom, ne_eq, not_true_eq_false, if_false, List.append_nil, parse, parsedOptions,
      false_and]
  · simp only [hasRoom, ne_eq, not_false_eq_true, if_true, List.append_assoc, List.cons_append]
    rw [parse_value rfl rfl rfl rfl, parse_displayName, parse_secret]
    simp only [parse, ite_not, parsedOptions, ne_eq, hasRoom, not_false_eq_true, true_and, if_true,
      Except.ok.injEq, ServerOptions.mk.injEq, ite_eq_right_iff, String.empty_eq_iff, imp_self,
      and_self]

theorem parsedOptions_backends {spec : Spec} (trimmed : trimSpace spec.connect = spec.connect)
    (notEmpty : spec.connect ≠ "") : (parsedOptions spec).backends = .ok ⟨spec.connect, ""⟩ := by
  have resolved := @resolveServerBackends_connect spec.connect (trimmed.symm ▸ notEmpty)
  rw [trimmed] at resolved
  exact resolved

/-- The checks of the server pass, and trimming changes nothing more. -/
theorem parseServerOptions_startArgs {spec : Spec}
    (trimmed : trimSpace spec.connect = spec.connect) (notEmpty : spec.connect ≠ "") :
    parseServerOptions (startArgs spec) = .ok (parsedOptions spec) := by
  have notNil : startArgs spec ≠ [] := by simp [startArgs]
  have isTrimmed : trimServerOptions (parsedOptions spec) = parsedOptions spec := by
    have fixed : trimSpace "" = "" ∧
        trimSpace "vk-turn-proxy-server" = "vk-turn-proxy-server" := by decide
    simp [trimServerOptions, parsedOptions, apply_ite trimSpace, trimSpace_trimSpace, fixed,
      trimmed]
  have backends := parsedOptions_backends trimmed notEmpty
  have valid : validateServerOptions (parsedOptions spec) = .ok (parsedOptions spec) := by
    rw [validateServerOptions, isTrimmed, backends]
    have hasBackend : ¬ ((parsedOptions spec).udpConnect = "" ∧
        (parsedOptions spec).connect = "") := fun blank => notEmpty blank.2
    simp only [hasBackend, if_false, ite_self]
  rw [parseServerOptions, runProgram, if_neg notNil, parse_startArgs]
  simp only [valid]

/-! ## Accepted settings -/

/-- What the checks leave: a target that resolves, a mode of the panel, and a named room where the
    server is to join one. -/
structure Accepted (db : Database) (settings : VKTurnProxySettings) : Prop where
  target : settings.forward.type = .external ∨
    settings.forward.type = .wireguardInbound ∧
      ∃ target, db.getInbound false settings.forward.wireguardInboundID = .ok target ∧
        target.protocol = .wireguard
  mode : settings.sessionMode ∈ ["", "auto", "mainline", "mux"]
  room : settings.joinsRoom = true → trimSpace settings.wbStreamRoomID ≠ ""

theorem accepted_of_validate {library : Library} {db : Database} {targetFails : Bool}
    {settings : VKTurnProxySettings} {allowClients : Bool}
    (valid : validateVKTurnProxySettings library db targetFails settings allowClients = .ok ()) :
    Accepted db settings := by
  simp only [validateVKTurnProxySettings, bind, Except.bind, throw, throwThe,
    MonadExceptOf.throw, pure, Except.pure] at valid
  cases type : settings.forward.type with
  | wireguardInbound =>
    rw [type] at valid
    simp only at valid
    by_cases missing : settings.forward.wireguardInboundID ≤ 0
    · rw [if_pos missing] at valid
      cases valid
    · rw [if_neg missing] at valid
      cases found : db.getInbound targetFails settings.forward.wireguardInboundID with
      | error message =>
        rw [found] at valid
        cases valid
      | ok target =>
        rw [found] at valid
        simp only at valid
        have foundAny := getInbound_eq_ok.mpr ⟨rfl, (getInbound_eq_ok.mp found).2⟩
        constructor
        case target => grind
        case mode => grind
        case room => grind [VKTurnProxySettings.joinsRoom]
  | external =>
    rw [type] at valid
    constructor
    case target => grind
    case mode => grind
    case room => grind [VKTurnProxySettings.joinsRoom]
  | other text =>
    rw [type] at valid
    cases valid

/-- The fields of a spec. -/
structure SpecOf (inbound : Inbound) (settings : VKTurnProxySettings) (spec : Spec) : Prop where
  listen : spec.listen = listenAddress inbound
  sessionMode : spec.sessionMode = settings.sessionMode
  roomID : spec.wbStreamRoomID =
    if settings.joinsRoom then trimSpace settings.wbStreamRoomID else ""
  displayName : spec.wbStreamDisplayName =
    if settings.joinsRoom then trimSpace settings.wbStreamDisplayName else ""
  secret : spec.wbStreamE2ESecret =
    if settings.joinsRoom ∧ settings.wbStreamE2EEnabled then trimSpace settings.wbStreamE2ESecret
    else ""

theorem desiredSpec_eq_ok {db : Database} {targetFails : Bool} {inbound : Inbound}
    {settings : VKTurnProxySettings} {spec : Spec}
    (built : desiredSpec db targetFails inbound settings = .ok spec) :
    resolveVKTurnProxyForwardAddress db targetFails settings = .ok spec.connect ∧
      SpecOf inbound settings spec := by
  simp only [desiredSpec] at built
  split at built
  · cases built
  · rename_i connect resolved
    split at built
    · rename_i joins
      obtain rfl := Except.ok.inj built
      exact ⟨resolved, by constructor <;> simp [joins]⟩
    · rename_i joins
      obtain rfl := Except.ok.inj built
      exact ⟨resolved, by constructor <;> simp [joins]⟩

theorem desiredSpec_of_accepted {db : Database} {settings : VKTurnProxySettings}
    (accepted : Accepted db settings) (inbound : Inbound) :
    ∃ spec, desiredSpec db false inbound settings = .ok spec := by
  have resolves : ∃ connect, resolveVKTurnProxyForwardAddress db false settings = .ok connect := by
    obtain isExternal | ⟨isWireguard, target, found, protocol⟩ := accepted.target
    · simp [resolveVKTurnProxyForwardAddress, isExternal]
    · simp [resolveVKTurnProxyForwardAddress, isWireguard, found, protocol]
  obtain ⟨connect, resolved⟩ := resolves
  rw [desiredSpec, resolved]
  simp only
  split
  · exact ⟨_, rfl⟩
  · exact ⟨_, rfl⟩

/-- Every mode that the panel accepts means the same to the server, except `mux`. -/
theorem parseMode_iff {sessionMode : String}
    (accepted : sessionMode ∈ ["", "auto", "mainline", "mux"]) :
    (∃ mode, panelMode sessionMode = some mode ∧
      parseMode (if trimSpace sessionMode ≠ "" ∧ sessionMode ≠ "auto" then sessionMode else "auto") =
        .ok mode) ↔ sessionMode ≠ "mux" := by
  simp only [List.mem_cons, List.not_mem_nil, or_false] at accepted
  obtain rfl | rfl | rfl | rfl := accepted
  · exact iff_of_true ⟨.auto, by decide, by decide⟩ (by decide)
  · exact iff_of_true ⟨.auto, by decide, by decide⟩ (by decide)
  · exact iff_of_true ⟨.mainline, by decide, by decide⟩ (by decide)
  · refine iff_of_false ?_ (by decide)
    rintro ⟨mode, isMu, parsed⟩
    have unknown : (parseMode "mux").toOption = none := by decide
    have sent : (if trimSpace "mux" ≠ "" ∧ "mux" ≠ "auto" then "mux" else "auto") = "mux" := by
      decide
    rw [sent] at parsed
    rw [parsed] at unknown
    cases unknown

/-- Accepted settings give a spec; what the server makes of it agrees with them exactly when the
    session mode is not `mux`. -/
theorem launchAgrees_iff (library : Library) (db : Database) (targetFails allowClients : Bool)
    (settings : VKTurnProxySettings)
    (valid : validateVKTurnProxySettings library db targetFails settings allowClients = .ok ())
    (inbound : Inbound) :
    (∃ spec, desiredSpec db false inbound settings = .ok spec) ∧
      ∀ launchDb lookupFails spec,
        desiredSpec launchDb lookupFails inbound settings = .ok spec →
        ((∃ opts connect, parseServerOptions (startArgs spec) = .ok opts ∧
          resolveVKTurnProxyForwardAddress launchDb lookupFails settings = .ok connect ∧
          LaunchAgrees inbound settings connect opts) ↔ settings.sessionMode ≠ "mux") := by
  have accepted := accepted_of_validate valid
  refine ⟨desiredSpec_of_accepted accepted inbound, ?_⟩
  intro launchDb lookupFails spec built
  obtain ⟨resolved, isSpec⟩ := desiredSpec_eq_ok built
  obtain ⟨trimmed, notEmpty⟩ := forwardAddress_trimmed resolved
  have parsed := parseServerOptions_startArgs trimmed notEmpty
  rw [← parseMode_iff accepted.mode, ← isSpec.sessionMode, ← parsedOptions_sessionMode]
  constructor
  · rintro ⟨opts, connect, parsedOpts, _, agrees⟩
    rw [parsed] at parsedOpts
    obtain rfl := Except.ok.inj parsedOpts
    have mode := agrees.mode
    rw [← isSpec.sessionMode] at mode
    exact mode
  · intro mode
    have blank : trimSpace "" = "" := by decide
    have hasRoom : trimSpace spec.wbStreamRoomID ≠ "" ↔ settings.joinsRoom = true := by
      rw [isSpec.roomID]
      split
      · rename_i joins
        rw [trimSpace_trimSpace]
        exact iff_of_true (accepted.room joins) joins
      · rename_i joins
        exact iff_of_false (by simp [blank]) joins
    refine ⟨parsedOptions spec, spec.connect, parsed, resolved, ?_⟩
    constructor
    case mode => rw [← isSpec.sessionMode]; exact mode
    case listen => exact isSpec.listen
    case forward => rfl
    case backends => exact parsedOptions_backends trimmed notEmpty
    case roomID =>
      simp only [parsedOptions, isSpec.roomID, apply_ite trimSpace, trimSpace_trimSpace, blank]
    case displayName =>
      simp only [parsedOptions, hasRoom, isSpec.displayName]
      cases settings.joinsRoom with
      | true => simp [trimSpace_trimSpace]
      | false => simp
    case secret =>
      simp only [parsedOptions, hasRoom, isSpec.secret]
      cases settings.joinsRoom with
      | true => simp [apply_ite trimSpace, trimSpace_trimSpace, blank]
      | false => simp

/-! ## Two inbounds that forward elsewhere -/

/-- Libraries whose answers matter to no inbound without a room and without clients. -/
def noLibrary : Library where
  toLower text := text
  equalFold text other := text = other
  decodeBase64 _ := none
  decodeRawBase64 _ := none
  encodeBase64 := base64Encode
  x25519 _ := .error "not computed"
  parseIP _ := none
  parseCIDR text := .error ("invalid CIDR address: " ++ text)

def noRows : Database where
  inbounds := ⟨[], uniqueInbounds_nil⟩
  clientTraffics := ⟨[], uniqueTraffics_nil⟩
  clientIps := ⟨[], uniqueIps_nil⟩

def externalSettings (sessionMode : String) : VKTurnProxySettings :=
  { forward := { type := .external, host := "192.0.2.1", port := 51820 }, sessionMode }

def externalInbound (sessionMode : String) : Inbound :=
  { id := 1, port := 56000, protocol := .vkTurnProxy, tag := "inbound-56000"
    settings := .vkTurnProxy (externalSettings sessionMode) }

theorem launchAgrees_iff_auto :
    (∃ spec, desiredSpec noRows false (externalInbound "auto") (externalSettings "auto") =
      .ok spec) ∧
      ∀ launchDb lookupFails spec,
        desiredSpec launchDb lookupFails (externalInbound "auto") (externalSettings "auto") =
          .ok spec →
        ((∃ opts connect, parseServerOptions (startArgs spec) = .ok opts ∧
          resolveVKTurnProxyForwardAddress launchDb lookupFails (externalSettings "auto") =
            .ok connect ∧
          LaunchAgrees (externalInbound "auto") (externalSettings "auto") connect opts) ↔
            (externalSettings "auto").sessionMode ≠ "mux") :=
  launchAgrees_iff noLibrary noRows false true (externalSettings "auto") (by decide)
    (externalInbound "auto")

def muxSpec : Spec :=
  { id := 1, remark := "", listen := "0.0.0.0:56000", connect := "192.0.2.1:51820"
    sessionMode := "mux" }

/-- The panel accepts `mux`, and the server that it starts ends with an error. -/
theorem mux_not_parsed :
    validateVKTurnProxySettings noLibrary noRows false (externalSettings "mux") true = .ok () ∧
      desiredSpec noRows false (externalInbound "mux") (externalSettings "mux") = .ok muxSpec ∧
      startArgs muxSpec =
        ["-listen", "0.0.0.0:56000", "-connect", "192.0.2.1:51820", "-session-mode", "mux"] ∧
      ∃ opts, parseServerOptions (startArgs muxSpec) = .ok opts ∧
        parseMode opts.sessionMode = .error "unsupported session mode: mux" := by
  refine ⟨by decide, by decide, by decide, parsedOptions muxSpec, ?_, by decide⟩
  exact parseServerOptions_startArgs (by decide) (by decide)

end VkTurn.Panel
