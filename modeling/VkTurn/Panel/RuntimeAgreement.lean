import Mathlib.Logic.Relation
import VkTurn.Panel.RuntimeInbounds

/-! # The live path and the configuration path

Whether an inbound that was just sent to the running Xray is the one that `GetXrayConfig` would
write: the same users with the same fields, and the same stream settings.

The configuration filters its users and keeps six keys of each.  `AddInbound` does neither, and
`UpdateInbound` only filters.  Both write timestamps to every client, so they agree with the
configuration on an inbound from which nobody is sent.
-/

namespace VkTurn.Panel

open VkTurn.Store
open VkTurn.Text

/-! ## Until the configuration is made -/

/-- A new expiry time in a client, if it has one. -/
def renewedClient (expiryTime? : JsonFields → Option Int) (client : JsonFields) : JsonFields :=
  match expiryTime? client with
  | none => client
  | some expiryTime => setField "expiryTime" (intValue expiryTime) client

/-- What `AddTraffic(nil, nil)` and `GetAllInbounds`, with which `GetXrayConfig` begins, make of an
    inbound: they disable it, renew its clients, or decode its clients. -/
inductive RefreshInbound (floats : Floats) : XrayInbound → XrayInbound → Prop where
  | kept {inbound : XrayInbound} : RefreshInbound floats inbound inbound
  | disabled {inbound : XrayInbound} :
      RefreshInbound floats inbound { inbound with enable := false }
  | renewed {inbound : XrayInbound} {clients : List JsonValue}
      (expiryTime? : JsonFields → Option Int) :
      listedClients (inbound.settings.untyped floats) = some clients →
      RefreshInbound floats inbound { inbound with
        settings := .json (.object (setField "clients"
          (.array (clients.map (mapObject (renewedClient expiryTime?))))
          (inbound.settings.untyped floats))) }
  | decoded {inbound : XrayInbound} {clients : List ModelClient} {settings : JsonColumn} :
      decodeClients floats inbound.settings = .ok (clients, settings) →
      RefreshInbound floats inbound { inbound with settings }

/-- One of their statements; the rows of the clients may become any. -/
inductive RefreshStep (floats : Floats) (store next : XrayStore) : Prop where
  | inbounds (update : XrayInbound → XrayInbound) :
      (∀ inbound, RefreshInbound floats inbound (update inbound)) →
      next.inbounds.rows = store.inbounds.rows.map update →
      next.clientTraffics = store.clientTraffics → RefreshStep floats store next
  | clientTraffics : next.inbounds = store.inbounds → RefreshStep floats store next

/-- The state that the loop of `GetXrayConfig` reads. -/
def Refreshed (floats : Floats) : XrayStore → XrayStore → Prop :=
  Relation.ReflTransGen (RefreshStep floats)

/-! ## What both ways look at -/

/-- The users that a column of settings lists. -/
def usersOf : JsonColumn → List JsonValue
  | .json (.object settings) => (listedClients settings).getD []
  | _ => []

/-- What decides whether a client is active. -/
def switchOf (client : JsonFields) : Option String × Option Bool :=
  (stringField "email" client, boolField "enable" client)

def switches (settings : JsonColumn) : List (Option String × Option Bool) :=
  (objectsOf (usersOf settings)).map switchOf

theorem isActive_congr {clientStats : List ClientTraffic} {client other : JsonFields}
    (same : switchOf client = switchOf other) :
    isActive clientStats client = isActive clientStats other := by
  obtain ⟨sameEmail, sameSwitch⟩ := Prod.mk.inj same
  unfold isActive clientEmail manuallyDisabled
  rw [sameEmail, sameSwitch]

theorem switchOf_congr {client other : JsonFields} (email : client "email" = other "email")
    (enable : client "enable" = other "enable") : switchOf client = switchOf other := by
  unfold switchOf stringField boolField
  rw [email, enable]

section Switches

variable {float : String → String} {client : JsonFields} {clients : List JsonValue}
  {floats : Floats} {settings next : JsonColumn}

theorem switchOf_reprint : switchOf (reprintFields float client) = switchOf client := by
  unfold switchOf
  rw [stringField_reprint, boolField_reprint]

theorem object?_mapObject (update : JsonFields → JsonFields) (client : JsonValue) :
    (mapObject update client).object? = client.object?.map update := by
  cases client with
  | object fields => rfl
  | null => rfl
  | bool truth => rfl
  | number text => rfl
  | string text => rfl
  | array elements => rfl

theorem objectsOf_map {rewrite : JsonValue → JsonValue} {update : JsonFields → JsonFields}
    (onObjects : ∀ value, (rewrite value).object? = value.object?.map update) :
    objectsOf (clients.map rewrite) = (objectsOf clients).map update := by
  unfold objectsOf
  rw [List.filterMap_map, List.map_filterMap]
  exact congrArg (List.filterMap · clients) (funext onObjects)

theorem objectsOf_mapObject (update : JsonFields → JsonFields) :
    objectsOf (clients.map (mapObject update)) = (objectsOf clients).map update :=
  objectsOf_map (object?_mapObject update)

theorem objectsOf_reprint : objectsOf (JsonValue.reprintAll float clients) =
    (objectsOf clients).map (reprintFields float) := by
  rw [JsonValue.reprintAll_eq_map]
  exact objectsOf_map JsonValue.object?_reprint

/-- The list of clients after the decoding of all settings. -/
theorem listedClients_untyped : listedClients (settings.untyped floats) =
    match settings with
    | .json (.object fields) => (listedClients fields).map (JsonValue.reprintAll floats.float)
    | _ => none := by
  cases settings with
  | text text => rfl
  | json value =>
    cases value with
    | object fields =>
      dsimp only [JsonColumn.untyped]
      unfold listedClients
      rw [reprintFields_apply]
      cases fields "clients" with
      | none => rfl
      | some value =>
        cases value with
        | array elements => rfl
        | null => rfl
        | bool truth => rfl
        | number text => rfl
        | string text => rfl
        | object inner => rfl
    | null => rfl
    | bool truth => rfl
    | number text => rfl
    | string text => rfl
    | array elements => rfl

theorem listedClients_untyped_getD (floats : Floats) (settings : JsonColumn) :
    (listedClients (settings.untyped floats)).getD [] =
      JsonValue.reprintAll floats.float (usersOf settings) := by
  rw [listedClients_untyped]
  cases settings with
  | text text => rfl
  | json value =>
    cases value with
    | object fields =>
      dsimp only [usersOf]
      cases listedClients fields with
      | none => rfl
      | some clients => rfl
    | null => rfl
    | bool truth => rfl
    | number text => rfl
    | string text => rfl
    | array elements => rfl

theorem usersOf_eq_nil (noList : listedClients (settings.untyped floats) = none) :
    usersOf settings = [] := by
  have same := listedClients_untyped_getD floats settings
  rw [noList] at same
  cases isClients : usersOf settings with
  | nil => rfl
  | cons client rest =>
    rw [isClients] at same
    cases same

@[simp] theorem usersOf_setField (fields : JsonFields) :
    usersOf (.json (.object (setField "clients" (.array clients) fields))) = clients := by
  dsimp only [usersOf, listedClients]
  rw [setField_self]
  rfl

end Switches

/-! ## What the rewriting of settings keeps -/

section Rewriting

variable {floats : Floats} {settings next : JsonColumn} {clients : List ModelClient}
  {client : JsonFields} {elements : List JsonValue}

theorem switchOf_setField {key : String} {value : JsonValue} (notEmail : key ≠ "email")
    (notEnable : key ≠ "enable") : switchOf (setField key value client) = switchOf client :=
  switchOf_congr (setField_of_ne notEmail.symm) (setField_of_ne notEnable.symm)

theorem switchOf_normalizedTGID {normalized : JsonFields}
    (changed : normalizedTGID client = some normalized) :
    switchOf normalized = switchOf client := by
  have sets (tgID : Int) : switchOf (setField "tgId" (intValue tgID) client) = switchOf client :=
    switchOf_setField (by decide) (by decide)
  unfold normalizedTGID at changed
  split at changed
  · cases changed
    exact sets 0
  · split at changed
    · cases changed
      exact sets _
    · cases changed
      exact sets 0
  · cases changed

theorem switchOf_renewedClient (expiryTime? : JsonFields → Option Int) :
    switchOf (renewedClient expiryTime? client) = switchOf client := by
  unfold renewedClient
  cases expiryTime? client with
  | none => rfl
  | some expiryTime => exact switchOf_setField (by decide) (by decide)

theorem switches_normalized : (objectsOf (elements.map (normalizeClient floats))).map switchOf =
    (objectsOf elements).map switchOf := by
  have isUpdate (value : JsonValue) : (normalizeClient floats value).object? =
      value.object?.map fun client =>
        (normalizedTGID (reprintFields floats.float client)).getD
          (reprintFields floats.float client) := by
    cases value with
    | object fields => rfl
    | null => rfl
    | bool truth => rfl
    | number text => rfl
    | string text => rfl
    | array elements => rfl
  rw [objectsOf_map isUpdate, List.map_map]
  refine List.map_congr_left fun client _ => ?_
  dsimp only [Function.comp_apply]
  cases changed : normalizedTGID (reprintFields floats.float client) with
  | none => exact switchOf_reprint
  | some normalized => exact (switchOf_normalizedTGID changed).trans switchOf_reprint

/-- Either there is no list, or its elements are decoded one by one. -/
theorem decodeClients_eq_ok (decoded : decodeClients floats settings = .ok (clients, next)) :
    (clients = [] ∧ next = settings ∧ usersOf settings = []) ∨
      ∃ fields elements, settings = .json (.object fields) ∧
        fields "clients" = some (.array elements) ∧
        ((if elements.any changesTGID then elements.map (normalizeClient floats) else elements).mapM
          decodeClient = .ok clients) ∧
        next = .json (.object (setField "clients" (.array
          (if elements.any changesTGID then elements.map (normalizeClient floats) else elements))
          fields)) := by
  unfold decodeClients at decoded
  split at decoded
  · rename_i text
    split at decoded
    · cases decoded
      exact .inl ⟨rfl, rfl, rfl⟩
    · cases decoded
  · cases decoded
    exact .inl ⟨rfl, rfl, rfl⟩
  · rename_i fields
    split at decoded
    · rename_i missing
      cases decoded
      refine .inl ⟨rfl, rfl, ?_⟩
      dsimp only [usersOf, listedClients]
      rw [missing]
      rfl
    · rename_i isNull
      cases decoded
      refine .inl ⟨rfl, rfl, ?_⟩
      dsimp only [usersOf, listedClients]
      rw [isNull]
      rfl
    · rename_i elements isList
      obtain ⟨list, read, isPair⟩ := bind_eq_ok.mp decoded
      cases pure_eq_ok.mp isPair
      exact .inr ⟨fields, elements, rfl, isList, read, rfl⟩
    · cases decoded
  · cases decoded

theorem usersOf_object {fields : JsonFields}
    (isList : fields "clients" = some (.array elements)) :
    usersOf (.json (.object fields)) = elements := by
  dsimp only [usersOf, listedClients]
  rw [isList]
  rfl

/-- Decoding keeps the switches of the clients, and how many there are. -/
theorem decodeClients_keeps (decoded : decodeClients floats settings = .ok (clients, next)) :
    switches next = switches settings ∧ clients.length = (usersOf settings).length ∧
      (usersOf next).length = (usersOf settings).length := by
  obtain ⟨rfl, rfl, nobody⟩ | ⟨fields, elements, rfl, isList, read, rfl⟩ :=
    decodeClients_eq_ok decoded
  · rw [nobody]
    exact ⟨rfl, rfl, rfl⟩
  · have sameLength := length_of_mapM_eq_ok read
    unfold switches
    rw [usersOf_setField, usersOf_object isList]
    by_cases changes : elements.any changesTGID
    · rw [if_pos changes] at sameLength ⊢
      rw [List.length_map] at sameLength ⊢
      exact ⟨switches_normalized, sameLength, rfl⟩
    · rw [if_neg changes] at sameLength ⊢
      exact ⟨rfl, sameLength, rfl⟩

end Rewriting

/-! ## Who is active -/

/-- Nobody in the settings gets to Xray. -/
def NobodyActive (clientStats : List ClientTraffic) (settings : JsonColumn) : Prop :=
  ∀ client ∈ objectsOf (usersOf settings), isActive clientStats client = false

section Users

variable {floats : Floats} {clientStats : List ClientTraffic} {settings other : JsonColumn}
  {clients : List JsonValue}

theorem nobodyActive_iff : NobodyActive clientStats settings ↔ ∀ switch ∈ switches settings,
    ((clientStats.find? (·.email = switch.1.getD "")).all (·.enable) &&
      !decide (switch.2 = some false)) = false := by
  unfold NobodyActive switches
  rw [List.forall_mem_map]
  exact Iff.rfl

theorem nobodyActive_congr (same : switches settings = switches other) :
    NobodyActive clientStats settings ↔ NobodyActive clientStats other := by
  rw [nobodyActive_iff, nobodyActive_iff, same]

theorem filter_active_eq_nil (update : JsonFields → JsonFields)
    (keeps : ∀ client, switchOf (update client) = switchOf client) :
    ((objectsOf (usersOf settings)).map update).filter (isActive clientStats) = [] ↔
      NobodyActive clientStats settings := by
  rw [List.filter_eq_nil_iff, List.forall_mem_map]
  refine forall₂_congr fun client _ => ?_
  rw [isActive_congr (keeps client), Bool.not_eq_true]

/-- The users of a configuration are those that are active. -/
theorem usersOf_configSettings : usersOf (configSettings floats clientStats settings) =
    (finalClients clientStats (JsonValue.reprintAll floats.float (usersOf settings))).map
      .object := by
  unfold configSettings
  rw [← listedClients_untyped_getD]
  dsimp only
  cases isList : listedClients (settings.untyped floats) with
  | none =>
    rw [usersOf_eq_nil isList]
    rfl
  | some clients =>
    dsimp only [Option.getD_some]
    cases isFinal : (finalClients clientStats clients).map JsonValue.object with
    | nil =>
      rw [if_pos List.isEmpty_nil]
      dsimp only [usersOf, listedClients]
      rw [setField_self]
      rfl
    | cons user rest => exact usersOf_setField _

theorem configUsers_eq_nil (floats : Floats) :
    usersOf (configSettings floats clientStats settings) = [] ↔
      NobodyActive clientStats settings := by
  rw [usersOf_configSettings, List.map_eq_nil_iff]
  unfold finalClients
  rw [List.map_eq_nil_iff, objectsOf_reprint]
  exact filter_active_eq_nil _ fun client => switchOf_reprint

/-- A user of a configuration has the six keys and no other. -/
theorem configUsers_keys {user : JsonFields} {key : String} (notKept : key ∉ userKeys)
    (member : .object user ∈ usersOf (configSettings floats clientStats settings)) :
    user key = none := by
  rw [usersOf_configSettings] at member
  obtain ⟨cleaned, inFinal, same⟩ := List.mem_map.mp member
  cases same
  obtain ⟨client, _, rfl⟩ := List.mem_map.mp inFinal
  exact if_pos notKept

/-- Users that have a key the configuration drops are the same as its users only if there are
    none. -/
theorem users_agree_iff {users : List JsonValue} {key : String} (notKept : key ∉ userKeys)
    (haveKey : ∀ user ∈ users, ∃ fields value, user = .object fields ∧ fields key = some value) :
    users = usersOf (configSettings floats clientStats settings) ↔
      users = [] ∧ NobodyActive clientStats settings := by
  rw [← configUsers_eq_nil floats]
  constructor
  · intro same
    cases isUsers : users with
    | nil => exact ⟨rfl, by rw [← same, isUsers]⟩
    | cons user rest =>
      have inUsers : user ∈ users := by
        rw [isUsers]
        exact List.mem_cons_self
      obtain ⟨fields, value, rfl, present⟩ := haveKey user inUsers
      rw [same] at inUsers
      rw [configUsers_keys notKept inUsers] at present
      cases present
  · rintro ⟨nobody, nobodyElse⟩
    rw [nobody, nobodyElse]

end Users

/-! ## The state that the loop reads -/

section Refresh

variable {floats : Floats} {inbound next : XrayInbound} {store later : XrayStore} {inboundID : Int}

theorem switches_untyped {settings : JsonColumn} {clients : List JsonValue}
    (isList : listedClients (settings.untyped floats) = some clients) :
    (objectsOf clients).map switchOf = switches settings := by
  have same := listedClients_untyped_getD floats settings
  rw [isList, Option.getD_some] at same
  rw [same, objectsOf_reprint, List.map_map]
  exact List.map_congr_left fun client _ => switchOf_reprint

theorem RefreshInbound.keeps (refresh : RefreshInbound floats inbound next) :
    next.id = inbound.id ∧ next.streamSettings = inbound.streamSettings ∧
      switches next.settings = switches inbound.settings := by
  cases refresh with
  | kept => exact ⟨rfl, rfl, rfl⟩
  | disabled => exact ⟨rfl, rfl, rfl⟩
  | renewed expiryTime? isList =>
    refine ⟨rfl, rfl, ?_⟩
    dsimp only
    rw [← switches_untyped isList]
    unfold switches
    rw [usersOf_setField, objectsOf_mapObject, List.map_map]
    exact List.map_congr_left fun client _ => switchOf_renewedClient expiryTime?
  | decoded isDecoded => exact ⟨rfl, rfl, (decodeClients_keeps isDecoded).1⟩

theorem RefreshStep.found (step : RefreshStep floats store later)
    (found : store.inbounds.rows.find? (·.id = inboundID) = some inbound) :
    ∃ row, later.inbounds.rows.find? (·.id = inboundID) = some row ∧
      row.streamSettings = inbound.streamSettings ∧
      switches row.settings = switches inbound.settings := by
  cases step with
  | inbounds update refreshes rows traffics =>
    refine ⟨update inbound, ?_, (refreshes inbound).keeps.2⟩
    have sameTest : ((fun row : XrayInbound => decide (row.id = inboundID)) ∘ update) =
        fun row => decide (row.id = inboundID) :=
      funext fun row => by rw [Function.comp_apply, (refreshes row).keeps.1]
    rw [rows, List.find?_map, sameTest, found]
    rfl
  | clientTraffics same =>
    rw [same]
    exact ⟨inbound, found, rfl, rfl⟩

theorem Refreshed.found (refreshed : Refreshed floats store later)
    (found : store.inbounds.rows.find? (·.id = inboundID) = some inbound) :
    ∃ row, later.inbounds.rows.find? (·.id = inboundID) = some row ∧
      row.streamSettings = inbound.streamSettings ∧
      switches row.settings = switches inbound.settings := by
  induction refreshed with
  | refl => exact ⟨inbound, found, rfl, rfl⟩
  | tail _ step inductionHypothesis =>
    obtain ⟨row, foundRow, sameStream, sameSwitches⟩ := inductionHypothesis
    obtain ⟨last, foundLast, lastStream, lastSwitches⟩ := step.found foundRow
    exact ⟨last, foundLast, lastStream.trans sameStream, lastSwitches.trans sameSwitches⟩

end Refresh

/-! ## Stream settings -/

/-- The `settings` that the configuration leaves out of the TLS or the REALITY settings. -/
def hasSecuritySettings (stream : JsonFields) : Bool :=
  match objectField "tlsSettings" stream, objectField "realitySettings" stream with
  | some tlsSettings, _ => (tlsSettings "settings").isSome
  | none, some realitySettings => (realitySettings "settings").isSome
  | none, none => false

/-- The stream settings have nothing that the configuration leaves out, and no number that a float
    changes. -/
def StreamClean (floats : Floats) : JsonColumn → Prop
  | .text _ => True
  | .json .null => True
  | .json (.object stream) =>
    reprintFields floats.float stream = stream ∧ stream "externalProxy" = none ∧
      hasSecuritySettings stream = false
  | .json _ => False

section Streams

variable {floats : Floats} {float : String → String} {stream inner : JsonFields} {key : String}

/-- Where deleting a field of a nested object gives back what was decoded, there was no such
    field. -/
theorem nested_settings_none (decoded : reprintFields float stream key = some (.object inner))
    (written : stream key = some (.object (deleteField "settings" inner))) :
    inner "settings" = none := by
  rw [reprintFields_apply, written, Option.map_some, JsonValue.reprint_object] at decoded
  have same := JsonValue.object.inj (Option.some.inj decoded)
  have atSettings := congrFun same "settings"
  rw [reprintFields_apply, deleteField_self] at atSettings
  exact atSettings.symm

theorem deleteField_settings (missing : inner "settings" = none)
    (present : stream key = some (.object inner)) :
    setField key (.object (deleteField "settings" inner)) stream = stream := by
  rw [deleteField_eq_self.mpr missing]
  exact setField_eq_self.mpr present

theorem cleanSecurity_of_ne {other : String} (notTls : other ≠ "tlsSettings")
    (notReality : other ≠ "realitySettings") : cleanSecurity stream other = stream other := by
  unfold cleanSecurity
  cases objectField "tlsSettings" stream with
  | some tlsSettings => exact setField_of_ne notTls
  | none =>
    cases objectField "realitySettings" stream with
    | some realitySettings => exact setField_of_ne notReality
    | none => rfl

theorem cleanSecurity_of_none (nothing : hasSecuritySettings stream = false) :
    cleanSecurity stream = stream := by
  unfold hasSecuritySettings at nothing
  unfold cleanSecurity
  cases isTls : objectField "tlsSettings" stream with
  | some tlsSettings =>
    rw [isTls] at nothing
    exact deleteField_settings
      (Option.isSome_eq_false_iff.mp nothing |> Option.isNone_iff_eq_none.mp)
      (objectField_eq_some.mp isTls)
  | none =>
    rw [isTls] at nothing
    cases isReality : objectField "realitySettings" stream with
    | some realitySettings =>
      rw [isReality] at nothing
      exact deleteField_settings
        (Option.isSome_eq_false_iff.mp nothing |> Option.isNone_iff_eq_none.mp)
        (objectField_eq_some.mp isReality)
    | none => rfl

/-- Where the cleaning gives back what was decoded, it has left nothing out. -/
theorem cleanSecurity_reprint (same : cleanSecurity (reprintFields float stream) = stream) :
    reprintFields float stream = stream ∧
      hasSecuritySettings (reprintFields float stream) = false := by
  unfold cleanSecurity at same
  unfold hasSecuritySettings
  cases isTls : objectField "tlsSettings" (reprintFields float stream) with
  | some tlsSettings =>
    rw [isTls] at same
    dsimp only at same ⊢
    have present := objectField_eq_some.mp isTls
    have written := congrFun same "tlsSettings"
    rw [setField_self] at written
    have missing := nested_settings_none present written.symm
    rw [deleteField_settings missing present] at same
    exact ⟨same, by rw [missing]; rfl⟩
  | none =>
    rw [isTls] at same
    cases isReality : objectField "realitySettings" (reprintFields float stream) with
    | some realitySettings =>
      rw [isReality] at same
      dsimp only at same ⊢
      have present := objectField_eq_some.mp isReality
      have written := congrFun same "realitySettings"
      rw [setField_self] at written
      have missing := nested_settings_none present written.symm
      rw [deleteField_settings missing present] at same
      exact ⟨same, by rw [missing]; rfl⟩
    | none =>
      rw [isReality] at same
      exact ⟨same, rfl⟩

theorem cleanStream_reprint_iff : cleanStream (reprintFields float stream) = stream ↔
    reprintFields float stream = stream ∧ stream "externalProxy" = none ∧
      hasSecuritySettings stream = false := by
  constructor
  · intro same
    have noProxy : stream "externalProxy" = none := by
      rw [← same]
      exact deleteField_self
    have notDeleted : cleanSecurity (reprintFields float stream) "externalProxy" = none := by
      rw [cleanSecurity_of_ne (by decide) (by decide), reprintFields_apply, noProxy]
      rfl
    unfold cleanStream at same
    rw [deleteField_eq_self.mpr notDeleted] at same
    obtain ⟨kept, nothing⟩ := cleanSecurity_reprint same
    rw [kept] at nothing
    exact ⟨kept, noProxy, nothing⟩
  · rintro ⟨kept, noProxy, nothing⟩
    unfold cleanStream
    rw [kept, cleanSecurity_of_none nothing]
    exact deleteField_eq_self.mpr noProxy

/-- Stream settings that Xray was sent, and those of the configuration. -/
theorem configStream_agrees_iff {column : JsonColumn} (marshals : column.message.isSome) :
    column.message = (configStream floats column).message ↔ StreamClean floats column := by
  cases column with
  | text content =>
    have isEmpty : content = "" := by
      by_contra notEmpty
      unfold JsonColumn.message at marshals
      dsimp only at marshals
      rw [if_neg notEmpty] at marshals
      cases marshals
    rw [isEmpty]
    exact ⟨fun _ => trivial, fun _ => rfl⟩
  | json value =>
    cases value with
    | null => exact ⟨fun _ => trivial, fun _ => rfl⟩
    | object stream =>
      refine Iff.trans ?_ cleanStream_reprint_iff
      dsimp only [JsonColumn.message, configStream]
      rw [Option.some.injEq, JsonValue.object.injEq]
      exact eq_comm
    | bool truth => exact ⟨nofun, nofun⟩
    | number text => exact ⟨nofun, nofun⟩
    | string text => exact ⟨nofun, nofun⟩
    | array elements => exact ⟨nofun, nofun⟩

end Streams

/-! ## What the calls send -/

section Calls

variable {api : XrayAPI} {store next : XrayStore} {inbound runtime : XrayInbound}
  {pushed : Pushed} {sent : InboundMessage} {newID : Int} {stats : List ClientTraffic}
  {settings : JsonColumn} {clients : List ModelClient}

theorem push_eq_some (isSent : api.push inbound = some sent) :
    sent = genXrayInboundConfig inbound ∧ sent.streamSettings.message.isSome := by
  unfold XrayAPI.push at isSent
  dsimp only at isSent
  split at isSent
  · rename_i taken
    cases isSent
    unfold InboundMessage.marshals at taken
    simp only [Bool.and_eq_true] at taken
    exact ⟨rfl, taken.1.1.2⟩
  · cases isSent

/-- A client that was written as `model.Client` says how it is secured. -/
theorem fields_security (client : ModelClient) :
    client.fields "security" = some (.string client.security) := by
  unfold ModelClient.fields fieldsOfList omitEmpty
  split
  · rfl
  · rfl

theorem usersOf_timestamped
    (decoded : decodeClients api.floats inbound.settings = .ok (clients, settings)) :
    usersOf (timestampedSettings api clients settings) =
      clients.map fun client => .object (withTimestamp api.now client).fields := by
  cases clients with
  | nil =>
    obtain ⟨_, sameLength, keptLength⟩ := decodeClients_keeps decoded
    exact List.length_eq_zero_iff.mp (keptLength.trans sameLength.symm)
  | cons client rest =>
    obtain ⟨noClients, _⟩ | ⟨fields, elements, _, _, _, rfl⟩ := decodeClients_eq_ok decoded
    · cases noClients
    · exact usersOf_setField _

theorem XrayStore.createTraffic_inbounds {row : ClientTraffic}
    (created : store.createTraffic row = .ok next) : next.inbounds = store.inbounds := by
  obtain ⟨_, _, isNext⟩ := bind_eq_ok.mp created
  cases pure_eq_ok.mp isNext
  rfl

theorem XrayStore.delClientStat_inbounds {email : String}
    (deleted : store.delClientStat email = .ok next) : next.inbounds = store.inbounds := by
  obtain ⟨_, _, isNext⟩ := bind_eq_ok.mp deleted
  cases pure_eq_ok.mp isNext
  rfl

theorem XrayStore.updateClientTraffics_inbounds {inboundID : Int}
    {oldClients newClients : List ModelClient}
    (updated : store.updateClientTraffics inboundID oldClients newClients = .ok next) :
    next.inbounds = store.inbounds := by
  obtain ⟨middle, deleted, created⟩ := bind_eq_ok.mp updated
  have afterDeletes : middle.inbounds = store.inbounds :=
    foldlM_keeps (·.inbounds = store.inbounds)
      (fun _ _ _ _ same ran => (delClientStat_inbounds ran).trans same) rfl deleted
  exact foldlM_keeps (·.inbounds = store.inbounds)
    (fun _ _ _ _ same ran => (createTraffic_inbounds ran).trans same) afterDeletes created

/-- `AddInbound` drops the errors of `AddClientStat`. -/
theorem XrayStore.addedClientStats_inbounds (inboundID : Int) (clients : List ModelClient) :
    (clients.foldl (fun store client =>
      ((store.addClientStat inboundID client).toOption).getD store) store).inbounds =
      store.inbounds := by
  induction clients generalizing store with
  | nil => rfl
  | cons client rest inductionHypothesis =>
    rw [List.foldl_cons, inductionHypothesis]
    cases added : store.addClientStat inboundID client with
    | error message => rfl
    | ok next => exact createTraffic_inbounds added

theorem XrayStore.withID_eq_ok {row : XrayInbound} (hasID : store.withID newID inbound = .ok row) :
    row = { inbound with id := row.id } := by
  unfold XrayStore.withID at hasID
  split at hasID
  · cases hasID
    rfl
  · split at hasID
    · cases hasID
    · cases hasID
      rfl

theorem find?_written {rows : Table XrayInbound UniqueXrayInbounds} {row : XrayInbound}
    (member : row ∈ rows.rows) : rows.rows.find? (·.id = row.id) = some row :=
  find?_key_of_mem rows.valid.1 member

/-- What `AddInbound` sends, and the row that it leaves. -/
theorem pushAddInbound_sent (ran : pushAddInbound api newID inbound stats store = .ok pushed)
    (isSent : pushed.sent = some sent) :
    ∃ row clients settings, decodeClients api.floats inbound.settings = .ok (clients, settings) ∧
      pushed.store.inbounds.rows.find? (·.id = pushed.inboundID) = some row ∧
      row.streamSettings = inbound.streamSettings ∧
      row.settings = timestampedSettings api clients settings ∧
      api.push row = some sent := by
  obtain ⟨⟨clients, settings⟩, decoded, ran⟩ := bind_eq_ok.mp ran
  obtain ⟨row, hasID, ran⟩ := bind_eq_ok.mp ran
  obtain ⟨inbounds, written, ran⟩ := bind_eq_ok.mp ran
  obtain ⟨after, created, ran⟩ := bind_eq_ok.mp ran
  cases pure_eq_ok.mp ran
  have isRow := XrayStore.withID_eq_ok hasID
  have afterStats : after.inbounds = inbounds :=
    foldlM_keeps (·.inbounds = inbounds)
      (fun _ _ _ _ same ran => (XrayStore.createTraffic_inbounds ran).trans same) rfl created
  have found : inbounds.rows.find? (·.id = row.id) = some row := by
    refine find?_written ?_
    rw [Table.write_eq_ok.mp written]
    exact (upsertRow_perm row store.inbounds.valid.1).mem_iff.mpr List.mem_cons_self
  refine ⟨row, clients, settings, decoded, ?_, by rw [isRow], by rw [isRow], ?_⟩
  · dsimp only
    split
    · rw [XrayStore.addedClientStats_inbounds, afterStats]
      exact found
    · rw [afterStats]
      exact found
  · dsimp only at isSent
    split at isSent
    · exact isSent
    · cases isSent

/-- What `UpdateInbound` sends, and the row that it leaves. -/
theorem pushUpdateInbound_sent (ran : pushUpdateInbound api inbound store = .ok pushed)
    (isSent : pushed.sent = some sent) :
    ∃ oldInbound oldClients oldSettings newClients settings row stats,
      store.inbounds.rows.find? (·.id = inbound.id) = some oldInbound ∧
      decodeClients api.floats oldInbound.settings = .ok (oldClients, oldSettings) ∧
      decodeClients api.floats inbound.settings = .ok (newClients, settings) ∧
      store.updateClientTraffics oldInbound.id oldClients newClients = .ok stats ∧
      pushed.inboundID = inbound.id ∧
      pushed.store.inbounds.rows.find? (·.id = inbound.id) = some row ∧
      row.id = inbound.id ∧ row.streamSettings = inbound.streamSettings ∧
      row.settings = stampedSettings api oldSettings settings ∧
      pushRuntime api stats row = some sent := by
  obtain ⟨oldInbound, isOld, ran⟩ := bind_eq_ok.mp ran
  obtain ⟨⟨oldClients, oldSettings⟩, oldDecoded, ran⟩ := bind_eq_ok.mp ran
  obtain ⟨⟨newClients, settings⟩, decoded, ran⟩ := bind_eq_ok.mp ran
  obtain ⟨stats, updated, ran⟩ := bind_eq_ok.mp ran
  obtain ⟨inbounds, written, ran⟩ := bind_eq_ok.mp ran
  cases pure_eq_ok.mp ran
  unfold XrayStore.getInbound at isOld
  split at isOld
  · cases isOld
  · rename_i other found
    cases isOld
    have inRows := List.mem_of_find?_eq_some found
    have sameID : oldInbound.id = inbound.id := by simpa using List.find?_some found
    let row : XrayInbound := { inbound with
      settings := stampedSettings api oldSettings settings
      tag := inboundTag inbound.listen inbound.port }
    refine ⟨oldInbound, oldClients, oldSettings, newClients, settings, row, stats, found,
      oldDecoded, decoded, updated, rfl, ?_, rfl, rfl, rfl, ?_⟩
    · dsimp only
      rw [Table.write_eq_ok.mp written, XrayStore.updateClientTraffics_inbounds updated]
      have stored : (replaceRow (·.id) row store.inbounds.rows).find? (·.id = row.id) = some row :=
        find?_replaceRow_self inRows sameID
      exact stored
    · dsimp only at isSent
      split at isSent
      · exact isSent
      · cases isSent

/-- Every client that was stamped says when it was created. -/
theorem withStamps_created (api : XrayAPI) (oldClients : List JsonFields) (client : JsonFields) :
    (withStamps api oldClients client "created_at").isSome := by
  have created : (withCreatedAt api oldClients client "created_at").isSome := by
    unfold withCreatedAt
    split
    · assumption
    · rw [setField_self]
      rfl
  unfold withStamps withUpdatedAt
  split
  · exact created
  · cases positiveStamp api oldClients "updated_at" (withCreatedAt api oldClients client) with
    | none => exact created
    | some updatedAt =>
      dsimp only
      rw [setField_of_ne (by decide)]
      exact created

theorem switchOf_withStamps (oldClients : List JsonFields) (client : JsonFields) :
    switchOf (withStamps api oldClients client) = switchOf client := by
  have created : switchOf (withCreatedAt api oldClients client) = switchOf client := by
    unfold withCreatedAt
    split
    · rfl
    · exact switchOf_setField (by decide) (by decide)
  unfold withStamps withUpdatedAt
  split
  · exact created
  · split
    · rw [switchOf_setField (by decide) (by decide)]
      exact created
    · exact created

/-- The clients of stamped settings, which were decoded without a type. -/
theorem usersOf_stamped (api : XrayAPI) (oldSettings settings : JsonColumn) :
    ∃ oldClients, usersOf (stampedSettings api oldSettings settings) =
      (JsonValue.reprintAll api.floats.float (usersOf settings)).map
        (mapObject (withStamps api oldClients)) := by
  refine ⟨objectsOf ((listedClients (oldSettings.untyped api.floats)).getD []), ?_⟩
  have same := listedClients_untyped_getD api.floats settings
  unfold stampedSettings
  dsimp only
  cases isList : listedClients (settings.untyped api.floats) with
  | none =>
    rw [usersOf_eq_nil isList]
    rfl
  | some clients =>
    rw [isList, Option.getD_some] at same
    rw [← same]
    exact usersOf_setField _

/-- The clients that `UpdateInbound` sends are those that are active, as they are. -/
theorem buildRuntimeInboundForAPI_clients
    (built : buildRuntimeInboundForAPI api store inbound = .ok runtime) :
    runtime.streamSettings = inbound.streamSettings ∧
      usersOf runtime.settings =
        ((objectsOf (JsonValue.reprintAll api.floats.float (usersOf inbound.settings))).filter
          (isActive (store.clientStats inbound.id))).map .object := by
  have same := listedClients_untyped_getD api.floats inbound.settings
  unfold buildRuntimeInboundForAPI at built
  split at built
  · cases built
  · rename_i isNull
    cases built
    rw [isNull]
    exact ⟨rfl, rfl⟩
  · rename_i fields isObject
    rw [isObject] at same ⊢
    dsimp only [JsonColumn.untyped] at same built
    split at built
    · rename_i noList
      cases built
      have nobody : usersOf (.json (.object fields)) = [] := usersOf_eq_nil noList
      rw [isObject, nobody]
      exact ⟨rfl, rfl⟩
    · rename_i clients isList
      cases built
      rw [isList, Option.getD_some] at same
      rw [← same]
      exact ⟨rfl, usersOf_setField _⟩
  · cases built

theorem pushRuntime_stream (isSent : pushRuntime api store inbound = some sent) :
    sent.streamSettings = inbound.streamSettings ∧ sent.streamSettings.message.isSome := by
  unfold pushRuntime at isSent
  split at isSent
  · cases isSent
  · rename_i runtime built
    obtain ⟨rfl, marshals⟩ := push_eq_some isSent
    exact ⟨(buildRuntimeInboundForAPI_clients built).1, marshals⟩

end Calls

/-! ## The rows that `UpdateInbound` leaves -/

section Rows

variable {floats : Floats} {store next : XrayStore} {inboundID : Int} {email : String}
  {oldClients newClients : List ModelClient}

def XrayStore.statOf (store : XrayStore) (inboundID : Int) (email : String) :
    Option ClientTraffic :=
  (store.clientStats inboundID).find? (·.email = email)

theorem statOf_of_mem {row : ClientTraffic} (member : row ∈ store.clientTraffics.rows) :
    store.statOf row.inboundID row.email = some row := by
  have distinct : ((store.clientStats row.inboundID).map (·.email)).Nodup :=
    (List.filter_sublist.map _).nodup store.clientTraffics.valid
  exact find?_key_of_mem distinct (List.mem_filter.mpr ⟨member, by simp⟩)

theorem XrayStore.createTraffic_rows {row : ClientTraffic}
    (created : store.createTraffic row = .ok next) :
    next.clientTraffics.rows = store.clientTraffics.rows ++ [row] := by
  obtain ⟨_, written, isNext⟩ := bind_eq_ok.mp created
  cases pure_eq_ok.mp isNext
  exact Table.write_eq_ok.mp written

theorem XrayStore.delClientStat_rows {other : String} (deleted : store.delClientStat other = .ok next) :
    next.clientTraffics.rows = store.clientTraffics.rows.filter (·.email ≠ other) := by
  obtain ⟨_, written, isNext⟩ := bind_eq_ok.mp deleted
  cases pure_eq_ok.mp isNext
  exact Table.write_eq_ok.mp written

theorem statOf_created {row : ClientTraffic} (created : store.createTraffic row = .ok next)
    (differs : row.email ≠ email) : next.statOf inboundID email = store.statOf inboundID email := by
  unfold XrayStore.statOf XrayStore.clientStats
  rw [XrayStore.createTraffic_rows created, List.filter_append, List.find?_append]
  have absent : ([row].filter (·.inboundID = inboundID)).find? (·.email = email) = none := by
    refine List.find?_eq_none.mpr fun other member => ?_
    rw [List.mem_singleton.mp (List.mem_of_mem_filter member)]
    simpa using differs
  rw [absent, Option.or_none]

theorem statOf_deleted {other : String} (deleted : store.delClientStat other = .ok next)
    (differs : other ≠ email) : next.statOf inboundID email = store.statOf inboundID email := by
  unfold XrayStore.statOf XrayStore.clientStats
  rw [XrayStore.delClientStat_rows deleted, List.filter_filter, List.find?_filter, List.find?_filter]
  congr 1
  funext row
  by_cases same : row.email = email
  · simp [same, differs.symm]
  · simp [same]

/-- The row of a client that stays is the old one. -/
theorem statOf_updated_old
    (updated : store.updateClientTraffics inboundID oldClients newClients = .ok next)
    (isNew : newClients.any (·.email = email)) (isOld : oldClients.any (·.email = email)) :
    next.statOf inboundID email = store.statOf inboundID email := by
  obtain ⟨middle, deleted, created⟩ := bind_eq_ok.mp updated
  have afterDeletes : middle.statOf inboundID email = store.statOf inboundID email := by
    refine foldlM_keeps (·.statOf inboundID email = store.statOf inboundID email)
      (fun before client after member same ran => (statOf_deleted ran ?_).trans same) rfl deleted
    rintro rfl
    exact of_decide_eq_true (List.mem_filter.mp member).2 isNew
  refine foldlM_keeps (·.statOf inboundID email = store.statOf inboundID email)
    (fun before client after member same ran => (statOf_created ran ?_).trans same)
    afterDeletes created
  rintro rfl
  exact of_decide_eq_true (List.mem_filter.mp member).2 isOld

/-- A client that is new has a new row, with its own switch. -/
theorem statOf_updated_new
    (updated : store.updateClientTraffics inboundID oldClients newClients = .ok next)
    {client : ModelClient} (isNew : client ∈ newClients)
    (notOld : ¬ oldClients.any (·.email = client.email)) :
    ∃ row, next.statOf inboundID client.email = some row ∧ row.enable = client.enable := by
  obtain ⟨middle, deleted, created⟩ := bind_eq_ok.mp updated
  let row : ClientTraffic := {
    inboundID
    email := client.email
    total := client.totalGB
    expiryTime := client.expiryTime
    enable := client.enable
    reset := client.reset }
  have stored : row ∈ next.clientTraffics.rows := by
    refine foldlM_reaches (row ∈ ·.clientTraffics.rows)
      (List.mem_filter.mpr ⟨isNew, by simpa using notOld⟩) ?_ ?_ created
    · intro before other after member ran
      rw [XrayStore.createTraffic_rows ran]
      exact List.mem_append_left _ member
    · intro before after ran
      rw [XrayStore.createTraffic_rows ran]
      exact List.mem_append_right _ List.mem_cons_self
  exact ⟨row, statOf_of_mem stored, rfl⟩

theorem decodeString_eq_ok {key text : String} {fields : JsonFields}
    (decoded : decodeString (fields key) = .ok text) : (stringField key fields).getD "" = text := by
  unfold decodeString at decoded
  unfold stringField
  split at decoded
  · rename_i missing
    cases decoded
    rw [missing]
    rfl
  · rename_i isNull
    cases decoded
    rw [isNull]
    rfl
  · rename_i isText
    cases decoded
    rw [isText]
    rfl
  · cases decoded

theorem decodeBool_eq_ok {key : String} {truth : Bool} {fields : JsonFields}
    (decoded : decodeBool (fields key) = .ok truth) :
    (boolField key fields).getD false = truth := by
  unfold decodeBool at decoded
  unfold boolField
  split at decoded
  · rename_i missing
    cases decoded
    rw [missing]
    rfl
  · rename_i isNull
    cases decoded
    rw [isNull]
    rfl
  · rename_i isBool
    cases decoded
    rw [isBool]
    rfl
  · cases decoded

/-- The email and the switch of a client that was decoded. -/
theorem decodeClient_eq_ok {fields : JsonFields} {client : ModelClient}
    (decoded : decodeClient (.object fields) = .ok client) :
    client.email = clientEmail fields ∧ client.enable = (boolField "enable" fields).getD false := by
  unfold decodeClient decodeClient.decodeFields at decoded
  obtain ⟨_, _, decoded⟩ := bind_eq_ok.mp decoded
  obtain ⟨_, _, decoded⟩ := bind_eq_ok.mp decoded
  obtain ⟨_, _, decoded⟩ := bind_eq_ok.mp decoded
  obtain ⟨_, _, decoded⟩ := bind_eq_ok.mp decoded
  obtain ⟨_, _, decoded⟩ := bind_eq_ok.mp decoded
  obtain ⟨_, isEmail, decoded⟩ := bind_eq_ok.mp decoded
  obtain ⟨_, _, decoded⟩ := bind_eq_ok.mp decoded
  obtain ⟨_, _, decoded⟩ := bind_eq_ok.mp decoded
  obtain ⟨_, _, decoded⟩ := bind_eq_ok.mp decoded
  obtain ⟨_, isEnable, decoded⟩ := bind_eq_ok.mp decoded
  obtain ⟨_, _, decoded⟩ := bind_eq_ok.mp decoded
  obtain ⟨_, _, decoded⟩ := bind_eq_ok.mp decoded
  obtain ⟨_, _, decoded⟩ := bind_eq_ok.mp decoded
  obtain ⟨_, _, decoded⟩ := bind_eq_ok.mp decoded
  obtain ⟨_, _, decoded⟩ := bind_eq_ok.mp decoded
  obtain ⟨_, _, decoded⟩ := bind_eq_ok.mp decoded
  cases pure_eq_ok.mp decoded
  exact ⟨(decodeString_eq_ok isEmail).symm, (decodeBool_eq_ok isEnable).symm⟩

theorem mem_objectsOf {elements : List JsonValue} {client : JsonFields} :
    client ∈ objectsOf elements ↔ .object client ∈ elements := by
  unfold objectsOf
  rw [List.mem_filterMap]
  constructor
  · rintro ⟨value, member, isObject⟩
    cases value with
    | object fields =>
      cases isObject
      exact member
    | null => cases isObject
    | bool truth => cases isObject
    | number text => cases isObject
    | string text => cases isObject
    | array elements => cases isObject
  · exact fun member => ⟨_, member, rfl⟩

/-- Every object in the list of clients is decoded, with its email and its switch. -/
theorem decodeClients_finds {settings after : JsonColumn}
    (decoded : decodeClients floats settings = .ok (newClients, after)) {client : JsonFields}
    (member : client ∈ objectsOf (usersOf settings)) :
    ∃ decodedClient ∈ newClients, decodedClient.email = clientEmail client ∧
      decodedClient.enable = (boolField "enable" client).getD false := by
  have switches := (decodeClients_keeps decoded).1
  obtain ⟨rfl, rfl, nobody⟩ | ⟨fields, elements, rfl, isList, read, rfl⟩ :=
    decodeClients_eq_ok decoded
  · rw [nobody] at member
    cases member
  · have inSwitches : switchOf client ∈ VkTurn.Panel.switches (.json (.object fields)) :=
      List.mem_map_of_mem member
    rw [← switches] at inSwitches
    obtain ⟨normalized, isNormalized, same⟩ := List.mem_map.mp inSwitches
    rw [usersOf_setField] at isNormalized
    obtain ⟨decodedClient, isDecoded, reads⟩ :=
      exists_of_mapM_eq_ok read (mem_objectsOf.mp isNormalized)
    obtain ⟨sameEmail, sameSwitch⟩ := Prod.mk.inj same
    obtain ⟨email, enable⟩ := decodeClient_eq_ok reads
    refine ⟨decodedClient, isDecoded, ?_, ?_⟩
    · rw [email, clientEmail, clientEmail, sameEmail]
    · rw [enable, sameSwitch]

end Rows

/-! ## Agreement -/

/-- The emails of the clients that an inbound has before the call. -/
def oldEmails (floats : Floats) (store : XrayStore) (inboundID : Int) : List String :=
  match store.getInbound inboundID with
  | .error _ => []
  | .ok oldInbound =>
    match decodeClients floats oldInbound.settings with
    | .error _ => []
    | .ok (clients, _) => clients.map (·.email)

/-- Whether `UpdateInbound` lets a client through: one that the inbound has by its row and its
    switch, and one that is new if it is switched on. -/
def letsThrough (floats : Floats) (store : XrayStore) (inboundID : Int) (client : JsonFields) :
    Bool :=
  if clientEmail client ∈ oldEmails floats store inboundID then
    isActive (store.clientStats inboundID) client
  else boolField "enable" client = some true

/-- After the rows are updated, the active clients are those that the call lets through. -/
theorem isActive_updated {floats : Floats} {store next : XrayStore} {oldInbound : XrayInbound}
    {oldClients newClients : List ModelClient} {oldSettings settings after : JsonColumn}
    {inboundID : Int} (found : store.inbounds.rows.find? (·.id = inboundID) = some oldInbound)
    (oldDecoded : decodeClients floats oldInbound.settings = .ok (oldClients, oldSettings))
    (decoded : decodeClients floats settings = .ok (newClients, after))
    (updated : store.updateClientTraffics inboundID oldClients newClients = .ok next)
    {client : JsonFields} (member : client ∈ objectsOf (usersOf settings)) :
    isActive (next.clientStats inboundID) client = letsThrough floats store inboundID client := by
  obtain ⟨decodedClient, isNew, email, enable⟩ := decodeClients_finds decoded member
  have isOldEmails : oldEmails floats store inboundID = oldClients.map (·.email) := by
    unfold oldEmails XrayStore.getInbound
    rw [found]
    dsimp only
    rw [oldDecoded]
  have inOld : clientEmail client ∈ oldEmails floats store inboundID ↔
      oldClients.any (·.email = clientEmail client) := by
    rw [isOldEmails, List.any_eq_true]
    simp [List.mem_map]
  unfold letsThrough
  by_cases isOld : clientEmail client ∈ oldEmails floats store inboundID
  · rw [if_pos isOld]
    have present : newClients.any (·.email = clientEmail client) :=
      List.any_eq_true.mpr ⟨decodedClient, isNew, decide_eq_true email⟩
    have same := statOf_updated_old updated present (inOld.mp isOld)
    unfold XrayStore.statOf at same
    unfold isActive
    rw [same]
  · rw [if_neg isOld]
    rw [inOld, ← email] at isOld
    obtain ⟨row, stored, sameSwitch⟩ := statOf_updated_new updated isNew isOld
    unfold XrayStore.statOf at stored
    rw [email] at stored
    unfold isActive manuallyDisabled
    rw [stored, Option.all_some, sameSwitch, enable]
    cases boolField "enable" client with
    | none => rfl
    | some truth => cases truth <;> rfl

inductive InboundCall where
  | add (newID : Int) (inbound : XrayInbound) (clientStats : List ClientTraffic)
  | update (inbound : XrayInbound)

namespace InboundCall

def inbound : InboundCall → XrayInbound
  | .add _ inbound _ => inbound
  | .update inbound => inbound

def run (api : XrayAPI) (store : XrayStore) : InboundCall → Except String Pushed
  | .add newID inbound clientStats => pushAddInbound api newID inbound clientStats store
  | .update inbound => pushUpdateInbound api inbound store

/-- Nobody is sent, and nobody gets into the configuration that is made of `later`. -/
def SendsNobody (floats : Floats) (store later : XrayStore) : InboundCall → Prop
  | .add _ inbound _ => usersOf inbound.settings = []
  | .update inbound => ∀ client ∈ objectsOf (usersOf inbound.settings),
      letsThrough floats store inbound.id client = false ∧
        isActive (later.clientStats inbound.id) client = false

end InboundCall

/-- The same users with the same fields, and the same stream settings. -/
def SentAsConfigured (sent entry : InboundMessage) : Prop :=
  usersOf sent.settings = usersOf entry.settings ∧
    sent.streamSettings.message = entry.streamSettings.message

section Agreement

variable {api : XrayAPI} {call : InboundCall} {store later : XrayStore} {pushed : Pushed}
  {sent entry : InboundMessage}

/-- The entry of an inbound that was stored with these columns. -/
theorem entryOf_refreshed {floats : Floats} {inboundID : Int} {row : XrayInbound}
    (found : store.inbounds.rows.find? (·.id = inboundID) = some row)
    (refreshed : Refreshed floats store later)
    (generated : entryOf floats later inboundID = some entry) :
    ∃ settings, switches settings = switches row.settings ∧
      entry.settings = configSettings floats (later.clientStats inboundID) settings ∧
      entry.streamSettings = configStream floats row.streamSettings := by
  obtain ⟨last, foundLast, sameStream, sameSwitches⟩ := refreshed.found found
  have isID : last.id = inboundID := by simpa using List.find?_some foundLast
  unfold entryOf at generated
  rw [foundLast, Option.bind_some] at generated
  unfold configEntry at generated
  split at generated
  · cases generated
  · split at generated
    · cases generated
    · cases generated
      refine ⟨last.settings, sameSwitches, ?_, ?_⟩
      · rw [← isID]
        rfl
      · rw [← sameStream]
        rfl

/-- `AddInbound` sends the clients that it has just written, which have more keys than the users
    of a configuration. -/
theorem added_users_agree_iff {inbound row : XrayInbound} {clients : List ModelClient}
    {settings last : JsonColumn} {clientStats : List ClientTraffic}
    (decoded : decodeClients api.floats inbound.settings = .ok (clients, settings))
    (isSettings : row.settings = timestampedSettings api clients settings)
    (sameSwitches : switches last = switches row.settings) :
    usersOf row.settings = usersOf (configSettings api.floats clientStats last) ↔
      usersOf inbound.settings = [] := by
  have users := usersOf_timestamped decoded
  rw [← isSettings] at users
  have sameLength := (decodeClients_keeps decoded).2.1
  have haveKey : ∀ user ∈ usersOf row.settings, ∃ fields value,
      user = .object fields ∧ fields "security" = some value := by
    rw [users]
    intro user member
    obtain ⟨client, _, rfl⟩ := List.mem_map.mp member
    exact ⟨_, _, rfl, fields_security _⟩
  rw [users_agree_iff (by decide) haveKey]
  constructor
  · rintro ⟨nobody, _⟩
    rw [users, List.map_eq_nil_iff] at nobody
    rw [nobody] at sameLength
    exact List.length_eq_zero_iff.mp sameLength.symm
  · intro nobody
    rw [nobody] at sameLength
    rw [List.length_eq_zero_iff.mp sameLength] at users
    refine ⟨users, nobodyActive_iff.mpr ?_⟩
    rw [sameSwitches, switches, users]
    exact fun switch member => nomatch member

/-- `UpdateInbound` sends the clients that are active, and each says when it was created. -/
theorem updated_users_agree_iff {inbound row : XrayInbound} {stats : XrayStore}
    {newClients : List ModelClient} {oldSettings settings last : JsonColumn}
    {clientStats : List ClientTraffic}
    (decoded : decodeClients api.floats inbound.settings = .ok (newClients, settings))
    (isSettings : row.settings = stampedSettings api oldSettings settings)
    (isPushed : pushRuntime api stats row = some sent)
    (sameSwitches : switches last = switches row.settings) :
    usersOf sent.settings = usersOf (configSettings api.floats clientStats last) ↔
      NobodyActive (stats.clientStats row.id) inbound.settings ∧
        NobodyActive clientStats inbound.settings := by
  obtain ⟨oldClients, stamped⟩ := usersOf_stamped api oldSettings settings
  rw [← isSettings] at stamped
  unfold pushRuntime at isPushed
  split at isPushed
  · cases isPushed
  · rename_i runtime built
    obtain ⟨rfl, _⟩ := push_eq_some isPushed
    have users := (buildRuntimeInboundForAPI_clients built).2
    have rowSwitches : switches row.settings = switches inbound.settings := by
      rw [← (decodeClients_keeps decoded).1]
      unfold switches
      rw [stamped, objectsOf_mapObject, objectsOf_reprint, List.map_map, List.map_map]
      exact List.map_congr_left fun client _ => (switchOf_withStamps _ _).trans switchOf_reprint
    have haveKey : ∀ user ∈ usersOf runtime.settings, ∃ fields value,
        user = .object fields ∧ fields "created_at" = some value := by
      rw [users, objectsOf_reprint, stamped, objectsOf_mapObject]
      intro user member
      obtain ⟨sentClient, inFilter, rfl⟩ := List.mem_map.mp member
      obtain ⟨stampedClient, inStamped, rfl⟩ := List.mem_map.mp (List.mem_of_mem_filter inFilter)
      obtain ⟨client, _, rfl⟩ := List.mem_map.mp inStamped
      have created := withStamps_created api oldClients client
      obtain ⟨value, isValue⟩ := Option.isSome_iff_exists.mp created
      exact ⟨_, value.reprint api.floats.float, rfl, by rw [reprintFields_apply, isValue]; rfl⟩
    refine (users_agree_iff (by decide) haveKey).trans (and_congr ?_ ?_)
    · rw [users, List.map_eq_nil_iff, objectsOf_reprint,
        filter_active_eq_nil _ fun client => switchOf_reprint]
      exact nobodyActive_congr rowSwitches
    · exact nobodyActive_congr (sameSwitches.trans rowSwitches)

/-- What a call sent is what the configuration has exactly if it sends nobody, and the stream
    settings are clean. -/
theorem sent_as_configured_iff (ran : call.run api store = .ok pushed)
    (isSent : pushed.sent = some sent) (refreshed : Refreshed api.floats pushed.store later)
    (generated : entryOf api.floats later pushed.inboundID = some entry) :
    SentAsConfigured sent entry ↔
      call.SendsNobody api.floats store later ∧
        StreamClean api.floats call.inbound.streamSettings := by
  cases call with
  | add newID inbound clientStats =>
    obtain ⟨row, clients, settings, decoded, found, sameStream, isSettings, isPushed⟩ :=
      pushAddInbound_sent ran isSent
    obtain ⟨last, sameSwitches, entrySettings, entryStream⟩ :=
      entryOf_refreshed found refreshed generated
    obtain ⟨rfl, marshals⟩ := push_eq_some isPushed
    unfold SentAsConfigured
    rw [entrySettings, entryStream]
    refine and_congr (added_users_agree_iff decoded isSettings sameSwitches) ?_
    show _ ↔ StreamClean _ inbound.streamSettings
    rw [← sameStream]
    exact configStream_agrees_iff marshals
  | update inbound =>
    obtain ⟨oldInbound, oldClients, oldSettings, newClients, settings, row, stats, foundOld,
      oldDecoded, decoded, updated, isID, found, rowID, sameStream, isSettings, isPushed⟩ :=
      pushUpdateInbound_sent ran isSent
    rw [isID] at generated
    obtain ⟨last, sameSwitches, entrySettings, entryStream⟩ :=
      entryOf_refreshed found refreshed generated
    obtain ⟨sentStream, marshals⟩ := pushRuntime_stream isPushed
    have oldID : oldInbound.id = inbound.id := by simpa using List.find?_some foundOld
    rw [oldID] at updated
    unfold SentAsConfigured
    rw [entrySettings, entryStream]
    refine and_congr ?_ ?_
    · rw [updated_users_agree_iff decoded isSettings isPushed sameSwitches, rowID]
      unfold NobodyActive InboundCall.SendsNobody
      rw [← forall₂_and]
      refine forall₂_congr fun client member => ?_
      rw [isActive_updated foundOld oldDecoded decoded updated member]
    · show _ ↔ StreamClean _ inbound.streamSettings
      rw [sentStream] at marshals ⊢
      rw [← sameStream]
      exact configStream_agrees_iff marshals

end Agreement

/-! ## Two calls -/

/-- A running Xray that takes everything, and numbers that floats keep. -/
def willingAPI : XrayAPI where
  now := 1700000000000
  floats := ⟨id, fun _ => 0⟩
  ready := true
  accepts _ := true

def emptyRows : XrayStore where
  inbounds := ⟨[], List.nodup_nil, List.nodup_nil⟩
  clientTraffics := ⟨[], List.nodup_nil⟩

def vlessClient (email flow : String) (enable : Bool) : JsonValue :=
  .object (fieldsOfList [("id", .string "7c1e"), ("email", .string email), ("flow", .string flow),
    ("enable", .bool enable)])

def vlessRow (clients : List JsonValue) (streamSettings : JsonColumn) : XrayInbound where
  id := 1
  port := 443
  protocol := ⟨"vless"⟩
  settings := .json (.object (fieldsOfList [("clients", .array clients)]))
  streamSettings
  tag := "inbound-443"

/-- An inbound whose only client has used up its traffic. -/
def depletedRows : XrayStore where
  inbounds := ⟨[vlessRow [vlessClient "a" "" true] (.text "")], by decide⟩
  clientTraffics := ⟨[{ inboundID := 1, enable := false, email := "a" }], by decide⟩

theorem sent_as_configured_depleted :
    ∃ pushed sent entry,
      (InboundCall.update (vlessRow [vlessClient "a" "" true] (.text ""))).run willingAPI
        depletedRows = .ok pushed ∧
      pushed.sent = some sent ∧
      entryOf willingAPI.floats pushed.store pushed.inboundID = some entry ∧
      SentAsConfigured sent entry := by
  obtain ⟨pushed, sent, entry, ran, isSent, generated, stats⟩ : ∃ pushed sent entry,
      (InboundCall.update (vlessRow [vlessClient "a" "" true] (.text ""))).run willingAPI
        depletedRows = .ok pushed ∧
      pushed.sent = some sent ∧
      entryOf willingAPI.floats pushed.store pushed.inboundID = some entry ∧
      pushed.store.clientStats 1 = [{ inboundID := 1, enable := false, email := "a" }] :=
    ⟨_, _, _, rfl, rfl, rfl, by decide +kernel⟩
  refine ⟨pushed, sent, entry, ran, isSent, generated,
    (sent_as_configured_iff ran isSent Relation.ReflTransGen.refl generated).mpr ⟨?_, trivial⟩⟩
  intro client member
  cases List.mem_singleton.mp member
  refine ⟨by decide +kernel, ?_⟩
  show isActive (pushed.store.clientStats 1) _ = false
  rw [stats]
  decide +kernel

/-- `AddInbound` sends a client that is switched off, and stream settings that only the panel
    reads. -/
theorem disabled_client_sent :
    ∃ pushed sent entry,
      (InboundCall.add 1 (vlessRow [vlessClient "a" "xtls-rprx-vision-udp443" true,
        vlessClient "b" "" false]
        (.json (.object (fieldsOfList [("externalProxy", .array [])])))) []).run willingAPI emptyRows =
          .ok pushed ∧
      pushed.needRestart = false ∧ pushed.sent = some sent ∧
      entryOf willingAPI.floats pushed.store pushed.inboundID = some entry ∧
      (objectsOf (usersOf sent.settings)).map clientEmail = ["a", "b"] ∧
      (objectsOf (usersOf entry.settings)).map clientEmail = ["a"] ∧
      ¬ SentAsConfigured sent entry := by
  refine ⟨_, _, _, rfl, rfl, rfl, rfl, by decide +kernel, by decide +kernel, fun agree => ?_⟩
  have sameEmails := congrArg (fun clients => (objectsOf clients).map clientEmail) agree.1
  exact absurd sameEmails (by decide +kernel)

end VkTurn.Panel
