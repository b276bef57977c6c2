import VkTurn.Panel.XrayClients
import VkTurn.Text.JsonValue

/-! # The inbounds that Xray gets

An inbound comes to Xray in two ways.  `AddInbound` and `UpdateInbound` send it to the running
process; `GetXrayConfig` writes it into the configuration of the next one.  Here the columns of an
inbound are the JSON that they hold, with every key.

What the calls refuse before they write (a port or an email that is taken, an empty id) is left
out, and so are statements of the database that fail by themselves.
-/

namespace VkTurn.Panel

open VkTurn.Store
open VkTurn.Text (JsonValue JsonFields stringField boolField objectField fieldsOfList setField
  deleteField reprintFields trimSpace)

/-! ## Columns -/

/-- A column that should hold JSON, and may hold another text. -/
inductive JsonColumn where
  | json (value : JsonValue)
  | text (text : String)

/-- Go's floats, by their texts: the one that a number is read as, and what it is as an `int64`. -/
structure Floats where
  float : String → String
  int64 : String → Int

namespace JsonColumn

/-- The `map[string]any` a column is decoded into, which stays empty where it does not fit. -/
def untyped (floats : Floats) : JsonColumn → JsonFields
  | .json (.object fields) => reprintFields floats.float fields
  | _ => fun _ => none

/-- `RawMessage.MarshalJSON` in a struct: an empty text is `null`, and what is not JSON fails. -/
def message : JsonColumn → Option JsonValue
  | .json value => some value
  | .text content => if content = "" then some .null else none

end JsonColumn

/-- A row of `inbounds`, as far as Xray gets to see it. -/
structure XrayInbound where
  id : Int
  enable : Bool := true
  listen : String := ""
  port : Int
  protocol : Protocol
  settings : JsonColumn
  streamSettings : JsonColumn := .text ""
  tag : String
  sniffing : JsonColumn := .text ""

def UniqueXrayInbounds (rows : List XrayInbound) : Prop :=
  (rows.map (·.id)).Nodup ∧ (rows.map (·.tag)).Nodup

instance : DecidablePred UniqueXrayInbounds := fun _ => inferInstanceAs (Decidable (_ ∧ _))

structure XrayStore where
  inbounds : Table XrayInbound UniqueXrayInbounds
  clientTraffics : Table ClientTraffic UniqueTraffics

def isXrayManagedProtocol (protocol : Protocol) : Bool := protocol ≠ .vkTurnProxy

/-! ## Clients -/

/-- The list under `clients` in decoded settings. -/
def listedClients (settings : JsonFields) : Option (List JsonValue) :=
  match settings "clients" with
  | some (.array clients) => some clients
  | _ => none

/-- The elements of a list that are objects. -/
def objectsOf (elements : List JsonValue) : List JsonFields := elements.filterMap JsonValue.object?

def clientEmail (client : JsonFields) : String := (stringField "email" client).getD ""

def manuallyDisabled (client : JsonFields) : Bool := boolField "enable" client = some false

/-- A client that both ways let through: its row, if it has one, and its own switch are on. -/
def isActive (clientStats : List ClientTraffic) (client : JsonFields) : Bool :=
  (clientStats.find? (·.email = clientEmail client)).all (·.enable) && !manuallyDisabled client

def XrayStore.clientStats (store : XrayStore) (inboundID : Int) : List ClientTraffic :=
  store.clientTraffics.rows.filter (·.inboundID = inboundID)

/-! ## Decoding clients -/

/-- `model.Client`. -/
structure ModelClient where
  id : String
  security : String
  password : String
  flow : String
  auth : String
  email : String
  limitIP : Int
  totalGB : Int
  expiryTime : Int
  enable : Bool
  tgID : Int
  subID : String
  comment : String
  reset : Int
  createdAt : Int
  updatedAt : Int
  deriving DecidableEq

def decodeString : Option JsonValue → Except String String
  | none => .ok ""
  | some .null => .ok ""
  | some (.string text) => .ok text
  | some _ => .error "json: cannot unmarshal into Go struct field of type string"

def decodeInt : Option JsonValue → Except String Int
  | none => .ok 0
  | some .null => .ok 0
  | some (.number text) => atoi text
  | some _ => .error "json: cannot unmarshal into Go struct field of type int64"

def decodeBool : Option JsonValue → Except String Bool
  | none => .ok false
  | some .null => .ok false
  | some (.bool value) => .ok value
  | some _ => .error "json: cannot unmarshal into Go struct field of type bool"

def decodeClient : JsonValue → Except String ModelClient
  | .null => decodeFields fun _ => none
  | .object fields => decodeFields fields
  | _ => .error "json: cannot unmarshal into Go value of type model.Client"
where
  decodeFields (fields : JsonFields) : Except String ModelClient := do
    let id ← decodeString (fields "id")
    let security ← decodeString (fields "security")
    let password ← decodeString (fields "password")
    let flow ← decodeString (fields "flow")
    let auth ← decodeString (fields "auth")
    let email ← decodeString (fields "email")
    let limitIP ← decodeInt (fields "limitIp")
    let totalGB ← decodeInt (fields "totalGB")
    let expiryTime ← decodeInt (fields "expiryTime")
    let enable ← decodeBool (fields "enable")
    let tgID ← decodeInt (fields "tgId")
    let subID ← decodeString (fields "subId")
    let comment ← decodeString (fields "comment")
    let reset ← decodeInt (fields "reset")
    let createdAt ← decodeInt (fields "created_at")
    let updatedAt ← decodeInt (fields "updated_at")
    return { id, security, password, flow, auth, email, limitIP, totalGB, expiryTime, enable, tgID,
             subID, comment, reset, createdAt, updatedAt }

def intValue (number : Int) : JsonValue := .number (toString number)

def omitEmpty (key text : String) : List (String × JsonValue) :=
  if text = "" then [] else [(key, .string text)]

def omitZero (key : String) (number : Int) : List (String × JsonValue) :=
  if number = 0 then [] else [(key, intValue number)]

/-- The object that a client is written as. -/
def ModelClient.fields (client : ModelClient) : JsonFields :=
  fieldsOfList <|
    omitEmpty "id" client.id ++ [("security", .string client.security)] ++
    omitEmpty "password" client.password ++ omitEmpty "flow" client.flow ++
    omitEmpty "auth" client.auth ++
    [("email", .string client.email), ("limitIp", intValue client.limitIP),
      ("totalGB", intValue client.totalGB), ("expiryTime", intValue client.expiryTime),
      ("enable", .bool client.enable), ("tgId", intValue client.tgID),
      ("subId", .string client.subID), ("comment", .string client.comment),
      ("reset", intValue client.reset)] ++
    omitZero "created_at" client.createdAt ++ omitZero "updated_at" client.updatedAt

/-- The new `tgId` of a client in which it is `null` or a text. -/
def normalizedTGID (client : JsonFields) : Option JsonFields :=
  match client "tgId" with
  | some .null => some (setField "tgId" (intValue 0) client)
  | some (.string text) =>
    match atoi (trimSpace text) with
    | .ok tgID => some (setField "tgId" (intValue tgID) client)
    | .error _ => some (setField "tgId" (intValue 0) client)
  | _ => none

/-- `normalizeClientTGIDInMap` on a client that was decoded without a type. -/
def normalizeClient (floats : Floats) : JsonValue → JsonValue
  | .object client =>
    let client := reprintFields floats.float client
    .object ((normalizedTGID client).getD client)
  | client => client

def changesTGID : JsonValue → Bool
  | .object client => (normalizedTGID client).isSome
  | _ => false

/-- `GetClients` on the settings of an `XrayInbound`: what it decodes, and the column as it leaves
    it. -/
def decodeClients (floats : Floats) : JsonColumn → Except String (List ModelClient × JsonColumn)
  | .text text => if trimSpace text = "" then .ok ([], .text text) else .error "invalid character"
  | .json .null => .ok ([], .json .null)
  | .json (.object settings) =>
    match settings "clients" with
    | none => .ok ([], .json (.object settings))
    | some .null => .ok ([], .json (.object settings))
    | some (.array clients) => do
      let changed := clients.any changesTGID
      let clients := if changed then clients.map (normalizeClient floats) else clients
      let decoded ← clients.mapM decodeClient
      return (decoded, .json (.object (setField "clients" (.array clients) settings)))
    | some _ => .error "json: cannot unmarshal into Go value of type []model.Client"
  | .json _ => .error "json: cannot unmarshal into Go value of type map[string]json.RawMessage"

/-! ## The entry of a configuration -/

/-- What is marshalled for Xray of an inbound. -/
structure InboundMessage where
  listen : String
  port : Int
  protocol : String
  settings : JsonColumn
  streamSettings : JsonColumn
  tag : String
  sniffing : JsonColumn

def genXrayInboundConfig (inbound : XrayInbound) : InboundMessage where
  listen := if inbound.listen = "" then "0.0.0.0" else inbound.listen
  port := inbound.port
  protocol := inbound.protocol.name
  settings := inbound.settings
  streamSettings := inbound.streamSettings
  tag := inbound.tag
  sniffing := inbound.sniffing

def userKeys : List String := ["email", "id", "password", "flow", "method", "auth"]

/-- The client config cleared of additional parameters. -/
def cleanClient (client : JsonFields) : JsonFields := fun key =>
  if key ∉ userKeys then none
  else match client key with
  | some (.string text) =>
    if key = "flow" ∧ text = "xtls-rprx-vision-udp443" then some (.string "xtls-rprx-vision")
    else some (.string text)
  | value => value

/-- The `settings` of REALITY stay where there are TLS settings as well. -/
def cleanSecurity (stream : JsonFields) : JsonFields :=
  match objectField "tlsSettings" stream, objectField "realitySettings" stream with
  | some tlsSettings, _ =>
    setField "tlsSettings" (.object (deleteField "settings" tlsSettings)) stream
  | none, some realitySettings =>
    setField "realitySettings" (.object (deleteField "settings" realitySettings)) stream
  | none, none => stream

def cleanStream (stream : JsonFields) : JsonFields :=
  deleteField "externalProxy" (cleanSecurity stream)

section Entries

variable (floats : Floats)

def finalClients (clientStats : List ClientTraffic) (clients : List JsonValue) : List JsonFields :=
  ((objectsOf clients).filter (isActive clientStats)).map cleanClient

/-- No client at all is a nil slice. -/
def configSettings (clientStats : List ClientTraffic) (settings : JsonColumn) : JsonColumn :=
  let fields := settings.untyped floats
  match listedClients fields with
  | none => settings
  | some clients =>
    let final := (finalClients clientStats clients).map .object
    .json (.object (setField "clients" (if final.isEmpty then .null else .array final) fields))

def configStream : JsonColumn → JsonColumn
  | .text content => if content = "" then .text content else .json .null
  | .json (.object stream) => .json (.object (cleanStream (reprintFields floats.float stream)))
  | .json _ => .json .null

/-- The turn of an inbound in the loop of `GetXrayConfig`. -/
def configEntry (store : XrayStore) (inbound : XrayInbound) : Option InboundMessage :=
  if ¬ inbound.enable then none
  else if ¬ isXrayManagedProtocol inbound.protocol then none
  else some (genXrayInboundConfig { inbound with
    settings := configSettings floats (store.clientStats inbound.id) inbound.settings
    streamSettings := configStream floats inbound.streamSettings })

/-- The inbounds of the configuration. -/
def inboundConfigs (store : XrayStore) : List InboundMessage :=
  store.inbounds.rows.filterMap (configEntry floats store)

/-- The entry for the inbound with an id. -/
def entryOf (store : XrayStore) (inboundID : Int) : Option InboundMessage :=
  (store.inbounds.rows.find? (·.id = inboundID)).bind (configEntry floats store)

end Entries

/-! ## The running process -/

/-- What the calls meet: the clock, Go's floats, and the running Xray with its answers. -/
structure XrayAPI where
  now : Int
  floats : Floats
  ready : Bool
  accepts : InboundMessage → Bool

/-- What a call has written and sent, and whether it asks for a restart. -/
structure Pushed where
  store : XrayStore
  inboundID : Int
  sent : Option InboundMessage
  needRestart : Bool

def InboundMessage.marshals (message : InboundMessage) : Bool :=
  message.settings.message.isSome && message.streamSettings.message.isSome &&
    message.sniffing.message.isSome

variable (api : XrayAPI)

/-- `json.MarshalIndent` and `xrayApi.AddInbound`. -/
def XrayAPI.push (inbound : XrayInbound) : Option InboundMessage :=
  let message := genXrayInboundConfig inbound
  if message.marshals && api.accepts message then some message else none

/-! ## Traffic rows -/

namespace XrayStore

variable (store : XrayStore)

def createTraffic (row : ClientTraffic) : Except String XrayStore := do
  let clientTraffics ← Table.write (store.clientTraffics.rows ++ [row])
  return { store with clientTraffics }

def addClientStat (inboundID : Int) (client : ModelClient) : Except String XrayStore :=
  store.createTraffic {
    inboundID
    email := client.email
    total := client.totalGB
    expiryTime := client.expiryTime
    enable := client.enable
    reset := client.reset }

def delClientStat (email : String) : Except String XrayStore := do
  let clientTraffics ← Table.write (store.clientTraffics.rows.filter (·.email ≠ email))
  return { store with clientTraffics }

def updateClientTraffics (inboundID : Int) (oldClients newClients : List ModelClient) :
    Except String XrayStore := do
  let store ← (oldClients.filter fun client => ¬ newClients.any (·.email = client.email)).foldlM
    (fun store client => store.delClientStat client.email) store
  (newClients.filter fun client => ¬ oldClients.any (·.email = client.email)).foldlM
    (fun store client => store.addClientStat inboundID client) store

end XrayStore

/-! ## AddInbound -/

def withTimestamp (now : Int) (client : ModelClient) : ModelClient :=
  { client with
    createdAt := if client.createdAt = 0 then now else client.createdAt
    updatedAt := now }

/-- The settings with the timestamps of their clients, which are written as `model.Client`. -/
def timestampedSettings (clients : List ModelClient) (settings : JsonColumn) : JsonColumn :=
  match clients, settings with
  | [], settings => settings
  | clients, .json (.object fields) =>
    .json (.object (setField "clients" (.array (clients.map fun client =>
      .object (withTimestamp api.now client).fields)) (reprintFields api.floats.float fields)))
  | _, settings => settings

def XrayStore.withID (store : XrayStore) (newID : Int) (inbound : XrayInbound) :
    Except String XrayInbound :=
  if inbound.id ≠ 0 then .ok inbound
  else if store.inbounds.rows.any (·.id = newID) then .error "UNIQUE constraint failed"
  else .ok { inbound with id := newID }

/-- `AddInbound` from its decoding of the clients on; `newID` is the id that the database gives to
    a row without one. -/
def pushAddInbound (newID : Int) (inbound : XrayInbound) (clientStats : List ClientTraffic)
    (store : XrayStore) : Except String Pushed := do
  let (clients, settings) ← decodeClients api.floats inbound.settings
  let inbound ← store.withID newID
    { inbound with settings := timestampedSettings api clients settings }
  let inbounds ← Table.write (upsertRow (·.id) inbound store.inbounds.rows)
  let store ← clientStats.foldlM (fun store stat =>
    store.createTraffic { stat with inboundID := inbound.id }) { store with inbounds }
  let store := if clientStats = [] then
      -- the error of a row that cannot be created is dropped
      clients.foldl (fun store client =>
        ((store.addClientStat inbound.id client).toOption).getD store) store
    else store
  let pushes := inbound.enable && isXrayManagedProtocol inbound.protocol
  let sent := if pushes then api.push inbound else none
  return { store, inboundID := inbound.id, sent, needRestart := pushes && sent.isNone }

/-! ## UpdateInbound -/

def XrayStore.getInbound (store : XrayStore) (inboundID : Int) : Except String XrayInbound :=
  match store.inbounds.rows.find? (·.id = inboundID) with
  | none => .error "record not found"
  | some inbound => .ok inbound

/-- The number under a key of the last old client with the email. -/
def oldStamp (floats : Floats) (oldClients : List JsonFields) (key email : String) : Option Int :=
  (oldClients.filterMap fun client =>
    match client "email", client key with
    | some (.string other), some (.number text) =>
      if other = email then some (floats.int64 text) else none
    | _, _ => none).getLast?

def positiveStamp (oldClients : List JsonFields) (key : String) (client : JsonFields) :
    Option Int :=
  (oldStamp api.floats oldClients key (clientEmail client)).filter (0 < ·)

def withCreatedAt (oldClients : List JsonFields) (client : JsonFields) : JsonFields :=
  if (client "created_at").isSome then client
  else setField "created_at"
    (intValue ((positiveStamp api oldClients "created_at" client).getD api.now)) client

def withUpdatedAt (oldClients : List JsonFields) (client : JsonFields) : JsonFields :=
  if (client "updated_at").isSome then client
  else match positiveStamp api oldClients "updated_at" client with
    | some updatedAt => setField "updated_at" (intValue updatedAt) client
    | none => client

/-- A client with the timestamps it misses. -/
def withStamps (oldClients : List JsonFields) (client : JsonFields) : JsonFields :=
  withUpdatedAt api oldClients (withCreatedAt api oldClients client)

def mapObject (update : JsonFields → JsonFields) : JsonValue → JsonValue
  | .object fields => .object (update fields)
  | value => value

def stampedSettings (oldSettings settings : JsonColumn) : JsonColumn :=
  let oldClients := objectsOf ((listedClients (oldSettings.untyped api.floats)).getD [])
  let fields := settings.untyped api.floats
  match listedClients fields with
  | none => settings
  | some clients =>
    let clients := clients.map (mapObject (withStamps api oldClients))
    .json (.object (setField "clients" (.array clients) fields))

def buildRuntimeInboundForAPI (store : XrayStore) (inbound : XrayInbound) :
    Except String XrayInbound :=
  match inbound.settings with
  | .text _ => .error "invalid character"
  | .json .null => .ok inbound
  | .json (.object settings) =>
    let settings := reprintFields api.floats.float settings
    match listedClients settings with
    | none => .ok inbound
    | some clients =>
      let final := (objectsOf clients).filter (isActive (store.clientStats inbound.id))
      .ok { inbound with
        settings := .json (.object (setField "clients" (.array (final.map .object)) settings)) }
  | .json _ => .error "json: cannot unmarshal into Go value of type map[string]interface \x7b\x7d"

/-- The inbound that `UpdateInbound` sends, if Xray takes it. -/
def pushRuntime (store : XrayStore) (inbound : XrayInbound) : Option InboundMessage :=
  match buildRuntimeInboundForAPI api store inbound with
  | .error _ => none
  | .ok runtime => api.push runtime

/-- `UpdateInbound` from its look for the stored inbound on. -/
def pushUpdateInbound (inbound : XrayInbound) (store : XrayStore) : Except String Pushed := do
  let oldInbound ← store.getInbound inbound.id
  let (oldClients, oldSettings) ← decodeClients api.floats oldInbound.settings
  let (newClients, settings) ← decodeClients api.floats inbound.settings
  let store ← store.updateClientTraffics oldInbound.id oldClients newClients
  let inbound := { inbound with
    settings := stampedSettings api oldSettings settings
    tag := inboundTag inbound.listen inbound.port }
  let managed := isXrayManagedProtocol inbound.protocol
  let pushes := managed && api.ready && inbound.enable
  let sent := if pushes then pushRuntime api store inbound else none
  let inbounds ← Table.write (replaceRow (·.id) inbound store.inbounds.rows)
  return { store := { store with inbounds }, inboundID := inbound.id, sent
           needRestart := (managed && !api.ready) || (pushes && sent.isNone) }

end VkTurn.Panel
