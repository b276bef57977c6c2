import VkTurn.Flags.ParseInt
import VkTurn.Panel.Inbounds

/-! # The calls on clients

`AddInboundClient`, `UpdateInboundClient` and `CopyInboundClients`.  The first two hand over to
calls of their own where the inbound has VK TURN clients or WireGuard peers.

The running Xray and the restart flag are left out, but for the panic of a call that finds no
process.  A panic ends in the deferred function like any other return, so what was written before
is committed.
-/

namespace VkTurn.Panel

open VkTurn.Store
open VkTurn.Text (trimSpace roundFloat64)
open VkTurn.Flags (splitSign parseDigits)

/-- The statements of a call on clients of Xray's own protocols.  `method` is the look for the
    cipher in the settings of a Shadowsocks inbound, which the settings here do not hold. -/
inductive XrayClientSite where
  | inbound
  | emails
  | createStat (email : String)
  | updateStat
  | updateIps
  | deleteStat
  | deleteIps
  | method
  | save
  | commit
  deriving DecidableEq

/-- Which statements fail, of the call itself and of the calls it may hand over to. -/
structure ClientFaults where
  own : XrayClientSite → Bool
  vkTurn : Faults
  peer : PeerSite → Bool

/-- `strconv.Atoi`. -/
def atoi (text : String) : Except String Int :=
  let (negative, digits) := splitSign text.toList
  if digits = [] ∨ '_' ∈ digits then .error "invalid syntax"
  else match parseDigits 10 digits 0 with
    | none => .error "invalid syntax"
    | some value =>
      let number : Int := if negative then -value else value
      if -2 ^ 63 ≤ number ∧ number < 2 ^ 63 then .ok number else .error "value out of range"

/-! ## Clients in settings -/

/-- The clients that untyped JSON holds as a list. -/
def rawClients : Settings → Option (List Client)
  | .vkTurnProxy settings =>
    if settings.clients = [] then none else some (settings.clients.map toModelClient)
  | .clients clients => some clients
  | .wireguard _ => none
  | .text _ => none

/-- A client of Xray's own protocols that is read as one of VK TURN. -/
def fromModelClient (client : Client) : VKTurnProxyClient where
  id := client.id
  email := client.email
  enable := client.enable
  totalGB := client.totalGB
  expiryTime := client.expiryTime
  reset := client.reset
  subID := client.subID
  link := ""
  peerPublicKey := ""

def fitsVKTurnProxyClient (client : VKTurnProxyClient) : Bool :=
  [client.limitIP, client.totalGB, client.expiryTime, client.tgID, client.reset, client.createdAt,
    client.updatedAt, (client.peer.map (·.keepAlive)).getD 0].all fitsInt64

/-- `getVKTurnProxyClientEnvelope`. -/
def getVKTurnProxyClientEnvelope : Settings → Envelope
  | .vkTurnProxy settings =>
    if settings.clients.all fitsVKTurnProxyClient then .ok settings.clients
    else .error "json: cannot unmarshal number"
  | .clients clients =>
    if (clients.map fromModelClient).all fitsVKTurnProxyClient then
      .ok (clients.map fromModelClient)
    else .error "json: cannot unmarshal number"
  | .wireguard _ => .ok []
  | .text _ => .error "invalid character"

/-- The stored settings with clients behind their own, unless there is no list to append to. -/
def appendClients (settings : Settings) (clients : List Client) : Option Settings :=
  match rewriteUntyped settings with
  | .vkTurnProxy stored =>
    if stored.clients = [] then none
    else
      let added := clients.map (roundVKTurnProxyClient ∘ fromModelClient)
      some (.vkTurnProxy { stored with clients := stored.clients ++ added })
  | .clients stored => some (.clients (stored ++ clients.map roundClient))
  | .wireguard _ => none
  | .text _ => none

/-- The stored settings with another client in one place. -/
def setClient (settings : Settings) (index : Nat) (client : Client) : Settings :=
  match rewriteUntyped settings with
  | .vkTurnProxy stored => .vkTurnProxy { stored with
      clients := stored.clients.set index (roundVKTurnProxyClient (fromModelClient client)) }
  | .clients stored => .clients (stored.set index (roundClient client))
  | settings => settings

variable (library : Library) (faults : ClientFaults) (clock : Clock) (running : Bool)

/-- The end of a call, whose last statement does not set the variable that decides on the commit. -/
def endsWith (db stats : Database) (saved : Except String Database) :
    Except String Unit × Database :=
  match saved with
  | .error message => (.error message, if faults.own .commit then db else stats)
  | .ok next => (.ok (), if faults.own .commit then db else next)

/-! ## AddInboundClient -/

/-- `AddInboundClient` before its first write. -/
def checkedClients (db : Database) (oldInbound : Inbound) (data : Settings) :
    Except String (List Client × Settings) := do
  let clients ← getClients data
  if rawClients data = none then throw (newError ["clients is empty"])
  let existEmail ← checkEmailsExistForClients library db (faults.own .emails) (clients.map (·.email))
  if existEmail ≠ "" then throw (newError ["Duplicate email:", existEmail])
  secureClients oldInbound.protocol clients
  match appendClients oldInbound.settings clients with
  | none => throw "panic: interface conversion"
  | some settings => return (clients, settings)

/-- A Shadowsocks client that is told to Xray with a cipher that the settings do not name. -/
def methodPanics (oldInbound : Inbound) (client : Client) : Bool :=
  client.enable ∧ oldInbound.protocol.name = "shadowsocks" ∧ faults.own .method

/-- The rows of new clients; errors are dropped.  The flag tells of a panic on the way. -/
def addClientRows (oldInbound : Inbound) : List Client → Database → Bool × Database
  | [], db => (false, db)
  | client :: rest, db =>
    if client.email = "" then addClientRows oldInbound rest db
    else
      let next := match addClientStat db (faults.own (.createStat client.email)) oldInbound.id
          client with
        | .ok next => next
        | .error _ => db
      if methodPanics faults oldInbound client then (true, next)
      else addClientRows oldInbound rest next

def storeClients (oldInbound : Inbound) (clients : List Client) (settings : Settings) :
    Program Database Unit := fun db =>
  if ¬ running then (.error "panic: nil pointer dereference", db)
  else match addClientRows faults oldInbound clients db with
    | (true, stats) => (.error "panic: interface conversion",
        if faults.own .commit then db else stats)
    | (false, stats) => endsWith faults db stats
        (attempt (faults.own .save) (stats.saveInbound { oldInbound with settings }))

def addInboundClient (inboundID : Int) (data : Settings) : Program Database Unit := do
  let oldInbound ← query (·.getInbound (faults.own .inbound) inboundID)
  if oldInbound.protocol = .vkTurnProxy then
    addVKTurnProxyClient library faults.vkTurn clock inboundID (getVKTurnProxyClientEnvelope data)
  else if oldInbound.protocol = .wireguard then
    addInboundPeer library faults.peer inboundID data
  else do
    let (clients, settings) ← query fun db => checkedClients library faults db oldInbound data
    storeClients faults running oldInbound clients settings

/-! ## UpdateInboundClient -/

/-- What `UpdateInboundClient` has found before its first write. -/
structure ClientUpdate where
  client : Client
  oldEmail : String
  settings : Settings

/-- `UpdateInboundClient` before its first write. -/
def checkedClient (db : Database) (oldInbound : Inbound) (data : Settings) (clientID : String) :
    Except String ClientUpdate := do
  let clients ← getClients data
  if rawClients data = none then throw (newError ["clients is empty"])
  match clients with
  | [] => throw (newError ["clients is empty"])
  | client :: _ =>
    let oldClients ← getClients oldInbound.settings
    match oldClients.findIdx? (clientKey oldInbound.protocol · = clientID) with
    | none => throw (newError ["empty client ID"])
    | some index =>
      if clientKey oldInbound.protocol client = "" then throw (newError ["empty client ID"])
      let oldEmail := (oldClients[index]?.map (·.email)).getD ""
      if client.email ≠ "" ∧ client.email ≠ oldEmail then
        let existEmail ← checkEmailsExistForClients library db (faults.own .emails)
          (clients.map (·.email))
        if existEmail ≠ "" then throw (newError ["Duplicate email:", existEmail])
      return { client, oldEmail, settings := setClient oldInbound.settings index client }

def updateClientRows (db : Database) (inboundID : Int) (oldEmail : String) (client : Client) :
    Except String Database :=
  if client.email ≠ "" then
    if oldEmail ≠ "" then do
      let db ← attempt (faults.own .updateStat) <| db.updateTraffic oldEmail fun row => { row with
        enable := client.enable
        email := client.email
        total := client.totalGB
        expiryTime := client.expiryTime
        reset := client.reset }
      attempt (faults.own .updateIps) (db.renameClientIps oldEmail client.email)
    else match addClientStat db (faults.own (.createStat client.email)) inboundID client with
      | .ok next => .ok next
      | .error _ => .ok db
  else do
    let db ← delClientStat db (faults.own .deleteStat) oldEmail
    attempt (faults.own .deleteIps) (db.deleteClientIps oldEmail)

def storeClient (oldInbound : Inbound) (update : ClientUpdate) : Program Database Unit := fun db =>
  match updateClientRows faults db oldInbound.id update.oldEmail update.client with
  | .error message => (.error message, db)
  | .ok stats =>
    if update.oldEmail ≠ "" ∧ (running = false ∨ methodPanics faults oldInbound update.client) then
      (.error "panic", if faults.own .commit then db else stats)
    else endsWith faults db stats <| attempt (faults.own .save) <|
      stats.saveInbound { oldInbound with settings := update.settings }

def updateInboundClient (inboundID : Int) (data : Settings) (clientID : String) :
    Program Database Unit := do
  let oldInbound ← query (·.getInbound (faults.own .inbound) inboundID)
  if oldInbound.protocol = .vkTurnProxy then
    updateVKTurnProxyClient library faults.vkTurn clock inboundID
      (getVKTurnProxyClientEnvelope data) clientID
  else if oldInbound.protocol = .wireguard then
    match atoi clientID with
    | .error _ => throw (newError ["wireguard peer index is invalid:", clientID])
    | .ok peerIndex => updateInboundPeer library faults.peer inboundID data peerIndex
  else do
    let update ← query fun db => checkedClient library faults db oldInbound data clientID
    storeClient faults running oldInbound update

/-! ## CopyInboundClients -/

/-- The statements of a copy: its own reads, and those of the calls it makes. -/
structure CopyFaults where
  target : Bool
  source : Bool
  emails : Bool
  /-- Those of the update of each source client, by its place. -/
  writeBack : Nat → ClientFaults
  add : ClientFaults

/-- `getClientPrimaryKey`. -/
def getClientPrimaryKey (protocol : Protocol) (client : Client) : String :=
  if protocol.name = "trojan" then client.password
  else if protocol.name = "shadowsocks" then client.email
  else if protocol.name = "hysteria" then client.auth
  else client.id

/-- The credentials of a copy; `credential` is a new UUID. -/
def buildTargetClientFromSource (source : Client) (targetProtocol : Protocol)
    (email credential : String) : Client :=
  let random :=
    if targetProtocol.name = "vmess" ∨ targetProtocol.name = "vless" then credential
    else credential.replace "-" ""
  let target := { source with email, id := "", password := "", auth := "" }
  if targetProtocol.name = "trojan" ∨ targetProtocol.name = "shadowsocks" then
    { target with password := random }
  else if targetProtocol.name = "hysteria" then { target with auth := random }
  else { target with id := random }

/-- The candidates are all different, so one more than the occupied emails are enough. -/
def nextAvailableFrom (base : String) (occupied : List String) : Nat → Nat → String
  | 0, suffix => base ++ "_" ++ toString suffix
  | fuel + 1, suffix =>
    let candidate := if suffix = 0 then base else base ++ "_" ++ toString suffix
    if library.toLower candidate ∈ occupied then
      nextAvailableFrom base occupied fuel (suffix + 1)
    else candidate

def nextAvailableCopiedEmail (originalEmail : String) (targetID : Int) (occupied : List String) :
    String :=
  nextAvailableFrom library (originalEmail ++ "_" ++ toString targetID) occupied
    (occupied.length + 1) 0

/-- The emails that a copy must not take; the quotes of a JSON text are trimmed. -/
def occupiedEmails (allEmails : List String) : List String :=
  ((allEmails.map fun email => (email.dropWhile (· = '"')).dropEndWhile (· = '"')).map
    (·.copy)).filter (· ≠ "") |>.map library.toLower

/-- Whether a program succeeds, which leaves what it leaves. -/
def succeeds (program : Program Database Unit) : Program Database Bool := fun db =>
  match program db with
  | (.ok _, next) => (.ok true, next)
  | (.error _, next) => (.ok false, next)

section Copy

variable (copyFaults : CopyFaults) (credential : String → String) (sourceInbound : Inbound)
  (targetInbound : Inbound) (allowedEmails : List String)

/-- The source clients from `place` on, with what is to be added for those before. -/
def copyClients : Nat → List String → List Client → List Client → Program Database (List Client)
  | _, _, [], newClients => return newClients
  | place, occupied, source :: rest, newClients => do
    let originalEmail := trimSpace source.email
    if originalEmail = "" ∨
        (allowedEmails ≠ [] ∧ library.toLower originalEmail ∉ allowedEmails) then
      copyClients (place + 1) occupied rest newClients
    else
      -- a client without a subscription id gets one, and without that it is not copied
      let subID := if source.subID = "" then credential source.email else source.subID
      let clientID := getClientPrimaryKey sourceInbound.protocol source
      let written ←
        if source.subID ≠ "" then pure true
        else if clientID = "" then pure false
        else succeeds (updateInboundClient library (copyFaults.writeBack place) clock running
          sourceInbound.id (.clients [{ source with subID }]) clientID)
      if written then
        let email := nextAvailableCopiedEmail library originalEmail targetInbound.id occupied
        let target := buildTargetClientFromSource { source with subID } targetInbound.protocol email
          (credential email)
        copyClients (place + 1) (library.toLower email :: occupied) rest (newClients ++ [target])
      else copyClients (place + 1) occupied rest newClients

end Copy

def copyInboundClients (copyFaults : CopyFaults) (credential : String → String)
    (targetInboundID sourceInboundID : Int) (clientEmails : List String) :
    Program Database Unit := do
  if targetInboundID = sourceInboundID then
    throw (newError ["source and target inbounds must be different"])
  let targetInbound ← query (·.getInbound copyFaults.target targetInboundID)
  let sourceInbound ← query (·.getInbound copyFaults.source sourceInboundID)
  let sourceClients ← query fun _ => getClients sourceInbound.settings
  if sourceClients = [] then return
  let allEmails ← query (·.getAllEmails copyFaults.emails)
  let newClients ← copyClients library clock running copyFaults credential sourceInbound
    targetInbound (clientEmails.map (library.toLower ∘ trimSpace)) 0
    (occupiedEmails library allEmails) sourceClients []
  if newClients = [] then return
  addInboundClient library copyFaults.add clock running targetInboundID (.clients newClients)

end VkTurn.Panel
