import VkTurn.Panel.ClientCalls

/-! # The calls on inbounds

`AddInbound` and `UpdateInbound` with the rows of the clients in an inbound's settings, and the
calls on the peers of a WireGuard inbound.  The running Xray and the restart flag of the calls are
left out, and so are the timestamps of clients of Xray's own protocols.

Both calls end their transaction in a deferred function that looks at a variable which the last
statement does not set.
-/

namespace VkTurn.Panel

open VkTurn.Store
open VkTurn.Text (trimSpace roundFloat64)

/-! ## The statements of a call -/

inductive InboundSite where
  | port
  | target
  | emails
  | old
  | deleteStat (email : String)
  | createStat (email : String)
  | save
  | commit
  deriving DecidableEq

/-! ## The clients in settings -/

/-- What `GetClients` decodes of a VK TURN client. -/
def toModelClient (client : VKTurnProxyClient) : Client where
  id := client.id
  email := client.email
  enable := client.enable
  totalGB := client.totalGB
  expiryTime := client.expiryTime
  reset := client.reset
  subID := client.subID

def fitsInt64 (number : Int) : Bool := -2 ^ 63 ≤ number ∧ number < 2 ^ 63

def readClient (client : Client) : Except String Client :=
  if fitsInt64 client.totalGB && fitsInt64 client.expiryTime && fitsInt64 client.reset then
    .ok client
  else .error "json: cannot unmarshal number"

def getClients : Settings → Except String (List Client)
  | .vkTurnProxy settings => settings.clients.mapM (readClient ∘ toModelClient)
  | .wireguard _ => .ok []
  | .clients clients => clients.mapM readClient
  | .text text => if trimSpace text = "" then .ok [] else .error "invalid character"

def roundClient (client : Client) : Client :=
  { client with
    totalGB := roundFloat64 client.totalGB
    expiryTime := roundFloat64 client.expiryTime
    reset := roundFloat64 client.reset }

def roundVKTurnProxyClient (client : VKTurnProxyClient) : VKTurnProxyClient :=
  { client with
    limitIP := roundFloat64 client.limitIP
    totalGB := roundFloat64 client.totalGB
    expiryTime := roundFloat64 client.expiryTime
    tgID := roundFloat64 client.tgID
    reset := roundFloat64 client.reset
    createdAt := roundFloat64 client.createdAt
    updatedAt := roundFloat64 client.updatedAt
    peer := client.peer.map fun peer => { peer with keepAlive := roundFloat64 peer.keepAlive } }

def roundOwnNumbers (settings : VKTurnProxySettings) : VKTurnProxySettings :=
  { settings with
    forward := { settings.forward with
      wireguardInboundID := roundFloat64 settings.forward.wireguardInboundID
      port := roundFloat64 settings.forward.port }
    wgMTU := roundFloat64 settings.wgMTU
    threads := roundFloat64 settings.threads
    credsGroupSize := roundFloat64 settings.credsGroupSize }

/-- Settings that were decoded without a type and written again, which the calls only do to those
    that have a list of clients. -/
def rewriteUntyped : Settings → Settings
  | .vkTurnProxy settings =>
    if settings.clients = [] then .vkTurnProxy settings
    else .vkTurnProxy { roundOwnNumbers settings with
      clients := settings.clients.map roundVKTurnProxyClient }
  | .clients clients => .clients (clients.map roundClient)
  | settings => settings

/-- A VK TURN client that was written as a client of Xray, which has no links and no peer. -/
def asModelClient (clock : Clock) (client : VKTurnProxyClient) : VKTurnProxyClient :=
  { client with
    createdAt := if client.createdAt = 0 then clock.now else client.createdAt
    updatedAt := clock.now
    link := ""
    links := []
    linkSecondary := ""
    peerPublicKey := ""
    peerManaged := false
    peer := none }

/-- `AddInbound` writes the clients of new settings again, with their timestamps. -/
def withTimestamps (clock : Clock) : Settings → Settings
  | .vkTurnProxy settings =>
    if settings.clients = [] then .vkTurnProxy settings
    else .vkTurnProxy { roundOwnNumbers settings with
      clients := settings.clients.map (asModelClient clock) }
  | settings => settings

/-! ## Checks -/

section Checks

variable (library : Library) (clock : Clock)

/-- The settings of a VK TURN inbound are checked and written again, those of others are not. -/
def checkedSettings (db : Database) (targetFails : Bool) (inbound : Inbound) :
    Except String Inbound := do
  if inbound.protocol = .vkTurnProxy then
    let settings ← getVKTurnProxySettings clock inbound.settings
    let allowClients := settings.forward.type = .wireguardInbound
    validateVKTurnProxySettings library db targetFails settings allowClients
    return { inbound with settings := .vkTurnProxy settings }
  else return inbound

def checkEmailExistForInbound (db : Database) (fails : Bool) (inbound : Inbound) :
    Except String String := do
  let clients ← getClients inbound.settings
  checkEmailsExistForClients library db fails (clients.map (·.email))

/-- The field of a client that tells it from the others under a protocol. -/
def clientKey (protocol : Protocol) (client : Client) : String :=
  if protocol.name = "trojan" then client.password
  else if protocol.name = "shadowsocks" then client.email
  else if protocol.name = "hysteria" ∨ protocol.name = "hysteria2" then client.auth
  else client.id

def secureClients (protocol : Protocol) (clients : List Client) : Except String Unit :=
  if clients.any (clientKey protocol · = "") then .error (newError ["empty client ID"])
  else .ok ()

end Checks

/-! ## Traffic rows -/

def addClientStat (db : Database) (fails : Bool) (inboundID : Int) (client : Client) :
    Except String Database :=
  attempt fails <| db.createTraffic {
    inboundID
    email := client.email
    total := client.totalGB
    expiryTime := client.expiryTime
    enable := client.enable
    reset := client.reset }

def delClientStat (db : Database) (fails : Bool) (email : String) : Except String Database :=
  attempt fails (db.deleteTraffic email)

section TrafficRows

variable (faults : InboundSite → Bool)

/-- `AddInbound` drops the errors of `AddClientStat`. -/
def addClientStats (db : Database) (inboundID : Int) (clients : List Client) : Database :=
  clients.foldl (fun db client =>
    match addClientStat db (faults (.createStat client.email)) inboundID client with
    | .ok next => next
    | .error _ => db) db

def updateClientTraffics (db : Database) (oldInbound newInbound : Inbound) :
    Except String Database := do
  let oldClients ← getClients oldInbound.settings
  let newClients ← getClients newInbound.settings
  let db ← (oldClients.filter fun client => ¬ newClients.any (·.email = client.email)).foldlM
    (fun db client => delClientStat db (faults (.deleteStat client.email)) client.email) db
  (newClients.filter fun client => ¬ oldClients.any (·.email = client.email)).foldlM
    (fun db client => addClientStat db (faults (.createStat client.email)) oldInbound.id client) db

variable {faults} {db next : Database}

theorem createTraffic_inbounds {row : ClientTraffic} (created : db.createTraffic row = .ok next) :
    next.inbounds = db.inbounds := by
  obtain ⟨_, _, isNext⟩ := bind_eq_ok.mp created
  cases pure_eq_ok.mp isNext
  rfl

theorem deleteTraffic_inbounds {email : String} (deleted : db.deleteTraffic email = .ok next) :
    next.inbounds = db.inbounds := by
  obtain ⟨_, _, isNext⟩ := bind_eq_ok.mp deleted
  cases pure_eq_ok.mp isNext
  rfl

theorem addClientStat_inbounds {fails : Bool} {inboundID : Int} {client : Client}
    (added : addClientStat db fails inboundID client = .ok next) : next.inbounds = db.inbounds :=
  createTraffic_inbounds (attempt_eq_ok.mp added).2

theorem delClientStat_inbounds {fails : Bool} {email : String}
    (deleted : delClientStat db fails email = .ok next) : next.inbounds = db.inbounds :=
  deleteTraffic_inbounds (attempt_eq_ok.mp deleted).2

theorem addClientStats_inbounds (faults : InboundSite → Bool) (db : Database) (inboundID : Int)
    (clients : List Client) : (addClientStats faults db inboundID clients).inbounds = db.inbounds := by
  unfold addClientStats
  induction clients generalizing db with
  | nil => rfl
  | cons client rest inductionHypothesis =>
    rw [List.foldl_cons, inductionHypothesis]
    split
    · rename_i added
      exact addClientStat_inbounds added
    · rfl

theorem updateClientTraffics_inbounds {faults : InboundSite → Bool} {oldInbound newInbound : Inbound}
    (updated : updateClientTraffics faults db oldInbound newInbound = .ok next) :
    next.inbounds = db.inbounds := by
  obtain ⟨_, _, updated⟩ := bind_eq_ok.mp updated
  obtain ⟨_, _, updated⟩ := bind_eq_ok.mp updated
  obtain ⟨middle, deleted, created⟩ := bind_eq_ok.mp updated
  have afterDeletes : middle.inbounds = db.inbounds :=
    foldlM_keeps (·.inbounds = db.inbounds)
      (fun _ _ _ _ same ran => (delClientStat_inbounds ran).trans same) rfl deleted
  exact foldlM_keeps (·.inbounds = db.inbounds)
    (fun _ _ _ _ same ran => (addClientStat_inbounds ran).trans same) afterDeletes created

end TrafficRows

/-! ## AddInbound -/

variable (library : Library) (faults : InboundSite → Bool) (clock : Clock)

/-- `AddInbound` before its first write. -/
def checkedInbound (db : Database) (inbound : Inbound) : Except String (Inbound × List Client) := do
  let exist ← db.checkPortExist (faults .port) inbound.listen inbound.port 0
  if exist then throw (newError ["Port already exists:", toString inbound.port])
  let inbound ← checkedSettings library clock db (faults .target) inbound
  let existEmail ← checkEmailExistForInbound library db (faults .emails) inbound
  if existEmail ≠ "" then throw (newError ["Duplicate email:", existEmail])
  let clients ← getClients inbound.settings
  secureClients inbound.protocol clients
  return ({ inbound with settings := withTimestamps clock inbound.settings }, clients)

/-- `tx.Save` of a new inbound with the traffic rows of the request; `newID` is the id that the
    database gives to a row without one. -/
def saveNewInbound (db : Database) (inbound : Inbound) (clientStats : List ClientTraffic) :
    Except String Database := do
  let db ← db.upsertInbound inbound
  clientStats.foldlM
    (fun db stat => db.createTraffic { stat with inboundID := inbound.id }) db

/-- An inbound that comes without an id gets one that no row has. -/
def Database.withID (db : Database) (newID : Int) (inbound : Inbound) : Except String Inbound :=
  if inbound.id ≠ 0 then .ok inbound
  else if db.inbounds.rows.any (·.id = newID) then .error "UNIQUE constraint failed"
  else .ok { inbound with id := newID }

def addInbound (newID : Int) (inbound : Inbound) (clientStats : List ClientTraffic) :
    Program Database Unit := do
  let (inbound, clients) ← query fun db => checkedInbound library faults clock db inbound
  uncheckedTransaction (faults .commit) fun db => do
    let inbound ← db.withID newID inbound
    let db ← attempt (faults .save) (saveNewInbound db inbound clientStats)
    return if clientStats = [] then addClientStats faults db inbound.id clients else db

/-! ## UpdateInbound -/

/-- `UpdateInbound` before its transaction: the row as requested, and the row as stored. -/
def checkedReplacement (db : Database) (inbound : Inbound) : Except String (Inbound × Inbound) := do
  let exist ← db.checkPortExist (faults .port) inbound.listen inbound.port inbound.id
  if exist then throw (newError ["Port already exists:", toString inbound.port])
  let inbound ← checkedSettings library clock db (faults .target) inbound
  if inbound.protocol = .wireguard then
    let (_, peers) ← getWireguardSettings inbound.settings
    validateWireguardPeers library peers
  let oldInbound ← db.getInbound (faults .old) inbound.id
  return (inbound, oldInbound)

def replacedInbound (oldInbound inbound : Inbound) : Inbound :=
  { oldInbound with
    up := inbound.up
    down := inbound.down
    total := inbound.total
    remark := inbound.remark
    enable := inbound.enable
    expiryTime := inbound.expiryTime
    listen := inbound.listen
    port := inbound.port
    protocol := inbound.protocol
    settings := rewriteUntyped inbound.settings
    tag := inboundTag inbound.listen inbound.port }

/-- The transaction of `UpdateInbound`.  The error of its last statement is returned, but the
    deferred function commits what was written before. -/
def replaceInbound (oldInbound inbound : Inbound) : Program Database Unit := fun db =>
  match updateClientTraffics faults db oldInbound inbound with
  | .error message => (.error message, db)
  | .ok stats =>
    match attempt (faults .save) (stats.saveInbound (replacedInbound oldInbound inbound)) with
    | .error message => (.error message, if faults .commit then db else stats)
    | .ok next => (.ok (), if faults .commit then db else next)

def updateInbound (inbound : Inbound) : Program Database Unit := do
  let (inbound, oldInbound) ← query fun db => checkedReplacement library faults clock db inbound
  replaceInbound faults oldInbound inbound

/-! ## The peers of a WireGuard inbound -/

section Peers

variable (peerFaults : PeerSite → Bool)

def addInboundPeer (inboundID : Int) (data : Settings) : Program Database Unit := do
  let (_, newPeers) ← query fun _ => getWireguardSettings data
  if newPeers = [] then throw (newError ["wireguard peers is empty"])
  mutateWireguardPeers library peerFaults inboundID fun peers => .ok (peers ++ newPeers)

def updateInboundPeer (inboundID : Int) (data : Settings) (peerIndex : Int) :
    Program Database Unit := do
  let (_, newPeers) ← query fun _ => getWireguardSettings data
  match newPeers with
  | [newPeer] =>
    mutateWireguardPeers library peerFaults inboundID fun peers =>
      if peerIndex < 0 ∨ peers.length ≤ peerIndex then
        .error (newError ["wireguard peer index out of range:", toString peerIndex])
      else .ok (peers.set peerIndex.toNat newPeer)
  | _ => throw (newError ["wireguard peer update expects exactly one peer"])

def delInboundPeer (inboundID : Int) (peerIndex : Int) : Program Database Unit :=
  mutateWireguardPeers library peerFaults inboundID fun peers =>
    if peerIndex < 0 ∨ peers.length ≤ peerIndex then
      .error (newError ["wireguard peer index out of range:", toString peerIndex])
    else if peers.length ≤ 1 then
      .error (newError ["no wireguard peer remained in inbound"])
    else .ok (peers.eraseIdx peerIndex.toNat)

end Peers

/-! ## `UpdateInbound` of peers -/

section PeerUpdate

/-- The statements of `UpdateInbound` that an update of peers comes to. -/
def PeerSite.inUpdate : PeerSite → InboundSite
  | inbound => .old
  | port => .port
  | inboundAgain => .old
  | save => .save
  | commit => .commit

variable {library : Library} {faults : InboundSite → Bool} {clock : Clock} {db : Database}
  {inbound : Inbound} {settings : WireguardSettings}

/-- On an inbound without clients, `UpdateInbound` is the transaction that a change of peers
    ends with. -/
theorem updateInbound_wireguard (isWireguard : inbound.protocol = .wireguard)
    (hasPeers : inbound.settings = .wireguard settings)
    (noClients : ∀ oldInbound, db.inbound? inbound.id = some oldInbound →
      getClients oldInbound.settings = .ok []) :
    updateInbound library faults clock inbound db =
      uncheckedTransaction (faults .commit)
        (fun db => updateWireguardInbound library db (faults ∘ PeerSite.inUpdate) inbound) db := by
  have notVKTurn : inbound.protocol ≠ .vkTurnProxy := by
    rw [isWireguard]
    decide
  have sameChecks : checkedSettings library clock db (faults .target) inbound = .ok inbound :=
    if_neg notVKTurn
  have isRewritten : rewriteUntyped inbound.settings = inbound.settings := by
    rw [hasPeers]
    rfl
  have newClients : getClients inbound.settings = .ok [] := by
    rw [hasPeers]
    rfl
  have replaced (oldInbound : Inbound) (found : db.inbound? inbound.id = some oldInbound) :
      replaceInbound faults oldInbound inbound db =
        uncheckedTransaction (faults .commit) (fun db => attempt (faults .save)
          (db.saveInbound (replacedInbound oldInbound inbound))) db := by
    have sameStats : updateClientTraffics faults db oldInbound inbound = .ok db := by
      unfold updateClientTraffics
      rw [noClients oldInbound found, newClients]
      rfl
    unfold replaceInbound uncheckedTransaction
    rw [sameStats]
    dsimp only
    cases attempt (faults .save) (db.saveInbound (replacedInbound oldInbound inbound)) with
    | error message => simp
    | ok next => rfl
  unfold replacedInbound at replaced
  rw [isRewritten] at replaced
  unfold updateInbound updateWireguardInbound uncheckedTransaction query checkedReplacement
  simp only [Function.comp_apply, PeerSite.inUpdate, Bind.bind, ExceptT.bind, StateT.bind,
    ExceptT.mk, ExceptT.bindCont, sameChecks]
  cases db.checkPortExist (faults .port) inbound.listen inbound.port inbound.id with
  | error message => rfl
  | ok exist =>
    cases exist with
    | true => rfl
    | false =>
      simp only [Except.bind, isWireguard, reduceIte, Bool.false_eq_true]
      cases getWireguardSettings inbound.settings with
      | error message => rfl
      | ok read =>
        dsimp only
        cases validateWireguardPeers library read.2 with
        | error message => rfl
        | ok accepted =>
          dsimp only
          cases isOld : db.getInbound (faults .old) inbound.id with
          | error message => rfl
          | ok oldInbound =>
            have same := replaced oldInbound (getInbound_eq_ok.mp isOld).2
            rw [isWireguard] at same
            exact same

end PeerUpdate

end VkTurn.Panel
