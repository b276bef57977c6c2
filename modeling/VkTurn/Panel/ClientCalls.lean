import VkTurn.Panel.WireguardPeers

/-! # The calls on VK TURN clients

`AddVKTurnProxyClient`, `UpdateVKTurnProxyClient`, `SetVKTurnProxyClientEnable` and
`DelVKTurnProxyClient`, with the peers of the WireGuard inbound they keep in step.

A call writes the WireGuard inbound first, in a transaction of its own for each change, and
then the client and its traffic row in another.  The running Xray and the restart flag of the
calls are left out.
-/

namespace VkTurn.Panel

open VkTurn.Store
open VkTurn.Text (trimSpace)

/-! ## The statements of a call -/

/-- The statements of a call.  `bind` is the change of the client's own peer, `release` that of
    the peer it gives up. -/
inductive Site where
  | current
  | inbound
  | target
  | emails
  | bindings
  | peer
  | bind (site : PeerSite)
  | release (site : PeerSite)
  | saveInbound
  | saveTraffic
  | saveIps
  | commit
  deriving DecidableEq

/-- Which statements of a call fail. -/
abbrev Faults := Site → Bool

variable (library : Library)

/-! ## Clients -/

def dedupedClientLinks (client : VKTurnProxyClient) : List String :=
  (((client.link :: client.links).map trimSpace).filter (· ≠ "")).eraseDups

def findVKTurnProxyClientIndex (clients : List VKTurnProxyClient) (clientID : String) :
    Option Nat :=
  clients.findIdx? (·.id = clientID)

def resolveVKTurnProxyClientPublicKey (client : VKTurnProxyClient) : String :=
  match client.peer with
  | some peer =>
    if trimSpace peer.publicKey ≠ "" then trimSpace peer.publicKey
    else trimSpace client.peerPublicKey
  | none => trimSpace client.peerPublicKey

def cloneWireguardPeerToVKTurnProxyClientPeer (peer : WireguardPeer) : VKTurnProxyClientPeer where
  privateKey := trimSpace peer.privateKey
  publicKey := trimSpace peer.publicKey
  preSharedKey := trimSpace peer.preSharedKey
  allowedIPs := peer.allowedIPs
  keepAlive := peer.keepAlive

def vkTurnProxyClientPeerToWireguardPeer (peer : VKTurnProxyClientPeer) : WireguardPeer where
  privateKey := trimSpace peer.privateKey
  publicKey := trimSpace peer.publicKey
  preSharedKey := trimSpace peer.preSharedKey
  allowedIPs := peer.allowedIPs
  keepAlive := peer.keepAlive

def validateVKTurnProxyClient (client : VKTurnProxyClient) :
    Except String VKTurnProxyClient := do
  if trimSpace client.id = "" then throw (newError ["vk-turn-proxy client id is empty"])
  if trimSpace client.email = "" then throw (newError ["vk-turn-proxy client email is empty"])
  match dedupedClientLinks client with
  | [] => throw (newError ["vk-turn-proxy client link is empty"])
  | link :: links =>
    let client := { client with link, links }
    if client.peerManaged then
      match client.peer with
      | none => throw (newError ["managed wireguard peer is empty"])
      | some peer =>
        if trimSpace peer.privateKey = "" then
          throw (newError ["managed wireguard peer privateKey is empty"])
        let publicKey ← deriveWireGuardPublicKey library peer.privateKey
        if peer.allowedIPs = [] then
          throw (newError ["managed wireguard peer allowedIPs is empty"])
        return { client with peer := some { peer with publicKey }, peerPublicKey := publicKey }
    else
      let peerPublicKey :=
        if trimSpace client.peerPublicKey = "" then
          (client.peer.map (·.publicKey)).getD client.peerPublicKey
        else client.peerPublicKey
      if trimSpace peerPublicKey = "" then
        throw (newError ["wireguard peer binding is required"])
      return { client with peerPublicKey }

/-! ## Bindings -/

structure VKTurnProxyPeerBinding where
  inboundID : Int
  inboundRemark : String
  clientID : String
  clientEmail : String
  deriving DecidableEq

/-- The bindings that one inbound adds to the map, in order. -/
def inboundBindings (clock : Clock) (wgInboundID : Int) (inbound : Inbound) :
    List (String × VKTurnProxyPeerBinding) :=
  match getVKTurnProxySettings clock inbound.settings with
  | .error _ => []
  | .ok settings =>
    if settings.forward.type = .wireguardInbound ∧
        settings.forward.wireguardInboundID = wgInboundID then
      settings.clients.filterMap fun client =>
        if trimSpace client.peerPublicKey = "" then none
        else some (trimSpace client.peerPublicKey,
          ⟨inbound.id, inbound.remark, client.id, client.email⟩)
    else []

/-- The map from public keys to bindings: the entries newest first, so that `lookup` finds the
    one that was put last. -/
def getVKTurnProxyPeerBindings (clock : Clock) (db : Database) (fails : Bool)
    (wgInboundID : Int) : Except String (List (String × VKTurnProxyPeerBinding)) :=
  attempt fails <| .ok <|
    ((db.inbounds.rows.filter (·.protocol = .vkTurnProxy)).flatMap
      (inboundBindings clock wgInboundID)).reverse

def ensureVKTurnProxyBindingAvailable (clock : Clock) (db : Database) (fails : Bool)
    (wgInboundID : Int) (publicKey currentClientID : String) : Except String Unit := do
  let bindings ← getVKTurnProxyPeerBindings clock db fails wgInboundID
  match bindings.lookup (trimSpace publicKey) with
  | none => return
  | some binding =>
    if binding.clientID ≠ currentClientID then
      throw ("wireguard peer " ++ publicKey ++ " is already bound to client " ++
        binding.clientEmail)

/-! ## Emails -/

def contains (emails : List String) (email : String) : Bool :=
  emails.any fun other => library.toLower other = library.toLower email

/-- The loop of `checkEmailsExistForClients`; `seen` are the emails of the clients before. -/
def firstKnownEmail (allEmails : List String) : List String → List String → String
  | _, [] => ""
  | seen, email :: rest =>
    if email = "" then firstKnownEmail allEmails seen rest
    else if contains library seen email ∨ contains library allEmails email then email
    else firstKnownEmail allEmails (seen ++ [email]) rest

def checkEmailsExistForClients (db : Database) (fails : Bool) (emails : List String) :
    Except String String := do
  let allEmails ← db.getAllEmails fails
  return firstKnownEmail library allEmails [] emails

/-! ## Binding a client -/

/-- The peer that an enabled client puts on the inbound: its snapshot, if that has a key. -/
def peerToWrite (client : VKTurnProxyClient) : Option WireguardPeer :=
  match client.peer with
  | none => none
  | some snapshot =>
    if client.peerManaged ∨ trimSpace snapshot.publicKey ≠ "" then
      some (vkTurnProxyClientPeerToWireguardPeer snapshot)
    else none

def snapshotVKTurnProxyClientPeer (db : Database) (fails : Bool) (wgInboundID : Int)
    (client : VKTurnProxyClient) : VKTurnProxyClient :=
  let publicKey := resolveVKTurnProxyClientPublicKey client
  if publicKey = "" then client
  else match getWireguardPeerByPublicKey db fails wgInboundID publicKey with
    | .error _ => client
    | .ok peer => { client with
        peer := some (cloneWireguardPeerToVKTurnProxyClientPeer peer)
        peerPublicKey := trimSpace peer.publicKey }

variable (faults : Faults) (clock : Clock)

def ensureVKTurnProxyClientPeerEnabled (wgInboundID : Int) (client : VKTurnProxyClient) :
    Program Database VKTurnProxyClient := do
  let publicKey := resolveVKTurnProxyClientPublicKey client
  if publicKey = "" then throw (newError ["wireguard peer binding is required"])
  query fun db =>
    ensureVKTurnProxyBindingAvailable clock db (faults .bindings) wgInboundID publicKey client.id
  if client.peerManaged ∧ client.peer = none then
    throw (newError ["managed wireguard peer is empty"])
  match peerToWrite client with
  | some peer =>
    upsertWireguardPeerByPublicKey library (faults <| .bind ·) wgInboundID peer
    return { client with peerPublicKey := peer.publicKey }
  | none =>
    -- without a snapshot the peer has to be there already
    let _ ← query fun db =>
      (getWireguardPeerByPublicKey db (faults .peer) wgInboundID publicKey).mapError fun _ =>
        newError ["wireguard peer is missing and no stored snapshot is available:", publicKey]
    return { client with peerPublicKey := publicKey }

def ensureVKTurnProxyClientPeerDisabled (wgInboundID : Int) (client : VKTurnProxyClient) :
    Program Database VKTurnProxyClient := do
  let publicKey := resolveVKTurnProxyClientPublicKey client
  if publicKey = "" then return client
  let client ← query fun db =>
    .ok (snapshotVKTurnProxyClientPeer db (faults .peer) wgInboundID client)
  let client := { client with peerPublicKey := publicKey }
  if client.peer = none then throw (newError ["wireguard peer not found:", publicKey])
  removeWireguardPeerByPublicKey library (faults <| .bind ·) wgInboundID publicKey
  return client

/-- The key and the snapshot a client is bound with: its own, or those of the client it
    replaces. -/
def bindingCandidate (client : VKTurnProxyClient) (previous : Option VKTurnProxyClient) :
    VKTurnProxyClient :=
  let newPeerKey := resolveVKTurnProxyClientPublicKey client
  let client := if newPeerKey ≠ "" then { client with peerPublicKey := newPeerKey } else client
  match previous.bind (·.peer), client.peer with
  | some snapshot, none =>
    if previous.map (trimSpace ·.peerPublicKey) = some (trimSpace client.peerPublicKey) then
      { client with peer := some (cloneWireguardPeerToVKTurnProxyClientPeer
          ⟨snapshot.privateKey, snapshot.publicKey, snapshot.preSharedKey, snapshot.allowedIPs,
            snapshot.keepAlive⟩) }
    else client
  | _, _ => client

/-- `oldPeerKey` of `applyVKTurnProxyClientBinding`. -/
def previousKey (previous : Option VKTurnProxyClient) : String :=
  (previous.map (trimSpace ·.peerPublicKey)).getD ""

def applyVKTurnProxyClientBinding (settings : VKTurnProxySettings) (client : VKTurnProxyClient)
    (previous : Option VKTurnProxyClient) : Program Database VKTurnProxyClient := do
  if settings.forward.type ≠ .wireguardInbound then
    throw (newError
      ["vk-turn-proxy client management requires a wireguard inbound forward target"])
  let wgInboundID := settings.forward.wireguardInboundID
  let oldPeerKey := previousKey previous
  let client := bindingCandidate client previous
  let client ←
    if client.enable then
      ensureVKTurnProxyClientPeerEnabled library faults clock wgInboundID client
    else do
      if client.peerPublicKey ≠ "" then
        query fun db => ensureVKTurnProxyBindingAvailable clock db (faults .bindings) wgInboundID
          client.peerPublicKey client.id
      ensureVKTurnProxyClientPeerDisabled library faults wgInboundID client
  if oldPeerKey ≠ "" ∧ oldPeerKey ≠ trimSpace client.peerPublicKey then
    removeWireguardPeerByPublicKey library (faults <| .release ·) wgInboundID oldPeerKey
  return client

/-! ## Traffic rows -/

def addVKTurnProxyClientTraffic (db : Database) (inboundID : Int) (client : VKTurnProxyClient) :
    Except String Database :=
  attempt (faults .saveTraffic) <| db.createTraffic {
    inboundID
    email := client.email
    total := client.totalGB
    expiryTime := client.expiryTime
    enable := client.enable
    reset := client.reset }

def updateVKTurnProxyClientTraffic (db : Database) (oldEmail : String)
    (client : VKTurnProxyClient) : Except String Database := do
  let db ← attempt (faults .saveTraffic) <| db.updateTraffic oldEmail fun row => { row with
    enable := client.enable
    email := client.email
    total := client.totalGB
    expiryTime := client.expiryTime
    reset := client.reset }
  if oldEmail ≠ client.email then
    attempt (faults .saveIps) (db.renameClientIps oldEmail client.email)
  else return db

def delVKTurnProxyClientTraffic (db : Database) (email : String) : Except String Database := do
  let db ← attempt (faults .saveTraffic) (db.deleteTraffic email)
  attempt (faults .saveIps) (db.deleteClientIps email)

/-! ## The calls -/

/-- The clients of a request, as its JSON decodes. -/
abbrev Envelope := Except String (List VKTurnProxyClient)

/-- The body of the last transaction of a call: the inbound with its new settings, and what
    becomes of the traffic rows. -/
def saveSettings (oldInbound : Inbound) (settings : VKTurnProxySettings)
    (saveTraffics : Database → Except String Database) (db : Database) :
    Except String Database := do
  let db ← attempt (faults .saveInbound) <|
    db.saveInbound { oldInbound with settings := .vkTurnProxy settings }
  saveTraffics db

def onlyClient (data : Envelope) (purpose : String) : Except String VKTurnProxyClient := do
  match ← data with
  | [client] => return client
  | _ => throw (newError ["vk-turn-proxy " ++ purpose ++ " client expects exactly one client"])

def refuseKnownEmail (db : Database) (email : String) : Except String Unit := do
  let existEmail ← checkEmailsExistForClients library db (faults .emails) [email]
  if existEmail ≠ "" then throw (newError ["Duplicate email:", existEmail])

/-- `AddVKTurnProxyClient` before its first write. -/
def checkedAddition (db : Database) (inboundID : Int) (data : Envelope) :
    Except String (Inbound × VKTurnProxySettings × VKTurnProxyClient) := do
  let oldInbound ← db.getInbound (faults .inbound) inboundID
  let settings ← getVKTurnProxySettings clock oldInbound.settings
  validateVKTurnProxySettings library db (faults .target) settings true
  let client ← onlyClient data "add"
  let client ← validateVKTurnProxyClient library (normalizeVKTurnProxyClient clock client)
  refuseKnownEmail library faults db client.email
  return (oldInbound, settings, client)

def addVKTurnProxyClient (inboundID : Int) (data : Envelope) : Program Database Unit := do
  let (oldInbound, settings, client) ← query fun db =>
    checkedAddition library faults clock db inboundID data
  let client ← applyVKTurnProxyClientBinding library faults clock settings client none
  let settings := { settings with clients := settings.clients ++ [client] }
  transaction (faults .commit) <| saveSettings faults oldInbound settings fun db =>
    addVKTurnProxyClientTraffic faults db oldInbound.id client

/-- The client of an update request, under the identity of the one it replaces. -/
def replacementClient (client previous : VKTurnProxyClient) : VKTurnProxyClient :=
  { client with
    id := if client.id = "" then previous.id else client.id
    createdAt := previous.createdAt }

def clientAt (settings : VKTurnProxySettings) (clientID : String) :
    Except String (Nat × VKTurnProxyClient) :=
  match findVKTurnProxyClientIndex settings.clients clientID with
  | none => .error (newError ["vk-turn-proxy client not found:", clientID])
  | some index =>
    match settings.clients[index]? with
    | none => .error (newError ["vk-turn-proxy client not found:", clientID])
    | some client => .ok (index, client)

/-- `UpdateVKTurnProxyClient` before its first write; the number is the client's index. -/
def checkedUpdate (db : Database) (inboundID : Int) (data : Envelope) (clientID : String) :
    Except String
      (Inbound × VKTurnProxySettings × Nat × VKTurnProxyClient × VKTurnProxyClient) := do
  let oldInbound ← db.getInbound (faults .inbound) inboundID
  let settings ← getVKTurnProxySettings clock oldInbound.settings
  validateVKTurnProxySettings library db (faults .target) settings true
  let client ← onlyClient data "update"
  let (index, previous) ← clientAt settings clientID
  let client ← validateVKTurnProxyClient library
    (normalizeVKTurnProxyClient clock (replacementClient client previous))
  if ¬ library.equalFold client.email previous.email then
    refuseKnownEmail library faults db client.email
  return (oldInbound, settings, index, previous, client)

def updateVKTurnProxyClient (inboundID : Int) (data : Envelope) (clientID : String) :
    Program Database Unit := do
  let (oldInbound, settings, index, previous, client) ← query fun db =>
    checkedUpdate library faults clock db inboundID data clientID
  let client ← applyVKTurnProxyClientBinding library faults clock settings client (some previous)
  let settings := { settings with clients := settings.clients.set index client }
  transaction (faults .commit) <| saveSettings faults oldInbound settings fun db =>
    updateVKTurnProxyClientTraffic faults db previous.email client

/-- `getVKTurnProxyClient`, for its client. -/
def getVKTurnProxyClient (db : Database) (fails : Bool) (inboundID : Int) (clientID : String) :
    Except String VKTurnProxyClient := do
  let inbound ← db.getInbound fails inboundID
  if inbound.protocol ≠ .vkTurnProxy then throw (newError ["inbound is not vk-turn-proxy"])
  let settings ← getVKTurnProxySettings clock inbound.settings
  let (_, client) ← clientAt settings clientID
  return client

def setVKTurnProxyClientEnable (inboundID : Int) (clientID : String) (enable : Bool) :
    Program Database Unit := do
  let client ← query fun db => getVKTurnProxyClient clock db (faults .current) inboundID clientID
  if client.enable = enable then return
  updateVKTurnProxyClient library faults clock inboundID (.ok [{ client with enable }]) clientID

/-- `DelVKTurnProxyClient` before its first write. -/
def checkedDeletion (db : Database) (inboundID : Int) (clientID : String) :
    Except String (Inbound × VKTurnProxySettings × Nat × VKTurnProxyClient) := do
  let oldInbound ← db.getInbound (faults .inbound) inboundID
  let settings ← getVKTurnProxySettings clock oldInbound.settings
  let (index, client) ← clientAt settings clientID
  return (oldInbound, settings, index, client)

def delVKTurnProxyClient (inboundID : Int) (clientID : String) : Program Database Unit := do
  let (oldInbound, settings, index, client) ← query fun db =>
    checkedDeletion faults clock db inboundID clientID
  if client.peerManaged ∧ settings.forward.type = .wireguardInbound ∧
      trimSpace client.peerPublicKey ≠ "" then
    removeWireguardPeerByPublicKey library (faults <| .release ·)
      settings.forward.wireguardInboundID client.peerPublicKey
  let settings := { settings with clients := settings.clients.eraseIdx index }
  transaction (faults .commit) <| saveSettings faults oldInbound settings fun db =>
    delVKTurnProxyClientTraffic faults db client.email

inductive ClientCall where
  | add (inboundID : Int) (data : Envelope)
  | update (inboundID : Int) (data : Envelope) (clientID : String)
  | setEnable (inboundID : Int) (clientID : String) (enable : Bool)
  | del (inboundID : Int) (clientID : String)

namespace ClientCall

def inboundID : ClientCall → Int
  | add inboundID _ => inboundID
  | update inboundID _ _ => inboundID
  | setEnable inboundID _ _ => inboundID
  | del inboundID _ => inboundID

def program : ClientCall → Program Database Unit
  | add inboundID data => addVKTurnProxyClient library faults clock inboundID data
  | update inboundID data clientID =>
    updateVKTurnProxyClient library faults clock inboundID data clientID
  | setEnable inboundID clientID enable =>
    setVKTurnProxyClientEnable library faults clock inboundID clientID enable
  | del inboundID clientID => delVKTurnProxyClient library faults clock inboundID clientID

end ClientCall

/-! ## Saving an inbound -/

section Saving

variable {faults : Faults} {db next : Database} {oldInbound : Inbound} {inboundID : Int}
  {settings : VKTurnProxySettings} {client : VKTurnProxyClient}

theorem saveSettings_inbounds {saveTraffics : Database → Except String Database}
    (keeps : ∀ before after, saveTraffics before = .ok after → after.inbounds = before.inbounds)
    (saved : saveSettings faults oldInbound settings saveTraffics db = .ok next) :
    ∃ stored, db.saveInbound { oldInbound with settings := .vkTurnProxy settings } = .ok stored ∧
      next.inbounds = stored.inbounds := by
  obtain ⟨stored, isStored, saved⟩ := bind_eq_ok.mp saved
  exact ⟨stored, (attempt_eq_ok.mp isStored).2, keeps stored next saved⟩

theorem addTraffic_inbounds (added : addVKTurnProxyClientTraffic faults db inboundID client =
    .ok next) : next.inbounds = db.inbounds := by
  obtain ⟨_, created⟩ := attempt_eq_ok.mp added
  obtain ⟨_, _, isNext⟩ := bind_eq_ok.mp created
  cases pure_eq_ok.mp isNext
  rfl

theorem updateTraffic_inbounds {oldEmail : String}
    (updated : updateVKTurnProxyClientTraffic faults db oldEmail client = .ok next) :
    next.inbounds = db.inbounds := by
  obtain ⟨stored, isStored, updated⟩ := bind_eq_ok.mp updated
  obtain ⟨_, _, isWritten⟩ := bind_eq_ok.mp (attempt_eq_ok.mp isStored).2
  cases pure_eq_ok.mp isWritten
  split at updated
  · obtain ⟨_, _, isNext⟩ := bind_eq_ok.mp (attempt_eq_ok.mp updated).2
    cases pure_eq_ok.mp isNext
    rfl
  · cases pure_eq_ok.mp updated
    rfl

theorem delTraffic_inbounds {email : String}
    (deleted : delVKTurnProxyClientTraffic faults db email = .ok next) :
    next.inbounds = db.inbounds := by
  obtain ⟨stored, isStored, deleted⟩ := bind_eq_ok.mp deleted
  obtain ⟨_, _, isWritten⟩ := bind_eq_ok.mp (attempt_eq_ok.mp isStored).2
  cases pure_eq_ok.mp isWritten
  obtain ⟨_, _, isNext⟩ := bind_eq_ok.mp (attempt_eq_ok.mp deleted).2
  cases pure_eq_ok.mp isNext
  rfl

end Saving

/-! ## What a binding keeps -/

section Keeps

variable {library : Library} {faults : Faults} {clock : Clock} {holds : Database → Prop}
  {wgInboundID : Int} {settings : VKTurnProxySettings} {client : VKTurnProxyClient}
  {previous : Option VKTurnProxyClient}

/-- A binding writes nothing but the peers of the WireGuard inbound. -/
theorem applyBinding_keeps
    (mutates : ∀ faults (mutate : List WireguardPeer → List WireguardPeer),
      Keeps (mutateWireguardPeers library faults settings.forward.wireguardInboundID
        fun peers => .ok (mutate peers)) holds) :
    Keeps (applyVKTurnProxyClientBinding library faults clock settings client previous) holds := by
  have enabled (client : VKTurnProxyClient) :
      Keeps (ensureVKTurnProxyClientPeerEnabled library faults clock
        settings.forward.wireguardInboundID client) holds := by
    refine Keeps.refuse fun _ => Keeps.bind (Keeps.query _) fun _ => Keeps.refuse fun _ => ?_
    split
    · exact Keeps.bind (mutates _ _) fun _ => Keeps.pure _
    · exact Keeps.bind (Keeps.query _) fun _ => Keeps.pure _
  have disabled (client : VKTurnProxyClient) :
      Keeps (ensureVKTurnProxyClientPeerDisabled library faults
        settings.forward.wireguardInboundID client) holds := by
    unfold ensureVKTurnProxyClientPeerDisabled
    dsimp only
    split
    · exact Keeps.pure _
    · refine Keeps.bind (Keeps.query _) fun _ => Keeps.refuse fun _ => ?_
      exact Keeps.bind (mutates _ _) fun _ => Keeps.pure _
  have releases (bound : VKTurnProxyClient) (oldKey : String) :
      Keeps (if oldKey ≠ "" ∧ oldKey ≠ trimSpace bound.peerPublicKey then do
          removeWireguardPeerByPublicKey library (faults <| .release ·)
            settings.forward.wireguardInboundID oldKey
          pure bound
        else pure bound) holds := by
    split
    · exact Keeps.bind (mutates _ _) fun _ => Keeps.pure _
    · exact Keeps.pure _
  refine Keeps.refuse fun _ => ?_
  dsimp only
  split
  · exact Keeps.bind (enabled _) fun bound => releases bound _
  · split
    · exact Keeps.bind (Keeps.query _) fun _ =>
        Keeps.bind (disabled _) fun bound => releases bound _
    · exact Keeps.bind (disabled _) fun bound => releases bound _

end Keeps

end VkTurn.Panel
