import VkTurn.Panel.RuntimeInbounds
import VkTurn.Panel.Traffic

/-! # Reads of the panel

`GetAllInbounds` first sets the rows of the VK TURN clients to what the settings say of them.
`GetXrayConfig` leaves the clients out whose rows are disabled; the peers of a WireGuard inbound
have no rows, and are copied as they are stored.

The id and the subscription of a client, which only the interface shows, are left out.
-/

namespace VkTurn.Panel

open VkTurn.Store
open VkTurn.Text (trimSpace)

/-- The statements of a read; none of them is in a transaction. -/
inductive ReadSite where
  | inbounds
  | rows
  | update (email : String)
  | create (email : String)
  | stats
  deriving DecidableEq

/-! ## The rows of the clients -/

/-- `vkTurnProxyTrafficBinding`, under its key. -/
structure TrafficBinding where
  key : String
  inboundID : Int
  client : VKTurnProxyClient
  deriving DecidableEq

/-- The order in which a map is gone through, which is not the same twice. -/
structure MapOrder (Entry : Type) where
  arrange : List Entry → List Entry
  perm : ∀ entries, (arrange entries).Perm entries

variable (library : Library) (faults : ReadSite → Bool) (clock : Clock)
  (order : MapOrder TrafficBinding)

def emailBindings (inbound : Inbound) : List TrafficBinding :=
  if inbound.protocol ≠ .vkTurnProxy then []
  else match getVKTurnProxySettings clock inbound.settings with
    | .error _ => []
    | .ok settings => (settings.clients.filter (trimSpace ·.email ≠ "")).map fun client =>
        { key := library.toLower (trimSpace client.email), inboundID := inbound.id, client }

/-- Of the clients under one key the last one counts. -/
def lastBindings (inbounds : List Inbound) : List TrafficBinding :=
  (inbounds.flatMap (emailBindings library clock)).foldl
    (fun bindings binding => upsertRow (·.key) binding bindings) []

/-- There is nothing to update in the row that was found. -/
def agreesWith (row : ClientTraffic) (binding : TrafficBinding) : Bool :=
  row.inboundID = binding.inboundID ∧ row.enable = binding.client.enable ∧
    row.total = binding.client.totalGB ∧ row.expiryTime = binding.client.expiryTime ∧
    row.reset = binding.client.reset

/-- The columns in which the row that was found differs from the binding are set. -/
def setDiffering (row : ClientTraffic) (binding : TrafficBinding) (stored : ClientTraffic) :
    ClientTraffic :=
  { stored with
    inboundID := if row.inboundID = binding.inboundID then stored.inboundID else binding.inboundID
    enable := if row.enable = binding.client.enable then stored.enable else binding.client.enable
    total := if row.total = binding.client.totalGB then stored.total else binding.client.totalGB
    expiryTime :=
      if row.expiryTime = binding.client.expiryTime then stored.expiryTime
      else binding.client.expiryTime
    reset := if row.reset = binding.client.reset then stored.reset else binding.client.reset }

/-- `existing` are the rows with the email of a binding; they are kept under their own emails in
    lower case, and the last one counts. -/
def syncRow (existing : List ClientTraffic) (binding : TrafficBinding) (db : Database) :
    Except String Database :=
  match existing.reverse.find? (library.toLower ·.email = binding.key) with
  | none => addVKTurnProxyClientTraffic (fun _ => faults (.create binding.client.email)) db
      binding.inboundID binding.client
  | some row =>
    if agreesWith row binding then .ok db
    else attempt (faults (.update binding.client.email))
      (db.updateTraffic binding.client.email (setDiffering row binding))

def syncRows (existing : List ClientTraffic) : List TrafficBinding → Program Database Unit
  | [] => return
  | binding :: rest => do
    transaction false (syncRow library faults existing binding)
    syncRows existing rest

def syncVKTurnProxyClientTrafficRows (inbounds : List Inbound) : Program Database Unit := do
  let bindings := lastBindings library clock inbounds
  if bindings = [] then return
  let existing ← query fun db => attempt (faults .rows) <| .ok <|
    db.clientTraffics.rows.filter fun row => bindings.any (·.client.email = row.email)
  syncRows library faults existing (order.arrange bindings)

/-! ## GetAllInbounds -/

/-- An inbound with its `ClientStats`. -/
structure LoadedInbound where
  inbound : Inbound
  clientStats : List ClientTraffic
  deriving DecidableEq

def loadInboundClientStats (inbounds : List Inbound) : Program Database (List LoadedInbound) := do
  if inbounds = [] then return []
  query fun db => attempt (faults .stats) <| .ok <| inbounds.map fun inbound =>
    { inbound, clientStats := db.clientTraffics.rows.filter (·.inboundID = inbound.id) }

def getAllInbounds : Program Database (List LoadedInbound) := do
  let inbounds ← query fun db => attempt (faults .inbounds) (.ok db.inbounds.rows)
  syncVKTurnProxyClientTrafficRows library faults clock order inbounds
  loadInboundClientStats faults inbounds

/-! ## GetXrayConfig -/

/-- What is left of a client in the configuration. -/
structure XrayUser where
  email : String
  id : String
  password : String
  auth : String
  deriving DecidableEq

/-- Settings whose clients were cleaned, of which only these are kept here, or settings as they
    are stored. -/
inductive ServedSettings where
  | users (users : List XrayUser)
  | stored (settings : Settings)
  deriving DecidableEq

/-- An inbound of the configuration, and the id of its row. -/
structure ServedInbound where
  inboundID : Int
  listen : String
  port : Int
  protocol : Protocol
  settings : ServedSettings
  tag : String
  deriving DecidableEq

def finalClient (clientStats : List ClientTraffic) (client : Client) : Option XrayUser :=
  if clientStats.reverse.find? (·.email = client.email) |>.any fun row => ¬ row.enable then none
  else if ¬ client.enable then none
  else some {
    email := client.email, id := client.id, password := client.password, auth := client.auth }

def servedSettings (loaded : LoadedInbound) : ServedSettings :=
  match rawClients loaded.inbound.settings with
  | none => .stored loaded.inbound.settings
  | some clients => .users (clients.filterMap (finalClient loaded.clientStats))

/-- `GenXrayInboundConfig` of the row with these settings. -/
def servedInbound (loaded : LoadedInbound) : ServedInbound where
  inboundID := loaded.inbound.id
  listen :=
    "\"" ++ (if loaded.inbound.listen = "" then "0.0.0.0" else loaded.inbound.listen) ++ "\""
  port := loaded.inbound.port
  protocol := loaded.inbound.protocol
  settings := servedSettings loaded
  tag := loaded.inbound.tag

/-- The loop of `GetXrayConfig`. -/
def servedInbounds (inbounds : List LoadedInbound) : List ServedInbound :=
  (inbounds.filter fun loaded =>
    loaded.inbound.enable ∧ isXrayManagedProtocol loaded.inbound.protocol).map servedInbound

/-- The public keys of the peers of settings, without surrounding blanks. -/
def settingsKeys : Settings → List String
  | .wireguard settings => publicKeys (settings.peers.getD [])
  | _ => []

def ServedInbound.peerKeys (inbound : ServedInbound) : List String :=
  match inbound.settings with
  | .users _ => []
  | .stored settings => settingsKeys settings

section Served

variable {loaded : LoadedInbound} {inbounds : List LoadedInbound} {served : ServedInbound}

/-- Peers are served as they are stored. -/
theorem peerKeys_servedInbound :
    (servedInbound loaded).peerKeys = settingsKeys loaded.inbound.settings := by
  unfold ServedInbound.peerKeys servedInbound servedSettings
  cases stored : loaded.inbound.settings with
  | vkTurnProxy settings =>
    dsimp only [rawClients]
    split
    · rename_i isUsers
      rfl
    · rename_i isStored
      split at isStored
      · cases isStored
        rfl
      · cases isStored
  | wireguard settings => rfl
  | clients clients => rfl
  | text text => rfl

/-- What is served was stored in an inbound that is enabled. -/
theorem mem_servedInbounds (member : served ∈ servedInbounds inbounds) :
    ∃ loaded ∈ inbounds, loaded.inbound.enable = true ∧ served.inboundID = loaded.inbound.id ∧
      served.peerKeys = settingsKeys loaded.inbound.settings := by
  obtain ⟨loaded, isManaged, rfl⟩ := List.mem_map.mp member
  obtain ⟨inInbounds, isEnabled⟩ := List.mem_filter.mp isManaged
  have isEnabled := (of_decide_eq_true isEnabled).1
  exact ⟨loaded, inInbounds, isEnabled, rfl, peerKeys_servedInbound⟩

end Served

end VkTurn.Panel
