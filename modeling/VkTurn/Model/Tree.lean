import VkTurn.Frontend.WingsvImporter

/-! # The configuration tree

Servers hold identities, and identities hold routes.  Every node has an id; `randomId` chooses it
where the code does not give one.
-/

namespace VkTurn.Model

/-! ## Routes -/

/-- `Route.VkTurnProxy`, with the fields that the launcher does not read. -/
structure VkTurnProxy extends Launcher.VkTurnProxy where
  id : String
  label : String := "vk-turn-proxy"
  enabled : Bool := true
  /-- `wbStream.e2eEnabled`. -/
  e2eEnabled : Bool := false
  /-- `wbStream.exchangeViaVkTurn`. -/
  exchangeViaVkTurn : Bool := true
  deriving DecidableEq

/-- `Route.SingBox`. -/
structure SingBox where
  id : String
  label : String := "sing-box"
  enabled : Bool := true
  vlessLink : String := ""
  socksListenHost : String := "127.0.0.1"
  socksListenPort : Int32 := 10808
  httpListenPort : Int32 := 0
  chainedThroughProxyRouteId : Option String := none
  tunEnabled : Bool := false
  tunMtu : Int32 := 1500
  logLevel : String := "warn"
  deriving DecidableEq

/-- `Route.Direct`. -/
structure Direct where
  id : String
  label : String := "direct"
  enabled : Bool := true
  endpoint : String := ""
  deriving DecidableEq

inductive Route where
  | vkTurnProxy (route : VkTurnProxy)
  | singBox (route : SingBox)
  | direct (route : Direct)
  deriving DecidableEq

def Route.id : Route → String
  | vkTurnProxy route => route.id
  | singBox route => route.id
  | direct route => route.id

/-- `filterIsInstance<Route.VkTurnProxy>()`. -/
def Route.vkTurnProxy? : Route → Option VkTurnProxy
  | vkTurnProxy route => some route
  | _ => none

/-! ## Identities, servers and the configuration -/

structure Identity where
  id : String
  name : String := "identity"
  wg : Frontend.IdentityWg := {}
  routes : List Route
  activeRouteId : Option String := none
  deriving DecidableEq

structure Server extends Launcher.Server where
  id : String
  name : String := "Server"
  notes : String := ""
  identities : List Identity := []
  deriving DecidableEq

structure AppConfig where
  schemaVersion : Int32 := 1
  servers : List Server := []
  activeServerId : Option String := none
  activeIdentityId : Option String := none
  singBoxBinaryOverride : String := ""
  proxyBinaryOverride : String := ""
  deriving DecidableEq

def currentSchemaVersion : Int32 := 1

/-- The selected route or the first one; `first` throws when there is none. -/
def Identity.activeRoute (identity : Identity) : Option Route :=
  identity.routes.find? (some ·.id = identity.activeRouteId) <|> identity.routes.head?

theorem Identity.activeRoute_eq_none {identity : Identity} :
    identity.activeRoute = none ↔ identity.routes = [] := by
  cases isRoutes : identity.routes with
  | nil => simp [activeRoute, isRoutes]
  | cons first rest => simp [activeRoute, isRoutes]

namespace AppConfig

def server (config : AppConfig) (id : String) : Option Server :=
  config.servers.find? (·.id = id)

theorem server_spec {config : AppConfig} {id : String} {server : Server}
    (found : config.server id = some server) : server ∈ config.servers ∧ server.id = id :=
  ⟨List.mem_of_find?_eq_some found, of_decide_eq_true (List.find?_some found :)⟩

def activeServer (config : AppConfig) : Option Server :=
  config.activeServerId.bind config.server <|> config.servers.head?

def activeIdentity (config : AppConfig) : Option Identity :=
  config.activeServer.bind fun server =>
    server.identities.find? (some ·.id = config.activeIdentityId) <|> server.identities.head?

end AppConfig

end VkTurn.Model
