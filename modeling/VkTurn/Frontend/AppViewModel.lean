import VkTurn.Model.Tree
import VkTurn.Transition.Machine

/-! # The view model's tree

Every mutation replaces the configuration by a changed copy.  The mutations of servers,
identities and routes act on every node with the given id.  An import reads the configuration,
and replaces it later by what it has made of the one it read.
-/

namespace VkTurn.Frontend

open VkTurn.Model VkTurn.Transition

/-- The ids of a `Profile`. -/
structure Profile where
  serverId : String
  identityId : String
  routeId : String
  deriving DecidableEq

/-- What `connect` and `connectActive` do. -/
inductive Connect where
  | nothing
  /-- `routes.first()` of no routes. -/
  | throws
  | starts (server : Server) (identity : Identity) (route : Route)
  deriving DecidableEq

namespace AppViewModel

def addServer (config : AppConfig) (template : Server) : AppConfig :=
  let next := { config with servers := config.servers ++ [template] }
  { next with activeServerId := next.activeServerId <|> some template.id }

def removeServer (config : AppConfig) (serverId : String) : AppConfig :=
  let filtered := config.servers.filter (·.id ≠ serverId)
  { config with
    servers := filtered
    activeServerId :=
      if config.activeServerId = some serverId then filtered.head?.map (·.id)
      else config.activeServerId }

def mutateServer (config : AppConfig) (serverId : String) (block : Server → Server) : AppConfig :=
  { config with
    servers := config.servers.map fun server =>
      if server.id = serverId then block server else server }

def addIdentity (config : AppConfig) (serverId : String) (template : Identity) : AppConfig :=
  mutateServer config serverId fun server =>
    { server with identities := server.identities ++ [template] }

def removeIdentity (config : AppConfig) (serverId identityId : String) : AppConfig :=
  mutateServer config serverId fun server =>
    { server with identities := server.identities.filter (·.id ≠ identityId) }

def mutateIdentity (config : AppConfig) (serverId identityId : String)
    (block : Identity → Identity) : AppConfig :=
  mutateServer config serverId fun server =>
    { server with
      identities := server.identities.map fun identity =>
        if identity.id = identityId then block identity else identity }

def addRoute (config : AppConfig) (serverId identityId : String) (template : Route) : AppConfig :=
  mutateIdentity config serverId identityId fun identity =>
    { identity with routes := identity.routes ++ [template] }

def removeRoute (config : AppConfig) (serverId identityId routeId : String) : AppConfig :=
  mutateIdentity config serverId identityId fun identity =>
    let next := identity.routes.filter (·.id ≠ routeId)
    { identity with
      routes := next
      activeRouteId :=
        if identity.activeRouteId = some routeId then next.head?.map (·.id)
        else identity.activeRouteId }

def mutateRoute (config : AppConfig) (serverId identityId routeId : String)
    (block : Route → Route) : AppConfig :=
  mutateIdentity config serverId identityId fun identity =>
    { identity with
      routes := identity.routes.map fun route => if route.id = routeId then block route else route }

def selectServer (config : AppConfig) (serverId : String) : AppConfig :=
  { config with activeServerId := some serverId }

def selectIdentity (config : AppConfig) (identityId : String) : AppConfig :=
  { config with activeIdentityId := some identityId }

def selectRoute (config : AppConfig) (serverId identityId routeId : String) : AppConfig :=
  mutateIdentity config serverId identityId fun identity =>
    { identity with activeRouteId := some routeId }

def activateProfile (config : AppConfig) (profile : Profile) : AppConfig :=
  { selectRoute config profile.serverId profile.identityId profile.routeId with
    activeServerId := some profile.serverId
    activeIdentityId := some profile.identityId }

def connect (config : AppConfig) (serverId identityId routeId : String) : Connect :=
  match config.server serverId with
  | none => .nothing
  | some server =>
    match server.identities.find? (·.id = identityId) with
    | none => .nothing
    | some identity =>
      match identity.routes.find? (·.id = routeId) with
      | none => .nothing
      | some route => .starts server identity route

def connectActive (config : AppConfig) : Connect :=
  match config.activeServer with
  | none => .nothing
  | some server =>
    match config.activeIdentity with
    | none => .nothing
    | some identity =>
      match identity.activeRoute with
      | none => .throws
      | some route => .starts server identity route

end AppViewModel

/-! ## Imports -/

/-- The random ids of the nodes that an import makes. -/
structure ImportIds where
  server : String
  identity : String
  route : String
  deriving DecidableEq

def Imported.identity (imported : Imported) (ids : ImportIds) : Identity where
  id := ids.identity
  name := "imported"
  wg := imported.wg
  routes := [.vkTurnProxy { imported.route with id := ids.route, label := "imported" }]
  activeRouteId := some ids.route

/-- The end of `WingsvImporter.merge`. -/
def Imported.mergeInto (imported : Imported) (ids : ImportIds) (base : AppConfig) : AppConfig :=
  { base with
    servers := base.servers ++
      [{ imported.server with
        id := ids.server
        name := "wingsv " ++ imported.server.host
        identities := [imported.identity ids] }]
    activeServerId := some ids.server
    activeIdentityId := some ids.identity }

/-! ## Runs -/

structure ViewModel where
  config : AppConfig := {}
  /-- The configurations that imports have read. -/
  bases : List AppConfig := []
  deriving DecidableEq

inductive Mutation where
  | addServer (template : Server)
  | removeServer (serverId : String)
  | mutateServer (serverId : String) (block : Server → Server)
  | addIdentity (serverId : String) (template : Identity)
  | removeIdentity (serverId identityId : String)
  | mutateIdentity (serverId identityId : String) (block : Identity → Identity)
  | addRoute (serverId identityId : String) (template : Route)
  | removeRoute (serverId identityId routeId : String)
  | mutateRoute (serverId identityId routeId : String) (block : Route → Route)
  | selectServer (serverId : String)
  | selectIdentity (identityId : String)
  | selectRoute (serverId identityId routeId : String)
  | activateProfile (profile : Profile)
  /-- The settings screen. -/
  | setOverrides (singBoxBinary proxyBinary : String)
  | readForImport
  | importInto (base : AppConfig) (imported : Imported) (ids : ImportIds)

namespace AppViewModel

def applied (config : AppConfig) : Mutation → AppConfig
  | .addServer template => addServer config template
  | .removeServer serverId => removeServer config serverId
  | .mutateServer serverId block => mutateServer config serverId block
  | .addIdentity serverId template => addIdentity config serverId template
  | .removeIdentity serverId identityId => removeIdentity config serverId identityId
  | .mutateIdentity serverId identityId block => mutateIdentity config serverId identityId block
  | .addRoute serverId identityId template => addRoute config serverId identityId template
  | .removeRoute serverId identityId routeId => removeRoute config serverId identityId routeId
  | .mutateRoute serverId identityId routeId block =>
    mutateRoute config serverId identityId routeId block
  | .selectServer serverId => selectServer config serverId
  | .selectIdentity identityId => selectIdentity config identityId
  | .selectRoute serverId identityId routeId => selectRoute config serverId identityId routeId
  | .activateProfile profile => activateProfile config profile
  | .setOverrides singBoxBinary proxyBinary =>
    { config with singBoxBinaryOverride := singBoxBinary, proxyBinaryOverride := proxyBinary }
  | .readForImport => config
  | .importInto base imported ids => imported.mergeInto ids base

end AppViewModel

open AppViewModel

def viewModel : Machine ViewModel Mutation where
  step state mutation :=
    match mutation with
    | .readForImport => some { state with bases := state.config :: state.bases }
    | .importInto base imported ids =>
      if base ∈ state.bases then some { state with config := imported.mergeInto ids base } else none
    | mutation => some { state with config := applied state.config mutation }

/-- The view model with the default configuration. -/
def DefaultConfig (state : ViewModel) : Prop := state = {}

theorem config_after {state next : ViewModel} {mutation : Mutation}
    (stepped : viewModel.step state mutation = some next) :
    next.config = applied state.config mutation := by
  cases mutation with
  | importInto base imported ids =>
    simp only [viewModel] at stepped
    split at stepped
    · cases stepped
      rfl
    · cases stepped
  | addServer | removeServer | mutateServer | addIdentity | removeIdentity | mutateIdentity
  | addRoute | removeRoute | mutateRoute | selectServer | selectIdentity | selectRoute
  | activateProfile | setOverrides | readForImport =>
    cases stepped
    rfl

end VkTurn.Frontend
