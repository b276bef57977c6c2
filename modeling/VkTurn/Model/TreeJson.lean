import VkTurn.Model.RouteJson

/-! # The configuration tree as JSON

What is written of a configuration, and what it is read as: every node comes back as it was, but
for an id that happens to equal the one drawn while it is written.
-/

namespace VkTurn.Model

open VkTurn.Text
open VkTurn.Frontend (IdentityWg)

variable (json : KotlinJson)

/-! ## Identity -/

/-- `listOf(Route.defaultVkTurn())`. -/
def Draws.defaultRoutes (draws : Draws) : List Route :=
  [.vkTurnProxy { id := (draws []).defaultRouteId }]

def identityWgSerializer : Serializer Draws IdentityWg :=
  .record (identityWgEntries json) (readIdentityWg json) (fun _ _ wg => wg)
    (readIdentityWg_entries json)

def routesSerializer : Serializer Draws (List Route) := .list Draws.nth (routeSerializer json)

def identityEntries (draws : Draws) (identity : Identity) :
    List (String × Option JsonValue) :=
  let default : Identity := { id := draws.id, routes := draws.defaultRoutes }
  [("id", json.string.entry draws default.id identity.id),
    ("name", json.string.entry draws default.name identity.name),
    ("wg", (identityWgSerializer json).entry draws default.wg identity.wg),
    ("routes", (routesSerializer json).entry draws default.routes identity.routes),
    ("activeRouteId",
      json.nullableString.entry draws default.activeRouteId identity.activeRouteId)]

def readIdentity (draws : Draws) (fields : JsonFields) : Option Identity := do
  let default : Identity := { id := draws.id, routes := draws.defaultRoutes }
  let id ← json.string.field draws "id" default.id fields
  let name ← json.string.field draws "name" default.name fields
  let wg ← (identityWgSerializer json).field draws "wg" default.wg fields
  let routes ← (routesSerializer json).field draws "routes" default.routes fields
  let activeRouteId ← json.nullableString.field draws "activeRouteId" default.activeRouteId fields
  return ⟨id, name, wg, routes, activeRouteId⟩

def Route.redrawAt (saving loading : Draws) (position : Nat) (route : Route) : Route :=
  route.redraw (saving.nth position) (loading.nth position)

/-- The routes are left out when they equal the default, whose id is drawn. -/
def Identity.redraw (saving loading : Draws) (identity : Identity) : Identity :=
  { identity with
    id := redrawId saving loading identity.id
    routes :=
      if identity.routes = saving.defaultRoutes then loading.defaultRoutes
      else identity.routes.mapIdx (Route.redrawAt saving loading) }

theorem readIdentity_entries (saving loading : Draws) (identity : Identity) :
    readIdentity json loading (objectOf (identityEntries json saving identity)) =
      some (identity.redraw saving loading) := by
  have distinct : ((identityEntries json saving identity).map Prod.fst).Nodup := by
    simp [identityEntries]
  -- the id and the routes have defaults that are drawn, the other fields do not
  unfold readIdentity
  simp only [Serializer.field_at distinct 0 rfl, Serializer.plain_at distinct 1 rfl rfl,
    Serializer.plain_at distinct 2 rfl rfl, Serializer.field_at distinct 3 rfl,
    Serializer.plain_at distinct 4 rfl rfl, Option.bind_eq_bind, Option.bind_some, Option.pure_def]
  rfl

def identitySerializer : Serializer Draws Identity :=
  .record (identityEntries json) (readIdentity json) Identity.redraw (readIdentity_entries json)

/-! ## Server -/

def identitiesSerializer : Serializer Draws (List Identity) :=
  .list Draws.nth (identitySerializer json)

def serverEntries (draws : Draws) (server : Server) : List (String × Option JsonValue) :=
  let default : Server := { id := draws.id }
  [("id", json.string.entry draws default.id server.id),
    ("name", json.string.entry draws default.name server.name),
    ("host", json.string.entry draws default.host server.host),
    ("proxyPort", json.int.entry draws default.proxyPort server.proxyPort),
    ("notes", json.string.entry draws default.notes server.notes),
    ("identities", (identitiesSerializer json).entry draws default.identities server.identities)]

def readServer (draws : Draws) (fields : JsonFields) : Option Server := do
  let default : Server := { id := draws.id }
  let id ← json.string.field draws "id" default.id fields
  let name ← json.string.field draws "name" default.name fields
  let host ← json.string.field draws "host" default.host fields
  let proxyPort ← json.int.field draws "proxyPort" default.proxyPort fields
  let notes ← json.string.field draws "notes" default.notes fields
  let identities ← (identitiesSerializer json).field draws "identities" default.identities fields
  return { id := id, name := name, host := host, proxyPort := proxyPort, notes := notes,
           identities := identities }

def Identity.redrawAt (saving loading : Draws) (position : Nat) (identity : Identity) : Identity :=
  identity.redraw (saving.nth position) (loading.nth position)

def Server.redraw (saving loading : Draws) (server : Server) : Server :=
  { server with
    id := redrawId saving loading server.id
    identities := server.identities.mapIdx (Identity.redrawAt saving loading) }

/-- A list that is left out when it is empty. -/
theorem rereadField_nil {α : Type} [DecidableEq α] {serializer : Serializer Draws α}
    {saving loading : Draws} {values : List α} :
    (Serializer.list Draws.nth serializer).rereadField saving loading [] [] values =
      values.mapIdx fun position =>
        serializer.reread (saving.nth position) (loading.nth position) := by
  unfold Serializer.rereadField
  split
  · rename_i isEmpty
    rw [isEmpty, List.mapIdx_nil]
  · rfl

theorem readServer_entries (saving loading : Draws) (server : Server) :
    readServer json loading (objectOf (serverEntries json saving server)) =
      some (server.redraw saving loading) := by
  have distinct : ((serverEntries json saving server).map Prod.fst).Nodup := by
    simp [serverEntries]
  have identities : (identitiesSerializer json).field loading "identities" []
      (objectOf (serverEntries json saving server)) = _ := Serializer.field_at distinct 5 rfl
  rw [identitiesSerializer, rereadField_nil] at identities
  unfold readServer
  simp only [Serializer.field_at distinct 0 rfl, Serializer.plain_at distinct 1 rfl rfl,
    Serializer.plain_at distinct 2 rfl rfl, Serializer.plain_at distinct 3 rfl rfl,
    Serializer.plain_at distinct 4 rfl rfl, identitiesSerializer, identities, Option.bind_eq_bind,
    Option.bind_some, Option.pure_def]
  rfl

def serverSerializer : Serializer Draws Server :=
  .record (serverEntries json) (readServer json) Server.redraw (readServer_entries json)

/-! ## AppConfig -/

def serversSerializer : Serializer Draws (List Server) := .list Draws.nth (serverSerializer json)

def appConfigEntries (draws : Draws) (config : AppConfig) : List (String × Option JsonValue) :=
  let default : AppConfig := {}
  [("schemaVersion", json.int.entry draws default.schemaVersion config.schemaVersion),
    ("servers", (serversSerializer json).entry draws default.servers config.servers),
    ("activeServerId",
      json.nullableString.entry draws default.activeServerId config.activeServerId),
    ("activeIdentityId",
      json.nullableString.entry draws default.activeIdentityId config.activeIdentityId),
    ("singBoxBinaryOverride",
      json.string.entry draws default.singBoxBinaryOverride config.singBoxBinaryOverride),
    ("proxyBinaryOverride",
      json.string.entry draws default.proxyBinaryOverride config.proxyBinaryOverride)]

def readAppConfig (draws : Draws) (fields : JsonFields) : Option AppConfig := do
  let default : AppConfig := {}
  let schemaVersion ← json.int.field draws "schemaVersion" default.schemaVersion fields
  let servers ← (serversSerializer json).field draws "servers" default.servers fields
  let activeServerId ←
    json.nullableString.field draws "activeServerId" default.activeServerId fields
  let activeIdentityId ←
    json.nullableString.field draws "activeIdentityId" default.activeIdentityId fields
  let singBoxBinaryOverride ←
    json.string.field draws "singBoxBinaryOverride" default.singBoxBinaryOverride fields
  let proxyBinaryOverride ←
    json.string.field draws "proxyBinaryOverride" default.proxyBinaryOverride fields
  return ⟨schemaVersion, servers, activeServerId, activeIdentityId, singBoxBinaryOverride,
    proxyBinaryOverride⟩

def Server.redrawAt (saving loading : Draws) (position : Nat) (server : Server) : Server :=
  server.redraw (saving.nth position) (loading.nth position)

def AppConfig.redraw (saving loading : Draws) (config : AppConfig) : AppConfig :=
  { config with servers := config.servers.mapIdx (Server.redrawAt saving loading) }

theorem appConfigEntries_distinct (saving : Draws) (config : AppConfig) :
    ((appConfigEntries json saving config).map Prod.fst).Nodup := by
  simp [appConfigEntries]

theorem readAppConfig_entries (saving loading : Draws) (config : AppConfig) :
    readAppConfig json loading (objectOf (appConfigEntries json saving config)) =
      some (config.redraw saving loading) := by
  have distinct := appConfigEntries_distinct json saving config
  have servers : (serversSerializer json).field loading "servers" []
      (objectOf (appConfigEntries json saving config)) = _ := Serializer.field_at distinct 1 rfl
  rw [serversSerializer, rereadField_nil] at servers
  unfold readAppConfig
  simp only [Serializer.plain_at distinct 0 rfl rfl, serversSerializer, servers,
    Serializer.plain_at distinct 2 rfl rfl, Serializer.plain_at distinct 3 rfl rfl,
    Serializer.plain_at distinct 4 rfl rfl, Serializer.plain_at distinct 5 rfl rfl,
    Option.bind_eq_bind, Option.bind_some, Option.pure_def]
  rfl

/-! ## What comes back as it was -/

/-- An id that is not the one drawn while it is written, or is drawn again when it is read. -/
def KeepsId (saving loading : Draws) (id : String) : Prop := id = saving.id → loading.id = id

def Route.Keeps (saving loading : Draws) (route : Route) : Prop := KeepsId saving loading route.id

structure Identity.Keeps (saving loading : Draws) (identity : Identity) : Prop where
  id : KeepsId saving loading identity.id
  defaultRoutes : identity.routes = saving.defaultRoutes → loading.defaultRoutes = identity.routes
  routes : identity.routes ≠ saving.defaultRoutes → ∀ (position : Nat) (route : Route),
    identity.routes[position]? = some route →
      route.Keeps (saving.nth position) (loading.nth position)

structure Server.Keeps (saving loading : Draws) (server : Server) : Prop where
  id : KeepsId saving loading server.id
  identities : ∀ (position : Nat) (identity : Identity),
    server.identities[position]? = some identity →
      identity.Keeps (saving.nth position) (loading.nth position)

def AppConfig.Keeps (saving loading : Draws) (config : AppConfig) : Prop :=
  ∀ (position : Nat) (server : Server), config.servers[position]? = some server →
    server.Keeps (saving.nth position) (loading.nth position)

section Keeps

variable {saving loading : Draws}

theorem redrawId_eq_self {id : String} :
    redrawId saving loading id = id ↔ KeepsId saving loading id := by
  unfold redrawId KeepsId
  by_cases isDrawn : id = saving.id
  · simp [isDrawn]
  · simp [isDrawn]

theorem Route.redraw_eq_self {route : Route} :
    route.redraw saving loading = route ↔ route.Keeps saving loading := by
  unfold Route.Keeps
  rw [← redrawId_eq_self]
  cases route with
  | vkTurnProxy route =>
    cases route
    simp [Route.redraw, VkTurnProxy.redraw, Route.id]
  | singBox route =>
    cases route
    simp [Route.redraw, SingBox.redraw, Route.id]
  | direct route =>
    cases route
    simp [Route.redraw, Direct.redraw, Route.id]

theorem Identity.redraw_eq_self {identity : Identity} :
    identity.redraw saving loading = identity ↔ identity.Keeps saving loading := by
  have parts : identity.redraw saving loading = identity ↔
      redrawId saving loading identity.id = identity.id ∧
        (identity.redraw saving loading).routes = identity.routes := by
    cases identity
    simp [Identity.redraw]
  rw [parts, redrawId_eq_self, Identity.redraw]
  -- default routes are left out as a whole, others are written one by one
  by_cases isDefault : identity.routes = saving.defaultRoutes
  · simp only [if_pos isDefault]
    exact ⟨fun ⟨id, routes⟩ => ⟨id, fun _ => routes, fun differs => absurd isDefault differs⟩,
      fun keeps => ⟨keeps.id, keeps.defaultRoutes isDefault⟩⟩
  · simp only [if_neg isDefault, Serializer.mapIdx_eq_self, Route.redrawAt, Route.redraw_eq_self]
    exact ⟨fun ⟨id, routes⟩ => ⟨id, fun same => absurd same isDefault, fun _ => routes⟩,
      fun keeps => ⟨keeps.id, keeps.routes isDefault⟩⟩

theorem Server.redraw_eq_self {server : Server} :
    server.redraw saving loading = server ↔ server.Keeps saving loading := by
  have parts : server.redraw saving loading = server ↔
      redrawId saving loading server.id = server.id ∧
        server.identities.mapIdx (Identity.redrawAt saving loading) = server.identities := by
    cases server
    simp [Server.redraw]
  rw [parts, redrawId_eq_self, Serializer.mapIdx_eq_self]
  simp only [Identity.redrawAt, Identity.redraw_eq_self]
  exact ⟨fun ⟨id, identities⟩ => ⟨id, identities⟩, fun keeps => ⟨keeps.id, keeps.identities⟩⟩

/-- A configuration comes back as it was exactly when no draw met an id of it. -/
theorem AppConfig.redraw_eq_self {config : AppConfig} :
    config.redraw saving loading = config ↔ config.Keeps saving loading := by
  have parts : config.redraw saving loading = config ↔
      config.servers.mapIdx (Server.redrawAt saving loading) = config.servers := by
    cases config
    simp [AppConfig.redraw]
  rw [parts, Serializer.mapIdx_eq_self]
  simp only [Server.redrawAt, Server.redraw_eq_self]
  exact Iff.rfl

end Keeps

end VkTurn.Model
