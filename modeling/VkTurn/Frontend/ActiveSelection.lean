import VkTurn.Frontend.AppViewModel

/-! # Whether the selection points into the tree

The selected ids are looked up with a fallback to the first element, except that an identity
without routes has no first one.  A mutation keeps the selection valid when it leaves the selected
identity with its selected route in the selected server.
-/

namespace VkTurn.Frontend

open VkTurn.Model VkTurn.Transition

/-! ## Lists with keys -/

section Keyed

variable {Node : Type} {key : Node → String} {nodes : List Node} {node template : Node}
  {id removed : String} {block : Node → Node}

/-- A node is changed by a block that keeps its key. -/
theorem find_update_key {target : String}
    (keeps : ∀ node ∈ nodes, key node = target → key (block node) = target)
    (found : nodes.find? (key · = id) = some node) :
    (nodes.map fun node => if key node = target then block node else node).find? (key · = id) =
      some (if id = target then block node else node) := by
  induction nodes with
  | nil => cases found
  | cons first rest inductionHypothesis =>
    have keepsFirst := keeps first List.mem_cons_self
    have keepsRest := fun node member => keeps node (List.mem_cons_of_mem _ member)
    have sameKey : key (if key first = target then block first else first) = key first := by
      split
      · rename_i isTarget
        rw [keepsFirst isTarget, isTarget]
      · rfl
    rw [List.map_cons]
    by_cases isFirst : key first = id
    · rw [List.find?_cons_of_pos (by simp [isFirst])] at found
      cases found
      have isFound := decide_eq_true (sameKey.trans isFirst)
      rw [isFirst] at isFound ⊢
      exact List.find?_cons_of_pos isFound
    · rw [List.find?_cons_of_neg (by simp [isFirst])] at found
      rw [List.find?_cons_of_neg (by simp [sameKey, isFirst])]
      exact inductionHypothesis keepsRest found

theorem find_append_key (found : nodes.find? (key · = id) = some node) :
    (nodes ++ [template]).find? (key · = id) = some node := by
  rw [List.find?_append, found]
  rfl

theorem find_filter_key (differs : id ≠ removed) :
    (nodes.filter (key · ≠ removed)).find? (key · = id) = nodes.find? (key · = id) := by
  rw [List.find?_filter]
  congr 1
  funext node
  by_cases isId : key node = id
  · simp [isId, differs]
  · simp [isId]

end Keyed

/-! ## Valid selections -/

structure SelectionValid (config : AppConfig) : Prop where
  server : config.servers ≠ [] →
    ∃ server ∈ config.servers, config.activeServerId = some server.id
  identity : ∀ server, config.activeServer = some server → server.identities ≠ [] →
    ∃ identity ∈ server.identities, config.activeIdentityId = some identity.id
  route : ∀ identity, config.activeIdentity = some identity → identity.routes ≠ [] →
    ∃ route ∈ identity.routes, identity.activeRouteId = some route.id
  connects : AppViewModel.connectActive config ≠ .throws

def RouteChosen (identity : Identity) : Prop :=
  ∃ route ∈ identity.routes, identity.activeRouteId = some route.id

/-- If there are identities, the selected one is among them and has its route selected. -/
def IdentityChosen (selected : Option String) (identities : List Identity) : Prop :=
  identities ≠ [] → ∃ id identity, selected = some id ∧
    identities.find? (·.id = id) = some identity ∧ RouteChosen identity

structure SelectionInv (config : AppConfig) : Prop where
  unselected : config.servers = [] → config.activeServerId = none
  selected : config.servers ≠ [] → ∃ id server, config.activeServerId = some id ∧
    config.server id = some server ∧ IdentityChosen config.activeIdentityId server.identities

/-- The selected identity of the selected server. -/
structure Targets (config : AppConfig) (serverId identityId : String) (identity : Identity) :
    Prop where
  isServer : config.activeServerId = some serverId
  isIdentity : config.activeIdentityId = some identityId
  found : ∃ server, config.server serverId = some server ∧
    server.identities.find? (·.id = identityId) = some identity

/-- What keeps the selection valid.  A mutation of what is not selected may do anything but change
    ids. -/
def KeepsSelection (config : AppConfig) : Mutation → Prop
  | .addServer template =>
    config.servers = [] → IdentityChosen config.activeIdentityId template.identities
  | .removeServer serverId =>
    config.activeServerId = some serverId →
      ∀ server, (config.servers.filter (·.id ≠ serverId)).head? = some server →
        IdentityChosen config.activeIdentityId server.identities
  | .mutateServer serverId block =>
    (∀ server ∈ config.servers, server.id = serverId → (block server).id = serverId) ∧
      ∀ server, config.activeServerId = some serverId → config.server serverId = some server →
        IdentityChosen config.activeIdentityId (block server).identities
  | .addIdentity serverId template =>
    ∀ server, config.activeServerId = some serverId → config.server serverId = some server →
      server.identities = [] → config.activeIdentityId = some template.id ∧ RouteChosen template
  | .removeIdentity serverId identityId =>
    ∀ server, config.activeServerId = some serverId → config.server serverId = some server →
      config.activeIdentityId = some identityId →
        ∀ identity ∈ server.identities, identity.id = identityId
  | .mutateIdentity serverId identityId block =>
    ∀ server, config.activeServerId = some serverId → config.server serverId = some server →
      (∀ identity ∈ server.identities, identity.id = identityId →
        (block identity).id = identityId) ∧
      ∀ identity, Targets config serverId identityId identity → RouteChosen (block identity)
  | .addRoute _ _ _ => True
  | .removeRoute serverId identityId routeId =>
    ∀ identity, Targets config serverId identityId identity →
      ∃ route ∈ identity.routes, route.id ≠ routeId
  | .mutateRoute serverId identityId routeId block =>
    ∀ identity, Targets config serverId identityId identity →
      ∀ route ∈ identity.routes, route.id = routeId → (block route).id = routeId
  | .selectServer serverId =>
    ∃ server, config.server serverId = some server ∧
      IdentityChosen config.activeIdentityId server.identities
  | .selectIdentity identityId =>
    ∀ server, config.activeServer = some server → IdentityChosen (some identityId) server.identities
  | .selectRoute serverId identityId routeId =>
    ∀ identity, Targets config serverId identityId identity →
      ∃ route ∈ identity.routes, route.id = routeId
  | .activateProfile profile =>
    ∃ server identity route, AppViewModel.connect config profile.serverId profile.identityId
      profile.routeId = .starts server identity route
  | .setOverrides _ _ => True
  | .readForImport => True
  | .importInto base _ ids => ∀ server ∈ base.servers, server.id ≠ ids.server

section Selection

variable {config : AppConfig} {server : Server} {identity : Identity}

theorem SelectionInv.valid (inv : SelectionInv config) : SelectionValid config := by
  have active (server : Server) (isActive : config.activeServer = some server) :
      IdentityChosen config.activeIdentityId server.identities := by
    have some : config.servers ≠ [] := by
      intro isEmpty
      rw [AppConfig.activeServer, inv.unselected isEmpty, isEmpty] at isActive
      cases isActive
    obtain ⟨id, named, isId, isNamed, chosen⟩ := inv.selected some
    rw [AppConfig.activeServer, isId, Option.bind_some, isNamed] at isActive
    cases isActive
    exact chosen
  have activeRoute (identity : Identity) (isActive : config.activeIdentity = some identity) :
      RouteChosen identity := by
    obtain ⟨server, isServer, isIdentity⟩ := Option.bind_eq_some_iff.mp isActive
    have nonempty : server.identities ≠ [] := by
      intro isEmpty
      rw [isEmpty] at isIdentity
      cases isIdentity
    obtain ⟨id, chosen, isId, found, routeChosen⟩ := active server isServer nonempty
    simp only [isId, Option.some.injEq, found] at isIdentity
    cases isIdentity
    exact routeChosen
  constructor
  · intro nonempty
    obtain ⟨id, server, isId, isServer, _⟩ := inv.selected nonempty
    obtain ⟨member, sameId⟩ := AppConfig.server_spec isServer
    exact ⟨server, member, by rw [isId, sameId]⟩
  · intro server isActive nonempty
    obtain ⟨id, identity, isId, found, _⟩ := active server isActive nonempty
    have sameId := List.find?_some found
    exact ⟨identity, List.mem_of_find?_eq_some found, by rw [isId, of_decide_eq_true sameId]⟩
  · intro identity isActive _
    exact activeRoute identity isActive
  · intro throws
    unfold AppViewModel.connectActive at throws
    split at throws
    · cases throws
    · split at throws
      · cases throws
      · rename_i identity isActive
        obtain ⟨route, member, isRoute⟩ := activeRoute identity isActive
        split at throws
        · rename_i noRoute
          rw [Identity.activeRoute_eq_none.mp noRoute] at member
          cases member
        · cases throws

/-! ## Mutations -/

theorem SelectionInv.empty : SelectionInv {} := ⟨fun _ => rfl, fun nonempty => absurd rfl nonempty⟩

/-- A block that keeps the ids of the servers. -/
theorem SelectionInv.mutateServer (inv : SelectionInv config) {serverId : String}
    {block : Server → Server}
    (keepsId : ∀ server ∈ config.servers, server.id = serverId → (block server).id = serverId)
    (chosen : ∀ server, config.activeServerId = some serverId →
      config.server serverId = some server →
      IdentityChosen config.activeIdentityId server.identities →
      IdentityChosen config.activeIdentityId (block server).identities) :
    SelectionInv (AppViewModel.mutateServer config serverId block) := by
  constructor
  · intro isEmpty
    exact inv.unselected (List.map_eq_nil_iff.mp isEmpty)
  · intro nonempty
    obtain ⟨id, server, isId, isServer, wasChosen⟩ :=
      inv.selected fun isEmpty => nonempty (by simp [AppViewModel.mutateServer, isEmpty])
    refine ⟨id, _, isId, find_update_key keepsId isServer, ?_⟩
    split
    · rename_i isTarget
      subst isTarget
      exact chosen server isId isServer wasChosen
    · exact wasChosen

/-- The identities of the selected server change. -/
theorem SelectionInv.mutateIdentities (inv : SelectionInv config) {serverId : String}
    {identities : Server → List Identity}
    (chosen : ∀ server, config.activeServerId = some serverId →
      config.server serverId = some server →
      IdentityChosen config.activeIdentityId server.identities →
      IdentityChosen config.activeIdentityId (identities server)) :
    SelectionInv (AppViewModel.mutateServer config serverId fun server =>
      { server with identities := identities server }) :=
  inv.mutateServer (fun _ _ isId => isId) chosen

/-- One identity is changed, and keeps its id. -/
theorem IdentityChosen.map {selected : Option String} {identities : List Identity}
    {identityId : String} {block : Identity → Identity}
    (chosen : IdentityChosen selected identities)
    (keepsId : ∀ identity ∈ identities, identity.id = identityId → (block identity).id = identityId)
    (keepsRoute : ∀ identity, selected = some identityId →
      identities.find? (·.id = identityId) = some identity → RouteChosen identity →
        RouteChosen (block identity)) :
    IdentityChosen selected (identities.map fun identity =>
      if identity.id = identityId then block identity else identity) := by
  intro nonempty
  obtain ⟨id, identity, isId, found, routeChosen⟩ :=
    chosen fun isEmpty => nonempty (by rw [isEmpty]; rfl)
  refine ⟨id, _, isId, find_update_key keepsId found, ?_⟩
  split
  · rename_i isTarget
    subst isTarget
    exact keepsRoute identity isId found routeChosen
  · exact routeChosen

theorem IdentityChosen.append {selected : Option String} {identities : List Identity}
    {template : Identity} (chosen : IdentityChosen selected identities)
    (first : identities = [] → selected = some template.id ∧ RouteChosen template) :
    IdentityChosen selected (identities ++ [template]) := by
  intro _
  by_cases isEmpty : identities = []
  · obtain ⟨isId, routeChosen⟩ := first isEmpty
    exact ⟨template.id, template, isId, by simp [isEmpty], routeChosen⟩
  · obtain ⟨id, identity, isId, found, routeChosen⟩ := chosen isEmpty
    exact ⟨id, identity, isId, find_append_key found, routeChosen⟩

theorem IdentityChosen.filter {selected : Option String} {identities : List Identity}
    {identityId : String} (chosen : IdentityChosen selected identities)
    (last : selected = some identityId → ∀ identity ∈ identities, identity.id = identityId) :
    IdentityChosen selected (identities.filter (·.id ≠ identityId)) := by
  intro nonempty
  obtain ⟨id, identity, isId, found, routeChosen⟩ :=
    chosen fun isEmpty => nonempty (by rw [isEmpty]; rfl)
  have differs : id ≠ identityId := by
    rintro rfl
    apply nonempty
    rw [List.filter_eq_nil_iff]
    intro other member
    simp [last isId other member]
  exact ⟨id, identity, isId, (find_filter_key differs).trans found, routeChosen⟩

theorem RouteChosen.append (chosen : RouteChosen identity) (template : Route) :
    RouteChosen { identity with routes := identity.routes ++ [template] } := by
  obtain ⟨route, member, isRoute⟩ := chosen
  exact ⟨route, List.mem_append_left _ member, isRoute⟩

theorem RouteChosen.filter (chosen : RouteChosen identity) {routeId : String}
    (another : ∃ route ∈ identity.routes, route.id ≠ routeId) :
    RouteChosen { identity with
      routes := identity.routes.filter (·.id ≠ routeId)
      activeRouteId :=
        if identity.activeRouteId = some routeId then
          (identity.routes.filter (·.id ≠ routeId)).head?.map (·.id)
        else identity.activeRouteId } := by
  obtain ⟨other, otherMember, differs⟩ := another
  obtain ⟨route, member, isRoute⟩ := chosen
  by_cases isRemoved : identity.activeRouteId = some routeId
  · have remaining : other ∈ identity.routes.filter (·.id ≠ routeId) :=
      List.mem_filter.mpr ⟨otherMember, decide_eq_true differs⟩
    obtain ⟨first, rest, isFirst⟩ := List.exists_cons_of_ne_nil (List.ne_nil_of_mem remaining)
    refine ⟨first, ?_, ?_⟩
    · rw [isFirst]
      exact List.mem_cons_self
    · rw [if_pos isRemoved, isFirst]
      rfl
  · refine ⟨route, List.mem_filter.mpr ⟨member, decide_eq_true fun same => ?_⟩, ?_⟩
    · rw [isRoute, same] at isRemoved
      exact isRemoved rfl
    · rw [if_neg isRemoved, isRoute]

theorem RouteChosen.map (chosen : RouteChosen identity) {routeId : String} {block : Route → Route}
    (keepsId : ∀ route ∈ identity.routes, route.id = routeId → (block route).id = routeId) :
    RouteChosen { identity with
      routes := identity.routes.map fun route =>
        if route.id = routeId then block route else route } := by
  obtain ⟨route, member, isRoute⟩ := chosen
  refine ⟨_, List.mem_map_of_mem member, ?_⟩
  split
  · rename_i isTarget
    rw [keepsId route member isTarget, isRoute, isTarget]
  · exact isRoute

theorem SelectionInv.mutateIdentity (inv : SelectionInv config) {serverId identityId : String}
    {block : Identity → Identity}
    (keepsId : ∀ server, config.activeServerId = some serverId →
      config.server serverId = some server → ∀ identity ∈ server.identities,
        identity.id = identityId → (block identity).id = identityId)
    (keepsRoute : ∀ identity, Targets config serverId identityId identity → RouteChosen identity →
      RouteChosen (block identity)) :
    SelectionInv (AppViewModel.mutateIdentity config serverId identityId block) :=
  inv.mutateIdentities fun server isId isServer chosen =>
    chosen.map (keepsId server isId isServer) fun identity isIdentity found routeChosen =>
      keepsRoute identity ⟨isId, isIdentity, server, isServer, found⟩ routeChosen

theorem SelectionInv.addServer (inv : SelectionInv config) {template : Server}
    (keeps : KeepsSelection config (.addServer template)) :
    SelectionInv (AppViewModel.addServer config template) := by
  constructor
  · intro isEmpty
    simp [AppViewModel.addServer] at isEmpty
  · intro _
    by_cases isEmpty : config.servers = []
    · refine ⟨template.id, template, ?_, ?_, keeps isEmpty⟩
      · simp [AppViewModel.addServer, inv.unselected isEmpty]
      · simp [AppViewModel.addServer, AppConfig.server, isEmpty]
    · obtain ⟨id, server, isId, isServer, chosen⟩ := inv.selected isEmpty
      refine ⟨id, server, ?_, find_append_key isServer, chosen⟩
      simp [AppViewModel.addServer, isId]

theorem SelectionInv.removeServer (inv : SelectionInv config) {serverId : String}
    (keeps : KeepsSelection config (.removeServer serverId)) :
    SelectionInv (AppViewModel.removeServer config serverId) := by
  constructor
  · intro isEmpty
    dsimp only [AppViewModel.removeServer] at isEmpty ⊢
    split
    · rw [isEmpty]
      rfl
    · rename_i notSelected
      by_cases wasEmpty : config.servers = []
      · exact inv.unselected wasEmpty
      · obtain ⟨id, server, isId, isServer, _⟩ := inv.selected wasEmpty
        obtain ⟨member, sameId⟩ := AppConfig.server_spec isServer
        have removed := List.filter_eq_nil_iff.mp isEmpty server member
        refine absurd ?_ notSelected
        rw [isId, ← sameId, Option.some.injEq]
        simpa using removed
  · intro nonempty
    dsimp only [AppViewModel.removeServer] at nonempty ⊢
    obtain ⟨first, rest, isFirst⟩ := List.exists_cons_of_ne_nil nonempty
    split
    · rename_i isSelected
      have isHead : (config.servers.filter (·.id ≠ serverId)).head? = some first := by
        rw [isFirst]
        rfl
      have found : (config.servers.filter (·.id ≠ serverId)).find? (·.id = first.id) =
          some first := by
        rw [isFirst]
        exact List.find?_cons_of_pos (decide_eq_true rfl)
      exact ⟨first.id, first, by rw [isHead]; rfl, found, keeps isSelected first isHead⟩
    · rename_i notSelected
      obtain ⟨id, server, isId, isServer, chosen⟩ :=
        inv.selected fun wasEmpty => nonempty (by rw [wasEmpty]; rfl)
      have differs : id ≠ serverId := fun same => notSelected (by rw [isId, same])
      exact ⟨id, server, isId, (find_filter_key differs).trans isServer, chosen⟩

theorem connect_eq_starts {serverId identityId routeId : String} {route : Route}
    (connects : AppViewModel.connect config serverId identityId routeId =
      .starts server identity route) :
    config.server serverId = some server ∧
      server.identities.find? (·.id = identityId) = some identity ∧
      identity.routes.find? (·.id = routeId) = some route := by
  unfold AppViewModel.connect at connects
  split at connects
  · cases connects
  · rename_i isServer
    split at connects
    · cases connects
    · rename_i isIdentity
      split at connects
      · cases connects
      · rename_i isRoute
        cases connects
        exact ⟨isServer, isIdentity, isRoute⟩

theorem SelectionInv.activateProfile {profile : Profile}
    (keeps : KeepsSelection config (.activateProfile profile)) :
    SelectionInv (AppViewModel.activateProfile config profile) := by
  obtain ⟨server, identity, route, connects⟩ := keeps
  obtain ⟨isServer, isIdentity, isRoute⟩ := connect_eq_starts connects
  obtain ⟨member, _⟩ := AppConfig.server_spec isServer
  have serverFound : (AppViewModel.activateProfile config profile).server profile.serverId = _ :=
    find_update_key (fun _ _ isId => isId) isServer
  rw [if_pos rfl] at serverFound
  constructor
  · intro isEmpty
    rw [List.map_eq_nil_iff.mp isEmpty] at member
    cases member
  · intro _
    refine ⟨profile.serverId, _, rfl, serverFound, fun _ => ⟨profile.identityId, _, rfl,
      find_update_key (fun _ _ isId => isId) isIdentity, ?_⟩⟩
    rw [if_pos rfl]
    exact ⟨route, List.mem_of_find?_eq_some isRoute,
      congrArg some (of_decide_eq_true (List.find?_some isRoute :)).symm⟩

theorem Imported.selectionInv {imported : Imported} {ids : ImportIds} {base : AppConfig}
    (fresh : ∀ server ∈ base.servers, server.id ≠ ids.server) :
    SelectionInv (imported.mergeInto ids base) := by
  constructor
  · intro isEmpty
    simp [Imported.mergeInto] at isEmpty
  · intro _
    have notFound : base.servers.find? (·.id = ids.server) = none := by
      rw [List.find?_eq_none]
      intro server member
      simp [fresh server member]
    have found : (imported.mergeInto ids base).server ids.server = some
        { imported.server with
          id := ids.server
          name := "wingsv " ++ imported.server.host
          identities := [imported.identity ids] } := by
      rw [AppConfig.server, Imported.mergeInto, List.find?_append, notFound]
      simp
    refine ⟨ids.server, _, rfl, found, fun _ => ⟨ids.identity, imported.identity ids, rfl, ?_, ?_⟩⟩
    · simp [Imported.identity]
    · exact ⟨_, List.mem_singleton_self _, rfl⟩

theorem SelectionInv.select (inv : SelectionInv config) {identityId : String}
    (chosen : ∀ server, config.activeServer = some server →
      IdentityChosen (some identityId) server.identities) :
    SelectionInv (AppViewModel.selectIdentity config identityId) := by
  refine ⟨inv.unselected, fun nonempty => ?_⟩
  obtain ⟨id, server, isId, isServer, _⟩ := inv.selected nonempty
  refine ⟨id, server, isId, isServer, chosen server ?_⟩
  rw [AppConfig.activeServer, isId, Option.bind_some, isServer]
  rfl

/-- A mutation of the kind that keeps the selection. -/
theorem SelectionInv.step (inv : SelectionInv config) {mutation : Mutation}
    (keeps : KeepsSelection config mutation) :
    SelectionInv (AppViewModel.applied config mutation) := by
  cases mutation with
  | addServer template => exact inv.addServer keeps
  | removeServer serverId => exact inv.removeServer keeps
  | mutateServer serverId block =>
    exact inv.mutateServer keeps.1 fun server isId isServer _ => keeps.2 server isId isServer
  | addIdentity serverId template =>
    exact inv.mutateIdentities fun server isId isServer chosen =>
      chosen.append (keeps server isId isServer)
  | removeIdentity serverId identityId =>
    exact inv.mutateIdentities fun server isId isServer chosen =>
      chosen.filter (keeps server isId isServer)
  | mutateIdentity serverId identityId block =>
    refine inv.mutateIdentity (fun server isId isServer => (keeps server isId isServer).1)
      fun identity targets _ => ?_
    obtain ⟨server, isServer, _⟩ := targets.found
    exact (keeps server targets.isServer isServer).2 identity targets
  | addRoute serverId identityId template =>
    exact inv.mutateIdentity (fun _ _ _ _ _ isId => isId) fun _ _ chosen => chosen.append template
  | removeRoute serverId identityId routeId =>
    exact inv.mutateIdentity (fun _ _ _ _ _ isId => isId) fun identity targets chosen =>
      chosen.filter (keeps identity targets)
  | mutateRoute serverId identityId routeId block =>
    exact inv.mutateIdentity (fun _ _ _ _ _ isId => isId) fun identity targets chosen =>
      chosen.map (keeps identity targets)
  | selectServer serverId =>
    obtain ⟨server, isServer, chosen⟩ := keeps
    refine ⟨fun isEmpty => ?_, fun _ => ⟨serverId, server, rfl, isServer, chosen⟩⟩
    obtain ⟨member, _⟩ := AppConfig.server_spec isServer
    exact absurd isEmpty (List.ne_nil_of_mem member)
  | selectIdentity identityId => exact inv.select keeps
  | selectRoute serverId identityId routeId =>
    refine inv.mutateIdentity (fun _ _ _ _ _ isId => isId) fun identity targets _ => ?_
    obtain ⟨route, member, isId⟩ := keeps identity targets
    exact ⟨route, member, congrArg some isId.symm⟩
  | activateProfile profile => exact .activateProfile keeps
  | setOverrides singBoxBinary proxyBinary => exact ⟨inv.unselected, inv.selected⟩
  | readForImport => exact inv
  | importInto base imported ids => exact Imported.selectionInv keeps

end Selection

/-! ## Runs -/

def SelectionKept (state : ViewModel) : Prop := SelectionInv state.config

def MutatesValidly (state : ViewModel) (mutation : Mutation) : Prop :=
  KeepsSelection state.config mutation

/-- The selection is valid in every run in which each mutation keeps it. -/
theorem active_selection_valid {state : ViewModel}
    (reached : viewModel.ReachableWhile MutatesValidly DefaultConfig state) :
    SelectionValid state.config := by
  have inv : SelectionKept state := by
    refine reached.invariant ?_ ?_
    · rintro state rfl
      exact .empty
    · intro state next mutation inv keeps stepped
      unfold SelectionKept at inv ⊢
      rw [config_after stepped]
      exact inv.step keeps
  exact inv.valid

def importedProfile : Imported where
  server := { host := "vps.example" }
  wg := {}
  route := {}
  notes := []

/-- An import into the default configuration. -/
theorem imported_selection_valid :
    SelectionValid (importedProfile.mergeInto ⟨"srv-a", "id-a", "vkp-a"⟩ {}) := by
  let ids : ImportIds := ⟨"srv-a", "id-a", "vkp-a"⟩
  have read : viewModel.ReachableWhile MutatesValidly DefaultConfig ⟨{}, [{}]⟩ :=
    .step (.start rfl) (show MutatesValidly {} .readForImport from trivial) rfl
  have reached : viewModel.ReachableWhile MutatesValidly DefaultConfig
      ⟨importedProfile.mergeInto ids {}, [{}]⟩ :=
    .step read (show MutatesValidly ⟨{}, [{}]⟩ (.importInto {} importedProfile ids) from nofun) rfl
  exact active_selection_valid reached

/-- The only route of the selected identity is removed. -/
theorem connect_active_throws : ¬ ∀ state, viewModel.Reachable DefaultConfig state →
    SelectionValid state.config := by
  intro always
  obtain ⟨state, ran, throws⟩ : ∃ state, viewModel.run {}
      [.addServer { id := "srv-a" },
        .addIdentity "srv-a" { id := "id-a", routes := [.vkTurnProxy { id := "vkp-a" }] },
        .activateProfile ⟨"srv-a", "id-a", "vkp-a"⟩,
        .removeRoute "srv-a" "id-a" "vkp-a"] = some state ∧
      AppViewModel.connectActive state.config = .throws := ⟨_, rfl, rfl⟩
  exact (always state (.run (.start rfl) ran)).connects throws

end VkTurn.Frontend
