import VkTurn.Daemon.StagedFiles

/-! # Interface names of WireGuard routes

The name is made of the first twelve letters and digits of the id.  The desktop runner appends
`-vk-wg-tun` to the id of its route, and a generated id is `vkp-` with ten random characters.
-/

namespace VkTurn.Daemon

open VkTurn.Text VkTurn.Transition

def isKept (char : Char) : Bool :=
  ('a' ≤ char ∧ char ≤ 'z') ∨ ('A' ≤ char ∧ char ≤ 'Z') ∨ ('0' ≤ char ∧ char ≤ '9')

/-- What of an id gets into its interface name. -/
def slug (id : String) : List Char :=
  let cleanSlug := id.toList.filter isKept
  if cleanSlug = [] then ['v', 'k'] else cleanSlug.take 12

theorem ifaceName_eq (id : String) : ifaceName id = "vk" ++ String.ofList (slug id) := by
  have isName : ifaceName id = "vk" ++ if id.toList.filter isKept = [] then "vk" else
      String.ofList ((id.toList.filter isKept).take 12) := rfl
  rw [isName, slug]
  split
  · rfl
  · rfl

theorem ifaceName_inj {first second : String} :
    ifaceName first = ifaceName second ↔ slug first = slug second := by
  rw [ifaceName_eq, ifaceName_eq, ← String.toList_inj, String.toList_append, String.toList_append,
    List.append_cancel_left_eq, String.toList_ofList, String.toList_ofList]

/-- Listed WireGuard routes with different ids share neither interface nor config file. -/
def InterfacesDistinct (state : Manager) : Prop :=
  ∀ first ∈ state.routes, ∀ second ∈ state.routes, first.spec.kind = "wireguard" →
    second.spec.kind = "wireguard" → first.spec.id ≠ second.spec.id →
      ifaceName first.spec.id ≠ ifaceName second.spec.id ∧ cfgPath first.spec ≠ cfgPath second.spec

/-- A WireGuard route is started only when no other one that is listed has its twelve letters. -/
def NewSlug (state : Manager) (label : Label) : Prop :=
  ∀ spec wgBin pid, label = .launch wgBin (.started pid) → state.lock = some (.starting spec) →
    spec.kind = "wireguard" → wgBin ≠ "" →
      ∀ other ∈ state.routes, other.spec.kind = "wireguard" → other.spec.id ≠ spec.id →
        slug other.spec.id ≠ slug spec.id

theorem names_ne_iff {first second : Spec} (isFirst : first.kind = "wireguard")
    (isSecond : second.kind = "wireguard") :
    (ifaceName first.id ≠ ifaceName second.id ∧ cfgPath first ≠ cfgPath second) ↔
      slug first.id ≠ slug second.id := by
  have samePath : cfgPath first = cfgPath second ↔ ifaceName first.id = ifaceName second.id := by
    rw [cfgPath_wireguard isFirst, cfgPath_wireguard isSecond]
    constructor
    · intro same
      have sameFile := List.append_inj_right' (Option.some.inj same) rfl
      rw [List.singleton_inj, ← String.toList_inj, String.toList_append, String.toList_append,
        List.append_cancel_right_eq, String.toList_inj] at sameFile
      exact sameFile
    · intro same
      rw [same]
  rw [ne_eq, ne_eq, samePath, and_self, ifaceName_inj]

/-! ## Steps -/

section Steps

variable {state next : Manager} {label : Label} {spec : Spec} {wgBin : String} {pid : Nat}
  {route : Route}

theorem spec_of_mem_setRoute {ref : CmdRef} {routeState : RouteState} {message : Option String}
    (listed : route ∈ (state.setRoute ref routeState message).routes) :
    ∃ old ∈ state.routes, old.spec = route.spec := by
  obtain ⟨old, isOld, rfl⟩ := List.mem_map.mp listed
  refine ⟨old, isOld, ?_⟩
  split
  · rfl
  · rfl

theorem routes_kill (signal : Signal) (killed : Route) :
    (state.kill signal killed).routes = state.routes := by
  unfold Manager.kill
  split
  · rfl
  · rfl

theorem spec_of_mem_afterStop {stopped : Route} {call : Call}
    (listed : route ∈ (state.afterStop stopped call).routes) : route ∈ state.routes := by
  cases call with
  | up spec => exact listed
  | down id => exact (List.mem_filter.mp listed).1
  | stopAll => exact (List.mem_filter.mp listed).1

/-- A successful launch lists its route beside those of other ids. -/
theorem routes_launch {outcome : Launch}
    (launched : state.launch spec wgBin outcome = some (.ok next)) :
    (∃ stages, state.prepare spec wgBin = .ok stages) ∧ (∃ pid, outcome = .started pid) ∧
      next.routes = ⟨spec, state.cmds.length, .running, ""⟩ ::
        state.routes.filter (·.spec.id ≠ spec.id) := by
  unfold Manager.launch at launched
  split at launched
  · cases launched
  · split at launched
    · cases launched
    · cases launched
  · cases launched
  · rename_i stages pid isPrepared
    obtain ⟨processes, spawned, isNext⟩ := Option.map_eq_some_iff.mp launched
    cases isNext
    exact ⟨⟨stages, isPrepared⟩, ⟨pid, rfl⟩, rfl⟩

/-- A route listed after a step was listed before it, or the step has started it. -/
theorem listed_after (stepped : daemonStep state label = some next) (listed : route ∈ next.routes) :
    (∃ old ∈ state.routes, old.spec = route.spec) ∨
      ∃ wgBin pid stages, label = .launch wgBin (.started pid) ∧
        state.lock = some (.starting route.spec) ∧
        state.prepare route.spec wgBin = .ok stages := by
  cases label with
  | launch wgBin outcome =>
    simp only [daemonStep] at stepped
    split at stepped
    · rename_i spec isStarting
      obtain ⟨result, launched, isNext⟩ := Option.map_eq_some_iff.mp stepped
      cases result with
      | error err =>
        cases isNext
        exact .inl ⟨route, listed, rfl⟩
      | ok started =>
        cases isNext
        obtain ⟨⟨stages, isPrepared⟩, ⟨pid, rfl⟩, routes⟩ := routes_launch launched
        rw [routes] at listed
        rcases List.mem_cons.mp listed with rfl | isOld
        · exact .inr ⟨wgBin, pid, stages, rfl, isStarting, isPrepared⟩
        · exact .inl ⟨route, (List.mem_filter.mp isOld).1, rfl⟩
    · cases stepped
  | up spec =>
    simp only [daemonStep] at stepped
    split at stepped
    · cases stepped
    · split at stepped
      · cases stepped
        exact .inl ⟨route, listed, rfl⟩
      · split at stepped
        · cases stepped
          exact .inl ⟨route, routes_kill .term _ ▸ listed, rfl⟩
        · cases stepped
          exact .inl ⟨route, listed, rfl⟩
  | down id =>
    simp only [daemonStep] at stepped
    split at stepped
    · cases stepped
    · split at stepped
      · cases stepped
        exact .inl ⟨route, routes_kill .term _ ▸ listed, rfl⟩
      · cases stepped
        exact .inl ⟨route, listed, rfl⟩
  | stopAll =>
    simp only [daemonStep] at stepped
    split at stepped
    · cases stepped
    · cases stepped
      exact .inl ⟨route, listed, rfl⟩
  | stopNext id =>
    simp only [daemonStep] at stepped
    split at stepped
    · obtain ⟨stopped, _, rfl⟩ := Option.map_eq_some_iff.mp stepped
      exact .inl ⟨route, routes_kill .term _ ▸ listed, rfl⟩
    · cases stepped
  | stoppedAll =>
    simp only [daemonStep] at stepped
    split at stepped
    · cases stepped
      exact .inl ⟨route, listed, rfl⟩
    · cases stepped
  | timeout =>
    simp only [daemonStep] at stepped
    split at stepped
    · cases stepped
      exact .inl ⟨route, routes_kill .kill _ ▸ listed, rfl⟩
    · cases stepped
  | done =>
    simp only [daemonStep] at stepped
    split at stepped
    · split at stepped
      · cases stepped
        exact .inl (spec_of_mem_setRoute (spec_of_mem_afterStop listed))
      · cases stepped
    · cases stepped
  | exit ref =>
    simp only [daemonStep] at stepped
    split at stepped
    · cases stepped
    · split at stepped
      · cases stepped
      · obtain ⟨processes, _, rfl⟩ := Option.map_eq_some_iff.mp stepped
        exact .inl ⟨route, listed, rfl⟩
  | collect ref =>
    simp only [daemonStep, Manager.collect] at stepped
    split at stepped
    · cases stepped
    · split at stepped
      · cases stepped
      · obtain ⟨processes, _, rfl⟩ := Option.map_eq_some_iff.mp stepped
        exact .inl ⟨route, listed, rfl⟩
  | watched ref err =>
    simp only [daemonStep, Manager.watch] at stepped
    split at stepped
    · cases stepped
    · split at stepped
      · split at stepped
        · cases stepped
          exact .inl (spec_of_mem_setRoute listed)
        · cases stepped
          exact .inl (spec_of_mem_setRoute listed)
      · cases stepped
  | foreignSpawn pid =>
    simp only [daemonStep] at stepped
    obtain ⟨processes, _, rfl⟩ := Option.map_eq_some_iff.mp stepped
    exact .inl ⟨route, listed, rfl⟩
  | foreignExit pid =>
    simp only [daemonStep, Manager.foreign] at stepped
    split at stepped
    · obtain ⟨processes, _, rfl⟩ := Option.map_eq_some_iff.mp stepped
      exact .inl ⟨route, listed, rfl⟩
    · cases stepped
  | foreignCollect pid =>
    simp only [daemonStep, Manager.foreign] at stepped
    split at stepped
    · obtain ⟨processes, _, rfl⟩ := Option.map_eq_some_iff.mp stepped
      exact .inl ⟨route, listed, rfl⟩
    · cases stepped

/-- The new route does not share its name with a listed one. -/
theorem slug_launched (isNew : NewSlug state label) {other : Route} {stages : Bool}
    (isLaunch : label = .launch wgBin (.started pid))
    (isStarting : state.lock = some (.starting spec))
    (isPrepared : state.prepare spec wgBin = .ok stages) (isWireguard : spec.kind = "wireguard")
    (listed : other ∈ state.routes) (otherWireguard : other.spec.kind = "wireguard")
    (differs : other.spec.id ≠ spec.id) : slug other.spec.id ≠ slug spec.id := by
  have found : wgBin ≠ "" := by
    rintro rfl
    simp [Manager.prepare, isWireguard] at isPrepared
  exact isNew spec wgBin pid isLaunch isStarting isWireguard found other listed otherWireguard
    differs

theorem InterfacesDistinct.step (distinct : InterfacesDistinct state) (isNew : NewSlug state label)
    (stepped : daemonStep state label = some next) : InterfacesDistinct next := by
  intro first isFirst second isSecond firstKind secondKind differs
  rcases listed_after stepped isFirst with ⟨firstOld, firstListed, sameFirst⟩ | firstNew
  · rw [← sameFirst] at firstKind differs ⊢
    rcases listed_after stepped isSecond with ⟨secondOld, secondListed, sameSecond⟩ | secondNew
    · rw [← sameSecond] at secondKind differs ⊢
      exact distinct firstOld firstListed secondOld secondListed firstKind secondKind differs
    · obtain ⟨wgBin, pid, stages, isLaunch, isStarting, isPrepared⟩ := secondNew
      have slugs := slug_launched isNew isLaunch isStarting isPrepared secondKind firstListed
        firstKind differs
      exact (names_ne_iff firstKind secondKind).mpr slugs
  · obtain ⟨wgBin, pid, stages, isLaunch, isStarting, isPrepared⟩ := firstNew
    rcases listed_after stepped isSecond with ⟨secondOld, secondListed, sameSecond⟩ | secondNew
    · rw [← sameSecond] at secondKind differs ⊢
      exact (names_ne_iff firstKind secondKind).mpr
        (slug_launched isNew isLaunch isStarting isPrepared firstKind secondListed secondKind
          (Ne.symm differs)).symm
    · -- one step starts one route
      obtain ⟨_, _, _, _, isOther, _⟩ := secondNew
      rw [isStarting, Option.some.injEq, Holding.starting.injEq] at isOther
      exact absurd (congrArg Spec.id isOther) differs

/-- A launch that takes over a name breaks the distinctness. -/
theorem shared_launch (shared : ¬ NewSlug state label)
    (stepped : daemonStep state label = some next) : ¬ InterfacesDistinct next := by
  unfold NewSlug at shared
  push Not at shared
  obtain ⟨spec, wgBin, pid, rfl, isStarting, isWireguard, found, other, listed, otherWireguard,
    differs, same⟩ := shared
  simp only [daemonStep, isStarting] at stepped
  obtain ⟨result, launched, isNext⟩ := Option.map_eq_some_iff.mp stepped
  have isPrepared : state.prepare spec wgBin = .ok true := by
    simp [Manager.prepare, isWireguard, found]
  cases result with
  | error err => simp [Manager.launch, isPrepared] at launched
  | ok started =>
    cases isNext
    obtain ⟨_, _, routes⟩ := routes_launch launched
    intro distinct
    have newListed : ⟨spec, state.cmds.length, .running, ""⟩ ∈ started.routes := by
      rw [routes]
      exact List.mem_cons_self
    have otherListed : other ∈ started.routes := by
      rw [routes]
      exact List.mem_cons_of_mem _ (List.mem_filter.mpr ⟨listed, decide_eq_true differs⟩)
    have names := distinct other otherListed _ newListed otherWireguard isWireguard differs
    exact (names_ne_iff otherWireguard isWireguard).mp names same

end Steps

/-! ## The ids of the desktop runner -/

def randomAlphabet : List Char := "abcdefghijklmnopqrstuvwxyz0123456789".toList

/-- The random part of a generated id. -/
structure RandomSuffix (suffix : List Char) : Prop where
  length : suffix.length = 10
  alphabet : ∀ char ∈ suffix, char ∈ randomAlphabet

/-- The daemon's id for the tunnel of a generated vk-turn route. -/
def desktopRouteId (suffix : List Char) : String :=
  "vkp-" ++ String.ofList suffix ++ "-vk-wg-tun"

/-- Nine of the ten random characters get into the name. -/
theorem slug_desktopRouteId {suffix : List Char} (random : RandomSuffix suffix) :
    slug (desktopRouteId suffix) = ['v', 'k', 'p'] ++ suffix.take 9 := by
  have alphabetKept : ∀ char ∈ randomAlphabet, isKept char = true :=
    List.all_eq_true.mp (by decide +kernel)
  have suffixKept : suffix.filter isKept = suffix :=
    List.filter_eq_self.mpr fun char member => alphabetKept char (random.alphabet char member)
  have cleanSlug : (desktopRouteId suffix).toList.filter isKept =
      ['v', 'k', 'p'] ++ (suffix ++ "vkwgtun".toList) := by
    simp only [desktopRouteId, String.toList_append, String.toList_ofList, List.filter_append,
      suffixKept, List.append_assoc]
    rfl
  have enough : 12 - ['v', 'k', 'p'].length ≤ suffix.length := by
    rw [random.length]
    decide +kernel
  rw [slug, cleanSlug, if_neg (by simp), List.take_append, List.take_of_length_le (by decide +kernel),
    List.take_append_of_le_length enough]
  rfl

/-! ## Runs -/

/-- While no WireGuard route is started under a name that is taken, the names are distinct; a launch
    under a taken one breaks that.  Two generated routes of the desktop share their name if they
    differ in the last random character only. -/
theorem interfaces_distinct (state : Manager) :
    (daemon.ReachableWhile NewSlug NewManager state → InterfacesDistinct state) ∧
      (∀ label next, daemon.step state label = some next → ¬ NewSlug state label →
        ¬ InterfacesDistinct next) ∧
      ∀ first second, RandomSuffix first → RandomSuffix second →
        (slug (desktopRouteId first) = slug (desktopRouteId second) ↔
          first.take 9 = second.take 9) := by
  refine ⟨fun reached => ?_, fun label next stepped shared => shared_launch shared stepped,
    fun first second firstRandom secondRandom => ?_⟩
  · refine reached.invariant ?_ fun state next label distinct isNew stepped =>
      distinct.step isNew stepped
    rintro state ⟨noRoutes, _⟩ first isFirst
    rw [noRoutes] at isFirst
    cases isFirst
  · rw [slug_desktopRouteId firstRandom, slug_desktopRouteId secondRandom,
      List.append_cancel_left_eq]

/-- Two tunnels of the desktop whose ids differ in the last random character. -/
theorem interface_collision : ¬ ∀ state, daemon.Reachable NewManager state →
    InterfacesDistinct state := by
  intro always
  obtain ⟨state, ran, first, isFirst, second, isSecond, firstKind, secondKind, firstId, secondId⟩ :
      ∃ state, daemon.run freshDaemon
        [.up ⟨desktopRouteId "aaaaaaaaaa".toList, "wireguard"⟩, .launch "wg-quick" (.started 100),
          .up ⟨desktopRouteId "aaaaaaaaab".toList, "wireguard"⟩,
          .launch "wg-quick" (.started 101)] = some state ∧
      ∃ first ∈ state.routes, ∃ second ∈ state.routes, first.spec.kind = "wireguard" ∧
        second.spec.kind = "wireguard" ∧ first.spec.id = desktopRouteId "aaaaaaaaaa".toList ∧
        second.spec.id = desktopRouteId "aaaaaaaaab".toList := by
    refine ⟨_, rfl, _, List.mem_cons_of_mem _ List.mem_cons_self, _, List.mem_cons_self, ?_⟩
    exact ⟨rfl, rfl, rfl, rfl⟩
  have reached : daemon.Reachable NewManager state :=
    Machine.Reachable.run (.start freshDaemon_isNew) ran
  have differs : first.spec.id ≠ second.spec.id := by
    rw [firstId, secondId]
    decide +kernel
  have names := always state reached first isFirst second isSecond firstKind secondKind differs
  rw [names_ne_iff firstKind secondKind, firstId, secondId] at names
  exact names (by decide +kernel)

end VkTurn.Daemon
