import VkTurn.Frontend.SingBoxConfig
import VkTurn.Text.KotlinDecimal

/-! # Where a chained route sends its traffic

sing-box sends what no rule takes to the final outbound, and dials that through the outbound that
it has as its detour.
-/

namespace VkTurn.Frontend

open VkTurn.Model VkTurn.Text VkTurn.Transition

/-! ## Detours -/

/-- The fields of the outbound with a tag. -/
def outboundTagged (config : JsonFields) (tag : String) : Option JsonFields :=
  match config "outbounds" with
  | some (.array outbounds) =>
    (outbounds.filterMap JsonValue.object?).find? fun outbound =>
      stringField "tag" outbound = some tag
  | _ => none

/-- The server and the port of an outbound. -/
def dialAddress (outbound : JsonFields) : Option (String × String) :=
  (stringField "server" outbound).bind fun server =>
    match outbound "server_port" with
    | some (.number port) => some (server, port)
    | _ => none

/-- The address of the outbound through which the final one is dialled; there is none when that is
    dialled directly. -/
def detourOf (config : JsonFields) : Option (String × String) :=
  (objectField "route" config).bind fun route =>
    (stringField "final" route).bind fun final =>
      (outboundTagged config final).bind fun outbound =>
        (stringField "detour" outbound).bind fun detour =>
          (outboundTagged config detour).bind dialAddress

/-- The configuration sends the traffic through the listener of the vk-turn route. -/
def DialsThrough (config : JsonFields) (proxy : VkTurnProxy) : Prop :=
  detourOf config = some (proxy.listenHost, toString proxy.listenPort.toInt)

section Detours

variable {input : BuildInput} {v : ParsedVless} {chained : Option String} {listen : String}

theorem lookup_putIf_of_ne {present : Bool} {key other : String} {value : JsonValue}
    (differs : key ≠ other) : (putIf present other value).lookup key = none := by
  unfold putIf
  split
  · rw [List.lookup_cons, beq_false_of_ne differs]
    rfl
  · rfl

theorem lookup_putIf_self {present : Bool} {key : String} {value : JsonValue} :
    (putIf present key value).lookup key = if present then some value else none := by
  unfold putIf
  split
  · rw [List.lookup_cons, beq_self_eq_true]
  · rfl

theorem render_outbounds (input : BuildInput) :
    SingBoxConfig.render input "outbounds" = some (.array
      ((outbounds (parseVlessLink input.route.vlessLink) input.chainedProxyListen).map
        .object)) := by
  simp [SingBoxConfig.render, fieldsOfList, List.lookup_append, lookup_putIf_of_ne,
    List.lookup_cons]

theorem render_route (input : BuildInput) :
    objectField "route" (SingBoxConfig.render input) = some routeBlock := by
  rw [objectField_eq_some]
  simp [SingBoxConfig.render, fieldsOfList, List.lookup_append, lookup_putIf_of_ne,
    List.lookup_cons]

theorem outboundTagged_render (input : BuildInput) (tag : String) :
    outboundTagged (SingBoxConfig.render input) tag =
      (outbounds (parseVlessLink input.route.vlessLink) input.chainedProxyListen).find?
        fun outbound => stringField "tag" outbound = some tag := by
  have objects (fields : List JsonFields) :
      (fields.map JsonValue.object).filterMap JsonValue.object? = fields := by
    simp [List.filterMap_map, Function.comp_def, JsonValue.object?]
  simp only [outboundTagged, render_outbounds, objects]

theorem vless_tag (v : ParsedVless) (chained : Option String) :
    stringField "tag" (buildVlessOutbound v chained) = some "proxy" := by
  simp [stringField, buildVlessOutbound, fieldsOfList, List.lookup_cons]

theorem vless_detour (v : ParsedVless) (chained : Option String) :
    stringField "detour" (buildVlessOutbound v chained) =
      if chained.isSome then some "vkturn-chain" else none := by
  cases chained with
  | none =>
    simp [stringField, buildVlessOutbound, fieldsOfList, List.lookup_append, lookup_putIf_of_ne,
      lookup_putIf_self, List.lookup_cons]
  | some listen =>
    simp [stringField, buildVlessOutbound, fieldsOfList, List.lookup_append, lookup_putIf_of_ne,
      lookup_putIf_self, List.lookup_cons]

/-- The dialer's address is what stands before and after the first colon of the listen address. -/
theorem dialAddress_socks (listen : String) : dialAddress (buildSocksDialer listen) =
    some ((splitOn ':' listen)[0]?.getD "127.0.0.1",
      toString (((splitOn ':' listen)[1]?.bind toIntOrNull).getD 9000).toInt) := by
  simp [dialAddress, stringField, buildSocksDialer, fieldsOfList, List.lookup_cons, jsonInt]

theorem detourOf_render (input : BuildInput) :
    detourOf (SingBoxConfig.render input) =
      input.chainedProxyListen.bind fun listen => dialAddress (buildSocksDialer listen) := by
  have isFinal : stringField "final" routeBlock = some "proxy" := by
    simp [stringField, routeBlock, fieldsOfList]
  rw [detourOf, render_route, Option.bind_some, isFinal, Option.bind_some, outboundTagged_render]
  have isFirst : (outbounds (parseVlessLink input.route.vlessLink) input.chainedProxyListen).find?
      (fun outbound => stringField "tag" outbound = some "proxy") =
        some (buildVlessOutbound (parseVlessLink input.route.vlessLink) input.chainedProxyListen) :=
    List.find?_cons_of_pos (by simp [vless_tag])
  rw [isFirst, Option.bind_some, vless_detour]
  cases isListen : input.chainedProxyListen with
  | none => rfl
  | some listen =>
    have isDialer : (outbounds (parseVlessLink input.route.vlessLink) (some listen)).find?
        (fun outbound => stringField "tag" outbound = some "vkturn-chain") =
          some (buildSocksDialer listen) := by
      have dialerTag : stringField "tag" (buildSocksDialer listen) = some "vkturn-chain" := by
        simp [stringField, buildSocksDialer, fieldsOfList, List.lookup_cons]
      simp [outbounds, vless_tag, dialerTag]
    simp only [Option.isSome_some, if_true, Option.bind_some, outboundTagged_render, isListen,
      isDialer]

end Detours

/-! ## Chained routes -/

section Chained

variable {identity : Identity} {route : SingBox} {chainId : String} {proxy : VkTurnProxy}

/-- Of a host with a colon only what stands before the first one is dialled. -/
theorem dialAddress_hostPort_iff (host : String) (port : Int32) :
    dialAddress (buildSocksDialer (Launcher.hostPort host port)) =
      some (host, toString port.toInt) ↔ ':' ∉ host.toList := by
  have portFree : ':' ∉ (toString port.toInt).toList := by
    intro member
    obtain isMinus | isDigit := mem_toString_int member
    · exact absurd isMinus (by decide)
    · exact absurd isDigit (by decide)
  have parts : splitOn ':' (Launcher.hostPort host port) =
      splitOn ':' host ++ [toString port.toInt] := by
    have joined : (Launcher.hostPort host port).toList =
        host.toList ++ ':' :: (toString port.toInt).toList := by
      simp [Launcher.hostPort, String.toList_append]
    rw [splitOn_joined joined, splitOn_free portFree]
  rw [dialAddress_socks, parts]
  constructor
  · intro same
    obtain ⟨head, tail, split⟩ := List.exists_cons_of_ne_nil (List.splitOn_ne_nil ':' host.toList)
    have headFree : ':' ∉ head := splitOn_part_free head (by rw [split]; exact List.mem_cons_self)
    have isHead : String.ofList head = host := by
      rw [splitOn, split] at same
      exact congrArg Prod.fst (Option.some.inj same)
    rwa [← isHead, String.toList_ofList]
  · intro free
    rw [splitOn_free free]
    simp only [List.cons_append, List.nil_append, List.getElem?_cons_zero,
      List.getElem?_cons_succ, Option.getD_some, Option.bind_some, toIntOrNull_toString]

/-- What a chained route needs to be dialled through the listener it refers to. -/
def ChainResolves (identity : Identity) (chainId : String) : Prop :=
  ∃ proxy, chainedProxy identity chainId = some proxy ∧ ':' ∉ proxy.listenHost.toList

/-- The route that is started goes through the listener of the route it refers to. -/
def GoesThroughChain (identity : Identity) (route : SingBox) (chainId : String) : Prop :=
  ∃ proxy, chainedProxy identity chainId = some proxy ∧
    DialsThrough (startSingBox identity route) proxy

/-- A chained route is dialled through its vk-turn route if and only if that is still there and
    listens on a host without a colon. -/
theorem goes_through_chain_iff (isChained : route.chainedThroughProxyRouteId = some chainId) :
    GoesThroughChain identity route chainId ↔ ChainResolves identity chainId := by
  have dialled (proxy : VkTurnProxy) (isProxy : chainedProxy identity chainId = some proxy) :
      DialsThrough (startSingBox identity route) proxy ↔ ':' ∉ proxy.listenHost.toList := by
    rw [DialsThrough, startSingBox, detourOf_render]
    simp only [isChained, Option.bind_some, isProxy, Option.map_some]
    exact dialAddress_hostPort_iff proxy.listenHost proxy.listenPort
  constructor
  · rintro ⟨proxy, isProxy, dials⟩
    exact ⟨proxy, isProxy, (dialled proxy isProxy).mp dials⟩
  · rintro ⟨proxy, isProxy, free⟩
    exact ⟨proxy, isProxy, (dialled proxy isProxy).mpr free⟩

end Chained

/-! ## Removed routes -/

def plainProxy : VkTurnProxy := { id := "vkp-a" }

def chainedSingBox : SingBox := { id := "sb-a", chainedThroughProxyRouteId := some "vkp-a" }

/-- Both routes are there. -/
theorem goes_through_plain_proxy :
    GoesThroughChain { id := "id-a", routes := [.vkTurnProxy plainProxy, .singBox chainedSingBox] }
      chainedSingBox "vkp-a" :=
  (goes_through_chain_iff rfl).mpr ⟨plainProxy, rfl, by decide⟩

/-- The vk-turn route is removed, and the chained one is started all the same. -/
theorem chained_route_goes_direct : ¬ ∀ state serverId identityId routeId server identity route
    chainId, viewModel.Reachable DefaultConfig state →
    AppViewModel.connect state.config serverId identityId routeId =
      .starts server identity (.singBox route) →
    route.chainedThroughProxyRouteId = some chainId → GoesThroughChain identity route chainId := by
  intro always
  obtain ⟨state, ran, server, identity, starts, removed⟩ : ∃ state, viewModel.run {}
      [.addServer { id := "srv-a" },
        .addIdentity "srv-a" { id := "id-a", routes := [.vkTurnProxy plainProxy] },
        .addRoute "srv-a" "id-a" (.singBox chainedSingBox),
        .removeRoute "srv-a" "id-a" "vkp-a"] = some state ∧
      ∃ server identity, AppViewModel.connect state.config "srv-a" "id-a" "sb-a" =
        .starts server identity (.singBox chainedSingBox) ∧
      chainedProxy identity "vkp-a" = none := ⟨_, rfl, _, _, rfl, rfl⟩
  have reached : viewModel.Reachable DefaultConfig state := .run (.start rfl) ran
  obtain ⟨proxy, isProxy, _⟩ := always _ _ _ _ _ _ _ _ reached starts rfl
  rw [removed] at isProxy
  cases isProxy

end VkTurn.Frontend
