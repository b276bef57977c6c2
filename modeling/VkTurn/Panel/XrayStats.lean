import VkTurn.Panel.Traffic
import VkTurn.Store.Grouping
import VkTurn.Text.Leftmost

/-! # Reading Xray's counters

`GetTraffic` tells from the name of a counter what it counts, and collects the counters of inbounds
and outbounds, of users and of WireGuard peers in three maps.
-/

namespace VkTurn.Panel

open VkTurn.Store VkTurn.Text

/-- `xray.WireGuardPeerTraffic`. -/
structure WireGuardPeerTraffic where
  inboundTag : String
  publicKey : String
  up : Int
  down : Int
  deriving DecidableEq

structure Stat where
  name : String
  value : Int
  deriving DecidableEq

/-! ## The patterns -/

/-- `(downlink|uplink)` -/
def matchLink (chars : List Char) : Option String :=
  (("downlink".toList.isPrefixOf? chars).map fun _ => "downlink").or
    (("uplink".toList.isPrefixOf? chars).map fun _ => "uplink")

/-- `([^>]+)>>>traffic>>>(downlink|uplink)` -/
def matchTraffic (chars : List Char) : Option (String × String) := do
  let (name, rest) ← segmentOf '>' 2 chars
  let rest ← ("traffic".toList ++ separator '>' 2).isPrefixOf? rest
  let link ← matchLink rest
  some (String.ofList name, link)

/-- `([^>]+)>>>([^>]+)>>>traffic>>>(downlink|uplink)` -/
def matchPeerTraffic (chars : List Char) : Option (String × String × String) := do
  let (tag, rest) ← segmentOf '>' 2 chars
  let (publicKey, link) ← matchTraffic rest
  some (String.ofList tag, publicKey, link)

/-- `(inbound|outbound)>>>([^>]+)>>>traffic>>>(downlink|uplink)` -/
def trafficRegex (name : String) : Option (String × String × String) :=
  (leftmost (keyed '>' 2 ["inbound".toList, "outbound".toList] matchTraffic) name.toList).map
    fun (kind, groups) => (String.ofList kind, groups)

/-- `user>>>([^>]+)>>>traffic>>>(downlink|uplink)` -/
def clientTrafficRegex (name : String) : Option (String × String) :=
  (leftmost (keyed '>' 2 ["user".toList] matchTraffic) name.toList).map Prod.snd

/-- `wireguard>>>([^>]+)>>>([^>]+)>>>traffic>>>(downlink|uplink)` -/
def wireGuardPeerTrafficRegex (name : String) : Option (String × String × String) :=
  (leftmost (keyed '>' 2 ["wireguard".toList] matchPeerTraffic) name.toList).map Prod.snd

/-! ## The maps -/

def processTraffic (groups : String × String × String) (value : Int)
    (trafficMap : AList fun _ : String => Traffic) : AList fun _ : String => Traffic :=
  let (kind, tag, link) := groups
  if tag = "api" then trafficMap
  else
    let traffic := (trafficMap.lookup tag).getD ⟨kind = "inbound", tag, 0, 0⟩
    trafficMap.insert tag
      (if link = "downlink" then { traffic with down := value } else { traffic with up := value })

def processClientTraffic (groups : String × String) (value : Int)
    (clientTrafficMap : AList fun _ : String => ClientTraffic) :
    AList fun _ : String => ClientTraffic :=
  let (email, link) := groups
  let traffic := (clientTrafficMap.lookup email).getD
    { inboundID := 0, enable := false, email := email }
  clientTrafficMap.insert email
    (if link = "downlink" then { traffic with down := value } else { traffic with up := value })

def processWireGuardPeerTraffic (groups : String × String × String) (value : Int)
    (wireGuardPeerTrafficMap : AList fun _ : String => WireGuardPeerTraffic) :
    AList fun _ : String => WireGuardPeerTraffic :=
  let (inboundTag, publicKey, link) := groups
  let mapKey := inboundTag ++ "\x00" ++ publicKey
  let traffic := (wireGuardPeerTrafficMap.lookup mapKey).getD ⟨inboundTag, publicKey, 0, 0⟩
  wireGuardPeerTrafficMap.insert mapKey
    (if link = "downlink" then { traffic with down := value } else { traffic with up := value })

structure TrafficMaps where
  tags : AList fun _ : String => Traffic
  emails : AList fun _ : String => ClientTraffic
  peers : AList fun _ : String => WireGuardPeerTraffic

/-- One round of the loop over the counters. -/
def processStat (maps : TrafficMaps) (stat : Stat) : TrafficMaps :=
  match trafficRegex stat.name with
  | some groups => { maps with tags := processTraffic groups stat.value maps.tags }
  | none =>
    match clientTrafficRegex stat.name with
    | some groups => { maps with emails := processClientTraffic groups stat.value maps.emails }
    | none =>
      match wireGuardPeerTrafficRegex stat.name with
      | some groups =>
        { maps with peers := processWireGuardPeerTraffic groups stat.value maps.peers }
      | none => maps

/-- The order of the values is not specified. -/
def mapToSlice {α : Type} (map : AList fun _ : String => α) : List α :=
  map.entries.map Sigma.snd

/-- What `GetTraffic` uses of the API client. -/
structure XrayStatsAPI where
  grpcClient : Bool
  queryStats : Option (Bool → Except String (List Stat))

def getTraffic (api : XrayStatsAPI) (reset : Bool) :
    Except String (List Traffic × List ClientTraffic × List WireGuardPeerTraffic) :=
  if api.grpcClient = false then .error "xray api is not initialized"
  else
    match api.queryStats with
    | none => .error "xray StatusServiceClient is not initialized"
    | some queryStats => do
      let stats ← queryStats reset
      let maps := stats.foldl processStat ⟨∅, ∅, ∅⟩
      return (mapToSlice maps.tags, mapToSlice maps.emails, mapToSlice maps.peers)

/-! ## The counters that Xray has -/

/-- What is counted. -/
inductive Counted where
  | inbound (tag : String)
  | outbound (tag : String)
  | user (email : String)
  | wireguard (tag publicKey : String)
  deriving DecidableEq

structure CounterName where
  counted : Counted
  isDown : Bool
  deriving DecidableEq

def Counted.parts : Counted → List String
  | .inbound tag => ["inbound", tag]
  | .outbound tag => ["outbound", tag]
  | .user email => ["user", email]
  | .wireguard tag publicKey => ["wireguard", tag, publicKey]

def CounterName.text (name : CounterName) : String :=
  name.counted.parts.foldr (fun part rest => part ++ ">>>" ++ rest)
    ("traffic>>>" ++ if name.isDown then "downlink" else "uplink")

abbrev Counter := CounterName × Int

def Counter.stat (counter : Counter) : Stat := ⟨counter.1.text, counter.2⟩

/-- Tags, emails and keys are not empty and have no `>`, and every name is that of one counter. -/
structure WellNamed (counters : List Counter) : Prop where
  parts : ∀ counter ∈ counters, ∀ part ∈ counter.1.counted.parts,
    part ≠ "" ∧ '>' ∉ part.toList
  unique : (counters.map Prod.fst).Nodup

example : getTraffic
    ⟨true, some fun _ => .ok [⟨"user>>>a>>>traffic>>>downlink", 7⟩]⟩ true =
      .ok ([], [⟨0, false, "a", 0, 7, 0, 0, 0, 0, 0⟩], []) := by
  decide +kernel

end VkTurn.Panel
