import VkTurn.Panel.XrayStats
import VkTurn.Panel.Settings
import VkTurn.Text.KotlinDecimal

/-! # The traffic of WireGuard peers

`BuildVKTurnProxyClientTraffics` finds the client that a peer of a WireGuard inbound is bound to,
from the tag of the inbound and the public key of the peer, and adds up the traffic of each email.
-/

namespace VkTurn.Panel

open VkTurn.Store
open VkTurn.Text (trimSpace)

inductive BuildSite where
  | wireGuardInbounds
  | vkTurnProxyInbounds
  deriving DecidableEq

def wireGuardPeerTrafficBindingKey (inboundID : Int) (publicKey : String) : String :=
  toString inboundID ++ "\x00" ++ trimSpace publicKey

/-- A client that a peer of a WireGuard inbound is bound to, and the inbound that has it. -/
structure PeerClient where
  wireguardInboundID : Int
  inboundID : Int
  client : VKTurnProxyClient
  deriving DecidableEq

namespace PeerClient

def key (bound : PeerClient) : String :=
  wireGuardPeerTrafficBindingKey bound.wireguardInboundID bound.client.peerPublicKey

/-- What is kept of it under the key. -/
def traffic (bound : PeerClient) : ClientTraffic where
  inboundID := bound.inboundID
  email := bound.client.email
  enable := bound.client.enable
  expiryTime := bound.client.expiryTime
  total := bound.client.totalGB
  reset := bound.client.reset

end PeerClient

/-- The clients that an inbound binds to peers of these WireGuard inbounds. -/
def peerClients (clock : Clock) (relevant : List Int) (inbound : Inbound) : List PeerClient :=
  match getVKTurnProxySettings clock inbound.settings with
  | .error _ => []
  | .ok settings =>
    if settings.forward.type ≠ .wireguardInbound then []
    else if settings.forward.wireguardInboundID ∉ relevant then []
    else
      (settings.clients.filter fun client =>
        ¬ (trimSpace client.email = "" ∨ trimSpace client.peerPublicKey = "")).map fun client =>
          { wireguardInboundID := settings.forward.wireguardInboundID,
            inboundID := inbound.id, client }

/-- `wgInboundIDByTag`. -/
def inboundIDByTag (wireGuardInbounds : List Inbound) : AList fun _ : String => Int :=
  wireGuardInbounds.foldl (fun map inbound => map.insert inbound.tag inbound.id) ∅

/-- `clientByBinding`. -/
def clientByBinding (bound : List PeerClient) : AList fun _ : String => ClientTraffic :=
  bound.foldl (fun map client => map.insert client.key client.traffic) ∅

/-- The client that a peer's traffic is of. -/
def boundClient (wgInboundIDByTag : AList fun _ : String => Int)
    (clients : AList fun _ : String => ClientTraffic) (traffic : WireGuardPeerTraffic) :
    Option ClientTraffic := do
  let wgInboundID ← wgInboundIDByTag.lookup traffic.inboundTag
  clients.lookup (wireGuardPeerTrafficBindingKey wgInboundID traffic.publicKey)

/-- One round of the loop that adds up. -/
def addPeerTraffic (bound : WireGuardPeerTraffic → Option ClientTraffic)
    (clientTrafficMap : AList fun _ : String => ClientTraffic) (traffic : WireGuardPeerTraffic) :
    AList fun _ : String => ClientTraffic :=
  match bound traffic with
  | none => clientTrafficMap
  | some client =>
    let clientTraffic := (clientTrafficMap.lookup client.email).getD
      { inboundID := client.inboundID, enable := false, email := client.email }
    clientTrafficMap.insert client.email
      { clientTraffic with
        up := clientTraffic.up + traffic.up, down := clientTraffic.down + traffic.down }

def buildVKTurnProxyClientTraffics (faults : BuildSite → Bool) (clock : Clock) (db : Database)
    (wireGuardPeerTraffics : List WireGuardPeerTraffic) : Except String (List ClientTraffic) := do
  if wireGuardPeerTraffics = [] then return []
  let wireGuardInbounds ← attempt (faults .wireGuardInbounds)
    (.ok (db.inbounds.rows.filter (·.protocol = .wireguard)))
  if wireGuardInbounds = [] then return []
  let wgInboundIDByTag := inboundIDByTag wireGuardInbounds
  let relevant := wireGuardPeerTraffics.filterMap (wgInboundIDByTag.lookup ·.inboundTag)
  if relevant = [] then return []
  let vkTurnProxyInbounds ← attempt (faults .vkTurnProxyInbounds)
    (.ok (db.inbounds.rows.filter (·.protocol = .vkTurnProxy)))
  if vkTurnProxyInbounds = [] then return []
  let bound := vkTurnProxyInbounds.flatMap (peerClients clock relevant)
  if bound = [] then return []
  return mapToSlice (wireGuardPeerTraffics.foldl
    (addPeerTraffic (boundClient wgInboundIDByTag (clientByBinding bound))) ∅)

end VkTurn.Panel
