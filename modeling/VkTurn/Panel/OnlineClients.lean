import VkTurn.Panel.HeartbeatLines
import VkTurn.Panel.PanelReads
import Mathlib.Data.List.AList

/-! # Which clients are online

The list of online clients is the list that Xray's traffic gives, with the heartbeats of the VK TURN
processes over it: a client with a heartbeat is online by the heartbeat alone.

Times are nanoseconds since Go's zero time.
-/

namespace VkTurn.Panel

open VkTurn.Text (trimSpace)

/-- What the fingerprint of a key takes from libraries. -/
structure Digest where
  sha256 : List UInt8 → List UInt8
  encodeRawBase64 : List UInt8 → String

abbrev Beats := AList fun _ : String => HeartbeatState

def vkTurnProxyHeartbeatOnlineGrace : Int := 150 * 1000000000

def unixMilli (time : Int) : Int := (time - 62135596800 * 1000000000) / 1000000

/-- The sets `onlineEmails` and `authoritativeEmails`, and the map `lastOnlineByEmail`. -/
structure Presence where
  online : List String
  authoritative : List String
  lastOnline : AList fun _ : String => Int

section Presence

variable (library : Library) (digest : Digest) (clock : Clock)

def wireGuardPublicKeyFingerprint (publicKey : String) : Except String String := do
  let decoded ← parseWireGuardKey library publicKey
  return "sha256:" ++ digest.encodeRawBase64 (digest.sha256 decoded)

/-- The heartbeat that is recorded for a client. -/
def recordedHeartbeat (beats : Beats) (client : VKTurnProxyClient) : Option HeartbeatState :=
  if trimSpace client.email = "" ∨ trimSpace client.peerPublicKey = "" then none
  else
    match wireGuardPublicKeyFingerprint library digest client.peerPublicKey with
    | .error _ => none
    | .ok fingerprint => (beats.lookup fingerprint).filter (·.lastSeen ≠ 0)

/-- One round of the loop over the clients of an inbound. -/
def notePresence (beats : Beats) (now : Int) (presence : Presence) (client : VKTurnProxyClient) :
    Presence :=
  let email := trimSpace client.email
  match recordedHeartbeat library digest beats client with
  | none => presence
  | some state =>
    let presence := { presence with authoritative := presence.authoritative.insert email }
    if ¬ state.online then presence
    else
      let lastSeen := unixMilli state.lastSeen
      let presence :=
        if lastSeen > (presence.lastOnline.lookup email).getD 0 then
          { presence with lastOnline := presence.lastOnline.insert email lastSeen }
        else presence
      if client.enable ∧ now - state.lastSeen ≤ vkTurnProxyHeartbeatOnlineGrace then
        { presence with online := presence.online.insert email }
      else presence

def inboundPresence (snapshot : Int → Beats) (now : Int) (presence : Presence)
    (inbound : Inbound) : Presence :=
  let beats := snapshot inbound.id
  if beats.entries = [] then presence
  else
    match getVKTurnProxySettings clock inbound.settings with
    | .error _ => presence
    | .ok settings => settings.clients.foldl (notePresence library digest beats now) presence

def buildVKTurnProxyHeartbeatPresence (inbounds : List Inbound) (snapshot : Int → Beats)
    (now : Int) : Presence :=
  inbounds.foldl (inboundPresence library digest clock snapshot now) ⟨[], [], ∅⟩

end Presence

section Merge

variable (library : Library) (order : MapOrder String)

def normalizedEmailSet (values : List String) : List String :=
  (values.filter (trimSpace · ≠ "")).map fun email => library.toLower (trimSpace email)

/-- A list of emails and the keys that were seen. -/
structure Merged where
  emails : List String
  seen : List String

/-- One round of either loop; `refused` is the check that only the first one makes. -/
def noteEmail (refused : String → Bool) (merged : Merged) (email : String) : Merged :=
  let trimmed := trimSpace email
  let key := library.toLower trimmed
  if trimmed = "" then merged
  else if refused key then merged
  else if key ∈ merged.seen then merged
  else ⟨merged.emails ++ [trimmed], key :: merged.seen⟩

/-- A client whose heartbeat is not good is not online, whatever its traffic. -/
def refusedKey (extraKeys authoritativeKeys : List String) (key : String) : Bool :=
  key ∈ authoritativeKeys ∧ key ∉ extraKeys

def mergeOnlineClientLists (base extra authoritative : List String) : List String :=
  if extra = [] ∧ authoritative = [] then base
  else
    let extraKeys := normalizedEmailSet library extra
    let authoritativeKeys := normalizedEmailSet library authoritative
    let result := base.foldl (noteEmail library (refusedKey extraKeys authoritativeKeys)) ⟨[], []⟩
    let appended := (order.arrange extra).foldl (noteEmail library fun _ => false)
      ⟨[], result.seen⟩
    result.emails ++ appended.emails.mergeSort

end Merge

end VkTurn.Panel
