import VkTurn.Panel.Settings

/-! # What the panel runs

`loadDesiredSpecs` makes a `Spec` of every enabled VK TURN inbound, and `Process.Start` the
arguments of the server from a `Spec`.
-/

namespace VkTurn.Panel

open VkTurn.Text (trimSpace)

structure Spec where
  id : Int
  remark : String
  listen : String
  connect : String
  sessionMode : String
  wbStreamRoomID : String := ""
  wbStreamDisplayName : String := ""
  wbStreamE2ESecret : String := ""
  deriving DecidableEq

/-- `net.JoinHostPort` with a port in decimal. -/
def joinHostPort (host : String) (port : Int) : String :=
  if ':' ∈ host.toList then "[" ++ host ++ "]:" ++ toString port
  else host ++ ":" ++ toString port

def resolveVKTurnProxyForwardAddress (db : Database) (targetFails : Bool)
    (settings : VKTurnProxySettings) : Except String String :=
  match settings.forward.type with
  | .external => .ok (joinHostPort (trimSpace settings.forward.host) settings.forward.port)
  | .wireguardInbound =>
    match db.getInbound targetFails settings.forward.wireguardInboundID with
    | .error message => .error message
    | .ok target =>
      if target.protocol ≠ .wireguard then
        .error (newError ["selected inbound is not wireguard"])
      else
        let host := trimSpace target.listen
        .ok (joinHostPort (if Database.listensEverywhere host then "127.0.0.1" else host)
          target.port)
  | .other _ => .error (newError ["forward type is invalid"])

def listenAddress (inbound : Inbound) : String :=
  let host := trimSpace inbound.listen
  joinHostPort (if Database.listensEverywhere host then "0.0.0.0" else host) inbound.port

/-- The server joins the room by itself, and does not wait for a client to name one. -/
def VKTurnProxySettings.joinsRoom (settings : VKTurnProxySettings) : Bool :=
  settings.wbStreamEnabled && !settings.wbStreamExchangeViaVKTurn

/-- The body of the loop of `loadDesiredSpecs`, on decoded settings. -/
def desiredSpec (db : Database) (targetFails : Bool) (inbound : Inbound)
    (settings : VKTurnProxySettings) : Except String Spec :=
  match resolveVKTurnProxyForwardAddress db targetFails settings with
  | .error message => .error message
  | .ok connect =>
    let spec : Spec := {
      id := inbound.id
      remark := inbound.remark
      listen := listenAddress inbound
      connect := connect
      sessionMode := settings.sessionMode }
    if settings.joinsRoom then
      .ok { spec with
        wbStreamRoomID := trimSpace settings.wbStreamRoomID
        wbStreamDisplayName := trimSpace settings.wbStreamDisplayName
        wbStreamE2ESecret :=
          if settings.wbStreamE2EEnabled then trimSpace settings.wbStreamE2ESecret else "" }
    else .ok spec

/-- The specs of the inbounds that can be run, by their identities. -/
def loadDesiredSpecs (clock : Clock) (db : Database) (targetFails : Int → Bool) :
    List (Int × Spec) :=
  db.inbounds.rows.filterMap fun inbound =>
    if inbound.protocol = .vkTurnProxy ∧ inbound.enable then
      match getVKTurnProxySettings clock inbound.settings with
      | .error _ => none
      | .ok settings =>
        match desiredSpec db (targetFails inbound.id) inbound settings with
        | .error _ => none
        | .ok spec => some (inbound.id, spec)
    else none

/-- The argument vector of `Process.Start`. -/
def startArgs (spec : Spec) : List String :=
  let roomID := trimSpace spec.wbStreamRoomID
  let displayName := trimSpace spec.wbStreamDisplayName
  let secret := trimSpace spec.wbStreamE2ESecret
  ["-listen", spec.listen, "-connect", spec.connect] ++
  (if trimSpace spec.sessionMode ≠ "" ∧ spec.sessionMode ≠ "auto" then
    ["-session-mode", spec.sessionMode] else []) ++
  if roomID ≠ "" then
    ["-wb-stream-room-id", roomID] ++
    (if displayName ≠ "" then ["-wb-stream-display-name", displayName] else []) ++
    (if secret ≠ "" then ["-wb-stream-e2e-secret", secret] else [])
  else []

end VkTurn.Panel
