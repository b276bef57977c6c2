import VkTurn.Flags.FlagSet
import VkTurn.Server.Negotiation

/-! # Options of the Go server

`parseServerOptions`, and what `main` makes of the options before it listens.
-/

namespace VkTurn.Server

open VkTurn.Flags VkTurn.SessionProto VkTurn.Text

structure ServerOptions where
  listen : String := "0.0.0.0:56000"
  connect : String := ""
  udpConnect : String := ""
  tcpConnect : String := ""
  vlessMode : Bool := false
  sessionMode : String := "auto"
  tuiMode : String := "auto"
  wbStreamRoomID : String := ""
  wbStreamDisplayName : String := "vk-turn-proxy-server"
  wbStreamE2ESecret : String := ""
  deriving DecidableEq

def serverFlags : List (Flag ServerOptions) := [
  stringVar "listen" fun value opts => { opts with listen := value },
  stringVar "connect" fun value opts => { opts with connect := value },
  stringVar "udp-connect" fun value opts => { opts with udpConnect := value },
  stringVar "tcp-connect" fun value opts => { opts with tcpConnect := value },
  boolVar "vless" fun value opts => { opts with vlessMode := value },
  stringVar "session-mode" fun value opts => { opts with sessionMode := value },
  stringVar "tui" fun value opts => { opts with tuiMode := value },
  stringVar "wb-stream-room-id" fun value opts => { opts with wbStreamRoomID := value },
  stringVar "wb-stream-display-name" fun value opts => { opts with wbStreamDisplayName := value },
  stringVar "wb-stream-e2e-secret" fun value opts => { opts with wbStreamE2ESecret := value }]

def resolveServerBackends (connect udpConnect tcpConnect : String) (tcpAlias : Bool) :
    Except String TransportBackends :=
  let connect := trimSpace connect
  let udpConnect := trimSpace udpConnect
  let tcpConnect := trimSpace tcpConnect
  if connect ≠ "" ∧ (udpConnect ≠ "" ∨ tcpConnect ≠ "") then
    .error "-connect cannot be combined with -udp-connect or -tcp-connect"
  else
    let backends : TransportBackends :=
      if connect = "" then ⟨udpConnect, tcpConnect⟩
      else if tcpAlias then ⟨udpConnect, connect⟩
      else ⟨connect, tcpConnect⟩
    if ¬ backends.supportsDatagram ∧ ¬ backends.supportsTCP then
      .error "at least one backend is required"
    else .ok backends

def ServerOptions.backends (opts : ServerOptions) : Except String TransportBackends :=
  resolveServerBackends opts.connect opts.udpConnect opts.tcpConnect opts.vlessMode

def trimServerOptions (opts : ServerOptions) : ServerOptions :=
  { opts with
    connect := trimSpace opts.connect
    udpConnect := trimSpace opts.udpConnect
    tcpConnect := trimSpace opts.tcpConnect
    wbStreamRoomID := trimSpace opts.wbStreamRoomID
    wbStreamDisplayName := trimSpace opts.wbStreamDisplayName
    wbStreamE2ESecret := trimSpace opts.wbStreamE2ESecret }

def validateServerOptions (opts : ServerOptions) : Except String ServerOptions :=
  let opts := trimServerOptions opts
  if opts.wbStreamRoomID ≠ "" then
    if opts.udpConnect = "" ∧ opts.connect = "" then
      .error "-wb-stream-room-id requires -udp-connect (or -connect)"
    else .ok opts
  else
    match opts.backends with
    | .error message => .error message
    | .ok _ => .ok opts

def parseServerOptions (args : List String) : Except Nat ServerOptions :=
  runProgram serverFlags {} validateServerOptions args

/-- `sessionproto.ParseMode`. -/
def parseMode (raw : String) : Except String Mode :=
  let mode := trimSpace (String.ofList (raw.toList.map lowerForAscii))
  if mode = "" ∨ mode = "auto" then .ok .auto
  else if mode = "mainline" ∨ mode = "legacy" then .ok .mainline
  else if mode = "mu" then .ok .mu
  else .error ("unsupported session mode: " ++ raw)

/-- A plain `-connect` is the datagram backend. -/
theorem resolveServerBackends_connect {connect : String} (notBlank : trimSpace connect ≠ "") :
    resolveServerBackends connect "" "" false = .ok ⟨trimSpace connect, ""⟩ := by
  have blank : trimSpace "" = "" := by decide
  have datagram : TransportBackends.supportsDatagram ⟨trimSpace connect, ""⟩ = true := by
    simp [TransportBackends.supportsDatagram, trimSpace_trimSpace, notBlank]
  simp [resolveServerBackends, blank, notBlank, datagram]

end VkTurn.Server
