import VkTurn.Flags.FlagSet
import VkTurn.Text.Split

/-! # Options of the Go client

`parseClientOptions`: the flags of the client, their defaults, and the checks after parsing.
-/

namespace VkTurn.Client

open VkTurn.Flags VkTurn.Text

structure ClientOptions where
  host : String := ""
  port : String := ""
  listen : String := "127.0.0.1:9000"
  vklink : String := ""
  vklinkSecondary : String := ""
  yalink : String := ""
  peerAddr : String := ""
  n : Int := 0
  transport : String := "datagram"
  vlessMode : Bool := false
  udp : Bool := false
  direct : Bool := false
  manualCaptcha : Bool := false
  captchaSolver : String := "v2"
  tcpFlavor : String := "auto"
  credsGroupSize : Int := 12
  protectSock : String := ""
  protoFingerprint : String := ""
  sessionMode : String := "mainline"
  sessionID : String := ""
  adaptivePoolMin : Int := 1
  adaptivePoolMax : Int := 0
  adaptivePoolStreamsPerIdentity : Int := 1
  wbStreamRoomID : String := ""
  wbStreamDisplayName : String := "vk-turn-proxy-client"
  wbStreamE2ESecret : String := ""
  roomExchangeMode : Bool := false
  roomExchangeRoomID : String := ""
  roomExchangeDisplayName : String := ""
  roomExchangeE2EEnabled : Bool := false
  roomExchangeE2ESecret : String := ""
  deriving DecidableEq

def clientFlags : List (Flag ClientOptions) := [
  stringVar "turn" fun value opts => { opts with host := value },
  stringVar "port" fun value opts => { opts with port := value },
  stringVar "listen" fun value opts => { opts with listen := value },
  stringVar "vk-link" fun value opts => { opts with vklink := value },
  stringVar "vk-link-secondary" fun value opts => { opts with vklinkSecondary := value },
  stringVar "yandex-link" fun value opts => { opts with yalink := value },
  stringVar "peer" fun value opts => { opts with peerAddr := value },
  intVar "n" fun value opts => { opts with n := value },
  stringVar "transport" fun value opts => { opts with transport := value },
  boolVar "vless" fun value opts => { opts with vlessMode := value },
  boolVar "udp" fun value opts => { opts with udp := value },
  boolVar "no-dtls" fun value opts => { opts with direct := value },
  boolVar "manual-captcha" fun value opts => { opts with manualCaptcha := value },
  stringVar "captcha-solver" fun value opts => { opts with captchaSolver := value },
  stringVar "tcp-flavor" fun value opts => { opts with tcpFlavor := value },
  intVar "creds-group-size" fun value opts => { opts with credsGroupSize := value },
  stringVar "protect-sock" fun value opts => { opts with protectSock := value },
  stringVar "proto-fp" fun value opts => { opts with protoFingerprint := value },
  stringVar "session-mode" fun value opts => { opts with sessionMode := value },
  stringVar "session-id" fun value opts => { opts with sessionID := value },
  intVar "adaptive-pool-min" fun value opts => { opts with adaptivePoolMin := value },
  intVar "adaptive-pool-max" fun value opts => { opts with adaptivePoolMax := value },
  intVar "adaptive-pool-streams-per-id" fun value opts =>
    { opts with adaptivePoolStreamsPerIdentity := value },
  stringVar "wb-stream-room-id" fun value opts => { opts with wbStreamRoomID := value },
  stringVar "wb-stream-display-name" fun value opts => { opts with wbStreamDisplayName := value },
  stringVar "wb-stream-e2e-secret" fun value opts => { opts with wbStreamE2ESecret := value },
  boolVar "room-exchange-mode" fun value opts => { opts with roomExchangeMode := value },
  stringVar "room-exchange-room-id" fun value opts => { opts with roomExchangeRoomID := value },
  stringVar "room-exchange-display-name" fun value opts =>
    { opts with roomExchangeDisplayName := value },
  boolVar "room-exchange-e2e-enabled" fun value opts =>
    { opts with roomExchangeE2EEnabled := value },
  stringVar "room-exchange-e2e-secret" fun value opts =>
    { opts with roomExchangeE2ESecret := value }]

/-- `strings.ToLower(strings.TrimSpace(s))`, up to letters that no option value has. -/
def lowerTrimmed (text : String) : String :=
  String.ofList ((trimSpace text).toList.map lowerForAscii)

def normalizeClientOptions (opts : ClientOptions) : ClientOptions :=
  let captchaSolver := lowerTrimmed opts.captchaSolver
  let tcpFlavor := lowerTrimmed opts.tcpFlavor
  { opts with
    vklink := trimSpace opts.vklink
    vklinkSecondary := trimSpace opts.vklinkSecondary
    yalink := trimSpace opts.yalink
    peerAddr := trimSpace opts.peerAddr
    captchaSolver :=
      if captchaSolver ≠ "v1" ∧ captchaSolver ≠ "v2" then "v2" else captchaSolver
    tcpFlavor :=
      if tcpFlavor ≠ "direct" ∧ tcpFlavor ≠ "legacy" then "auto" else tcpFlavor
    credsGroupSize := if opts.credsGroupSize < 1 then 1 else opts.credsGroupSize
    wbStreamRoomID := trimSpace opts.wbStreamRoomID
    wbStreamDisplayName := trimSpace opts.wbStreamDisplayName
    wbStreamE2ESecret := trimSpace opts.wbStreamE2ESecret
    roomExchangeRoomID := trimSpace opts.roomExchangeRoomID
    roomExchangeDisplayName := trimSpace opts.roomExchangeDisplayName
    roomExchangeE2ESecret := trimSpace opts.roomExchangeE2ESecret }

def validateClientOptions (opts : ClientOptions) : Except String ClientOptions :=
  let opts := normalizeClientOptions opts
  if opts.roomExchangeMode then
    if opts.peerAddr = "" then .error "-peer is required for -room-exchange-mode"
    else if opts.roomExchangeRoomID = "" then
      .error "-room-exchange-room-id is required for -room-exchange-mode"
    else .ok opts
  else if opts.wbStreamRoomID ≠ "" then .ok opts
  else if opts.peerAddr = "" then .error "-peer is required"
  else if ([opts.vklink, opts.yalink].filter (· ≠ "")).length ≠ 1 then
    .error "exactly one of -vk-link or -yandex-link is required"
  else .ok opts

def parseClientOptions (args : List String) : Except Nat ClientOptions :=
  runProgram clientFlags {} validateClientOptions args

/-- The links in the order in which the client uses them: the entries of `-vk-link`, or the one
    Yandex link. -/
def ClientOptions.links (opts : ClientOptions) : List String :=
  if opts.vklink ≠ "" then entries goSpace ',' opts.vklink
  else [opts.yalink].filter (· ≠ "")

end VkTurn.Client
