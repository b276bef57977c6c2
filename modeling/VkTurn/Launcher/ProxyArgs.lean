import VkTurn.Text.Split

/-! # The launcher's argument vector

The route of the Kotlin launcher and `ProxyArgs.build`, which turns it into the arguments of the
Go client.
-/

namespace VkTurn.Launcher

open VkTurn.Text

/-- Kotlin's `Char.isWhitespace`. -/
def kotlinSpace (char : Char) : Bool :=
  let code := char.toNat
  (0x09 ≤ code && code ≤ 0x0d) || (0x1c ≤ code && code ≤ 0x20) || code == 0xa0 ||
    code == 0x1680 || (0x2000 ≤ code && code ≤ 0x200a) || code == 0x2028 || code == 0x2029 ||
    code == 0x202f || code == 0x205f || code == 0x3000

def kotlinTrim (text : String) : String := trim kotlinSpace text

def isNotBlank (text : String) : Bool := kotlinTrim text ≠ ""

inductive LinkKind where
  | vk
  | yandex
  deriving DecidableEq

inductive CaptchaMode where
  | autoThenManual
  | autoOnly
  | manualOnly
  deriving DecidableEq

inductive CaptchaSolver where
  | v2
  | v1
  deriving DecidableEq

def CaptchaSolver.flag : CaptchaSolver → String
  | v2 => "v2"
  | v1 => "v1"

inductive TurnTransport where
  | tcp
  | udp
  deriving DecidableEq

inductive TransportMode where
  | datagram
  | tcp
  deriving DecidableEq

def TransportMode.flag : TransportMode → String
  | datagram => "datagram"
  | tcp => "tcp"

inductive TcpFlavor where
  | auto
  | direct
  | legacy
  deriving DecidableEq

def TcpFlavor.flag : TcpFlavor → String
  | auto => "auto"
  | direct => "direct"
  | legacy => "legacy"

inductive SessionMode where
  | auto
  | mainline
  | mu
  deriving DecidableEq

def SessionMode.flag : SessionMode → String
  | auto => "auto"
  | mainline => "mainline"
  | mu => "mu"

structure WbStream where
  enabled : Bool := false
  roomId : String := ""
  displayName : String := "vkturn-client"
  e2eSecretB64 : String := ""
  deriving DecidableEq

structure Server where
  host : String := ""
  proxyPort : Int32 := 56000
  deriving DecidableEq

/-- `Route.VkTurnProxy`. -/
structure VkTurnProxy where
  linkKind : LinkKind := .vk
  primaryLinks : List String := []
  secondaryLink : String := ""
  listenHost : String := "127.0.0.1"
  listenPort : Int32 := 9000
  streams : Int32 := 0
  transport : TransportMode := .datagram
  turnTransport : TurnTransport := .tcp
  tcpFlavor : TcpFlavor := .auto
  overrideTurnHost : String := ""
  overrideTurnPort : String := ""
  captchaMode : CaptchaMode := .autoThenManual
  captchaSolver : CaptchaSolver := .v2
  sessionMode : SessionMode := .auto
  sessionId : String := ""
  credsGroupSize : Int32 := 12
  adaptivePoolMin : Int32 := 1
  adaptivePoolMax : Int32 := 0
  adaptivePoolStreamsPerIdentity : Int32 := 0
  directNoDtls : Bool := false
  debug : Bool := false
  wbStream : WbStream := {}
  deriving DecidableEq

/-! ## ProxyArgs.build -/

/-- A flag with a value that is added under a condition. -/
def valueArg (present : Bool) (flag value : String) : List String :=
  if present then [flag, value] else []

/-- A flag without a value that is added under a condition. -/
def switchArg (present : Bool) (flag : String) : List String :=
  if present then [flag] else []

def hostPort (host : String) (port : Int32) : String := host ++ ":" ++ toString port.toInt

/-- The VK links of the route as the launcher cleans them. -/
def VkTurnProxy.cleanLinks (route : VkTurnProxy) : List String :=
  (route.primaryLinks.map kotlinTrim).filter (· ≠ "")

/-- The one Yandex link. -/
def VkTurnProxy.firstLink (route : VkTurnProxy) : String :=
  kotlinTrim ((route.primaryLinks.find? isNotBlank).getD "")

def linkArgs (route : VkTurnProxy) : List String :=
  match route.linkKind with
  | .vk =>
    valueArg (route.cleanLinks ≠ []) "-vk-link" (join ',' route.cleanLinks) ++
      valueArg (isNotBlank route.secondaryLink) "-vk-link-secondary"
        (kotlinTrim route.secondaryLink)
  | .yandex => valueArg (route.firstLink ≠ "") "-yandex-link" route.firstLink

def wbStreamArgs (wbStream : WbStream) : List String :=
  if wbStream.enabled && isNotBlank wbStream.roomId then
    ["-wb-stream-room-id", kotlinTrim wbStream.roomId] ++
      valueArg (isNotBlank wbStream.displayName) "-wb-stream-display-name"
        (kotlinTrim wbStream.displayName) ++
      valueArg (isNotBlank wbStream.e2eSecretB64) "-wb-stream-e2e-secret"
        (kotlinTrim wbStream.e2eSecretB64)
  else []

/-- A count that is added when it is positive. -/
def countArg (flag : String) (count : Int32) : List String :=
  valueArg (0 < count) flag (toString count.toInt)

def build (server : Server) (route : VkTurnProxy) (protectSocketPath : Option String) :
    List String := List.flatten [
  ["-listen", hostPort route.listenHost route.listenPort],
  ["-peer", hostPort server.host server.proxyPort],
  linkArgs route,
  valueArg (isNotBlank route.overrideTurnHost) "-turn" (kotlinTrim route.overrideTurnHost),
  valueArg (isNotBlank route.overrideTurnPort) "-port" (kotlinTrim route.overrideTurnPort),
  countArg "-n" route.streams,
  ["-transport", route.transport.flag],
  valueArg (route.transport = .tcp) "-tcp-flavor" route.tcpFlavor.flag,
  switchArg (route.turnTransport = .udp) "-udp",
  switchArg route.directNoDtls "-no-dtls",
  switchArg route.debug "-debug",
  switchArg (route.captchaMode = .manualOnly) "-manual-captcha",
  ["-captcha-solver", route.captchaSolver.flag],
  ["-session-mode", route.sessionMode.flag],
  valueArg (isNotBlank route.sessionId) "-session-id" (kotlinTrim route.sessionId),
  countArg "-creds-group-size" route.credsGroupSize,
  countArg "-adaptive-pool-min" route.adaptivePoolMin,
  countArg "-adaptive-pool-max" route.adaptivePoolMax,
  countArg "-adaptive-pool-streams-per-id" route.adaptivePoolStreamsPerIdentity,
  wbStreamArgs route.wbStream,
  valueArg (protectSocketPath.any isNotBlank) "-protect-sock" (protectSocketPath.getD "")]

end VkTurn.Launcher
