import VkTurn.Frontend.AppViewModel
import VkTurn.Frontend.VlessLink
import VkTurn.Text.JsonValue

/-! # The sing-box configuration

`SingBoxConfig.render` makes the configuration of a sing-box route.  The supervisor resolves the
route that it is chained through when the route is started.
-/

namespace VkTurn.Frontend

open VkTurn.Model VkTurn.Text

/-- `SingBoxConfig.BuildInput`. -/
structure BuildInput where
  route : SingBox
  chainedProxyListen : Option String := none
  clashApiPort : Int32 := 0
  deriving DecidableEq

/-! ## Rendering -/

def jsonObject (fields : List (String × JsonValue)) : JsonValue := .object (fieldsOfList fields)

def jsonInt (number : Int32) : JsonValue := .number (toString number.toInt)

/-- A field that is put under a condition. -/
def putIf (present : Bool) (key : String) (value : JsonValue) : List (String × JsonValue) :=
  if present then [(key, value)] else []

def tlsBlock (v : ParsedVless) : JsonValue := jsonObject (List.flatten [
  [("enabled", .bool (v.security = "tls" ∨ v.security = "reality"))],
  putIf (Launcher.isNotBlank v.sni) "server_name" (.string v.sni),
  putIf (v.alpn ≠ []) "alpn" (.array (v.alpn.map .string)),
  putIf (v.security = "reality") "reality" (jsonObject (List.flatten [
    [("enabled", .bool true)],
    putIf (Launcher.isNotBlank v.publicKey) "public_key" (.string v.publicKey),
    putIf (Launcher.isNotBlank v.shortId) "short_id" (.string v.shortId)])),
  putIf (v.security = "reality") "utls" (jsonObject
    [("enabled", .bool true), ("fingerprint", .string (ifBlank v.fingerprint "chrome"))])])

def transportBlock (v : ParsedVless) : JsonValue :=
  if v.transport = "ws" then
    jsonObject (List.flatten [
      [("type", .string "ws"), ("path", .string (ifBlank v.path "/"))],
      putIf (Launcher.isNotBlank v.host) "headers"
        (jsonObject [("Host", .string (ifBlank v.hostHeader v.host))])])
  else if v.transport = "grpc" then
    jsonObject [("type", .string "grpc"), ("service_name", .string v.serviceName)]
  else jsonObject []

def buildVlessOutbound (v : ParsedVless) (chainedProxyListen : Option String) : JsonFields :=
  fieldsOfList (List.flatten [
    [("type", .string "vless"), ("tag", .string "proxy"), ("server", .string v.host),
      ("server_port", jsonInt v.port), ("uuid", .string v.uuid)],
    putIf (Launcher.isNotBlank v.flow) "flow" (.string v.flow),
    [("tls", tlsBlock v), ("transport", transportBlock v)],
    putIf chainedProxyListen.isSome "detour" (.string "vkturn-chain")])

def buildSocksDialer (chainedProxyListen : String) : JsonFields :=
  let hostPort := splitOn ':' chainedProxyListen
  fieldsOfList [
    ("type", .string "socks"),
    ("tag", .string "vkturn-chain"),
    ("server", .string (hostPort[0]?.getD "127.0.0.1")),
    ("server_port", jsonInt ((hostPort[1]?.bind toIntOrNull).getD 9000)),
    ("version", .string "5")]

def inbounds (route : SingBox) : List JsonValue :=
  [jsonObject [
    ("type", .string "socks"),
    ("tag", .string "socks-in"),
    ("listen", .string route.socksListenHost),
    ("listen_port", jsonInt route.socksListenPort),
    ("sniff", .bool true),
    ("domain_strategy", .string "prefer_ipv4")]] ++
  if 0 < route.httpListenPort then
    [jsonObject [
      ("type", .string "http"),
      ("tag", .string "http-in"),
      ("listen", .string route.socksListenHost),
      ("listen_port", jsonInt route.httpListenPort)]]
  else []

def outbounds (vless : ParsedVless) (chainedProxyListen : Option String) : List JsonFields :=
  [buildVlessOutbound vless chainedProxyListen] ++
    (chainedProxyListen.map buildSocksDialer).toList ++
    [fieldsOfList [("type", .string "direct"), ("tag", .string "direct")],
      fieldsOfList [("type", .string "block"), ("tag", .string "block")]]

def routeBlock : JsonFields := fieldsOfList [
  ("final", .string "proxy"),
  ("rules", .array [jsonObject [("protocol", .string "dns"), ("outbound", .string "direct")]])]

namespace SingBoxConfig

/-- The fields of the configuration that `render` writes. -/
def render (input : BuildInput) : JsonFields := fieldsOfList (List.flatten [
  [("log", jsonObject [("level", .string input.route.logLevel), ("timestamp", .bool true)])],
  putIf (0 < input.clashApiPort) "experimental" (jsonObject [("clash_api", jsonObject [
    ("external_controller", .string ("127.0.0.1:" ++ toString input.clashApiPort.toInt)),
    ("default_mode", .string "rule")])]),
  [("inbounds", .array (inbounds input.route)),
    ("outbounds", .array
      ((outbounds (parseVlessLink input.route.vlessLink) input.chainedProxyListen).map .object)),
    ("route", .object routeBlock)]])

end SingBoxConfig

/-! ## Starting a route -/

/-- The vk-turn route that an id of a chain refers to. -/
def chainedProxy (identity : Identity) (chainId : String) : Option VkTurnProxy :=
  (identity.routes.filterMap Route.vkTurnProxy?).find? (·.id = chainId)

def clashApiPortFor (socksPort : Int32) : Int32 :=
  let base := max 1024 (min socksPort 60000)
  max ((base + 11111) % 60000) 10000

/-- The configuration with which `startSingBox` starts the daemon's runner or the local one. -/
def startSingBox (identity : Identity) (route : SingBox) : JsonFields :=
  let chainedListen := route.chainedThroughProxyRouteId.bind fun chainId =>
    (chainedProxy identity chainId).map fun proxy =>
      Launcher.hostPort proxy.listenHost proxy.listenPort
  SingBoxConfig.render
    { route := route
      chainedProxyListen := chainedListen
      clashApiPort := clashApiPortFor route.socksListenPort }

end VkTurn.Frontend
