import Mathlib.Logic.Basic

/-! # Status of a route -/

namespace VkTurn.Frontend

inductive RouteState where
  | idle
  | starting
  | connecting
  | captcha
  | connected
  | lockout
  | error
  | stopping
  deriving DecidableEq

structure StreamTelemetry where
  id : Int
  outBytes : Int := 0
  inBytes : Int := 0
  deriving DecidableEq

structure RouteStatus where
  routeId : String
  routeLabel : String
  state : RouteState := .idle
  message : String := ""
  connectedStreams : Int := 0
  activeStreams : Int := 0
  totalStreams : Int := 0
  sessionMode : String := ""
  captchaUrl : Option String := none
  captchaUserAgent : Option String := none
  lockoutSecondsRemaining : Int := 0
  streams : List StreamTelemetry := []
  capsVersion : Int := 0
  capabilities : List String := []
  outBytes : Int := 0
  inBytes : Int := 0
  deriving DecidableEq

def RouteStatus.isRunning (status : RouteStatus) : Bool :=
  status.state ≠ .idle ∧ status.state ≠ .error

end VkTurn.Frontend
