import VkTurn.Client.Captcha

/-! # Status markers of the client

A phase of the client is announced twice, as a line of text and as an event.
-/

namespace VkTurn.Client

/-- The lines that `emitProxyStatus` prints. -/
def emitProxyStatus (marker : String) : List String :=
  if marker = "" then []
  else
    ["PROXY_STATUS: " ++ marker, emitProxyEvent [("type", "status"), ("phase", marker)]]

/-- `int(duration.Round(time.Second) / time.Second)` for nanoseconds in 64 bits: halves are rounded
    away from zero, and the greatest durations stay where they are. -/
def roundSeconds (duration : Int64) : Int :=
  duration.toInt.sign * min 9223372036 ((duration.toInt.natAbs + 500000000) / 1000000000)

/-- The marker of `emitCaptchaLockoutStatus`. -/
def captchaLockoutMarker (duration : Int64) : String :=
  let seconds := roundSeconds duration
  "captcha_lockout " ++ toString (if seconds < 1 then 1 else seconds)

/-- The words that the client announces. -/
def statusWords : List String :=
  ["auth_ready", "turn_ready", "dtls_ready", "dtls_alive", "ok", "smux_ready", "kcp_ready"]

/-- The markers that the client announces. -/
inductive StatusMarker : String → Prop where
  | word {marker : String} (isWord : marker ∈ statusWords) : StatusMarker marker
  | lockout (duration : Int64) : StatusMarker (captchaLockoutMarker duration)

theorem mem_captchaLockoutMarker (duration : Int64) :
    ' ' ∈ (captchaLockoutMarker duration).toList := by
  unfold captchaLockoutMarker
  rw [String.toList_append, List.mem_append]
  exact .inl (by decide)

end VkTurn.Client
