import Mathlib.Data.List.Basic

/-! # Configurations of Xray

A configuration is a JSON object of sections, kept as their text, and of inbounds.  The
comparison that decides whether a process is restarted leaves two of the sections out.
-/

namespace VkTurn.Panel

structure InboundConfig where
  listen : String
  port : Int
  protocol : String
  settings : String
  streamSettings : String
  tag : String
  sniffing : String
  deriving DecidableEq

/-- The sections that `Equals` compares after the inbounds are `logConfig` to `metrics`. -/
structure Config where
  logConfig : String := ""
  routerConfig : String := ""
  dnsConfig : String := ""
  inboundConfigs : List InboundConfig := []
  outboundConfigs : String := ""
  transport : String := ""
  policy : String := ""
  api : String := ""
  stats : String := ""
  reverse : String := ""
  fakeDNS : String := ""
  observatory : String := ""
  burstObservatory : String := ""
  metrics : String := ""
  deriving DecidableEq

namespace InboundConfig

def equals (config other : InboundConfig) : Bool :=
  if config.listen ≠ other.listen then false
  else if config.port ≠ other.port then false
  else if config.protocol ≠ other.protocol then false
  else if config.settings ≠ other.settings then false
  else if config.streamSettings ≠ other.streamSettings then false
  else if config.tag ≠ other.tag then false
  else if config.sniffing ≠ other.sniffing then false
  else true

theorem equals_iff {config other : InboundConfig} : config.equals other = true ↔ config = other := by
  cases config
  cases other
  simp [equals]

end InboundConfig

namespace Config

/-- The loop over the inbounds, which stops at the first that differs. -/
def inboundsEqual : List InboundConfig → List InboundConfig → Bool
  | config :: configs, other :: others =>
    if config.equals other then inboundsEqual configs others else false
  | _, _ => true

def equals (config other : Config) : Bool :=
  if config.inboundConfigs.length ≠ other.inboundConfigs.length then false
  else if ¬ inboundsEqual config.inboundConfigs other.inboundConfigs then false
  else if config.logConfig ≠ other.logConfig then false
  else if config.routerConfig ≠ other.routerConfig then false
  else if config.dnsConfig ≠ other.dnsConfig then false
  else if config.outboundConfigs ≠ other.outboundConfigs then false
  else if config.transport ≠ other.transport then false
  else if config.policy ≠ other.policy then false
  else if config.api ≠ other.api then false
  else if config.stats ≠ other.stats then false
  else if config.reverse ≠ other.reverse then false
  else if config.fakeDNS ≠ other.fakeDNS then false
  else if config.metrics ≠ other.metrics then false
  else true

theorem inboundsEqual_iff {configs others : List InboundConfig}
    (sameLength : configs.length = others.length) :
    inboundsEqual configs others = true ↔ configs = others := by
  induction configs generalizing others with
  | nil =>
    cases others with
    | nil => exact ⟨fun _ => rfl, fun _ => rfl⟩
    | cons other others => cases sameLength
  | cons config configs inductionHypothesis =>
    cases others with
    | nil => cases sameLength
    | cons other others =>
      have tail := inductionHypothesis (Nat.succ.inj sameLength)
      unfold inboundsEqual
      by_cases same : config.equals other = true
      · rw [if_pos same, tail, InboundConfig.equals_iff.mp same, List.cons.injEq]
        exact ⟨fun rest => ⟨rfl, rest⟩, And.right⟩
      · rw [if_neg same, List.cons.injEq, ← InboundConfig.equals_iff]
        exact ⟨nofun, fun both => absurd both.1 same⟩

/-- `Equals` compares everything but the two observatories. -/
theorem equals_iff {config other : Config} : config.equals other = true ↔
    { config with observatory := other.observatory, burstObservatory := other.burstObservatory } =
      other := by
  by_cases sameLength : config.inboundConfigs.length = other.inboundConfigs.length
  · have inbounds := inboundsEqual_iff sameLength
    cases config
    cases other
    simp_all [equals, and_left_comm]
  · refine ⟨fun same => ?_, fun same => absurd (congrArg (·.inboundConfigs.length) same) sameLength⟩
    rw [equals, if_pos sameLength] at same
    cases same

end Config

end VkTurn.Panel
