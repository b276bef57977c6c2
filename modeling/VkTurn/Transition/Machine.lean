import Mathlib.Logic.Basic
import Mathlib.Data.Option.Basic

/-! # Machines and their runs

A machine is a partial step function on states: a label either fires and gives the
next state, or is not enabled.  Concurrent code is such a machine whose labels
name the thread and the atomic step it takes, so that the runs of the machine are
the interleavings of the threads.

`ReachableWhile` restricts the runs to those whose steps all meet a condition on
the state before the step.  Every safety result goes through one rule,
`ReachableWhile.invariant`.
-/

namespace VkTurn.Transition

universe u v

/-- A partial step function; `none` says that the label is not enabled. -/
structure Machine (State : Type u) (Label : Type v) where
  step : State → Label → Option State

namespace Machine

variable {State : Type u} {Label : Type v}

/-- The state after a list of labels, when all of them fire. -/
def run (machine : Machine State Label) : State → List Label → Option State
  | state, [] => some state
  | state, label :: labels => (machine.step state label).bind (machine.run · labels)

/-- The states reached from `initial` by steps that all meet `allowed`. -/
inductive ReachableWhile (machine : Machine State Label) (allowed : State → Label → Prop)
    (initial : State → Prop) : State → Prop
  | start {state : State} : initial state → ReachableWhile machine allowed initial state
  | step {state next : State} {label : Label} :
      ReachableWhile machine allowed initial state → allowed state label →
      machine.step state label = some next → ReachableWhile machine allowed initial next

/-- The states reached from `initial` by any steps. -/
def Reachable (machine : Machine State Label) (initial : State → Prop) : State → Prop :=
  machine.ReachableWhile (fun _ _ => True) initial

variable {machine : Machine State Label} {allowed weaker : State → Label → Prop}
  {initial holds : State → Prop} {state next : State}

/-- What holds initially and survives every allowed step holds in every state reached. -/
theorem ReachableWhile.invariant (reached : machine.ReachableWhile allowed initial state)
    (base : ∀ state, initial state → holds state)
    (preserved : ∀ state next label, holds state → allowed state label →
      machine.step state label = some next → holds next) : holds state := by
  induction reached with
  | start isInitial => exact base _ isInitial
  | step _ isAllowed stepped inductionHypothesis =>
    exact preserved _ _ _ inductionHypothesis isAllowed stepped

theorem ReachableWhile.mono (reached : machine.ReachableWhile allowed initial state)
    (weakens : ∀ state label, allowed state label → weaker state label) :
    machine.ReachableWhile weaker initial state := by
  induction reached with
  | start isInitial => exact .start isInitial
  | step _ isAllowed stepped inductionHypothesis =>
    exact .step inductionHypothesis (weakens _ _ isAllowed) stepped

theorem ReachableWhile.reachable (reached : machine.ReachableWhile allowed initial state) :
    machine.Reachable initial state :=
  reached.mono fun _ _ _ => trivial

/-- Where each step keeps `holds` exactly when it is allowed, the states of the allowed runs are
    the reachable ones in which `holds` is true. -/
theorem reachableWhile_iff (base : ∀ state, initial state → holds state)
    (exactly : ∀ state next label, machine.Reachable initial state →
      machine.step state label = some next → (holds next ↔ holds state ∧ allowed state label)) :
    machine.ReachableWhile allowed initial state ↔
      machine.Reachable initial state ∧ holds state := by
  constructor
  · intro reached
    refine ⟨reached.reachable, ?_⟩
    induction reached with
    | start isInitial => exact base _ isInitial
    | step before isAllowed stepped inductionHypothesis =>
      exact (exactly _ _ _ before.reachable stepped).mpr ⟨inductionHypothesis, isAllowed⟩
  · rintro ⟨reached, isHeld⟩
    induction reached with
    | start isInitial => exact .start isInitial
    | step before _ stepped inductionHypothesis =>
      obtain ⟨wasHeld, isAllowed⟩ := (exactly _ _ _ before stepped).mp isHeld
      exact .step (inductionHypothesis wasHeld) isAllowed stepped

theorem ReachableWhile.run {labels : List Label}
    (reached : machine.ReachableWhile allowed initial state)
    (areAllowed : ∀ label ∈ labels, ∀ state, allowed state label)
    (ran : machine.run state labels = some next) : machine.ReachableWhile allowed initial next := by
  induction labels generalizing state with
  | nil =>
    cases ran
    exact reached
  | cons label labels inductionHypothesis =>
    obtain ⟨isAllowed, areAllowed⟩ := List.forall_mem_cons.mp areAllowed
    obtain ⟨middle, stepped, ran⟩ := Option.bind_eq_some_iff.mp ran
    exact inductionHypothesis (.step reached (isAllowed state) stepped) areAllowed ran

/-- The machine without the steps that are not allowed. -/
def restrict (machine : Machine State Label) (allowed : State → Label → Prop)
    [∀ state label, Decidable (allowed state label)] : Machine State Label :=
  ⟨fun state label => if allowed state label then machine.step state label else none⟩

theorem run_of_restrict [∀ state label, Decidable (allowed state label)] {labels : List Label}
    (ran : (machine.restrict allowed).run state labels = some next) :
    machine.run state labels = some next := by
  induction labels generalizing state with
  | nil => exact ran
  | cons label labels inductionHypothesis =>
    obtain ⟨middle, stepped, ran⟩ := Option.bind_eq_some_iff.mp ran
    simp only [restrict] at stepped
    split at stepped
    · exact Option.bind_eq_some_iff.mpr ⟨middle, stepped, inductionHypothesis ran⟩
    · cases stepped

theorem ReachableWhile.run_restrict [∀ state label, Decidable (allowed state label)]
    {labels : List Label} (reached : machine.ReachableWhile allowed initial state)
    (ran : (machine.restrict allowed).run state labels = some next) :
    machine.ReachableWhile allowed initial next := by
  induction labels generalizing state with
  | nil =>
    cases ran
    exact reached
  | cons label labels inductionHypothesis =>
    obtain ⟨middle, stepped, ran⟩ := Option.bind_eq_some_iff.mp ran
    simp only [restrict] at stepped
    split at stepped
    · rename_i isAllowed
      exact inductionHypothesis (.step reached isAllowed stepped) ran
    · cases stepped

theorem Reachable.run {labels : List Label} (reached : machine.Reachable initial state)
    (ran : machine.run state labels = some next) : machine.Reachable initial next :=
  ReachableWhile.run reached (fun _ _ _ => trivial) ran

end Machine

end VkTurn.Transition
