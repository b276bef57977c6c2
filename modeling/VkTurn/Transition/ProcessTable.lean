import Mathlib.Logic.Function.Basic

/-! # Process groups and their leaders

A process started with a group of its own leads the group that its pid names.  The pid stays
taken until the process has been waited for; from then on the system may give it to another
process.  The table holds the leaders that have not been waited for.
-/

namespace VkTurn.Transition

universe u

/-- A group leader that has not been waited for: running, or exited and not yet collected. -/
structure Leader (Owner : Type u) where
  owner : Owner
  exited : Bool := false
  deriving DecidableEq

abbrev ProcessTable (Owner : Type u) := Nat → Option (Leader Owner)

namespace ProcessTable

variable {Owner : Type u} {table next : ProcessTable Owner} {pid other : Nat} {owner : Owner}

/-- A new group leader gets a pid that no uncollected process holds. -/
def spawn (table : ProcessTable Owner) (pid : Nat) (owner : Owner) : Option (ProcessTable Owner) :=
  match table pid with
  | none => some (Function.update table pid (some ⟨owner, false⟩))
  | some _ => none

def exit (table : ProcessTable Owner) (pid : Nat) : Option (ProcessTable Owner) :=
  match table pid with
  | none => none
  | some leader => some (Function.update table pid (some { leader with exited := true }))

/-- `wait4` returns. -/
def collect (table : ProcessTable Owner) (pid : Nat) : Option (ProcessTable Owner) :=
  match table pid with
  | some ⟨_, true⟩ => some (Function.update table pid none)
  | _ => none

/-- The owner of the process that a signal to the group reaches. -/
def ownerAt (table : ProcessTable Owner) (pid : Nat) : Option Owner :=
  (table pid).map Leader.owner

theorem ownerAt_spawn (spawned : table.spawn pid owner = some next) :
    next.ownerAt = Function.update table.ownerAt pid (some owner) ∧ table.ownerAt pid = none := by
  simp only [spawn] at spawned
  split at spawned
  · rename_i free
    cases spawned
    refine ⟨?_, by simp [ownerAt, free]⟩
    funext other
    by_cases same : other = pid
    · simp [ownerAt, same]
    · simp [ownerAt, same]
  · cases spawned

theorem ownerAt_exit (exited : table.exit pid = some next) : next.ownerAt = table.ownerAt := by
  simp only [exit] at exited
  split at exited
  · cases exited
  · rename_i leader held
    cases exited
    funext other
    by_cases same : other = pid
    · simp [ownerAt, same, held]
    · simp [ownerAt, same]

theorem ownerAt_collect (collected : table.collect pid = some next) :
    next.ownerAt = Function.update table.ownerAt pid none := by
  simp only [collect] at collected
  split at collected
  · cases collected
    funext other
    by_cases same : other = pid
    · simp [ownerAt, same]
    · simp [ownerAt, same]
  · cases collected

end ProcessTable

end VkTurn.Transition
