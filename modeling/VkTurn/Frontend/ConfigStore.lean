import Mathlib.Logic.Function.Basic
import VkTurn.Transition.Machine

/-! # The configuration and its file

`updateConfig` reads the configuration, transforms it, assigns the result and launches a save of
it.  The saves run on a pool of threads, in any order and at the same time.  `writeText` empties
the file when it opens it, and then writes at a position of its own.
-/

namespace VkTurn.Frontend

open VkTurn.Transition

/-- `Migration`: the text of a configuration, and the configuration of a text. -/
structure SettingsStore (Config : Type) where
  load : List UInt8 → Config
  save : Config → List UInt8

/-- A call of `updateConfig`. -/
inductive Update (Config : Type) where
  /-- The configuration has been read, after `seen` assignments, and transformed. -/
  | transformed (seen : Nat) (block : Config → Config) (next : Config)
  /-- The assignment with this number has been made, and the save is still to be launched. -/
  | assigned (number : Nat) (next : Config)
  | returned

inductive SavePhase where
  | launched
  | opened (written : Nat)
  | finished
  deriving DecidableEq

structure Save where
  text : List UInt8
  phase : SavePhase := .launched
  deriving DecidableEq

structure ConfigStore (Config : Type) where
  /-- `_config.value`. -/
  config : Config
  file : List UInt8
  updates : Nat → Option (Update Config) := fun _ => none
  /-- In the order in which they were launched. -/
  saves : List Save := []
  /-- The transformations that have been assigned.  The code does not keep them. -/
  blocks : List (Config → Config) := []

inductive ConfigLabel (Config : Type) where
  | read (call : Nat) (block : Config → Config)
  | assign (call : Nat)
  | launch (call : Nat)
  | openFile (save : Nat)
  | write (save count : Nat)
  | close (save : Nat)

/-- A file after `chunk` has been written at `position`; a gap is filled with zeros. -/
def writeAt (file : List UInt8) (position : Nat) (chunk : List UInt8) : List UInt8 :=
  (file ++ List.replicate (position - file.length) 0).take position ++ chunk ++
    file.drop (position + chunk.length)

/-- How much of its text a save has written, from the moment that it opens the file. -/
def Save.written? (save : Save) : Option Nat :=
  match save.phase with
  | .launched => none
  | .opened written => some written
  | .finished => some save.text.length

namespace ConfigStore

variable {Config : Type}

/-- `store.load()` at the start. -/
def initial (store : SettingsStore Config) (file : List UInt8) : ConfigStore Config where
  config := store.load file
  file := file

def setUpdate (state : ConfigStore Config) (call : Nat) (update : Update Config) :
    ConfigStore Config :=
  { state with updates := Function.update state.updates call (some update) }

def setSave (state : ConfigStore Config) (index : Nat) (save : Save) : ConfigStore Config :=
  { state with saves := state.saves.set index save }

def read (state : ConfigStore Config) (call : Nat) (block : Config → Config) :
    ConfigStore Config :=
  state.setUpdate call (.transformed state.blocks.length block (block state.config))

def assign (state : ConfigStore Config) (call : Nat) (block : Config → Config) (next : Config) :
    ConfigStore Config :=
  { state.setUpdate call (.assigned state.blocks.length next) with
    config := next
    blocks := state.blocks ++ [block] }

def launch (state : ConfigStore Config) (store : SettingsStore Config) (call : Nat)
    (next : Config) : ConfigStore Config :=
  { state.setUpdate call .returned with saves := state.saves ++ [{ text := store.save next }] }

def openFile (state : ConfigStore Config) (index : Nat) (save : Save) : ConfigStore Config :=
  { state.setSave index { save with phase := .opened 0 } with file := [] }

def write (state : ConfigStore Config) (index : Nat) (save : Save) (written count : Nat) :
    ConfigStore Config :=
  let chunk := (save.text.drop written).take count
  { state.setSave index { save with phase := .opened (written + chunk.length) } with
    file := writeAt state.file written chunk }

def close (state : ConfigStore Config) (index : Nat) (save : Save) : ConfigStore Config :=
  state.setSave index { save with phase := .finished }

end ConfigStore

variable {Config : Type}

def configStore (store : SettingsStore Config) :
    Machine (ConfigStore Config) (ConfigLabel Config) where
  step state label :=
    match label with
    | .read call block =>
      match state.updates call with
      | none => some (state.read call block)
      | some _ => none
    | .assign call =>
      match state.updates call with
      | some (.transformed _ block next) => some (state.assign call block next)
      | _ => none
    | .launch call =>
      match state.updates call with
      | some (.assigned _ next) => some (state.launch store call next)
      | _ => none
    | .openFile index =>
      match state.saves[index]? with
      | some save => if save.phase = .launched then some (state.openFile index save) else none
      | none => none
    | .write index count =>
      match state.saves[index]? with
      | some ⟨text, .opened written⟩ =>
        some (state.write index ⟨text, .opened written⟩ written count)
      | _ => none
    | .close index =>
      match state.saves[index]? with
      | some ⟨text, .opened written⟩ =>
        if written = text.length then some (state.close index ⟨text, .opened written⟩) else none
      | _ => none

/-! ## What a step can do -/

inductive ConfigStep (store : SettingsStore Config) (state : ConfigStore Config) :
    ConfigLabel Config → ConfigStore Config → Prop
  | read {call : Nat} {block : Config → Config} :
      state.updates call = none → ConfigStep store state (.read call block) (state.read call block)
  | assign {call seen : Nat} {block : Config → Config} {next : Config} :
      state.updates call = some (.transformed seen block next) →
      ConfigStep store state (.assign call) (state.assign call block next)
  | launch {call number : Nat} {next : Config} :
      state.updates call = some (.assigned number next) →
      ConfigStep store state (.launch call) (state.launch store call next)
  | openFile {index : Nat} {save : Save} :
      state.saves[index]? = some save → save.phase = .launched →
      ConfigStep store state (.openFile index) (state.openFile index save)
  | write {index count written : Nat} {save : Save} :
      state.saves[index]? = some save → save.phase = .opened written →
      ConfigStep store state (.write index count) (state.write index save written count)
  | close {index : Nat} {save : Save} :
      state.saves[index]? = some save → save.phase = .opened save.text.length →
      ConfigStep store state (.close index) (state.close index save)

theorem configStep_inv {store : SettingsStore Config} {state next : ConfigStore Config}
    {label : ConfigLabel Config} (stepped : (configStore store).step state label = some next) :
    ConfigStep store state label next := by
  cases label with
  | read call block =>
    simp only [configStore] at stepped
    split at stepped
    · rename_i isNew
      cases stepped
      exact .read isNew
    · cases stepped
  | assign call =>
    simp only [configStore] at stepped
    split at stepped
    · rename_i isTransformed
      cases stepped
      exact .assign isTransformed
    · cases stepped
  | launch call =>
    simp only [configStore] at stepped
    split at stepped
    · rename_i isAssigned
      cases stepped
      exact .launch isAssigned
    · cases stepped
  | openFile index =>
    simp only [configStore] at stepped
    split at stepped
    · rename_i save isSave
      split at stepped
      · rename_i isLaunched
        cases stepped
        exact .openFile isSave isLaunched
      · cases stepped
    · cases stepped
  | write index count =>
    simp only [configStore] at stepped
    split at stepped
    · rename_i text written isSave
      cases stepped
      exact .write isSave rfl
    · cases stepped
  | close index =>
    simp only [configStore] at stepped
    split at stepped
    · rename_i text written isSave
      split at stepped
      · rename_i isWritten
        subst isWritten
        cases stepped
        exact .close isSave rfl
      · cases stepped
    · cases stepped

/-! ## Writing -/

/-- The next part of a text, after its beginning. -/
theorem writeAt_take {text : List UInt8} {written count : Nat} (bounded : written ≤ text.length) :
    writeAt (text.take written) written ((text.drop written).take count) =
      text.take (written + ((text.drop written).take count).length) := by
  have length : (text.take written).length = written := by
    rw [List.length_take]
    omega
  have noGap : written - (text.take written).length = 0 := by omega
  have noRest : (text.take written).drop (written + ((text.drop written).take count).length) =
      [] := List.drop_eq_nil_of_le (by omega)
  unfold writeAt
  rw [noGap, noRest, List.replicate_zero, List.append_nil, List.append_nil,
    List.take_of_length_le (by omega), List.take_add, List.append_cancel_left_eq,
    List.length_take, List.length_drop, List.take_eq_take_iff, List.length_drop]
  omega

end VkTurn.Frontend
