import VkTurn.Frontend.ConfigStore

/-! # What the file holds in the end

Nothing keeps the updates apart: one that assigns what it made of an older configuration undoes
the updates in between.  Nothing orders the saves either: the file holds what the last of them
wrote, which need not be the last that was launched, and it holds a mixture when two of them
write at the same time.
-/

namespace VkTurn.Frontend

open VkTurn.Transition

variable {Config : Type}

/-- The configuration after some transformations. -/
def applyBlocks (config : Config) (blocks : List (Config → Config)) : Config :=
  blocks.foldl (fun config block => block config) config

namespace ConfigStore

/-- Every update has returned, and every save has finished. -/
structure Quiet (state : ConfigStore Config) : Prop where
  returned : ∀ call update, state.updates call = some update → update = .returned
  finished : ∀ save ∈ state.saves, save.phase = .finished

structure Persistent (store : SettingsStore Config) (loaded : Config)
    (state : ConfigStore Config) : Prop where
  /-- The configuration is what the transformations make of the loaded one, in some order. -/
  kept : ∃ order : List (Config → Config), order.Perm state.blocks ∧
    state.config = applyBlocks loaded order
  stored : state.Quiet →
    state.saves = [] ∧ store.load state.file = state.config ∨ state.file = store.save state.config

end ConfigStore

/-- No update assigns what it made of an older configuration; saves are launched in the order of
    the assignments; and a save touches the file only as long as none that was launched after it
    has opened the file. -/
def InOrder (state : ConfigStore Config) : ConfigLabel Config → Prop
  | .assign call => ∀ seen block next, state.updates call = some (.transformed seen block next) →
      state.blocks.length = seen
  | .launch call => ∀ number next, state.updates call = some (.assigned number next) →
      state.saves.length = number
  | .openFile index | .write index _ => ∀ (later : Nat) (save : Save), index < later →
      state.saves[later]? = some save → save.phase = .launched
  | _ => True

/-! ## The configuration -/

/-- What holds of the configuration and of the texts that are saved. -/
structure ConfigInv (store : SettingsStore Config) (loaded : Config)
    (state : ConfigStore Config) : Prop where
  config : state.config = applyBlocks loaded state.blocks
  transformed : ∀ call seen block next, state.updates call = some (.transformed seen block next) →
    seen ≤ state.blocks.length ∧ next = block (applyBlocks loaded (state.blocks.take seen))
  assigned : ∀ call number next, state.updates call = some (.assigned number next) →
    number < state.blocks.length ∧ state.saves.length ≤ number ∧
      next = applyBlocks loaded (state.blocks.take (number + 1))
  /-- An assignment whose save is not launched has one update. -/
  pending : ∀ number, state.saves.length ≤ number → number < state.blocks.length →
    ∃ call next, state.updates call = some (.assigned number next)
  distinct : ∀ first second number one other, state.updates first = some (.assigned number one) →
    state.updates second = some (.assigned number other) → first = second
  launched : state.saves.length ≤ state.blocks.length
  texts : ∀ (index : Nat) (save : Save), state.saves[index]? = some save →
    save.text = store.save (applyBlocks loaded (state.blocks.take (index + 1)))

/-! ## The file -/

/-- What holds of the file: the text of the last save that has opened it. -/
structure FileInv (first : List UInt8) (state : ConfigStore Config) : Prop where
  untouched : (∀ save ∈ state.saves, save.phase = .launched) → state.file = first
  latest : ∀ (index : Nat) (save : Save) (written : Nat), state.saves[index]? = some save →
    save.written? = some written →
    (∀ (later : Nat) (other : Save), index < later → state.saves[later]? = some other →
      other.phase = .launched) →
    state.file = save.text.take written ∧ written ≤ save.text.length

structure StoreInv (store : SettingsStore Config) (first : List UInt8)
    (state : ConfigStore Config) : Prop where
  memory : ConfigInv store (store.load first) state
  disk : FileInv first state

section Steps

variable {store : SettingsStore Config} {loaded : Config} {first : List UInt8}
  {state : ConfigStore Config} {call : Nat}

theorem applyBlocks_append (blocks : List (Config → Config)) (block : Config → Config) :
    applyBlocks loaded (blocks ++ [block]) = block (applyBlocks loaded blocks) := by
  simp [applyBlocks]

/-- An update moves on: what holds of the others stays. -/
theorem updates_setUpdate {other : Nat} {update found : Update Config}
    (isFound : (state.setUpdate call update).updates other = some found) :
    other = call ∧ found = update ∨ other ≠ call ∧ state.updates other = some found := by
  by_cases same : other = call
  · subst same
    have isUpdate : (state.setUpdate other update).updates other = some update :=
      Function.update_self ..
    exact .inl ⟨rfl, Option.some.inj (isFound.symm.trans isUpdate)⟩
  · have kept : (state.setUpdate call update).updates other = state.updates other :=
      Function.update_of_ne same ..
    exact .inr ⟨same, kept.symm.trans isFound⟩

theorem ConfigInv.read (inv : ConfigInv store loaded state) (block : Config → Config)
    (isNew : state.updates call = none) : ConfigInv store loaded (state.read call block) := by
  refine ⟨inv.config, ?_, ?_, ?_, ?_, inv.launched, inv.texts⟩
  · intro other seen found next isFound
    obtain ⟨_, isUpdate⟩ | ⟨_, wasFound⟩ := updates_setUpdate isFound
    · cases isUpdate
      refine ⟨Nat.le_refl _, ?_⟩
      rw [inv.config]
      exact congrArg block (congrArg _ (List.take_length).symm)
    · exact inv.transformed other seen found next wasFound
  · intro other number next isFound
    obtain ⟨_, isUpdate⟩ | ⟨_, wasFound⟩ := updates_setUpdate isFound
    · cases isUpdate
    · exact inv.assigned other number next wasFound
  · intro number notLaunched isAssigned
    obtain ⟨other, next, wasFound⟩ := inv.pending number notLaunched isAssigned
    refine ⟨other, next, ?_⟩
    have differs : other ≠ call := by
      intro same
      rw [same, isNew] at wasFound
      cases wasFound
    exact (Function.update_of_ne differs ..).trans wasFound
  · intro one two number next other isOne isTwo
    obtain ⟨_, isUpdate⟩ | ⟨_, wasOne⟩ := updates_setUpdate isOne
    · cases isUpdate
    · obtain ⟨_, isUpdate⟩ | ⟨_, wasTwo⟩ := updates_setUpdate isTwo
      · cases isUpdate
      · exact inv.distinct one two number next other wasOne wasTwo

theorem ConfigInv.assign (inv : ConfigInv store loaded state) {seen : Nat}
    {block : Config → Config} {next : Config}
    (isTransformed : state.updates call = some (.transformed seen block next))
    (current : state.blocks.length = seen) :
    ConfigInv store loaded (state.assign call block next) := by
  obtain ⟨_, isNext⟩ := inv.transformed call seen block next isTransformed
  rw [← current, List.take_length] at isNext
  have isNow : next = applyBlocks loaded (state.blocks ++ [block]) := by
    rw [applyBlocks_append, isNext]
  -- the beginning of the list does not change
  have takes {count : Nat} (bounded : count ≤ state.blocks.length) :
      (state.blocks ++ [block]).take count = state.blocks.take count :=
    List.take_append_of_le_length bounded
  have length : (state.blocks ++ [block]).length = state.blocks.length + 1 := by simp
  refine ⟨isNow, ?_, ?_, ?_, ?_, ?_, ?_⟩
  · intro other seen found value isFound
    obtain ⟨_, isUpdate⟩ | ⟨_, wasFound⟩ := updates_setUpdate isFound
    · cases isUpdate
    · obtain ⟨bounded, isValue⟩ := inv.transformed other seen found value wasFound
      refine ⟨?_, ?_⟩
      · show seen ≤ (state.blocks ++ [block]).length
        omega
      · show value = found (applyBlocks loaded ((state.blocks ++ [block]).take seen))
        rw [takes bounded]
        exact isValue
  · intro other number value isFound
    show number < (state.blocks ++ [block]).length ∧ state.saves.length ≤ number ∧
      value = applyBlocks loaded ((state.blocks ++ [block]).take (number + 1))
    obtain ⟨_, isUpdate⟩ | ⟨_, wasFound⟩ := updates_setUpdate isFound
    · cases isUpdate
      refine ⟨by omega, inv.launched, ?_⟩
      rw [List.take_of_length_le (by omega)]
      exact isNow
    · obtain ⟨bounded, notLaunched, isValue⟩ := inv.assigned other number value wasFound
      refine ⟨by omega, notLaunched, ?_⟩
      rw [takes (by omega)]
      exact isValue
  · intro number notLaunched isAssigned
    have isAssigned : number < (state.blocks ++ [block]).length := isAssigned
    by_cases isLast : number = state.blocks.length
    · subst isLast
      exact ⟨call, next, Function.update_self ..⟩
    · obtain ⟨other, value, wasFound⟩ := inv.pending number notLaunched (by omega)
      refine ⟨other, value, ?_⟩
      have differs : other ≠ call := by
        intro same
        rw [same, isTransformed] at wasFound
        cases wasFound
      exact (Function.update_of_ne differs ..).trans wasFound
  · intro one two number value other isOne isTwo
    obtain ⟨rfl, isUpdate⟩ | ⟨_, wasOne⟩ := updates_setUpdate isOne
    · obtain ⟨rfl, _⟩ | ⟨_, wasTwo⟩ := updates_setUpdate isTwo
      · rfl
      · cases isUpdate
        have bounded := (inv.assigned two _ other wasTwo).1
        omega
    · obtain ⟨rfl, isUpdate⟩ | ⟨_, wasTwo⟩ := updates_setUpdate isTwo
      · cases isUpdate
        have bounded := (inv.assigned one _ value wasOne).1
        omega
      · exact inv.distinct one two number value other wasOne wasTwo
  · show state.saves.length ≤ (state.blocks ++ [block]).length
    have launched := inv.launched
    omega
  · intro index save isSave
    show save.text = store.save (applyBlocks loaded ((state.blocks ++ [block]).take (index + 1)))
    have bounded : index < state.saves.length := (List.getElem?_eq_some_iff.mp isSave).choose
    have launched := inv.launched
    rw [takes (by omega)]
    exact inv.texts index save isSave

theorem ConfigInv.launch (inv : ConfigInv store loaded state) {number : Nat} {next : Config}
    (isAssigned : state.updates call = some (.assigned number next))
    (inOrder : state.saves.length = number) :
    ConfigInv store loaded (state.launch store call next) := by
  obtain ⟨bounded, _, isNext⟩ := inv.assigned call number next isAssigned
  have length : (state.saves ++ [({ text := store.save next } : Save)]).length =
      state.saves.length + 1 := by simp
  refine ⟨inv.config, ?_, ?_, ?_, ?_, ?_, ?_⟩
  · intro other seen block value isFound
    obtain ⟨_, isUpdate⟩ | ⟨_, wasFound⟩ := updates_setUpdate isFound
    · cases isUpdate
    · exact inv.transformed other seen block value wasFound
  · intro other found value isFound
    obtain ⟨_, isUpdate⟩ | ⟨differs, wasFound⟩ := updates_setUpdate isFound
    · cases isUpdate
    · obtain ⟨isBounded, notLaunched, isValue⟩ := inv.assigned other found value wasFound
      refine ⟨isBounded, ?_, isValue⟩
      show (state.saves ++ [({ text := store.save next } : Save)]).length ≤ found
      -- this call is the only one with its number
      have notSame : found ≠ number := by
        intro same
        subst same
        exact differs (inv.distinct other call _ value next wasFound isAssigned)
      omega
  · intro found notLaunched isFound
    have notLaunched : (state.saves ++ [({ text := store.save next } : Save)]).length ≤ found :=
      notLaunched
    obtain ⟨other, value, wasFound⟩ := inv.pending found (by omega) isFound
    refine ⟨other, value, ?_⟩
    have differs : other ≠ call := by
      intro same
      rw [same, isAssigned] at wasFound
      cases wasFound
      omega
    exact (Function.update_of_ne differs ..).trans wasFound
  · intro one two found value other isOne isTwo
    obtain ⟨_, isUpdate⟩ | ⟨_, wasOne⟩ := updates_setUpdate isOne
    · cases isUpdate
    · obtain ⟨_, isUpdate⟩ | ⟨_, wasTwo⟩ := updates_setUpdate isTwo
      · cases isUpdate
      · exact inv.distinct one two found value other wasOne wasTwo
  · show (state.saves ++ [({ text := store.save next } : Save)]).length ≤ state.blocks.length
    omega
  · intro index save isSave
    obtain isOld | ⟨isLast, isNew⟩ : state.saves[index]? = some save ∨
        index = state.saves.length ∧ save = { text := store.save next } := by
      have isSave : (state.saves ++ [({ text := store.save next } : Save)])[index]? =
          some save := isSave
      by_cases isOld : index < state.saves.length
      · exact .inl (List.getElem?_append_left isOld ▸ isSave)
      · rw [List.getElem?_append_right (by omega), List.getElem?_singleton] at isSave
        split at isSave
        · rename_i isZero
          exact .inr ⟨by omega, (Option.some.inj isSave).symm⟩
        · cases isSave
    · exact inv.texts index save isOld
    · subst isNew
      rw [isLast, inOrder]
      exact congrArg store.save isNext

/-- Only the phase of a save changes. -/
theorem ConfigInv.setSave (inv : ConfigInv store loaded state) {index : Nat} {save : Save}
    {phase : SavePhase} (isSave : state.saves[index]? = some save) :
    ConfigInv store loaded (state.setSave index { save with phase }) := by
  have length : (state.saves.set index { save with phase }).length = state.saves.length :=
    List.length_set
  refine ⟨inv.config, inv.transformed, ?_, ?_, inv.distinct,
    Nat.le_trans (Nat.le_of_eq length) inv.launched, ?_⟩
  · intro other number next isFound
    obtain ⟨bounded, notLaunched, isNext⟩ := inv.assigned other number next isFound
    exact ⟨bounded, Nat.le_trans (Nat.le_of_eq length) notLaunched, isNext⟩
  · intro number notLaunched
    exact inv.pending number (Nat.le_trans (Nat.le_of_eq length.symm) notLaunched)
  · intro other found isFound
    have inRange : index < state.saves.length := (List.getElem?_eq_some_iff.mp isSave).choose
    by_cases same : index = other
    · subst same
      cases (List.getElem?_set_self inRange).symm.trans isFound
      exact inv.texts index save isSave
    · exact inv.texts other found ((List.getElem?_set_ne same).symm.trans isFound)

/-- The file matters to `FileInv` only. -/
theorem ConfigInv.withFile (inv : ConfigInv store loaded state) {file : List UInt8} :
    ConfigInv store loaded { state with file } :=
  ⟨inv.config, inv.transformed, inv.assigned, inv.pending, inv.distinct, inv.launched, inv.texts⟩

theorem FileInv.congr (inv : FileInv first state) {next : ConfigStore Config}
    (sameSaves : next.saves = state.saves) (sameFile : next.file = state.file) :
    FileInv first next := by
  obtain ⟨untouched, latest⟩ := inv
  rw [← sameSaves, ← sameFile] at *
  exact ⟨untouched, latest⟩

theorem FileInv.launch (inv : FileInv first state) {next : Config} :
    FileInv first (state.launch store call next) := by
  refine ⟨fun allLaunched => ?_, fun index save written isSave isWritten later => ?_⟩
  · exact inv.untouched fun save isSave => allLaunched save (List.mem_append_left _ isSave)
  · have isSave : (state.saves ++ [({ text := store.save next } : Save)])[index]? =
        some save := isSave
    by_cases isOld : index < state.saves.length
    · rw [List.getElem?_append_left isOld] at isSave
      refine inv.latest index save written isSave isWritten fun other found isLater isFound => ?_
      have bounded : other < state.saves.length := (List.getElem?_eq_some_iff.mp isFound).choose
      exact later other found isLater ((List.getElem?_append_left bounded).trans isFound)
    · -- the new save has not opened the file
      rw [List.getElem?_append_right (by omega), List.getElem?_singleton] at isSave
      split at isSave
      · cases isSave
        cases isWritten
      · cases isSave

/-- A save that touches the file is the last one that has opened it. -/
theorem FileInv.touch {index written : Nat} {save after : Save} {file : List UInt8}
    (isSave : state.saves[index]? = some save)
    (alone : ∀ (later : Nat) (other : Save), index < later → state.saves[later]? = some other →
      other.phase = .launched)
    (isAfter : after.written? = some written) (isFile : file = after.text.take written)
    (bounded : written ≤ after.text.length) :
    FileInv first { state.setSave index after with file } := by
  have inRange : index < state.saves.length := (List.getElem?_eq_some_iff.mp isSave).choose
  have isNow : (state.saves.set index after)[index]? = some after :=
    List.getElem?_set_self inRange
  have opened : after.phase ≠ .launched := by
    intro isLaunched
    rw [Save.written?, isLaunched] at isAfter
    cases isAfter
  refine ⟨fun allLaunched => ?_, fun other found count isFound isCount later => ?_⟩
  · exact absurd (allLaunched after (List.mem_of_getElem? isNow)) opened
  · have isFound : (state.saves.set index after)[other]? = some found := isFound
    obtain isBefore | rfl | isLater := Nat.lt_trichotomy other index
    · exact absurd (later index after isBefore isNow) opened
    · cases isFound.symm.trans isNow
      cases isCount.symm.trans isAfter
      exact ⟨isFile, bounded⟩
    · rw [List.getElem?_set_ne (by omega)] at isFound
      rw [Save.written?, alone other found isLater isFound] at isCount
      cases isCount

theorem FileInv.close (inv : FileInv first state) {index : Nat} {save : Save}
    (isSave : state.saves[index]? = some save) (isWritten : save.phase = .opened save.text.length) :
    FileInv first (state.close index save) := by
  have inRange : index < state.saves.length := (List.getElem?_eq_some_iff.mp isSave).choose
  have isNow : (state.saves.set index { save with phase := .finished })[index]? =
      some { save with phase := .finished } := List.getElem?_set_self inRange
  refine ⟨fun allLaunched => ?_, fun other found count isFound isCount later => ?_⟩
  · cases allLaunched _ (List.mem_of_getElem? isNow)
  · -- no save after this one is the one that closes the file
    have wasLater (position : Nat) (present : Save) (isLater : other < position)
        (isPresent : state.saves[position]? = some present) : present.phase = .launched := by
      by_cases same : index = position
      · subst same
        cases later index _ isLater isNow
      · exact later position present isLater ((List.getElem?_set_ne same).trans isPresent)
    by_cases same : index = other
    · subst same
      cases isNow.symm.trans isFound
      have isOpened : save.written? = some save.text.length := by rw [Save.written?, isWritten]
      cases isCount
      exact inv.latest index save _ isSave isOpened wasLater
    · have wasFound := (List.getElem?_set_ne same).symm.trans isFound
      exact inv.latest other found count wasFound isCount wasLater

theorem ConfigInv.step (inv : ConfigInv store loaded state) {next : ConfigStore Config}
    {label : ConfigLabel Config} (inOrder : InOrder state label)
    (step : ConfigStep store state label next) : ConfigInv store loaded next := by
  cases step with
  | read isNew => exact inv.read _ isNew
  | assign isTransformed => exact inv.assign isTransformed (inOrder _ _ _ isTransformed)
  | launch isAssigned => exact inv.launch isAssigned (inOrder _ _ isAssigned)
  | openFile isSave _ => exact (inv.setSave isSave).withFile
  | write isSave _ => exact (inv.setSave isSave).withFile
  | close isSave _ => exact inv.setSave isSave

theorem FileInv.step (inv : FileInv first state) {next : ConfigStore Config}
    {label : ConfigLabel Config} (inOrder : InOrder state label)
    (step : ConfigStep store state label next) : FileInv first next := by
  cases step with
  | read _ => exact inv.congr rfl rfl
  | assign _ => exact inv.congr rfl rfl
  | launch _ => exact inv.launch
  | openFile isSave _ => exact FileInv.touch isSave inOrder rfl rfl (Nat.zero_le _)
  | @write index count written save isSave isOpened =>
    have isWritten : save.written? = some written := by rw [Save.written?, isOpened]
    obtain ⟨isFile, bounded⟩ := inv.latest index save written isSave isWritten inOrder
    refine FileInv.touch isSave inOrder rfl ?_ ?_
    · rw [isFile]
      exact writeAt_take bounded
    · show written + ((save.text.drop written).take count).length ≤ save.text.length
      rw [List.length_take, List.length_drop]
      omega
  | close isSave isWritten => exact inv.close isSave isWritten

/-- When all is quiet every assignment has been saved, and the last save has written all. -/
theorem StoreInv.persistent (inv : StoreInv store first state) :
    state.Persistent store (store.load first) where
  kept := ⟨state.blocks, List.Perm.refl _, inv.memory.config⟩
  stored quiet := by
    have allSaved : state.saves.length = state.blocks.length := by
      have launched := inv.memory.launched
      by_contra different
      obtain ⟨call, next, isAssigned⟩ :=
        inv.memory.pending state.saves.length (Nat.le_refl _) (by omega)
      cases quiet.returned call _ isAssigned
    cases last : state.saves.getLast? with
    | none =>
      have noSaves := List.getLast?_eq_none_iff.mp last
      have noBlocks : state.blocks = [] := by
        rw [← List.length_eq_zero_iff, ← allSaved, noSaves]
        rfl
      refine .inl ⟨noSaves, ?_⟩
      rw [inv.disk.untouched (by simp [noSaves]), inv.memory.config, noBlocks]
      rfl
    | some save =>
      have isLast : state.saves[state.saves.length - 1]? = some save := by
        rw [← List.getLast?_eq_getElem?]
        exact last
      have isFinished := quiet.finished save (List.mem_of_getElem? isLast)
      have isWritten : save.written? = some save.text.length := by rw [Save.written?, isFinished]
      obtain ⟨isFile, _⟩ := inv.disk.latest _ save _ isLast isWritten fun later other isLater isOther => by
        have bounded : later < state.saves.length := (List.getElem?_eq_some_iff.mp isOther).choose
        omega
      have isText := inv.memory.texts _ save isLast
      have inRange : state.saves.length - 1 < state.saves.length :=
        (List.getElem?_eq_some_iff.mp isLast).choose
      refine .inr ?_
      rw [isFile, List.take_length, isText, inv.memory.config, List.take_of_length_le (by omega)]

end Steps

/-- As long as updates and saves keep to the order of the updates, no transformation is lost, and
    the file holds the last configuration when all is quiet. -/
theorem config_persistent {store : SettingsStore Config} {file : List UInt8}
    {state : ConfigStore Config}
    (reached : (configStore store).ReachableWhile InOrder (· = .initial store file) state) :
    state.Persistent store (store.load file) := by
  refine StoreInv.persistent (reached.invariant ?_ ?_)
  · rintro _ rfl
    exact ⟨⟨rfl, nofun, nofun, nofun, nofun, Nat.le_refl _, nofun⟩, fun _ => rfl, nofun⟩
  · intro state next label inv inOrder stepped
    have step := configStep_inv stepped
    exact ⟨inv.memory.step inOrder step, inv.disk.step inOrder step⟩

/-! ## Two saves that change places -/

def asciiBytes (text : String) : List UInt8 :=
  text.toList.map fun char => UInt8.ofNat char.toNat

/-- The configurations in which only `proxyBinaryOverride` is set. -/
def overrideStore : SettingsStore String where
  load text := String.ofList (((text.drop 24).dropLast.dropLast).map fun byte =>
    Char.ofNat byte.toNat)
  save path :=
    if path = "" then asciiBytes "\x7b\x7d"
    else asciiBytes "\x7b\"proxyBinaryOverride\":\"" ++ asciiBytes path ++ asciiBytes "\"\x7d"

def setOverride (call : Nat) (path : String) : List (ConfigLabel String) :=
  [.read call fun _ => path, .assign call, .launch call]

def writeSave (save : Nat) : List (ConfigLabel String) :=
  [.openFile save, .write save 100, .close save]

theorem config_persistent_once :
    ∃ state, (configStore overrideStore).run (.initial overrideStore [])
        (setOverride 0 "/a" ++ writeSave 0) = some state ∧
      state.Persistent overrideStore (overrideStore.load []) := by
  have reads : (configStore overrideStore).ReachableWhile InOrder
      (· = .initial overrideStore []) ((ConfigStore.initial overrideStore []).read 0 fun _ => "/a") :=
    .step (.start rfl) (show InOrder _ (.read 0 fun _ => "/a") from trivial) rfl
  have assigned := Machine.ReachableWhile.step reads
    (show InOrder _ (.assign 0) from fun _ _ _ isTransformed => by cases isTransformed; rfl) rfl
  have launched := Machine.ReachableWhile.step assigned
    (show InOrder _ (.launch 0) from fun _ _ isAssigned => by cases isAssigned; rfl) rfl
  -- there is no other save
  have alone {state : ConfigStore String} (one : state.saves.length = 1) (later : Nat)
      (save : Save) (isLater : 0 < later) (isSave : state.saves[later]? = some save) :
      save.phase = .launched := by
    rw [List.getElem?_eq_none (by omega)] at isSave
    cases isSave
  have opened := Machine.ReachableWhile.step launched
    (show InOrder _ (.openFile 0) from alone rfl) rfl
  have written := Machine.ReachableWhile.step opened
    (show InOrder _ (.write 0 100) from alone rfl) rfl
  have closed := Machine.ReachableWhile.step written (show InOrder _ (.close 0) from trivial) rfl
  exact ⟨_, rfl, config_persistent closed⟩

/-- The user types, and the save of the older text comes second. -/
theorem older_save_wins :
    ∃ state, (configStore overrideStore).Reachable (· = .initial overrideStore []) state ∧
      ¬ state.Persistent overrideStore (overrideStore.load []) := by
  obtain ⟨state, ran, finished, returned, saved, config, file⟩ :
      ∃ state, (configStore overrideStore).run (.initial overrideStore [])
        (setOverride 0 "/a" ++ setOverride 1 "/b" ++ writeSave 1 ++ writeSave 0) = some state ∧
      (∀ save ∈ state.saves, save.phase = .finished) ∧
      (∀ call update, state.updates call = some update → update = .returned) ∧
      state.saves ≠ [] ∧ state.config = "/b" ∧ state.file = overrideStore.save "/a" := by
    refine ⟨_, rfl, by decide, ?_, by decide, rfl, by decide⟩
    intro call update isUpdate
    match call with
    | 0 =>
      cases isUpdate
      rfl
    | 1 =>
      cases isUpdate
      rfl
    | _ + 2 => cases isUpdate
  refine ⟨state, Machine.Reachable.run (.start rfl) ran, fun persistent => ?_⟩
  obtain ⟨noSaves, _⟩ | isFile := persistent.stored ⟨returned, finished⟩
  · exact saved noSaves
  · rw [file, config] at isFile
    exact absurd isFile (by decide)

end VkTurn.Frontend
