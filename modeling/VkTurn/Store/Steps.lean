import VkTurn.Store.Transaction

/-! # Programs that commit step by step

A program that writes in several transactions, one after the other, undoes none of them when a
later one fails.  It leaves the state that it started in exactly when every step that can fail
still finds that state.
-/

namespace VkTurn.Store

variable {State Value Result : Type} {state : State}

/-! ## Failing programs -/

/-- Where `program` fails from `state`, it leaves `state`. -/
def RollsBack (program : Program State Value) (state : State) : Prop :=
  ∀ message next, program state = (.error message, next) → next = state

theorem query_bind {read : State → Except String Value} {after : Value → Program State Result} :
    (query read >>= after) state = match read state with
      | .error message => (.error message, state)
      | .ok value => after value state := by
  show (ExceptT.bind (query read) after) state = _
  simp only [ExceptT.bind, ExceptT.mk, Bind.bind, StateT.bind, query]
  cases read state with
  | error message => rfl
  | ok value => rfl

theorem program_bind {program : Program State Value} {after : Value → Program State Result} :
    (program >>= after) state = match program state with
      | (.error message, next) => (.error message, next)
      | (.ok value, next) => after value next := by
  show (ExceptT.bind program after) state = _
  simp only [ExceptT.bind, ExceptT.mk, Bind.bind, StateT.bind]
  cases program state with
  | mk result next =>
    cases result with
    | error message => rfl
    | ok value => rfl

/-- A statement that only reads leaves the state to what follows it. -/
theorem rollsBack_query_bind {read : State → Except String Value}
    {after : Value → Program State Result} :
    RollsBack (query read >>= after) state ↔
      ∀ value, read state = .ok value → RollsBack (after value) state := by
  unfold RollsBack
  simp only [query_bind]
  cases read state with
  | error message =>
    constructor
    · intro _ value isOk
      cases isOk
    · intro _ other next failed
      cases failed
      rfl
  | ok value =>
    constructor
    · rintro atomic _ ⟨⟩
      exact atomic
    · intro atomic
      exact atomic value rfl

theorem RollsBack.throw (message : String) :
    RollsBack (throw message : Program State Value) state := by
  intro other next failed
  cases failed
  rfl

theorem RollsBack.uncheckedTransaction {commitFails : Bool} {body : State → Except String State} :
    RollsBack (uncheckedTransaction commitFails body) state := by
  intro message next failed
  unfold Store.uncheckedTransaction at failed
  cases ran : body state with
  | error other =>
    rw [ran] at failed
    cases failed
    rfl
  | ok after =>
    rw [ran] at failed
    cases failed

/-! ## Steps -/

/-- The steps in order; one that fails leaves what those before it have committed. -/
def runSteps : List (State → Except String State) → Program State Unit
  | [] => fun state => (.ok (), state)
  | step :: rest => fun state =>
    match step state with
    | .error message => (.error message, state)
    | .ok next => runSteps rest next

theorem runSteps_append {first second : List (State → Except String State)} :
    runSteps (first ++ second) state = match runSteps first state with
      | (.error message, next) => (.error message, next)
      | (.ok _, next) => runSteps second next := by
  induction first generalizing state with
  | nil => rfl
  | cons step rest inductionHypothesis =>
    have unfolded (steps : List (State → Except String State)) :
        runSteps (step :: steps) state = match step state with
          | .error message => (.error message, state)
          | .ok next => runSteps steps next := rfl
    rw [List.cons_append, unfolded, unfolded]
    cases step state with
    | error message => rfl
    | ok next => exact inductionHypothesis

/-- The state after steps that all succeed. -/
def afterSteps (steps : List (State → Except String State)) (state : State) :
    Except String State :=
  steps.foldlM (fun state step => step state) state

theorem afterSteps_cons {step : State → Except String State}
    {rest : List (State → Except String State)} {next : State} (ran : step state = .ok next) :
    afterSteps (step :: rest) state = afterSteps rest next := by
  unfold afterSteps
  rw [List.foldlM_cons, ran]
  rfl

/-- Every step that fails finds `origin`. -/
def FailsAt (origin : State) (steps : List (State → Except String State)) (state : State) : Prop :=
  ∀ before step after, steps = before ++ step :: after → ∀ middle,
    afterSteps before state = .ok middle → (∃ message, step middle = .error message) →
      middle = origin

theorem runSteps_failsAt {origin : State} {steps : List (State → Except String State)} :
    (∀ message next, runSteps steps state = (.error message, next) → next = origin) ↔
      FailsAt origin steps state := by
  induction steps generalizing state with
  | nil =>
    constructor
    · intro _ before step after isNil
      simp at isNil
    · intro _ message next failed
      cases failed
  | cons step rest inductionHypothesis =>
    unfold runSteps
    cases ran : step state with
    | error message =>
      constructor
      · intro atomic before first after isSteps middle went failed
        cases before with
        | nil =>
          cases pure_eq_ok.mp went
          exact atomic message state rfl
        | cons head tail =>
          obtain ⟨rfl, _⟩ := List.cons.inj isSteps
          unfold afterSteps at went
          rw [List.foldlM_cons, ran] at went
          cases went
      · intro failsAt other next failed
        cases failed
        exact failsAt [] step rest rfl state rfl ⟨message, ran⟩
    | ok next =>
      refine inductionHypothesis.trans ?_
      constructor
      · intro failsAt before first after isSteps middle went failed
        cases before with
        | nil =>
          obtain ⟨rfl, _⟩ := List.cons.inj isSteps
          cases pure_eq_ok.mp went
          obtain ⟨message, isError⟩ := failed
          rw [ran] at isError
          cases isError
        | cons head tail =>
          obtain ⟨rfl, isRest⟩ := List.cons.inj isSteps
          rw [afterSteps_cons ran] at went
          exact failsAt tail first after isRest middle went failed
      · intro failsAt before first after isRest middle went failed
        refine failsAt (step :: before) first after (by rw [isRest]; rfl) middle ?_ failed
        rw [afterSteps_cons ran]
        exact went

theorem rollsBack_runSteps {steps : List (State → Except String State)} :
    RollsBack (runSteps steps) state ↔ FailsAt state steps state :=
  runSteps_failsAt

end VkTurn.Store
