import Mathlib.Data.Prod.Lex
import VkTurn.Client.CaptchaSolver

/-! # The end of the second captcha solver

Within an attempt each answer brings the solver closer to the end of the attempt, whatever it says,
also where it names another type of captcha.  Between attempts nothing does: only an answer to a
check that gives a token or a rate limit ends the solver, or its context.
-/

namespace VkTurn.Client

section Run

variable (library : CaptchaLibrary) (context : CaptchaContext) (answers : Nat → Option String)
  (start : V2State)

/-- The solver after some answers and waits. -/
def v2At : Nat → V2State
  | 0 => start
  | time + 1 => library.step (v2At time) (context.done time) (answers time)

def V2Returns : Prop :=
  ∃ time result, (v2At library context answers start time).stage = .finished result

def V2Succeeds : Prop :=
  ∃ time token, (v2At library context answers start time).stage = .finished (.ok token)

def DispatchReturns (captchaSolverVersion : String) (dispatched : Dispatched) : Prop :=
  ∃ time, dispatchAutoVkCaptcha captchaSolverVersion
    (v2At library context answers start time).stage = some dispatched

end Run

section Answers

variable (library : CaptchaLibrary)

/-- The answer to a check of the checkbox names no other type, and the status is a refusal or there
    is a token. -/
def EndsCheckbox (answer : Option String) : Prop :=
  ∃ check, library.performCaptchaCheck answer = some check ∧
    (check.showType = "" ∨ equalFold check.showType "checkbox" = true) ∧
    (equalFold check.status "ok" = false ∨ check.successToken ≠ "")

/-- The answer to a check of the slider is a token or a rate limit. -/
def EndsSlider (answer : Option String) : Prop :=
  ∃ check, library.performCaptchaCheck answer = some check ∧
    if equalFold check.status "ok" then check.successToken ≠ ""
    else equalFold check.status "error_limit" = true

/-- The solver waits for an answer to a check, and the answer ends it. -/
def EndsSolving : V2Stage → Option String → Prop
  | .checkboxCheck _, answer => EndsCheckbox library answer
  | .sliderCheck .., answer => EndsSlider library answer
  | _, _ => False

end Answers

/-! ## Attempts end -/

/-- The solver is between two attempts, or has returned. -/
def V2Stage.IsSettled : V2Stage → Prop
  | .backoff _ | .finished _ => True
  | _ => False

/-- What is left of an attempt. -/
def V2Stage.remaining : V2Stage → Nat ×ₗ Nat
  | .html _ => toLex (8, 0)
  | .settings _ => toLex (7, 0)
  | .debugInfo _ => toLex (6, 0)
  | .checkboxDone _ => toLex (5, 0)
  | .checkboxCheck _ => toLex (4, 0)
  | .sliderContent _ => toLex (3, 0)
  | .sliderDone .. => toLex (2, 0)
  | .sliderCheck _ index limit => toLex (1, limit - index)
  | .endSession _ => toLex (0, 1)
  | .backoff _ | .finished _ => toLex (0, 0)

section Attempt

variable {library : CaptchaLibrary} {state : V2State} {done : Bool} {answer : Option String}
  {attempt : V2Attempt}

theorem failAttempt_remaining (number : Nat) (error : V2Error) :
    (failAttempt number error).remaining = toLex (0, 0) := by
  cases error with
  | rateLimit => rfl
  | showType showType => rfl
  | other => rfl

theorem solve_remaining (showType : String) :
    (attempt.solve showType).remaining ≤ toLex (5, 0) := by
  unfold V2Attempt.solve
  split
  · exact Prod.Lex.toLex_le_toLex.mpr (.inl (by decide))
  split
  · exact le_refl _
  · rw [failAttempt_remaining]
    exact Prod.Lex.toLex_le_toLex.mpr (.inl (by decide))

theorem checkboxResult_showType {showType : String}
    (isType : library.checkboxResult answer = .error (.showType showType)) :
    showType ≠ "" ∧ equalFold showType "checkbox" = false := by
  unfold CaptchaLibrary.checkboxResult at isType
  split at isType
  · cases isType
  split at isType
  · rename_i other
    cases isType
    exact other
  split at isType
  · cases isType
  split at isType
  · cases isType
  split at isType
  · cases isType
  · cases isType

theorem sliderResult_showType {showType : String} :
    library.sliderResult answer ≠ some (.error (.showType showType)) := by
  intro isType
  unfold CaptchaLibrary.sliderResult at isType
  split at isType
  · cases isType
  split at isType
  · split at isType
    · cases isType
    · cases isType
  split at isType
  · cases isType
  · cases isType

/-- A check of the checkbox ends the attempt, or goes on with the slider. -/
theorem solved_checkbox_remaining :
    (attempt.solved (library.checkboxResult answer)).remaining < toLex (4, 0) := by
  have ends (rest : Nat) : toLex (0, rest) < (toLex (4, 0) : Nat ×ₗ Nat) :=
    Prod.Lex.toLex_lt_toLex.mpr (.inl (Nat.zero_lt_succ 3))
  cases result : library.checkboxResult answer with
  | ok token => exact ends 1
  | error error =>
    cases error with
    | rateLimit => exact ends 0
    | other => exact ends 0
    | showType showType =>
      obtain ⟨given, notCheckbox⟩ := checkboxResult_showType result
      have notWord : ¬ (showType = "checkbox" ∨ showType = "") := by
        rintro (rfl | rfl)
        · exact absurd notCheckbox (by decide)
        · exact given rfl
      simp only [V2Attempt.solved, if_neg given, V2Attempt.solve, if_neg notWord]
      split
      · exact Prod.Lex.toLex_lt_toLex.mpr (.inl (by decide))
      · exact ends 0

theorem solved_slider_remaining {result : Except V2Error String}
    (isResult : library.sliderResult answer = some result) :
    (attempt.solved result).remaining < toLex (1, 0) := by
  have ends (rest : Nat) : toLex (0, rest) < (toLex (1, 0) : Nat ×ₗ Nat) :=
    Prod.Lex.toLex_lt_toLex.mpr (.inl Nat.zero_lt_one)
  cases result with
  | ok token => exact ends 1
  | error error =>
    cases error with
    | rateLimit => exact ends 0
    | other => exact ends 0
    | showType showType => exact absurd isResult sliderResult_showType

/-- Every answer within an attempt leaves less of it. -/
theorem step_remaining (within : ¬ state.stage.IsSettled) :
    (library.step state done answer).stage.remaining < state.stage.remaining := by
  have lower {first second rest other : Nat} (less : first < second) :
      toLex (first, rest) < (toLex (second, other) : Nat ×ₗ Nat) :=
    Prod.Lex.toLex_lt_toLex.mpr (.inl less)
  have fails (number : Nat) {rank rest : Nat} (positive : 0 < rank) :
      (failAttempt number .other).remaining < toLex (rank, rest) := by
    rw [failAttempt_remaining]
    exact lower positive
  have solves {showType : String} {attempt : V2Attempt} {rank : Nat} (above : 5 < rank) :
      (attempt.solve showType).remaining < toLex (rank, 0) :=
    (solve_remaining showType).trans_lt (lower above)
  unfold CaptchaLibrary.step
  cases stage : state.stage with
  | html number =>
    dsimp only
    split
    · exact fails number (by decide)
    · exact lower (by decide)
  | settings attempt =>
    dsimp only
    split
    · exact fails attempt.number (by decide)
    split
    · exact solves (by decide)
    · exact lower (by decide)
  | debugInfo attempt =>
    dsimp only
    split
    · exact fails attempt.number (by decide)
    · exact solves (by decide)
  | checkboxDone attempt =>
    dsimp only
    split
    · exact fails attempt.number (by decide)
    · exact lower (by decide)
  | checkboxCheck attempt => exact solved_checkbox_remaining
  | sliderContent attempt =>
    dsimp only
    split
    · exact fails attempt.number (by decide)
    · exact lower (by decide)
  | sliderDone attempt limit =>
    dsimp only
    split
    · exact fails attempt.number (by decide)
    · exact lower (by decide)
  | sliderCheck attempt index limit =>
    dsimp only
    split
    · rename_i result isResult
      refine (solved_slider_remaining isResult).trans_le ?_
      exact Prod.Lex.toLex_le_toLex.mpr (.inr ⟨rfl, Nat.zero_le _⟩)
    split
    · -- the next guess is one less to make
      exact Prod.Lex.toLex_lt_toLex.mpr (.inr ⟨rfl, by omega⟩)
    · exact fails attempt.number (by decide)
  | endSession token => exact Prod.Lex.toLex_lt_toLex.mpr (.inr ⟨rfl, by decide⟩)
  | backoff number => exact absurd (by rw [stage]; trivial) within
  | finished result => exact absurd (by rw [stage]; trivial) within

end Attempt

section Run

variable {library : CaptchaLibrary} {context : CaptchaContext} {answers : Nat → Option String}
  {start : V2State}

variable (library context answers start) in
/-- From any time on an attempt ends. -/
theorem eventually_settled (time : Nat) :
    ∃ later, time ≤ later ∧ (v2At library context answers start later).stage.IsSettled := by
  induction isLeft : (v2At library context answers start time).stage.remaining
    using WellFoundedLT.induction generalizing time with
  | ind left inductionHypothesis =>
    by_cases settled : (v2At library context answers start time).stage.IsSettled
    · exact ⟨time, le_refl time, settled⟩
    · have less : (v2At library context answers start (time + 1)).stage.remaining < left :=
        isLeft ▸ step_remaining settled
      obtain ⟨later, isLater, settled⟩ := inductionHypothesis _ less (time + 1) rfl
      exact ⟨later, Nat.le_of_succ_le isLater, settled⟩

end Run

/-! ## What ends the solver -/

/-- The solver has a result. -/
def V2Stage.IsDecided : V2Stage → Prop
  | .endSession _ | .finished _ => True
  | _ => False

section Decided

variable {library : CaptchaLibrary} {state : V2State} {done : Bool} {answer : Option String}
  {attempt : V2Attempt}

theorem solve_not_decided (showType : String) : ¬ (attempt.solve showType).IsDecided := by
  unfold V2Attempt.solve
  split
  · exact id
  split
  · exact id
  · exact id

theorem equalFold_unique {text lower other : String} (isLower : equalFold text lower = true)
    (isOther : equalFold text other = true) : lower = other := by
  rw [← String.toList_inj]
  exact (of_decide_eq_true isLower).symm.trans (of_decide_eq_true isOther)

theorem solved_checkbox_decided :
    (attempt.solved (library.checkboxResult answer)).IsDecided ↔ EndsCheckbox library answer := by
  unfold CaptchaLibrary.checkboxResult EndsCheckbox
  cases library.performCaptchaCheck answer with
  | none => exact iff_of_false id (by simp)
  | some check =>
    simp only [Option.some.injEq, exists_eq_left']
    by_cases other : check.showType ≠ "" ∧ equalFold check.showType "checkbox" = false
    · rw [if_pos other]
      simp only [V2Attempt.solved, if_neg other.1]
      refine iff_of_false (solve_not_decided _) ?_
      rintro ⟨isEmpty | same, _⟩
      · exact other.1 isEmpty
      · cases other.2.symm.trans same
    · have same : check.showType = "" ∨ equalFold check.showType "checkbox" = true := by
        rwa [not_and_or, not_not, Bool.not_eq_false] at other
      rw [if_neg other, and_iff_right same]
      split
      · rename_i limited
        refine iff_of_true trivial (.inl ?_)
        by_contra isOk
        exact absurd (equalFold_unique limited (Bool.not_eq_false _ ▸ isOk)) (by decide)
      split
      · rename_i refused
        exact iff_of_true trivial (.inl refused)
      split
      · rename_i accepted noToken
        refine iff_of_false id ?_
        rintro (refused | given)
        · exact accepted refused
        · exact given noToken
      · rename_i given
        exact iff_of_true trivial (.inr given)

theorem solved_slider_decided (attempt : V2Attempt) :
    (∃ result, library.sliderResult answer = some result ∧ (attempt.solved result).IsDecided) ↔
      EndsSlider library answer := by
  unfold CaptchaLibrary.sliderResult EndsSlider
  cases library.performCaptchaCheck answer with
  | none => exact iff_of_false (by rintro ⟨_, ⟨⟩, decided⟩; exact decided) (by simp)
  | some check =>
    simp only [Option.some.injEq, exists_eq_left']
    split
    · rename_i accepted
      simp only [Option.some.injEq, exists_eq_left']
      split
      · rename_i noToken
        exact iff_of_false id fun given => given noToken
      · rename_i given
        exact iff_of_true trivial given
    split
    · rename_i limited
      simp only [Option.some.injEq, exists_eq_left']
      exact iff_of_true trivial limited
    · rename_i notLimited
      exact iff_of_false (by rintro ⟨_, ⟨⟩, _⟩) notLimited

/-- A step gives the solver a result if it is an answer to a check that ends it, or the end of a
    wait for a context that is done. -/
theorem step_decided_iff (undecided : ¬ state.stage.IsDecided) :
    (library.step state done answer).stage.IsDecided ↔
      EndsSolving library state.stage answer ∨
        ∃ number, state.stage = .backoff number ∧ done = true := by
  -- the stages that wait for another answer
  have elsewhere {stage next : V2Stage} (noCheck : EndsSolving library stage answer → False)
      (noWait : ∀ number, stage ≠ .backoff number) (notDecided : ¬ next.IsDecided) :
      next.IsDecided ↔ EndsSolving library stage answer ∨
        ∃ number, stage = .backoff number ∧ done = true := by
    refine iff_of_false notDecided ?_
    rintro (check | ⟨number, isWait, _⟩)
    · exact noCheck check
    · exact noWait number isWait
  unfold CaptchaLibrary.step
  cases stage : state.stage with
  | html number =>
    refine elsewhere id nofun ?_
    dsimp only
    split
    · exact id
    · exact id
  | settings attempt =>
    refine elsewhere id nofun ?_
    dsimp only
    split
    · exact id
    split
    · exact solve_not_decided _
    · exact id
  | debugInfo attempt =>
    refine elsewhere id nofun ?_
    dsimp only
    split
    · exact id
    · exact solve_not_decided _
  | checkboxDone attempt =>
    refine elsewhere id nofun ?_
    dsimp only
    split
    · exact id
    · exact id
  | checkboxCheck attempt =>
    simp only [EndsSolving, reduceCtorEq, false_and, exists_false, or_false]
    exact solved_checkbox_decided
  | sliderContent attempt =>
    refine elsewhere id nofun ?_
    dsimp only
    split
    · exact id
    · exact id
  | sliderDone attempt limit =>
    refine elsewhere id nofun ?_
    dsimp only
    split
    · exact id
    · exact id
  | sliderCheck attempt index limit =>
    simp only [EndsSolving, reduceCtorEq, false_and, exists_false, or_false]
    rw [← solved_slider_decided attempt]
    split
    · rename_i result isResult
      simp [isResult]
    · rename_i noResult
      refine iff_of_false ?_ fun ⟨result, isResult, _⟩ => by cases noResult.symm.trans isResult
      split
      · exact id
      · exact id
  | endSession token => exact absurd (by rw [stage]; trivial) undecided
  | backoff number =>
    simp only [EndsSolving, false_or, V2Stage.backoff.injEq, exists_eq_left']
    split
    · rename_i isDone
      exact iff_of_true trivial isDone
    · rename_i notDone
      exact iff_of_false id notDone
  | finished result => exact absurd (by rw [stage]; trivial) undecided

end Decided

section Run

variable {library : CaptchaLibrary} {context : CaptchaContext} {answers : Nat → Option String}
  {start : V2State}

theorem CaptchaContext.done_of_le {first second : Nat} (isDone : context.done first = true)
    (later : first ≤ second) : context.done second = true := by
  induction later with
  | refl => exact isDone
  | step _ inductionHypothesis => exact context.stays _ inductionHypothesis

theorem returns_of_decided {time : Nat}
    (decided : (v2At library context answers start time).stage.IsDecided) :
    V2Returns library context answers start := by
  cases stage : (v2At library context answers start time).stage with
  | endSession token =>
    refine ⟨time + 1, .ok token, ?_⟩
    simp only [v2At, CaptchaLibrary.step, stage]
  | finished result => exact ⟨time, result, stage⟩
  | _ =>
    rw [stage] at decided
    exact decided.elim

/-- A context that is done ends the solver after the attempt. -/
theorem returns_of_done {time : Nat} (isDone : context.done time = true) :
    V2Returns library context answers start := by
  obtain ⟨later, isLater, settled⟩ := eventually_settled library context answers start time
  cases stage : (v2At library context answers start later).stage with
  | backoff number =>
    refine ⟨later + 1, .error .other, ?_⟩
    simp only [v2At, CaptchaLibrary.step, stage, if_pos (context.done_of_le isDone isLater)]
  | finished result => exact ⟨later, result, stage⟩
  | _ =>
    rw [stage] at settled
    exact settled.elim

theorem returns_of_check {time : Nat}
    (ends : EndsSolving library (v2At library context answers start time).stage (answers time)) :
    V2Returns library context answers start := by
  by_cases decided : (v2At library context answers start time).stage.IsDecided
  · exact returns_of_decided decided
  · have later : (v2At library context answers start (time + 1)).stage.IsDecided :=
      (step_decided_iff decided).mpr (.inl ends)
    exact returns_of_decided later

/-- The solver returns at once, or because of its context, or because of an answer to a check. -/
theorem returns_iff : V2Returns library context answers start ↔
    start.stage.IsDecided ∨ (∃ time, context.done time = true) ∨
      ∃ time, EndsSolving library (v2At library context answers start time).stage
        (answers time) := by
  constructor
  · rintro ⟨time, result, stage⟩
    have decided : (v2At library context answers start time).stage.IsDecided := by
      rw [stage]
      trivial
    clear stage
    induction time with
    | zero => exact .inl decided
    | succ time inductionHypothesis =>
      by_cases before : (v2At library context answers start time).stage.IsDecided
      · exact inductionHypothesis before
      · obtain ends | ⟨number, _, isDone⟩ := (step_decided_iff before).mp decided
        · exact .inr (.inr ⟨time, ends⟩)
        · exact .inr (.inl ⟨time, isDone⟩)
  · rintro (decided | ⟨time, isDone⟩ | ⟨time, ends⟩)
    · exact returns_of_decided (show (v2At library context answers start 0).stage.IsDecided from
        decided)
    · exact returns_of_done isDone
    · exact returns_of_check ends

theorem finished_stays {time later : Nat} {result : Except V2Error String}
    (finished : (v2At library context answers start time).stage = .finished result)
    (isLater : time ≤ later) :
    (v2At library context answers start later).stage = .finished result := by
  induction isLater with
  | refl => exact finished
  | step _ inductionHypothesis => simp only [v2At, CaptchaLibrary.step, inductionHypothesis]

theorem finished_unique {first second : Nat} {result other : Except V2Error String}
    (isFirst : (v2At library context answers start first).stage = .finished result)
    (isSecond : (v2At library context answers start second).stage = .finished other) :
    result = other := by
  have same := (finished_stays isFirst (Nat.le_max_left first second)).symm.trans
    (finished_stays isSecond (Nat.le_max_right first second))
  exact V2Stage.finished.inj same

/-- The first solver is called if it is asked for, or the second one returns without a token. -/
theorem dispatch_v1_iff {captchaSolverVersion : String} :
    DispatchReturns library context answers start captchaSolverVersion .v1 ↔
      equalFold captchaSolverVersion "v1" = true ∨
        V2Returns library context answers start ∧ ¬ V2Succeeds library context answers start := by
  unfold DispatchReturns dispatchAutoVkCaptcha
  split
  · rename_i isV1
    exact iff_of_true ⟨0, rfl⟩ (.inl isV1)
  · rename_i isV2
    rw [or_iff_right isV2]
    constructor
    · rintro ⟨time, dispatched⟩
      split at dispatched
      · cases dispatched
      · rename_i error stage
        refine ⟨⟨time, _, stage⟩, ?_⟩
        rintro ⟨later, token, succeeded⟩
        cases finished_unique stage succeeded
      · cases dispatched
    · rintro ⟨⟨time, result, stage⟩, fails⟩
      cases result with
      | ok token => exact absurd ⟨time, token, stage⟩ fails
      | error error => exact ⟨time, by rw [stage]⟩

end Run

theorem startV2_decided_iff {sessionToken : Option String} {hasClient : Bool}
    {debugCache : List (String × String)} :
    (startV2 sessionToken hasClient debugCache).stage.IsDecided ↔
      sessionToken.getD "" = "" ∨ hasClient = false := by
  unfold startV2
  split
  · rename_i fails
    exact iff_of_true trivial fails
  · rename_i starts
    exact iff_of_false id starts

/-- There is nothing to solve or no client to solve it with, or the context is done at some time, or
    some answer to a check ends the solver. -/
def EndsV2 (library : CaptchaLibrary) (context : CaptchaContext) (answers : Nat → Option String)
    (sessionToken : Option String) (hasClient : Bool) (debugCache : List (String × String)) :
    Prop :=
  (sessionToken.getD "" = "" ∨ hasClient = false) ∨ (∃ time, context.done time = true) ∨
    ∃ time, EndsSolving library
      (v2At library context answers (startV2 sessionToken hasClient debugCache) time).stage
      (answers time)

/-- The second solver returns, and the first one follows where it gives no token, if and only if
    something ends it. -/
theorem captcha_solver_returns_iff (library : CaptchaLibrary) (context : CaptchaContext)
    (answers : Nat → Option String) (sessionToken : Option String) (hasClient : Bool)
    (debugCache : List (String × String)) (captchaSolverVersion : String) :
    (V2Returns library context answers (startV2 sessionToken hasClient debugCache) ↔
      EndsV2 library context answers sessionToken hasClient debugCache) ∧
    (DispatchReturns library context answers (startV2 sessionToken hasClient debugCache)
        captchaSolverVersion .v1 ↔
      equalFold captchaSolverVersion "v1" = true ∨
        EndsV2 library context answers sessionToken hasClient debugCache ∧
          ¬ V2Succeeds library context answers (startV2 sessionToken hasClient debugCache)) := by
  have returns : V2Returns library context answers (startV2 sessionToken hasClient debugCache) ↔
      EndsV2 library context answers sessionToken hasClient debugCache := by
    rw [returns_iff, startV2_decided_iff, EndsV2]
  exact ⟨returns, by rw [dispatch_v1_iff, returns]⟩

/-! ## A server that does not answer -/

/-- The state of a solver that the server does not answer. -/
def silentAt (library : CaptchaLibrary) (time : Nat) : V2State :=
  v2At library .background (fun _ => none) (startV2 (some "token") true []) time

/-- Without an answer the solver tries again for ever. -/
theorem silentAt_stage (library : CaptchaLibrary) (time : Nat) :
    ∃ number, (silentAt library time).stage = .html number ∨
      (silentAt library time).stage = .backoff number := by
  induction time with
  | zero => exact ⟨1, .inl rfl⟩
  | succ time inductionHypothesis =>
    have next : silentAt library (time + 1) = library.step (silentAt library time) false none := rfl
    obtain ⟨number, isHtml | isWait⟩ := inductionHypothesis
    · refine ⟨number, .inr ?_⟩
      simp only [next, CaptchaLibrary.step, isHtml, Option.bind_none, failAttempt]
    · refine ⟨number + 1, .inl ?_⟩
      simp only [next, CaptchaLibrary.step, isWait, Bool.false_eq_true, if_false]

/-- A library that reads nothing. -/
def plainLibrary : CaptchaLibrary where
  windowInit _ := none
  scriptSrc _ := none
  powInput _ := none
  difficulty _ := none
  debugInfo _ := none
  unmarshalInit _ := none
  unmarshal _ := none
  marshal _ := ""
  formatFloat text := text
  floatInt _ := 0
  sha256Hex text := text
  decodesImage _ := false

/-- With the background context of its caller the solver may never return. -/
theorem captcha_solver_never_returns : ¬ ∀ (answers : Nat → Option String)
    (sessionToken : Option String) (hasClient : Bool),
    V2Returns plainLibrary .background answers (startV2 sessionToken hasClient []) := by
  intro claimed
  obtain ⟨time, result, stage⟩ := claimed (fun _ => none) (some "token") true
  obtain ⟨number, isHtml | isWait⟩ := silentAt_stage plainLibrary time
  · cases stage.symm.trans isHtml
  · cases stage.symm.trans isWait

end VkTurn.Client
