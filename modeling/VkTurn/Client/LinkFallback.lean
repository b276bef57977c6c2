import VkTurn.Client.CredsThreads
import VkTurn.Order.Cyclic

/-! # Falling back from link to link

`fetchForGroup` asks the tracker for a link as often as there are primary links, each time from one
position further on.  The tracker skips dead links, so a later search may come to a link that an
earlier one found, unless that link has died of its failure.
-/

namespace VkTurn.Client

open VkTurn.Order

/-! ## The links that are tried -/

/-- `fetchPrimary` with the links it tries. -/
def fetchPrimaryTried (preferIdx : Nat) (oracle : FetchOracle) :
    Nat → Nat → LinkHealthTracker →
      List LinkRef × LinkHealthTracker × Option (TurnCred × LinkRef)
  | 0, _, tracker => ([], tracker, none)
  | remaining + 1, attempt, tracker =>
    let now := oracle.attempts attempt
    match tracker.pickPrimary now.pickedAt ((preferIdx + attempt) % tracker.primary.length) with
    | none => ([], tracker, none)
    | some position =>
      match tracker.primary[position]? with
      | none => ([], tracker, none)
      | some link =>
        match now.outcome with
        | .ok cred =>
          ([.primary position], tracker.markFetchSuccess (.primary position) now.markedAt,
            some (now.cred cred link.url false, .primary position))
        | .error _ =>
          let (tried, result) := fetchPrimaryTried preferIdx oracle remaining (attempt + 1)
            (tracker.markFetchFailure (.primary position) now.markedAt)
          (.primary position :: tried, result)

def secondaryTried (oracle : FetchOracle) (tracker : LinkHealthTracker) : List LinkRef :=
  match tracker.secondary with
  | none => []
  | some link => if link.isAlive (unixMilli oracle.secondary.pickedAt) then [.secondary] else []

/-- What `fetchForGroup` tries and returns, from the given attempt on. -/
def fetchForGroupFrom (preferIdx : Nat) (oracle : FetchOracle) (remaining attempt : Nat)
    (tracker : LinkHealthTracker) : List LinkRef × Option (TurnCred × LinkRef) :=
  match fetchPrimaryTried preferIdx oracle remaining attempt tracker with
  | (tried, _, some fetched) => (tried, some fetched)
  | (tried, tracker, none) =>
    (tried ++ secondaryTried oracle tracker, (fetchSecondary oracle tracker).2)

def preferredIdx (tracker : LinkHealthTracker) (assignedIdx : Int) : Nat :=
  (max assignedIdx 0).toNat % tracker.primary.length

def fetchForGroupTried (tracker : LinkHealthTracker) (assignedIdx : Int) (oracle : FetchOracle) :
    List LinkRef × Option (TurnCred × LinkRef) :=
  fetchForGroupFrom (preferredIdx tracker assignedIdx) oracle tracker.primary.length 0 tracker

/-! ## The links that should be tried -/

structure Candidate where
  ref : LinkRef
  url : String
  attempt : FetchAttempt

/-- Each candidate once, in order, up to the first that succeeds. -/
def tryEach : List Candidate → List LinkRef × Option (TurnCred × LinkRef)
  | [] => ([], none)
  | candidate :: rest =>
    match candidate.attempt.outcome with
    | .ok cred =>
      ([candidate.ref],
        some (candidate.attempt.cred cred candidate.url candidate.ref.isSecondary, candidate.ref))
    | .error _ =>
      let (tried, result) := tryEach rest
      (candidate.ref :: tried, result)

def LinkHealthTracker.isAliveAt (tracker : LinkHealthTracker) (now : Time) (position : Nat) :
    Bool :=
  tracker.primary[position]?.any (·.isAlive (unixMilli now))

/-- The primary links that are alive, in cyclic order from the preferred one. -/
def alivePrimary (tracker : LinkHealthTracker) (preferIdx : Nat) (now : Time) : List Nat :=
  ((List.range tracker.primary.length).map (cyclic preferIdx tracker.primary.length)).filter
    (tracker.isAliveAt now)

/-- The primary link at the position, where it is tried in the given attempt. -/
def plannedCandidate (tracker : LinkHealthTracker) (oracle : FetchOracle)
    (attempt position : Nat) : Candidate where
  ref := .primary position
  url := (tracker.primary[position]?.map LinkHealth.url).getD ""
  attempt := oracle.attempts attempt

def primaryCandidates (tracker : LinkHealthTracker) (oracle : FetchOracle) :
    Nat → List Nat → List Candidate
  | _, [] => []
  | attempt, position :: rest =>
    plannedCandidate tracker oracle attempt position ::
      primaryCandidates tracker oracle (attempt + 1) rest

def secondaryCandidates (tracker : LinkHealthTracker) (oracle : FetchOracle) : List Candidate :=
  match tracker.secondary with
  | none => []
  | some link =>
    if link.isAlive (unixMilli oracle.secondary.pickedAt) then
      [{ ref := .secondary, url := link.url, attempt := oracle.secondary }]
    else []

/-- The primary links alive at the start, and then the secondary one if it is alive. -/
def candidates (tracker : LinkHealthTracker) (assignedIdx : Int) (oracle : FetchOracle) :
    List Candidate :=
  primaryCandidates tracker oracle 0
    (alivePrimary tracker (preferredIdx tracker assignedIdx) (oracle.attempts 0).pickedAt) ++
      secondaryCandidates tracker oracle

structure FallsBackCompletely (tracker : LinkHealthTracker) (assignedIdx : Int)
    (oracle : FetchOracle) : Prop where
  tried : (fetchForGroupTried tracker assignedIdx oracle).1 =
    (tryEach (candidates tracker assignedIdx oracle)).1
  result : (fetchForGroup tracker assignedIdx oracle).2 =
    (tryEach (candidates tracker assignedIdx oracle)).2

/-! ## When they are the same -/

/-- The link is alive, and those from `start` on that come before it are dead. -/
def ComesFirst (tracker : LinkHealthTracker) (now : Time) (start position : Nat) : Prop :=
  ∃ offset < tracker.primary.length, cyclic start tracker.primary.length offset = position ∧
    tracker.isAliveAt now position = true ∧
    ∀ earlier < offset, tracker.isAliveAt now (cyclic start tracker.primary.length earlier) = false

/-- For each link of the plan, up to the first whose fetch succeeds: among the links from one
    position further on it comes first, where the links before it in the plan have failed once.
    Where all have failed and there are other links, all links are dead then. -/
def InOrder (preferIdx : Nat) (oracle : FetchOracle) :
    Nat → List Nat → LinkHealthTracker → Prop
  | attempt, [], tracker => attempt < tracker.primary.length →
      ∀ position < tracker.primary.length,
        tracker.isAliveAt (oracle.attempts attempt).pickedAt position = false
  | attempt, position :: rest, tracker =>
    ComesFirst tracker (oracle.attempts attempt).pickedAt
        ((preferIdx + attempt) % tracker.primary.length) position ∧
      ∀ err, (oracle.attempts attempt).outcome = .error err →
        InOrder preferIdx oracle (attempt + 1) rest
          (tracker.markFetchFailure (.primary position) (oracle.attempts attempt).markedAt)

/-- The condition on the health of the links, the clock readings and the outcomes. -/
def FailuresKeepOrder (tracker : LinkHealthTracker) (assignedIdx : Int) (oracle : FetchOracle) :
    Prop :=
  InOrder (preferredIdx tracker assignedIdx) oracle 0
    (alivePrimary tracker (preferredIdx tracker assignedIdx) (oracle.attempts 0).pickedAt) tracker

/-! ## Picking -/

section Picking

variable {tracker next : LinkHealthTracker} {oracle : FetchOracle} {now : Time}
  {start position preferIdx remaining attempt : Nat}

theorem pickPrimary_eq_firstFrom : tracker.pickPrimary now start =
    firstFrom start tracker.primary.length (tracker.isAliveAt now) := rfl

theorem pickPrimary_eq_some :
    tracker.pickPrimary now start = some position ↔ ComesFirst tracker now start position := by
  rw [pickPrimary_eq_firstFrom]
  exact firstFrom_eq_some

theorem pickPrimary_eq_none : tracker.pickPrimary now start = none ↔
    ∀ position < tracker.primary.length, tracker.isAliveAt now position = false := by
  rw [pickPrimary_eq_firstFrom]
  exact firstFrom_eq_none

/-- A link that was picked is there. -/
theorem link_of_pickPrimary (picked : tracker.pickPrimary now start = some position) :
    ∃ link, tracker.primary[position]? = some link := by
  obtain ⟨_, _, _, isAlive, _⟩ := pickPrimary_eq_some.mp picked
  obtain ⟨link, isLink, _⟩ := (Option.any_eq_true _ _).mp isAlive
  exact ⟨link, isLink⟩

theorem snd_fetchPrimaryTried : (fetchPrimaryTried preferIdx oracle remaining attempt tracker).2 =
    fetchPrimary preferIdx oracle remaining attempt tracker := by
  induction remaining generalizing attempt tracker with
  | zero => rfl
  | succ remaining inductionHypothesis =>
    unfold fetchPrimaryTried fetchPrimary
    dsimp only
    cases tracker.pickPrimary (oracle.attempts attempt).pickedAt
        ((preferIdx + attempt) % tracker.primary.length) with
    | none => rfl
    | some position =>
      dsimp only
      cases tracker.primary[position]? with
      | none => rfl
      | some link =>
        dsimp only
        cases (oracle.attempts attempt).outcome with
        | ok cred => rfl
        | error err => exact inductionHypothesis

/-- The trace is one of `fetchForGroup`. -/
theorem snd_fetchForGroupTried (assignedIdx : Int) :
    (fetchForGroupTried tracker assignedIdx oracle).2 =
      (fetchForGroup tracker assignedIdx oracle).2 := by
  unfold fetchForGroupTried fetchForGroupFrom fetchForGroup preferredIdx
  dsimp only
  rw [← snd_fetchPrimaryTried]
  rcases fetchPrimaryTried ((max assignedIdx 0).toNat % tracker.primary.length) oracle
    tracker.primary.length 0 tracker with ⟨tried, after, _ | fetched⟩
  · rfl
  · rfl

theorem length_markFetchFailure (ref : LinkRef) :
    (tracker.markFetchFailure ref now).primary.length = tracker.primary.length := by
  cases ref with
  | primary position => exact List.length_modify _ _ _
  | secondary => rfl

theorem url_markFetchFailure (ref : LinkRef) :
    (tracker.markFetchFailure ref now).primary[position]?.map LinkHealth.url =
      tracker.primary[position]?.map LinkHealth.url := by
  have same := tracker.links_markFetchFailure ref now
  have samePrimary := congrArg (fun table => table.primary[position]?.map LinkIdentity.url) same
  simp only [LinkHealthTracker.links, List.getElem?_map, Option.map_map] at samePrimary
  exact samePrimary

theorem primaryCandidates_congr (urls : ∀ position : Nat,
      next.primary[position]?.map LinkHealth.url = tracker.primary[position]?.map LinkHealth.url)
    (positions : List Nat) : primaryCandidates next oracle attempt positions =
      primaryCandidates tracker oracle attempt positions := by
  induction positions generalizing attempt with
  | nil => rfl
  | cons position rest inductionHypothesis =>
    unfold primaryCandidates plannedCandidate
    rw [urls position, inductionHypothesis]

/-! ## The loop -/

theorem secondary_tried :
    (secondaryTried oracle tracker, (fetchSecondary oracle tracker).2) =
      tryEach (secondaryCandidates tracker oracle) := by
  unfold secondaryTried fetchSecondary secondaryCandidates
  dsimp only
  cases tracker.secondary with
  | none => rfl
  | some link =>
    dsimp only
    by_cases isAlive : link.isAlive (unixMilli oracle.secondary.pickedAt) = true
    · rw [if_pos isAlive, if_pos isAlive, if_neg (not_not.mpr isAlive)]
      unfold tryEach
      dsimp only
      cases oracle.secondary.outcome with
      | ok cred => rfl
      | error err => rfl
    · rw [if_neg isAlive, if_neg isAlive, if_pos isAlive]
      rfl

/-- What the loop does in one round. -/
theorem fetchForGroupFrom_none (picked : tracker.pickPrimary (oracle.attempts attempt).pickedAt
      ((preferIdx + attempt) % tracker.primary.length) = none) :
    fetchForGroupFrom preferIdx oracle (remaining + 1) attempt tracker =
      tryEach (secondaryCandidates tracker oracle) := by
  rw [← secondary_tried]
  unfold fetchForGroupFrom fetchPrimaryTried
  dsimp only
  rw [picked]
  rfl

theorem fetchForGroupFrom_ok {cred : TurnCred} {link : LinkHealth}
    (picked : tracker.pickPrimary (oracle.attempts attempt).pickedAt
      ((preferIdx + attempt) % tracker.primary.length) = some position)
    (isLink : tracker.primary[position]? = some link)
    (succeeds : (oracle.attempts attempt).outcome = .ok cred) :
    fetchForGroupFrom preferIdx oracle (remaining + 1) attempt tracker =
      ([.primary position],
        some ((oracle.attempts attempt).cred cred link.url false, .primary position)) := by
  unfold fetchForGroupFrom fetchPrimaryTried
  dsimp only
  rw [picked]
  dsimp only
  rw [isLink]
  dsimp only
  rw [succeeds]

theorem fetchForGroupFrom_error {err : String}
    (picked : tracker.pickPrimary (oracle.attempts attempt).pickedAt
      ((preferIdx + attempt) % tracker.primary.length) = some position)
    (fails : (oracle.attempts attempt).outcome = .error err) :
    fetchForGroupFrom preferIdx oracle (remaining + 1) attempt tracker =
      let next := tracker.markFetchFailure (.primary position) (oracle.attempts attempt).markedAt
      let (tried, result) := fetchForGroupFrom preferIdx oracle remaining (attempt + 1) next
      (.primary position :: tried, result) := by
  obtain ⟨link, isLink⟩ := link_of_pickPrimary picked
  unfold fetchForGroupFrom
  dsimp only
  rw [fetchPrimaryTried]
  dsimp only
  rw [picked]
  dsimp only
  rw [isLink]
  dsimp only
  rw [fails]
  dsimp only
  rcases fetchPrimaryTried preferIdx oracle remaining (attempt + 1)
    (tracker.markFetchFailure (.primary position) (oracle.attempts attempt).markedAt)
    with ⟨tried, after, _ | fetched⟩
  · rfl
  · rfl

/-- The first link that is tried is the one that was picked. -/
theorem head_fetchForGroupFrom (remaining : Nat)
    (picked : tracker.pickPrimary (oracle.attempts attempt).pickedAt
      ((preferIdx + attempt) % tracker.primary.length) = some position) :
    (fetchForGroupFrom preferIdx oracle (remaining + 1) attempt tracker).1.head? =
      some (.primary position) := by
  cases outcome : (oracle.attempts attempt).outcome with
  | ok cred =>
    obtain ⟨link, isLink⟩ := link_of_pickPrimary picked
    rw [fetchForGroupFrom_ok picked isLink outcome]
    rfl
  | error err =>
    rw [fetchForGroupFrom_error picked outcome]
    rfl

theorem head_tryEach (candidate : Candidate) (rest : List Candidate) :
    (tryEach (candidate :: rest)).1.head? = some candidate.ref := by
  unfold tryEach
  dsimp only
  split
  · rfl
  · rfl

theorem head_secondaryCandidates :
    (tryEach (secondaryCandidates tracker oracle)).1.head? ≠ some (.primary position) := by
  unfold secondaryCandidates
  split
  · exact nofun
  · split
    · rw [head_tryEach]
      exact nofun
    · exact nofun

/-- A fetch through the planned link succeeds. -/
theorem tryEach_ok {cred : TurnCred} (rest : List Candidate)
    (picked : tracker.pickPrimary (oracle.attempts attempt).pickedAt
      ((preferIdx + attempt) % tracker.primary.length) = some position)
    (succeeds : (oracle.attempts attempt).outcome = .ok cred) :
    fetchForGroupFrom preferIdx oracle (remaining + 1) attempt tracker =
      tryEach (plannedCandidate tracker oracle attempt position :: rest) := by
  obtain ⟨link, isLink⟩ := link_of_pickPrimary picked
  rw [fetchForGroupFrom_ok picked isLink succeeds]
  unfold tryEach plannedCandidate
  dsimp only
  rw [succeeds, isLink]
  rfl

/-- A fetch through the planned link fails: the rest of the rounds decide. -/
theorem tryEach_error {err : String} (rest : List Candidate)
    (picked : tracker.pickPrimary (oracle.attempts attempt).pickedAt
      ((preferIdx + attempt) % tracker.primary.length) = some position)
    (fails : (oracle.attempts attempt).outcome = .error err) :
    fetchForGroupFrom preferIdx oracle (remaining + 1) attempt tracker =
        tryEach (plannedCandidate tracker oracle attempt position :: rest) ↔
      fetchForGroupFrom preferIdx oracle remaining (attempt + 1)
          (tracker.markFetchFailure (.primary position) (oracle.attempts attempt).markedAt) =
        tryEach rest := by
  rw [fetchForGroupFrom_error picked fails]
  conv_lhs => rw [tryEach]
  unfold plannedCandidate
  dsimp only
  rw [fails]
  dsimp only
  rw [Prod.mk.injEq, List.cons.injEq, Prod.ext_iff]
  exact ⟨fun same => ⟨same.1.2, same.2⟩, fun same => ⟨⟨rfl, same.1⟩, same.2⟩⟩

/-- The rounds from an attempt on try the rest of the plan if and only if they meet it in order. -/
theorem fetchForGroupFrom_iff (positions : List Nat)
    (rounds : remaining + attempt = tracker.primary.length)
    (fits : positions.length ≤ remaining) :
    fetchForGroupFrom preferIdx oracle remaining attempt tracker =
        tryEach (primaryCandidates tracker oracle attempt positions ++
          secondaryCandidates tracker oracle) ↔
      InOrder preferIdx oracle attempt positions tracker := by
  induction positions generalizing remaining attempt tracker with
  | nil =>
    unfold primaryCandidates InOrder
    rw [List.nil_append]
    cases remaining with
    | zero =>
      refine ⟨fun _ more => ?_, fun _ => ?_⟩
      · omega
      · exact secondary_tried
    | succ remaining =>
      cases picked : tracker.pickPrimary (oracle.attempts attempt).pickedAt
          ((preferIdx + attempt) % tracker.primary.length) with
      | none =>
        have allDead := pickPrimary_eq_none.mp picked
        exact ⟨fun _ _ => allDead, fun _ => fetchForGroupFrom_none picked⟩
      | some position =>
        refine ⟨fun same => ?_, fun allDead => ?_⟩
        · -- a primary link is tried, and none should be
          have tries := head_fetchForGroupFrom remaining picked
          rw [same] at tries
          exact absurd tries head_secondaryCandidates
        · rw [pickPrimary_eq_none.mpr (allDead (by omega))] at picked
          cases picked
  | cons position rest inductionHypothesis =>
    cases remaining with
    | zero => exact absurd fits (Nat.not_succ_le_zero _)
    | succ remaining =>
      unfold InOrder
      rw [← pickPrimary_eq_some, primaryCandidates, List.cons_append]
      cases picked : tracker.pickPrimary (oracle.attempts attempt).pickedAt
          ((preferIdx + attempt) % tracker.primary.length) with
      | none =>
        refine ⟨fun same => ?_, fun inOrder => nomatch inOrder.1⟩
        rw [fetchForGroupFrom_none picked] at same
        have tries : (tryEach (secondaryCandidates tracker oracle)).1.head? =
            some (.primary position) := by
          rw [same]
          exact head_tryEach _ _
        exact absurd tries head_secondaryCandidates
      | some found =>
        by_cases isPlanned : found = position
        · rw [isPlanned] at picked ⊢
          cases outcome : (oracle.attempts attempt).outcome with
          | ok cred => exact ⟨fun _ => ⟨rfl, nofun⟩, fun _ => tryEach_ok _ picked outcome⟩
          | error err =>
            have tailFits : rest.length ≤ remaining := Nat.le_of_succ_le_succ fits
            have roundsLeft : remaining + (attempt + 1) = (tracker.markFetchFailure
                (.primary position) (oracle.attempts attempt).markedAt).primary.length := by
              rw [length_markFetchFailure]
              omega
            rw [tryEach_error _ picked outcome, ← primaryCandidates_congr
                (fun _ => url_markFetchFailure (.primary position)) rest]
            have after := inductionHypothesis roundsLeft tailFits
            exact ⟨fun same => ⟨rfl, fun _ _ => after.mp same⟩,
              fun inOrder => after.mpr (inOrder.2 err rfl)⟩
        · refine ⟨fun same => ?_, fun inOrder => absurd (Option.some.inj inOrder.1) isPlanned⟩
          have tries := head_fetchForGroupFrom remaining picked
          rw [same, head_tryEach] at tries
          cases tries
          exact absurd rfl isPlanned

/-- Every link that is alive is tried once, in order, up to the first success, if and only if the
    failures keep the order. -/
theorem fallback_complete_iff (tracker : LinkHealthTracker) (assignedIdx : Int)
    (oracle : FetchOracle) :
    FallsBackCompletely tracker assignedIdx oracle ↔
      FailuresKeepOrder tracker assignedIdx oracle := by
  have same : FallsBackCompletely tracker assignedIdx oracle ↔
      fetchForGroupTried tracker assignedIdx oracle =
        tryEach (candidates tracker assignedIdx oracle) := by
    rw [Prod.ext_iff, snd_fetchForGroupTried]
    exact ⟨fun ⟨tried, result⟩ => ⟨tried, result⟩, fun ⟨tried, result⟩ => ⟨tried, result⟩⟩
  rw [same]
  refine fetchForGroupFrom_iff _ (Nat.add_zero _) ?_
  calc (alivePrimary tracker (preferredIdx tracker assignedIdx)
        (oracle.attempts 0).pickedAt).length
      ≤ ((List.range tracker.primary.length).map
          (cyclic (preferredIdx tracker assignedIdx) tracker.primary.length)).length :=
        List.length_filter_le _ _
    _ = tracker.primary.length := by rw [List.length_map, List.length_range]

/-- The second of two links is alive, and its fetch fails each time. -/
theorem dead_link_repeats_next : ¬ ∀ tracker assignedIdx oracle,
    FallsBackCompletely tracker assignedIdx oracle := by
  intro always
  let dead : LinkHealth := { url := "a", indexHint := 0, deadUntilUnixMs := 60000 }
  let alive : LinkHealth := { url := "b", indexHint := 1 }
  let failing : FetchAttempt := { pickedAt := 0, outcome := .error "timeout", markedAt := 0 }
  let oracle : FetchOracle := { attempts := fun _ => failing, secondary := failing }
  have once := (always ⟨[dead, alive], none⟩ 0 oracle).tried
  have twice : (fetchForGroupTried ⟨[dead, alive], none⟩ 0 oracle).1 =
      [.primary 1, .primary 1] := rfl
  have planned : (tryEach (candidates ⟨[dead, alive], none⟩ 0 oracle)).1 = [.primary 1] := rfl
  rw [twice, planned] at once
  cases once

end Picking

end VkTurn.Client
