import Mathlib.Data.List.Nodup
import VkTurn.Client.GroupCreds

/-! # Which link a worker error is charged to

`assignedIdx` holds the index hint of the link that the credentials came from, a position in the
user's list; `ReportWorkerError` uses it as a position in the tracker's list.  The two agree as
long as nothing before the link was left out.
-/

namespace VkTurn.Client

open VkTurn.Transition VkTurn.Text

/-! ## The links a tracker is created with -/

section Created

variable {primary : List String} {secondary : String} {tracker : LinkHealthTracker}

theorem newLinkHealthTracker_primary
    (created : newLinkHealthTracker primary secondary = .ok tracker) :
    tracker.primary = cleanPrimary primary 0 [] := by
  simp only [newLinkHealthTracker] at created
  split at created
  · cases created
  · cases created
    rfl

theorem newLinkHealthTracker_wellNumbered
    (created : newLinkHealthTracker primary secondary = .ok tracker) :
    WellNumbered tracker.links := by
  have isClean := newLinkHealthTracker_primary created
  have urls : tracker.links.primary.map LinkIdentity.url =
      (cleanPrimary primary 0 []).map LinkHealth.url := by
    simp [LinkHealthTracker.links, isClean, LinkHealth.identity, Function.comp_def]
  have hints : tracker.links.primary.map LinkIdentity.indexHint =
      (cleanPrimary primary 0 []).map LinkHealth.indexHint := by
    simp [LinkHealthTracker.links, isClean, LinkHealth.identity, Function.comp_def]
  constructor
  case primary =>
    intro identity member
    simp only [LinkHealthTracker.links, isClean] at member
    obtain ⟨link, isLink, rfl⟩ := List.mem_map.mp member
    have facts := (cleanPrimary_mem isLink).2
    exact ⟨by simpa [LinkHealth.identity] using facts.1, facts.2⟩
  case urls =>
    rw [urls]
    exact cleanPrimary_nodup.1
  case hints =>
    rw [hints]
    exact cleanPrimary_nodup.2
  case secondary =>
    intro identity isSecondary
    rw [urls]
    simp only [newLinkHealthTracker] at created
    split at created
    · cases created
    · cases created
      simp only [LinkHealthTracker.links] at isSecondary
      split at isSecondary
      · rename_i fresh
        cases isSecondary
        exact ⟨rfl, rfl, fresh.2⟩
      · cases isSecondary

end Created

/-! ## The binding of a group to a link -/

/-- While a group holds credentials, its index and flag are those of the link whose url they
    were fetched with. -/
def CredGroup.Bound (table : LinkTable) (group : CredGroup) : Prop :=
  group.valid = true → ∃ ref, table.link? ref =
    some ⟨group.cred.fetchedFrom, group.assignedIdx, group.cred.isSecondaryLink⟩

structure CredsInv (table : LinkTable) (manager : GroupedCredsManager) : Prop where
  links : manager.tracker.links = table
  nonempty : manager.groups ≠ []
  bound : ∀ group ∈ manager.groups, group.Bound table

section Fetch

variable {table : LinkTable} {tracker next : LinkHealthTracker} {cred : TurnCred} {ref : LinkRef}
  {fetched : Option (TurnCred × LinkRef)} {oracle : FetchOracle}

/-- The credentials carry the url and the flag of the link they are returned with. -/
def FetchedVia (table : LinkTable) (fetched : Option (TurnCred × LinkRef)) : Prop :=
  ∀ cred ref, fetched = some (cred, ref) → ∃ link, table.link? ref = some link ∧
    cred.fetchedFrom = link.url ∧ cred.isSecondaryLink = link.isSecondary

theorem fetchedVia_none : FetchedVia table none := by
  intro cred ref isNone
  cases isNone

theorem fetchPrimary_via (numbered : WellNumbered table) (links : tracker.links = table)
    {preferIdx remaining attempt : Nat}
    (ran : fetchPrimary preferIdx oracle remaining attempt tracker = (next, fetched)) :
    next.links = table ∧ FetchedVia table fetched := by
  induction remaining generalizing attempt tracker with
  | zero =>
    cases ran
    exact ⟨links, fetchedVia_none⟩
  | succ remaining inductionHypothesis =>
    simp only [fetchPrimary] at ran
    split at ran
    · cases ran
      exact ⟨links, fetchedVia_none⟩
    · rename_i position _
      split at ran
      · cases ran
        exact ⟨links, fetchedVia_none⟩
      · rename_i link present
        have inTable : table.link? (.primary position) = some link.identity := by
          rw [← links, ← LinkHealthTracker.link?_identity, LinkHealthTracker.link?, present]
          rfl
        split at ran
        · cases ran
          refine ⟨(LinkHealthTracker.links_markFetchSuccess ..).trans links, ?_⟩
          intro cred ref isFetched
          cases isFetched
          have isPrimary := (numbered.primary _ (List.mem_of_getElem? inTable)).2
          exact ⟨link.identity, inTable, rfl, isPrimary.symm⟩
        · exact inductionHypothesis ((LinkHealthTracker.links_markFetchFailure ..).trans links) ran

theorem fetchSecondary_via (numbered : WellNumbered table) (links : tracker.links = table)
    (ran : fetchSecondary oracle tracker = (next, fetched)) :
    next.links = table ∧ FetchedVia table fetched := by
  simp only [fetchSecondary] at ran
  split at ran
  · cases ran
    exact ⟨links, fetchedVia_none⟩
  · rename_i link present
    have inTable : table.secondary = some link.identity := by
      rw [← links, LinkHealthTracker.links, present]
      rfl
    split at ran
    · cases ran
      exact ⟨links, fetchedVia_none⟩
    · split at ran
      · cases ran
        refine ⟨(LinkHealthTracker.links_markFetchSuccess ..).trans links, ?_⟩
        intro cred ref isFetched
        cases isFetched
        exact ⟨link.identity, inTable, rfl, (numbered.secondary _ inTable).2.1.symm⟩
      · cases ran
        exact ⟨(LinkHealthTracker.links_markFetchFailure ..).trans links, fetchedVia_none⟩

theorem fetchForGroup_via (numbered : WellNumbered table) (links : tracker.links = table)
    {assignedIdx : Int} (ran : fetchForGroup tracker assignedIdx oracle = (next, fetched)) :
    next.links = table ∧ FetchedVia table fetched := by
  simp only [fetchForGroup] at ran
  split at ran
  · rename_i inPrimary
    cases ran
    exact fetchPrimary_via numbered links inPrimary
  · rename_i inPrimary
    exact fetchSecondary_via numbered (fetchPrimary_via numbered links inPrimary).1 ran

end Fetch

section Steps

variable {table : LinkTable} {manager next : GroupedCredsManager} {group : CredGroup} {idx : Nat}

theorem setGroup_inv (inv : CredsInv table manager) (bound : group.Bound table) :
    CredsInv table (manager.setGroup idx group) := by
  refine ⟨inv.links, ?_, ?_⟩
  · simpa [GroupedCredsManager.setGroup] using inv.nonempty
  · intro other member
    rcases List.mem_or_eq_of_mem_set member with old | rfl
    · exact inv.bound other old
    · exact bound

theorem withTracker_inv (inv : CredsInv table manager) {tracker : LinkHealthTracker}
    (links : tracker.links = table) : CredsInv table { manager with tracker := tracker } :=
  ⟨links, inv.nonempty, inv.bound⟩

theorem refresh_inv (numbered : WellNumbered table) (inv : CredsInv table manager) (idx : Nat)
    (group : CredGroup) (oracle : FetchOracle) (storedAt : Time) :
    CredsInv table (manager.refresh idx group oracle storedAt).1 := by
  unfold GroupedCredsManager.refresh
  split
  · rename_i tracker cred ref ran
    obtain ⟨links, via⟩ := fetchForGroup_via numbered inv.links ran
    split
    · exact withTracker_inv inv links
    · rename_i link present
      apply setGroup_inv (withTracker_inv inv links)
      intro _
      obtain ⟨source, inTable, url, flag⟩ := via cred ref rfl
      have isSource : source = link.identity := by
        rw [← links, ← LinkHealthTracker.link?_identity, present] at inTable
        exact (Option.some.inj inTable).symm
      refine ⟨ref, ?_⟩
      rw [inTable, isSource]
      simp only [CredGroup.store, url, flag, isSource, LinkHealth.identity]
  · rename_i tracker ran
    exact withTracker_inv inv (fetchForGroup_via numbered inv.links ran).1

theorem acquire_inv (numbered : WellNumbered table) (inv : CredsInv table manager)
    (oracle : GroupedCredsManager.AcquireOracle) : CredsInv table (manager.acquire idx oracle).1 := by
  unfold GroupedCredsManager.acquire
  split
  · exact inv
  · rename_i group present
    have bound := inv.bound group (List.mem_of_getElem? present)
    split
    · exact setGroup_inv inv bound
    · split
      · exact inv
      · have refreshed := refresh_inv numbered inv idx group oracle.fetch oracle.storedAt
        split
        · rename_i ran
          rwa [ran] at refreshed
        · rename_i ran
          rw [ran] at refreshed
          exact setGroup_inv refreshed bound

theorem runPrefetch_inv (numbered : WellNumbered table) (inv : CredsInv table manager)
    {oracle : FetchOracle} {storedAt : Time}
    (ran : manager.runPrefetch idx oracle storedAt = some next) : CredsInv table next := by
  simp only [GroupedCredsManager.runPrefetch] at ran
  split at ran
  · cases ran
  · rename_i group present
    split at ran
    · cases ran
      have bound : CredGroup.Bound table { group with prefetching := false } :=
        inv.bound group (List.mem_of_getElem? present)
      exact refresh_inv numbered (setGroup_inv inv bound) idx _ oracle storedAt
    · cases ran

theorem invalidateGroupsBoundTo_inv (inv : CredsInv table manager) (link : LinkHealth) :
    CredsInv table (manager.invalidateGroupsBoundTo link) := by
  refine ⟨inv.links, ?_, ?_⟩
  · simpa [GroupedCredsManager.invalidateGroupsBoundTo] using inv.nonempty
  · intro group member
    obtain ⟨old, isOld, rfl⟩ := List.mem_map.mp member
    have bound := inv.bound old isOld
    intro valid
    by_cases isBound : old.isBoundTo link = true
    · simp [isBound] at valid
    · simp only [isBound] at valid ⊢
      exact bound valid

theorem reportWorkerError_inv (inv : CredsInv table manager) (workerID : Int)
    (err : Option String) (clock : GroupedCredsManager.ReportClock) :
    CredsInv table (manager.reportWorkerError workerID err clock) := by
  unfold GroupedCredsManager.reportWorkerError
  split
  · exact inv
  · rename_i ref _
    have marked := withTracker_inv inv
      ((manager.tracker.links_markWorkerError ref (classifyLinkError err) clock.markedAt).trans
        inv.links)
    simp only
    split
    · exact marked
    · split
      · exact marked
      · exact invalidateGroupsBoundTo_inv marked _

theorem credsStep_inv (numbered : WellNumbered table) (inv : CredsInv table manager)
    {call : CredsCall} (stepped : credsStep manager call = some next) : CredsInv table next := by
  cases call with
  | acquire workerID oracle =>
    cases stepped
    exact acquire_inv numbered inv oracle
  | prefetch group oracle storedAt => exact runPrefetch_inv numbered inv stepped
  | reportWorkerError workerID err clock =>
    cases stepped
    exact reportWorkerError_inv inv workerID err clock
  | decay =>
    cases stepped
    exact withTracker_inv inv ((LinkHealthTracker.links_decayCounters _).trans inv.links)

theorem newGroupedCredsManager_inv (numGroups groupSize : Int) (tracker : LinkHealthTracker) :
    CredsInv tracker.links (newGroupedCredsManager numGroups groupSize tracker) := by
  refine ⟨rfl, ?_, ?_⟩
  · simp only [newGroupedCredsManager, ne_eq, List.map_eq_nil_iff, List.range_eq_nil]
    omega
  · intro group member
    obtain ⟨position, _, rfl⟩ := List.mem_map.mp member
    intro valid
    cases valid

theorem reachable_inv {primary : List String} {secondary : String}
    (reached : credsMachine.Reachable (CreatedFrom primary secondary) manager) :
    ∃ tracker, newLinkHealthTracker primary secondary = .ok tracker ∧
      CredsInv tracker.links manager := by
  apply reached.invariant
  · rintro _ ⟨numGroups, groupSize, tracker, created, rfl⟩
    exact ⟨tracker, created, newGroupedCredsManager_inv numGroups groupSize tracker⟩
  · intro manager next call inv _ stepped
    obtain ⟨tracker, created, inv⟩ := inv
    exact ⟨tracker, created,
      credsStep_inv (newLinkHealthTracker_wellNumbered created) inv stepped⟩

end Steps

/-! ## Reports -/

/-- The link has reached its raw position: nothing before it was blank or a duplicate. -/
def InPlace (primary : List String) (url : String) : Prop :=
  ∃ position, (primary.map trimSpace)[position]? = some url ∧ CleanPrefix primary [] position

/-- Without credentials a report charges nothing.  With credentials it charges the link that
    they were fetched with, and if that link is dead then, the groups that lose their
    credentials are those that hold credentials of that link. -/
def ReportBlames (manager : GroupedCredsManager) (group : CredGroup) (workerID : Int)
    (err : Option String) (clock : GroupedCredsManager.ReportClock) : Prop :=
  let next := manager.reportWorkerError workerID err clock
  if err = none ∨ group.valid = false then manager.charged workerID err = none ∧ next = manager
  else ∃ ref link, manager.charged workerID err = some ref ∧
    manager.tracker.link? ref = some link ∧ link.url = group.cred.fetchedFrom ∧
    next.tracker = manager.tracker.markWorkerError ref (classifyLinkError err) clock.markedAt ∧
    next.groups = manager.groups.map fun other =>
      if (next.tracker.link? ref).any (! ·.isAlive (unixMilli clock.checkedAt)) ∧
          other.valid ∧ other.cred.fetchedFrom = link.url then
        { other with valid := false }
      else other

section Reports

variable {primary : List String} {secondary : String} {tracker : LinkHealthTracker}
  {manager : GroupedCredsManager} {group : CredGroup} {workerID : Int} {text : String}

theorem primary_identity (created : newLinkHealthTracker primary secondary = .ok tracker)
    {position : Nat} {identity : LinkIdentity}
    (present : tracker.links.link? (.primary position) = some identity) :
    ∃ link, (cleanPrimary primary 0 [])[position]? = some link ∧ link.identity = identity := by
  simpa [LinkTable.link?, LinkHealthTracker.links, newLinkHealthTracker_primary created]
    using present

/-- A url in place is the link at the position its index hint says. -/
theorem inPlace_iff (created : newLinkHealthTracker primary secondary = .ok tracker)
    {ref : LinkRef} {identity : LinkIdentity}
    (present : tracker.links.link? ref = some identity) :
    InPlace primary identity.url ↔ ∃ position, ref = .primary position ∧
      identity.indexHint = position := by
  have numbered := newLinkHealthTracker_wellNumbered created
  constructor
  · intro inPlace
    obtain ⟨position, isRaw, clean⟩ := inPlace
    have atPosition : tracker.links.link? (.primary position) =
        some ⟨identity.url, position, false⟩ := by
      simp [LinkTable.link?, LinkHealthTracker.links, newLinkHealthTracker_primary created,
        cleanPrimary_of_clean isRaw clean, LinkHealth.identity]
    have isRef : ref = .primary position := numbered.ref_of_url present atPosition rfl
    subst isRef
    have same : identity = ⟨identity.url, position, false⟩ :=
      Option.some.inj (present.symm.trans atPosition)
    exact ⟨position, rfl, by rw [same]⟩
  · intro isPosition
    obtain ⟨position, rfl, hint⟩ := isPosition
    obtain ⟨link, isClean, same⟩ := primary_identity created present
    have inPlace := (cleanPrimary_inPlace isClean).2
    rw [← same] at hint ⊢
    have asInt : link.indexHint = ((0 : Nat) : Int) + (position : Int) := by
      simpa using (show link.indexHint = position from hint)
    exact ⟨position, inPlace.mp asInt⟩

/-- Credentials of a link in place have that link's position as their index. -/
theorem invalidate_eq {table : LinkTable} (numbered : WellNumbered table)
    (inv : CredsInv table manager) {position : Nat} {link : LinkHealth}
    (present : table.link? (.primary position) = some link.identity) :
    (manager.invalidateGroupsBoundTo link).groups = manager.groups.map fun other =>
      if other.valid ∧ other.cred.fetchedFrom = link.url then { other with valid := false }
      else other := by
  have isPrimary := (numbered.primary _ (List.mem_of_getElem? present)).2
  apply List.map_congr_left
  intro other member
  cases valid : other.valid with
  | false =>
    have unchanged : { other with valid := false } = other := by
      cases other
      simp_all
    simp [unchanged]
  | true =>
    obtain ⟨ref, bound⟩ := inv.bound other member valid
    have sameLink : other.isBoundTo link = true ↔ other.cred.fetchedFrom = link.url := by
      have notSecondary : link.isSecondary = false := isPrimary
      simp only [CredGroup.isBoundTo, notSecondary, Bool.false_eq_true, if_false,
        decide_eq_true_eq]
      constructor
      · intro sameHint
        have isRef := numbered.ref_of_hint bound present sameHint
        rw [isRef, present] at bound
        exact congrArg LinkIdentity.url (Option.some.inj bound).symm
      · intro sameUrl
        have isRef := numbered.ref_of_url bound present sameUrl
        rw [isRef, present] at bound
        exact congrArg LinkIdentity.indexHint (Option.some.inj bound).symm
    simp [sameLink]

theorem charged_valid (present : manager.groups[manager.groupForWorker workerID]? = some group)
    (valid : group.valid = true) :
    manager.charged workerID (some text) =
      if group.assignedIdx < 0 ∨ group.assignedIdx ≥ manager.tracker.primary.length then none
      else if group.cred.isSecondaryLink ∧ manager.tracker.secondary.isSome then some .secondary
      else some (.primary group.assignedIdx.toNat) := by
  simp [GroupedCredsManager.charged, classifyLinkError_some, present, valid]

/-- What a report does once the link it charges is known. -/
theorem reportWorkerError_charged {ref : LinkRef} {err : Option String}
    {clock : GroupedCredsManager.ReportClock} (isCharged : manager.charged workerID err = some ref)
    {link : LinkHealth}
    (marked : (manager.tracker.markWorkerError ref (classifyLinkError err) clock.markedAt).link? ref
      = some link) :
    manager.reportWorkerError workerID err clock =
      let marked := { manager with
        tracker := manager.tracker.markWorkerError ref (classifyLinkError err) clock.markedAt }
      if link.isAlive (unixMilli clock.checkedAt) then marked
      else marked.invalidateGroupsBoundTo link := by
  simp only [GroupedCredsManager.reportWorkerError, isCharged, marked]

/-- A report on credentials of a link in place blames that link. -/
theorem report_inPlace {table : LinkTable} (numbered : WellNumbered table)
    (inv : CredsInv table manager)
    (present : manager.groups[manager.groupForWorker workerID]? = some group)
    (valid : group.valid = true) {position : Nat}
    (bound : table.link? (.primary position) =
      some ⟨group.cred.fetchedFrom, position, group.cred.isSecondaryLink⟩)
    (index : group.assignedIdx = position) (clock : GroupedCredsManager.ReportClock) :
    ReportBlames manager group workerID (some text) clock := by
  have isPrimary : group.cred.isSecondaryLink = false :=
    (numbered.primary _ (List.mem_of_getElem? bound)).2
  have identity : ∀ tracker : LinkHealthTracker, tracker.links = table →
      ∃ link, tracker.link? (.primary position) = some link ∧
        link.identity = ⟨group.cred.fetchedFrom, position, group.cred.isSecondaryLink⟩ := by
    intro tracker links
    rw [← links, ← LinkHealthTracker.link?_identity] at bound
    exact Option.map_eq_some_iff.mp bound
  obtain ⟨link, isLink, sameLink⟩ := identity manager.tracker inv.links
  have inRange : position < manager.tracker.primary.length :=
    (List.getElem?_eq_some_iff.mp isLink).1
  have isCharged : manager.charged workerID (some text) = some (.primary position) := by
    rw [charged_valid present valid, index, isPrimary]
    rw [if_neg (by omega), if_neg (by simp), Int.toNat_natCast]
  have markedLinks := (manager.tracker.links_markWorkerError (.primary position)
    (classifyLinkError (some text)) clock.markedAt).trans inv.links
  obtain ⟨marked, isMarked, sameMarked⟩ := identity _ markedLinks
  have isUrl : link.url = group.cred.fetchedFrom := congrArg LinkIdentity.url sameLink
  have isMarkedUrl : marked.url = group.cred.fetchedFrom := congrArg LinkIdentity.url sameMarked
  have report := reportWorkerError_charged isCharged isMarked
  have lost := invalidate_eq numbered (withTracker_inv inv markedLinks)
    (show table.link? (.primary position) = some marked.identity from sameMarked ▸ bound)
  simp only [ReportBlames, valid, reduceCtorEq, Bool.true_eq_false, or_self, if_false]
  refine ⟨.primary position, link, isCharged, isLink, isUrl, ?_, ?_⟩
  · rw [report]
    simp only
    split <;> rfl
  · rw [report, isUrl, ← isMarkedUrl]
    simp only
    by_cases alive : marked.isAlive (unixMilli clock.checkedAt) = true
    · simp [alive, isMarked]
    · rw [if_neg alive, lost]
      simp [GroupedCredsManager.invalidateGroupsBoundTo, isMarked, alive]

/-- A report on credentials of any other link blames no link or a wrong one. -/
theorem report_outOfPlace {table : LinkTable} (numbered : WellNumbered table)
    (inv : CredsInv table manager)
    (present : manager.groups[manager.groupForWorker workerID]? = some group)
    (valid : group.valid = true) {ref : LinkRef}
    (bound : table.link? ref =
      some ⟨group.cred.fetchedFrom, group.assignedIdx, group.cred.isSecondaryLink⟩)
    {clock : GroupedCredsManager.ReportClock}
    (blames : ReportBlames manager group workerID (some text) clock) :
    ∃ position, ref = .primary position ∧ group.assignedIdx = position := by
  simp only [ReportBlames, valid, reduceCtorEq, Bool.true_eq_false, or_self, if_false] at blames
  obtain ⟨charged, link, isCharged, isLink, isUrl, _⟩ := blames
  have inTable : table.link? charged = some link.identity := by
    rw [← inv.links, ← LinkHealthTracker.link?_identity, isLink]
    rfl
  have isRef : charged = ref := numbered.ref_of_url inTable bound isUrl
  rw [charged_valid present valid] at isCharged
  split at isCharged
  · cases isCharged
  · rename_i inRange
    cases ref with
    | secondary =>
      have negative := (numbered.secondary _ bound).1
      simp only at negative
      omega
    | primary position =>
      refine ⟨position, rfl, ?_⟩
      split at isCharged
      · cases isCharged
        cases isRef
      · rw [isRef] at isCharged
        cases isCharged
        omega

theorem report_blames_iff (primary : List String) (secondary : String)
    (manager : GroupedCredsManager) (workerID : Int) (err : Option String)
    (clock : GroupedCredsManager.ReportClock)
    (reached : credsMachine.Reachable (CreatedFrom primary secondary) manager) :
    ∃ group, manager.groups[manager.groupForWorker workerID]? = some group ∧
      (ReportBlames manager group workerID err clock ↔
        err = none ∨ group.valid = false ∨ InPlace primary group.cred.fetchedFrom) := by
  obtain ⟨tracker, created, inv⟩ := reachable_inv reached
  have numbered := newLinkHealthTracker_wellNumbered created
  have inRange : manager.groupForWorker workerID < manager.groups.length :=
    Nat.mod_lt _ (List.length_pos_of_ne_nil inv.nonempty)
  have present := List.getElem?_eq_getElem inRange
  generalize manager.groups[manager.groupForWorker workerID] = group at present
  refine ⟨group, present, ?_⟩
  cases err with
  | none =>
    simp [ReportBlames, GroupedCredsManager.charged, GroupedCredsManager.reportWorkerError,
      classifyLinkError]
  | some text =>
    cases valid : group.valid with
    | false =>
      simp [ReportBlames, GroupedCredsManager.charged, GroupedCredsManager.reportWorkerError,
        present, valid]
    | true =>
      obtain ⟨ref, bound⟩ := inv.bound group (List.mem_of_getElem? present) valid
      simp only [reduceCtorEq, Bool.true_eq_false, false_or]
      rw [inPlace_iff created bound]
      constructor
      · exact report_outOfPlace numbered inv present valid bound
      · intro atPosition
        obtain ⟨position, rfl, index⟩ := atPosition
        simp only at index
        rw [index] at bound
        exact report_inPlace numbered inv present valid bound index clock

end Reports

/-! ## Two runs -/

/-- The manager of one group that the client creates from these links. -/
def managerOf (primary : List String) : Except String GroupedCredsManager :=
  (newLinkHealthTracker primary "").map (newGroupedCredsManager 1 4)

/-- Fetches that fail until the given attempt and then succeed. -/
def fetchAt (attempt : Nat) : FetchOracle where
  attempts i :=
    ⟨0, if i < attempt then .error "captcha" else .ok { user := "u", pass := "p", addr := "t" }, 0⟩
  secondary := ⟨0, .error "captcha", 0⟩

/-- The manager after the first acquire of stream 0. -/
def acquired (primary : List String) (attempt : Nat) : Option GroupedCredsManager :=
  match managerOf primary with
  | .error _ => none
  | .ok manager => credsStep manager (.acquire 0 ⟨0, fetchAt attempt, 0⟩)

theorem acquired_reachable {primary : List String} {attempt : Nat}
    {manager : GroupedCredsManager} (isAcquired : acquired primary attempt = some manager) :
    credsMachine.Reachable (CreatedFrom primary "") manager := by
  simp only [acquired, managerOf] at isAcquired
  cases created : newLinkHealthTracker primary "" with
  | error message => simp [created, Except.map] at isAcquired
  | ok tracker =>
    simp only [created, Except.map] at isAcquired
    have stepped : credsMachine.step (newGroupedCredsManager 1 4 tracker)
        (.acquire 0 ⟨0, fetchAt attempt, 0⟩) = some manager := isAcquired
    exact .step (.start ⟨1, 4, tracker, created, rfl⟩) trivial stepped

theorem report_blames_iff_two_links : ∃ manager, acquired ["a", "b"] 1 = some manager ∧
    ∃ group, manager.groups[manager.groupForWorker 3]? = some group ∧
      (ReportBlames manager group 3 (some "turn quota") ⟨0, 0⟩ ↔
        some "turn quota" = none ∨ group.valid = false ∨
          InPlace ["a", "b"] group.cred.fetchedFrom) :=
  ⟨_, rfl, report_blames_iff ["a", "b"] "" _ 3 (some "turn quota") ⟨0, 0⟩
    (acquired_reachable rfl)⟩

/-- With a duplicate in the list, an error on credentials of `b` is charged to `c`. -/
theorem duplicate_link_misblamed :
    ¬ ∀ (primary : List String) (secondary : String) (manager : GroupedCredsManager)
      (workerID : Int) (err : Option String) (clock : GroupedCredsManager.ReportClock),
      credsMachine.Reachable (CreatedFrom primary secondary) manager →
      ∃ group, manager.groups[manager.groupForWorker workerID]? = some group ∧
        ReportBlames manager group workerID err clock := by
  intro claimed
  have run : ∃ manager, acquired ["a", "a", "b", "c"] 1 = some manager ∧
      (manager.groups[manager.groupForWorker 0]?.map fun group =>
        (group.valid, group.cred.fetchedFrom)) = some (true, "b") ∧
      manager.charged 0 (some "turn quota") = some (.primary 2) ∧
      (manager.tracker.link? (.primary 2)).map LinkHealth.url = some "c" :=
    ⟨_, rfl, rfl, rfl, rfl⟩
  obtain ⟨manager, isAcquired, holds, misCharged, isC⟩ := run
  obtain ⟨group, present, blames⟩ := claimed _ _ manager 0 (some "turn quota") ⟨0, 0⟩
    (acquired_reachable isAcquired)
  rw [present] at holds
  obtain ⟨valid, isB⟩ := Prod.mk.inj (Option.some.inj holds)
  simp only [ReportBlames, valid, reduceCtorEq, Bool.true_eq_false, or_self, if_false] at blames
  obtain ⟨ref, link, isCharged, isLink, isUrl, _⟩ := blames
  cases misCharged.symm.trans isCharged
  rw [isLink] at isC
  have sameUrl : "c" = "b" := (Option.some.inj isC).symm.trans (isUrl.trans isB)
  exact absurd sameUrl (by decide)

end VkTurn.Client
