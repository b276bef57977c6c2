import Mathlib.Tactic.Common
import VkTurn.Client.CredsThreads
import VkTurn.Client.CredentialBlame

/-! # Credentials of an invalidated link

A fetch publishes its credentials without asking whether their link was invalidated in the
meantime.  A group gets no such credentials back as long as no fetch for it succeeds from a link
for which it was invalidated after the fetch began, and none waits for the group's lock when the
group is invalidated for its link.
-/

namespace VkTurn.Client

open VkTurn.Transition

/-- No group holds credentials that were fetched from an invalidated link by a fetch that began
    before the invalidation. -/
def NotServedAgain (state : CredsThreads) : Prop :=
  ∀ done ∈ state.invalidated, ∀ idx group, state.manager.groups[idx]? = some group →
    group.valid = true → group.cred.fetchedFrom = done.url → done.pass < state.begun idx

/-- Every time the group was invalidated for the link, the fetch had not yet begun. -/
def Fresh (visits : List Visit) (idx : Nat) (url : String) (begun : Nat) : Prop :=
  ∀ visit ∈ visits, visit.group = idx → visit.url = url → visit.pass < begun

/-- What a step asks for: a fetch that succeeds is fresh, and so is one that waits to be stored
    in the group that is invalidated. -/
def FetchesInTime (state : CredsThreads) (label : CredsLabel) : Prop :=
  match label.action, state.threads label.thread with
  | .fetchReturns (.ok _) _, some (.fetching _ idx stage) =>
    ∀ ref begun link, stage.under? = some (ref, begun) →
      state.manager.tracker.link? ref = some link → Fresh state.visits idx link.url begun
  | .invalidateNext, some (.invalidating ref pass next) =>
    ∀ link, state.manager.tracker.link? ref = some link →
      ∀ other purpose cred source begun,
        state.threads other = some (.fetching purpose next (.fetched cred source begun)) →
        cred.fetchedFrom = link.url → pass < begun
  | _, _ => True

/-! ## The invariant -/

/-- The credentials came from the link. -/
def CameFrom (table : LinkTable) (cred : TurnCred) (ref : LinkRef) : Prop :=
  ∃ link, table.link? ref = some link ∧ cred.fetchedFrom = link.url ∧
    cred.isSecondaryLink = link.isSecondary

def ThreadOk (table : LinkTable) (visits : List Visit) : CredsThread → Prop
  | .fetching _ idx (.fetched cred ref begun) =>
    CameFrom table cred ref ∧ Fresh visits idx cred.fetchedFrom begun
  | .invalidating ref pass next =>
    ∀ link, table.link? ref = some link → ∀ idx < next, ⟨link.url, pass, idx⟩ ∈ visits
  | _ => True

structure ThreadsInv (table : LinkTable) (state : CredsThreads) : Prop where
  creds : CredsInv table state.manager
  threads : ∀ thread now, state.threads thread = some now → ThreadOk table state.visits now
  valid : ∀ idx group, state.manager.groups[idx]? = some group → group.valid = true →
    Fresh state.visits idx group.cred.fetchedFrom (state.begun idx)
  invalidated : ∀ done ∈ state.invalidated, ∀ idx < state.manager.groups.length,
    ⟨done.url, done.pass, idx⟩ ∈ state.visits

theorem ThreadsInv.notServedAgain {table : LinkTable} {state : CredsThreads}
    (inv : ThreadsInv table state) : NotServedAgain state := by
  intro done isDone idx group present valid fromLink
  have inRange := (List.getElem?_eq_some_iff.mp present).1
  have visited := inv.invalidated done isDone idx inRange
  exact inv.valid idx group present valid _ visited rfl fromLink.symm

section Frames

variable {table : LinkTable} {state : CredsThreads} {group : CredGroup} {idx : Nat}

theorem setThread_inv (inv : ThreadsInv table state) (thread : Nat) {now : Option CredsThread}
    (isOk : ∀ running, now = some running → ThreadOk table state.visits running) :
    ThreadsInv table (state.setThread thread now) := by
  refine ⟨inv.creds, ?_, inv.valid, inv.invalidated⟩
  intro other running isRunning
  simp only [CredsThreads.setThread, Function.update_apply] at isRunning
  split at isRunning
  · exact isOk running isRunning
  · exact inv.threads other running isRunning

theorem setStage_inv (inv : ThreadsInv table state) (thread : Nat) (purpose : FetchPurpose)
    (idx : Nat) {stage : FetchStage}
    (unfetched : ∀ cred ref begun, stage ≠ .fetched cred ref begun) :
    ThreadsInv table (state.setStage thread purpose idx stage) := by
  apply setThread_inv inv
  rintro _ ⟨⟩
  cases stage with
  | fetched cred ref begun => exact absurd rfl (unfetched cred ref begun)
  | _ => trivial

theorem setTracker_inv (inv : ThreadsInv table state) {tracker : LinkHealthTracker}
    (links : tracker.links = table) : ThreadsInv table (state.setTracker tracker) :=
  ⟨withTracker_inv inv.creds links, inv.threads, inv.valid, inv.invalidated⟩

theorem storeGroup_inv (inv : ThreadsInv table state) (bound : group.Bound table) (begun : Nat)
    (fresh : group.valid = true → Fresh state.visits idx group.cred.fetchedFrom begun) :
    ThreadsInv table { state.setGroup idx group with
      begun := Function.update state.begun idx begun } := by
  refine ⟨setGroup_inv inv.creds bound, inv.threads, ?_, ?_⟩
  · intro other stored present valid
    simp only [CredsThreads.setGroup, GroupedCredsManager.setGroup, List.getElem?_set] at present
    by_cases same : idx = other
    · subst same
      rw [if_pos rfl] at present
      split at present
      · cases present
        simpa [CredsThreads.setGroup] using fresh valid
      · cases present
    · rw [if_neg same] at present
      simpa [CredsThreads.setGroup, Function.update_of_ne (Ne.symm same)]
        using inv.valid other stored present valid
  · intro done isDone other inRange
    simp only [CredsThreads.setGroup, GroupedCredsManager.setGroup, List.length_set] at inRange
    exact inv.invalidated done isDone other inRange

theorem changeGroup_inv (inv : ThreadsInv table state) (bound : group.Bound table)
    (fresh : group.valid = true →
      Fresh state.visits idx group.cred.fetchedFrom (state.begun idx)) :
    ThreadsInv table (state.setGroup idx group) := by
  have stored := storeGroup_inv inv bound (state.begun idx) fresh
  rwa [Function.update_eq_self] at stored

theorem refreshing_inv (inv : ThreadsInv table state) (refreshing : Nat → Bool) :
    ThreadsInv table { state with refreshing := refreshing } :=
  ⟨inv.creds, inv.threads, inv.valid, inv.invalidated⟩

end Frames

section Steps

variable {table : LinkTable} {state next : CredsThreads} {group : CredGroup} {idx thread : Nat}
  {purpose : FetchPurpose} {stage : FetchStage}

/-- The group as it stands. -/
theorem ThreadsInv.ofGroup (inv : ThreadsInv table state)
    (present : state.manager.groups[idx]? = some group) : group.Bound table ∧
      (group.valid = true → Fresh state.visits idx group.cred.fetchedFrom (state.begun idx)) :=
  ⟨inv.creds.bound group (List.mem_of_getElem? present), inv.valid idx group present⟩

theorem link?_table (inv : ThreadsInv table state) {ref : LinkRef} {link : LinkHealth}
    (present : state.manager.tracker.link? ref = some link) :
    table.link? ref = some link.identity := by
  rw [← inv.creds.links, ← LinkHealthTracker.link?_identity, present]
  rfl

theorem acquireRound_inv (inv : ThreadsInv table state) {workerID : Int} {now : Time}
    (acquired : state.acquire thread workerID now = some next) : ThreadsInv table next := by
  simp only [CredsThreads.acquire] at acquired
  split at acquired
  · cases acquired
  · rename_i group present
    obtain ⟨bound, fresh⟩ := inv.ofGroup present
    split at acquired
    · split at acquired
      · cases acquired
        have marked : ThreadsInv table (state.setGroup (state.manager.groupForWorker workerID)
            { group with prefetching := true }) := changeGroup_inv inv bound fresh
        exact setStage_inv marked _ _ _ (by simp)
      · cases acquired
        exact inv
    · split at acquired
      · cases acquired
      · split at acquired
        · cases acquired
          exact inv
        · cases acquired
          exact setStage_inv (refreshing_inv inv _) _ _ _ (by simp)

theorem pick_unfetched {now : Time} {picked : FetchStage}
    (isPicked : state.pick now stage = some picked) :
    ∀ cred ref begun, picked ≠ .fetched cred ref begun := by
  rintro cred ref begun rfl
  simp only [CredsThreads.pick] at isPicked
  split at isPicked
  · split at isPicked
    · split at isPicked <;> cases isPicked
    · cases isPicked
  · split at isPicked
    · cases isPicked
    · split at isPicked <;> cases isPicked
  · cases isPicked

theorem WellNumbered.isSecondary (numbered : WellNumbered table) {ref : LinkRef}
    {link : LinkIdentity} (present : table.link? ref = some link) :
    ref.isSecondary = link.isSecondary := by
  cases ref with
  | primary position => exact (numbered.primary link (List.mem_of_getElem? present)).2.symm
  | secondary => exact (numbered.secondary link present).2.1.symm

theorem fetchReturns_inv (numbered : WellNumbered table) (inv : ThreadsInv table state)
    {outcome : Except String TurnCred} {now : Time}
    (isThread : state.threads thread = some (.fetching purpose idx stage))
    (inTime : FetchesInTime state ⟨thread, .fetchReturns outcome now⟩)
    (returned : state.fetchReturns thread purpose idx stage outcome now = some next) :
    ThreadsInv table next := by
  simp only [CredsThreads.fetchReturns] at returned
  split at returned
  · cases returned
  · rename_i ref begun isUnder
    cases outcome with
    | error err =>
      cases returned
      have marked := (state.manager.tracker.links_markFetchFailure ref now).trans inv.creds.links
      apply setStage_inv (setTracker_inv inv marked)
      cases stage <;> simp [FetchStage.failed]
    | ok cred =>
      obtain ⟨link, present, rfl⟩ := Option.map_eq_some_iff.mp returned
      have marked := (state.manager.tracker.links_markFetchSuccess ref now).trans inv.creds.links
      apply setThread_inv (setTracker_inv inv marked)
      rintro _ ⟨⟩
      have inTable := link?_table inv present
      simp only [FetchesInTime, isThread] at inTime
      exact ⟨⟨link.identity, inTable, rfl, numbered.isSecondary inTable⟩,
        inTime ref begun link isUnder present⟩

theorem endFetch_inv (inv : ThreadsInv table state) (thread idx : Nat) (purpose : FetchPurpose) :
    ThreadsInv table (state.endFetch thread idx purpose) := by
  cases purpose with
  | acquire => exact setThread_inv (refreshing_inv inv _) thread (by simp)
  | prefetch =>
    apply setThread_inv inv
    rintro _ ⟨⟩
    trivial

/-- The end of a fetch touches neither the groups nor what is recorded of the invalidations. -/
theorem endFetch_frame (state : CredsThreads) (thread idx : Nat) (purpose : FetchPurpose) :
    (state.endFetch thread idx purpose).visits = state.visits ∧
      (state.endFetch thread idx purpose).begun = state.begun := by
  cases purpose <;> exact ⟨rfl, rfl⟩

theorem store_inv (inv : ThreadsInv table state) {now : Time}
    (isThread : state.threads thread = some (.fetching purpose idx stage))
    (stored : state.store thread purpose idx stage now = some next) : ThreadsInv table next := by
  have ended := endFetch_inv inv thread idx purpose
  obtain ⟨visits, begins⟩ := endFetch_frame state thread idx purpose
  simp only [CredsThreads.store] at stored
  split at stored
  · rename_i group cred ref begun _
    obtain ⟨link, present, rfl⟩ := Option.map_eq_some_iff.mp stored
    obtain ⟨⟨source, inTable, url, flag⟩, fresh⟩ := inv.threads thread _ isThread
    have isSource : source = link.identity :=
      Option.some.inj (inTable.symm.trans (link?_table inv present))
    have bound : (group.store cred link.indexHint now).Bound table := by
      intro _
      refine ⟨ref, ?_⟩
      rw [inTable, isSource]
      simp only [CredGroup.store, url, flag, isSource, LinkHealth.identity]
    exact storeGroup_inv ended bound begun fun _ => visits ▸ fresh
  · rename_i group present
    cases stored
    obtain ⟨bound, fresh⟩ := inv.ofGroup present
    exact changeGroup_inv ended bound (by rw [visits, begins]; exact fresh)
  · cases stored
    exact ended
  · cases stored

theorem report_inv (inv : ThreadsInv table state) {workerID : Int} {err : Option String}
    (reported : state.report thread workerID err = some next) : ThreadsInv table next := by
  simp only [CredsThreads.report] at reported
  split at reported
  · cases reported
    exact inv
  · obtain ⟨group, present, rfl⟩ := Option.map_eq_some_iff.mp reported
    split
    · exact inv
    · apply setThread_inv inv
      rintro _ ⟨⟩
      trivial

theorem checkAlive_inv (inv : ThreadsInv table state) {ref : LinkRef} {now : Time}
    (checked : state.checkAlive thread ref now = some next) : ThreadsInv table next := by
  obtain ⟨link, present, rfl⟩ := Option.map_eq_some_iff.mp checked
  split
  · exact setThread_inv inv thread (by simp)
  · have counted : ThreadsInv table { state with passes := state.passes + 1 } :=
      ⟨inv.creds, inv.threads, inv.valid, inv.invalidated⟩
    apply setThread_inv counted
    rintro _ ⟨⟩ _ _ idx inRange
    exact absurd inRange (Nat.not_lt_zero idx)

/-- A group that holds credentials of the link passes the test of its invalidation. -/
theorem isBoundTo_of_url (numbered : WellNumbered table) {ref : LinkRef} {link : LinkHealth}
    (present : table.link? ref = some link.identity) (bound : group.Bound table)
    (valid : group.valid = true) (fromLink : group.cred.fetchedFrom = link.url) :
    group.isBoundTo link = true := by
  obtain ⟨source, isSource⟩ := bound valid
  have isRef := numbered.ref_of_url isSource present fromLink
  rw [isRef, present] at isSource
  have same := Option.some.inj isSource
  have hint : link.indexHint = group.assignedIdx := congrArg LinkIdentity.indexHint same
  have flag : link.isSecondary = group.cred.isSecondaryLink :=
    congrArg LinkIdentity.isSecondary same
  simp only [CredGroup.isBoundTo, hint, flag]
  split
  · assumption
  · simp

theorem Fresh.append {visits : List Visit} {url : String} {begun : Nat} {visit : Visit}
    (fresh : Fresh visits idx url begun)
    (newer : visit.group = idx → visit.url = url → visit.pass < begun) :
    Fresh (visits ++ [visit]) idx url begun := by
  intro seen member
  rcases List.mem_append.mp member with old | isNew
  · exact fresh seen old
  · cases List.mem_singleton.mp isNew
    exact newer

/-- One more group is invalidated. -/
theorem visit_inv (numbered : WellNumbered table) (inv : ThreadsInv table state) {ref : LinkRef}
    {pass : Nat} {link : LinkHealth}
    (isThread : state.threads thread = some (.invalidating ref pass idx))
    (inTable : table.link? ref = some link.identity)
    (present : state.manager.groups[idx]? = some group)
    (awaited : ∀ other purpose cred source begun,
      state.threads other = some (.fetching purpose idx (.fetched cred source begun)) →
      cred.fetchedFrom = link.url → pass < begun) :
    ThreadsInv table
      { (state.setGroup idx
          (if group.isBoundTo link then { group with valid := false } else group)).setThread thread
            (some (.invalidating ref pass (idx + 1))) with
        visits := state.visits ++ [⟨link.url, pass, idx⟩] } := by
  obtain ⟨bound, fresh⟩ := inv.ofGroup present
  -- what is left valid does not come from the link
  have kept : ∀ after,
      after = (if group.isBoundTo link then { group with valid := false } else group) →
      after.Bound table ∧ (after.valid = true → after = group ∧
        group.cred.fetchedFrom ≠ link.url) := by
    rintro _ rfl
    split
    · exact ⟨nofun, nofun⟩
    · rename_i unbound
      refine ⟨bound, fun valid => ⟨rfl, fun fromLink => unbound ?_⟩⟩
      exact isBoundTo_of_url numbered inTable bound valid fromLink
  generalize (if group.isBoundTo link then { group with valid := false } else group) = after at kept
  obtain ⟨afterBound, unchanged⟩ := kept after rfl
  have changed := changeGroup_inv inv afterBound fun valid => (unchanged valid).1 ▸ fresh
    ((unchanged valid).1 ▸ valid)
  refine ⟨changed.creds, ?_, ?_, ?_⟩
  · intro other running isRunning
    simp only [CredsThreads.setThread, Function.update_apply] at isRunning
    split at isRunning
    · cases isRunning
      intro identity isLink position inRange
      cases inTable.symm.trans isLink
      rcases Nat.lt_succ_iff_lt_or_eq.mp inRange with earlier | rfl
      · have passed := inv.threads thread _ isThread link.identity inTable position earlier
        exact List.mem_append_left _ passed
      · exact List.mem_append_right _ (List.mem_singleton_self _)
    · have isOk := inv.threads other running isRunning
      cases running with
      | fetching purpose position stage =>
        cases stage with
        | fetched cred source begun =>
          refine ⟨isOk.1, isOk.2.append ?_⟩
          rintro rfl fromLink
          exact awaited other purpose cred source begun isRunning fromLink.symm
        | _ => trivial
      | invalidating source earlier position =>
        intro identity isLink position inRange
        exact List.mem_append_left _ (isOk identity isLink position inRange)
      | _ => trivial
  · intro other stored isStored valid
    refine (changed.valid other stored isStored valid).append ?_
    rintro rfl fromLink
    have isAfter : stored = after := by
      have inRange := (List.getElem?_eq_some_iff.mp present).1
      have atPosition : (state.manager.groups.set idx after)[idx]? = some after :=
        List.getElem?_set_self inRange
      exact Option.some.inj (isStored.symm.trans atPosition)
    subst isAfter
    obtain ⟨same, elsewhere⟩ := unchanged valid
    exact absurd fromLink.symm (same ▸ elsewhere)
  · intro done isDone position inRange
    exact List.mem_append_left _ (changed.invalidated done isDone position inRange)

theorem invalidateNext_inv (numbered : WellNumbered table) (inv : ThreadsInv table state)
    {ref : LinkRef} {pass : Nat}
    (isThread : state.threads thread = some (.invalidating ref pass idx))
    (inTime : FetchesInTime state ⟨thread, .invalidateNext⟩)
    (stepped : state.invalidateNext thread ref pass idx = some next) : ThreadsInv table next := by
  obtain ⟨link, present, rfl⟩ := Option.map_eq_some_iff.mp stepped
  have inTable := link?_table inv present
  split
  · rename_i isEnd
    have pastEnd : state.manager.groups.length ≤ idx := List.getElem?_eq_none_iff.mp isEnd
    have ended := setThread_inv inv thread (show ∀ running, none = some running → _ from nofun)
    refine ⟨ended.creds, ended.threads, ended.valid, ?_⟩
    intro done isDone position inRange
    rcases List.mem_append.mp isDone with old | isNew
    · exact inv.invalidated done old position inRange
    · cases List.mem_singleton.mp isNew
      exact inv.threads thread _ isThread link.identity inTable position
        (Nat.lt_of_lt_of_le inRange pastEnd)
  · rename_i group isGroup
    simp only [FetchesInTime, isThread] at inTime
    exact visit_inv numbered inv isThread inTable isGroup (inTime link present)

theorem credsThreadsStep_inv (numbered : WellNumbered table) (inv : ThreadsInv table state)
    {label : CredsLabel} (inTime : FetchesInTime state label)
    (stepped : credsThreadsStep state label = some next) : ThreadsInv table next := by
  obtain ⟨thread, action⟩ := label
  simp only [credsThreadsStep] at stepped
  split at stepped
  · exact acquireRound_inv inv stepped
  · obtain ⟨group, present, rfl⟩ := Option.map_eq_some_iff.mp stepped
    exact setStage_inv inv _ _ _ nofun
  · obtain ⟨picked, isPicked, rfl⟩ := Option.map_eq_some_iff.mp stepped
    exact setStage_inv inv _ _ _ (pick_unfetched isPicked)
  · rename_i isThread
    exact fetchReturns_inv numbered inv isThread inTime stepped
  · rename_i isThread
    exact store_inv inv isThread stepped
  · obtain ⟨group, present, rfl⟩ := Option.map_eq_some_iff.mp stepped
    obtain ⟨bound, fresh⟩ := inv.ofGroup present
    have changed : ThreadsInv table (state.setGroup _ { group with prefetching := false }) :=
      changeGroup_inv inv bound fresh
    exact setThread_inv changed _ nofun
  · exact report_inv inv stepped
  · obtain ⟨group, present, rfl⟩ := Option.map_eq_some_iff.mp stepped
    apply setThread_inv inv
    rintro _ ⟨⟩
    trivial
  · rename_i ref kind _
    cases stepped
    apply setThread_inv (setTracker_inv inv
      ((state.manager.tracker.links_markWorkerError ref kind _).trans inv.creds.links))
    rintro _ ⟨⟩
    trivial
  · exact checkAlive_inv inv stepped
  · rename_i isThread
    exact invalidateNext_inv numbered inv isThread inTime stepped
  · cases stepped
    exact setTracker_inv inv ((LinkHealthTracker.links_decayCounters _).trans inv.creds.links)
  · cases stepped

theorem startedFrom_inv {primary : List String} {secondary : String}
    (started : CredsThreads.StartedFrom primary secondary state) :
    ∃ tracker, newLinkHealthTracker primary secondary = .ok tracker ∧
      ThreadsInv tracker.links state := by
  obtain ⟨⟨numGroups, groupSize, tracker, created, isNew⟩, _, threads, visits, invalidated⟩ :=
    started
  refine ⟨tracker, created, ?_, ?_, ?_, ?_⟩
  · rw [isNew]
    exact newGroupedCredsManager_inv numGroups groupSize tracker
  · simp [threads]
  · simp [visits, Fresh]
  · simp [invalidated]

end Steps

def oneLink : CredsThreads where
  manager := newGroupedCredsManager 1 1 ⟨[{ url := "a", indexHint := 0 }], none⟩
  refreshing := fun _ => false
  threads := fun _ => none
  begun := fun _ => 0
  passes := 0
  visits := []
  invalidated := []

theorem oneLink_started : CredsThreads.StartedFrom ["a"] "" oneLink :=
  ⟨⟨1, 1, _, rfl, rfl⟩, fun _ => rfl, fun _ => rfl, rfl, rfl⟩

def someCreds : TurnCred := { user := "user", pass := "pass", addr := "turn", lifetime := 20 * minute }

/-- The group's first credentials. -/
def acquireFirst : List CredsLabel :=
  [⟨0, .acquire 0 0⟩, ⟨0, .prefer⟩, ⟨0, .pick 0⟩, ⟨0, .fetchReturns (.ok someCreds) 0⟩,
    ⟨0, .store 0⟩]

def beginPrefetch : List CredsLabel :=
  [⟨1, .acquire 0 (17 * minute)⟩, ⟨1, .prefer⟩, ⟨1, .pick (17 * minute)⟩]

def reportQuota : List CredsLabel :=
  [⟨2, .report 0 (some "quota")⟩, ⟨2, .chooseLink⟩, ⟨2, .markWorkerError (17 * minute)⟩,
    ⟨2, .checkAlive (17 * minute)⟩]

/-- The fifth report makes the link dead while a prefetch through it is under way. -/
def prefetchAcross : List CredsLabel :=
  acquireFirst ++ beginPrefetch ++ (List.replicate 5 reportQuota).flatten ++
    [⟨2, .invalidateNext⟩, ⟨2, .invalidateNext⟩,
      ⟨1, .fetchReturns (.ok someCreds) (18 * minute)⟩, ⟨1, .store (18 * minute)⟩]

end VkTurn.Client
