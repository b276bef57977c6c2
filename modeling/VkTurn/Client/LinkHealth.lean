import Mathlib.Data.List.Nodup
import VkTurn.Text.Trim

/-! # Health of the VK links

Credentials are fetched through one of several links.  The tracker counts the failures of each
link and keeps a link that failed too often dead for a while.  Links are numbered twice: by their
position in `primary`, which has no blanks and no duplicates, and by `indexHint`, their position
in the list the user gave.

Clock readings are arguments; times are in nanoseconds.
-/

namespace VkTurn.Client

open VkTurn.Text

abbrev Time := Int
abbrev Duration := Int

def second : Duration := 1000000000
def minute : Duration := 60 * second

def unixMilli (time : Time) : Int := time / 1000000

inductive LinkErrorKind where
  | none
  | streamClose
  | quota
  | stunDeath
  | generic
  deriving DecidableEq

def linkStreamCloseThreshold : Int32 := 8
def linkStreamCloseCooldown : Duration := 60 * second
def linkQuotaThreshold : Int32 := 5
def linkQuotaCooldown : Duration := 5 * minute
def linkStunDeathThreshold : Int32 := 8
def linkStunDeathCooldown : Duration := 5 * minute
def linkFetchFailureThreshold : Int32 := 3
def linkFetchFailureCooldown : Duration := 90 * second

/-- The fields that say which link this is; no operation writes them. -/
structure LinkIdentity where
  url : String
  indexHint : Int
  isSecondary : Bool
  deriving DecidableEq

structure LinkHealth where
  url : String
  indexHint : Int
  isSecondary : Bool := false
  failureCount : Int32 := 0
  streamCloseCount : Int32 := 0
  quotaCount : Int32 := 0
  stunDeathCount : Int32 := 0
  deadUntilUnixMs : Int := 0
  lastSuccessAtMs : Int := 0
  lastFailureAtMs : Int := 0
  deriving DecidableEq

namespace LinkHealth

def isAlive (link : LinkHealth) (nowMs : Int) : Bool := link.deadUntilUnixMs ≤ nowMs

def markDead (link : LinkHealth) (now : Time) (cooldown : Duration) : LinkHealth :=
  let deadline := unixMilli (now + cooldown)
  if deadline ≤ link.deadUntilUnixMs then link else { link with deadUntilUnixMs := deadline }

def identity (link : LinkHealth) : LinkIdentity :=
  ⟨link.url, link.indexHint, link.isSecondary⟩

end LinkHealth

structure LinkHealthTracker where
  primary : List LinkHealth
  secondary : Option LinkHealth
  deriving DecidableEq

/-! ## Construction -/

/-- The loop of `newLinkHealthTracker` from position `idx` on. -/
def cleanPrimary : List String → Nat → List String → List LinkHealth
  | [], _, _ => []
  | raw :: rest, idx, seen =>
    let normalized := trimSpace raw
    if normalized = "" then cleanPrimary rest (idx + 1) seen
    else if normalized ∈ seen then cleanPrimary rest (idx + 1) seen
    else { url := normalized, indexHint := idx } :: cleanPrimary rest (idx + 1) (normalized :: seen)

def newLinkHealthTracker (primary : List String) (secondary : String) :
    Except String LinkHealthTracker :=
  let cleanedPrimary := cleanPrimary primary 0 []
  if cleanedPrimary = [] then .error "at least one VK link is required"
  else
    let secondary := trimSpace secondary
    .ok {
      primary := cleanedPrimary
      secondary :=
        if secondary ≠ "" ∧ secondary ∉ cleanedPrimary.map LinkHealth.url then
          some { url := secondary, indexHint := -1, isSecondary := true }
        else none }

/-! ## Operations -/

/-- A `*linkHealth` of the tracker. -/
inductive LinkRef where
  | primary (position : Nat)
  | secondary
  deriving DecidableEq

namespace LinkHealthTracker

def link? (tracker : LinkHealthTracker) : LinkRef → Option LinkHealth
  | .primary position => tracker.primary[position]?
  | .secondary => tracker.secondary

def update (tracker : LinkHealthTracker) (ref : LinkRef) (change : LinkHealth → LinkHealth) :
    LinkHealthTracker :=
  match ref with
  | .primary position => { tracker with primary := tracker.primary.modify position change }
  | .secondary => { tracker with secondary := tracker.secondary.map change }

def pickPrimary (tracker : LinkHealthTracker) (now : Time) (preferIdx : Nat) : Option Nat :=
  let n := tracker.primary.length
  ((List.range n).map fun i => (preferIdx + i) % n).find? fun idx =>
    tracker.primary[idx]?.any (·.isAlive (unixMilli now))

def markFetchSuccess (tracker : LinkHealthTracker) (ref : LinkRef) (now : Time) :
    LinkHealthTracker :=
  tracker.update ref fun link => { link with failureCount := 0, lastSuccessAtMs := unixMilli now }

def markFetchFailure (tracker : LinkHealthTracker) (ref : LinkRef) (now : Time) :
    LinkHealthTracker :=
  tracker.update ref fun link =>
    let link :=
      { link with failureCount := link.failureCount + 1, lastFailureAtMs := unixMilli now }
    if link.failureCount ≥ linkFetchFailureThreshold then
      link.markDead now linkFetchFailureCooldown
    else link

def noteWorkerError (kind : LinkErrorKind) (now : Time) (link : LinkHealth) : LinkHealth :=
  let counted :=
    match kind with
    | .streamClose =>
      let link := { link with streamCloseCount := link.streamCloseCount + 1 }
      if link.streamCloseCount ≥ linkStreamCloseThreshold then
        link.markDead now linkStreamCloseCooldown
      else link
    | .quota =>
      let link := { link with quotaCount := link.quotaCount + 1 }
      if link.quotaCount ≥ linkQuotaThreshold then link.markDead now linkQuotaCooldown else link
    | .stunDeath =>
      let link := { link with stunDeathCount := link.stunDeathCount + 1 }
      if link.stunDeathCount ≥ linkStunDeathThreshold then
        link.markDead now linkStunDeathCooldown
      else link
    | .none | .generic => link
  { counted with lastFailureAtMs := unixMilli now }

def markWorkerError (tracker : LinkHealthTracker) (ref : LinkRef) (kind : LinkErrorKind)
    (now : Time) : LinkHealthTracker :=
  if kind = .none then tracker else tracker.update ref (noteWorkerError kind now)

def halveCounter (counter : Int32) : Int32 := if counter ≤ 0 then counter else counter / 2

def decay (link : LinkHealth) : LinkHealth :=
  { link with
    streamCloseCount := halveCounter link.streamCloseCount
    quotaCount := halveCounter link.quotaCount
    stunDeathCount := halveCounter link.stunDeathCount }

def decayCounters (tracker : LinkHealthTracker) : LinkHealthTracker where
  primary := tracker.primary.map decay
  secondary := tracker.secondary.map decay

end LinkHealthTracker

def classifyLinkError (err : Option String) : LinkErrorKind :=
  match err with
  | none => .none
  | some text =>
    if containsLower text "stream closed" then .streamClose
    else if ["turn quota", "quota", "486"].any (containsLower text) then .quota
    else if ["attribute not found", "error 29", "unauthorized", "allocation mismatch",
        "error 508", "cannot create socket"].any (containsLower text) then .stunDeath
    else .generic

theorem classifyLinkError_some (text : String) : classifyLinkError (some text) ≠ .none := by
  simp only [classifyLinkError]
  split
  · simp
  · split
    · simp
    · split <;> simp

/-! ## Links keep their identity -/

theorem identity_markDead (link : LinkHealth) (now : Time) (cooldown : Duration) :
    (link.markDead now cooldown).identity = link.identity := by
  simp only [LinkHealth.markDead]
  split <;> rfl

/-- Which links there are, whatever their health. -/
structure LinkTable where
  primary : List LinkIdentity
  secondary : Option LinkIdentity
  deriving DecidableEq

def LinkTable.link? (table : LinkTable) : LinkRef → Option LinkIdentity
  | .primary position => table.primary[position]?
  | .secondary => table.secondary

namespace LinkHealthTracker

def links (tracker : LinkHealthTracker) : LinkTable where
  primary := tracker.primary.map LinkHealth.identity
  secondary := tracker.secondary.map LinkHealth.identity

variable (tracker : LinkHealthTracker) (ref : LinkRef) {change : LinkHealth → LinkHealth}

theorem links_update (keeps : ∀ link, (change link).identity = link.identity) :
    (tracker.update ref change).links = tracker.links := by
  have keeps' : LinkHealth.identity ∘ change = LinkHealth.identity := funext keeps
  cases ref with
  | primary position =>
    simp only [update, links]
    congr 1
    apply List.ext_getElem?
    intro other
    rw [List.getElem?_map, List.getElem?_map, List.getElem?_modify]
    cases tracker.primary[other]? with
    | none => rfl
    | some link => by_cases same : position = other <;> simp [same, keeps]
  | secondary =>
    simp only [update, links, Option.map_map, keeps']

theorem links_markFetchSuccess (now : Time) :
    (tracker.markFetchSuccess ref now).links = tracker.links :=
  links_update _ _ fun _ => rfl

theorem links_markFetchFailure (now : Time) :
    (tracker.markFetchFailure ref now).links = tracker.links := by
  apply links_update
  intro link
  simp only
  split
  · rw [identity_markDead]
    rfl
  · rfl

theorem identity_noteWorkerError (kind : LinkErrorKind) (now : Time) (link : LinkHealth) :
    (noteWorkerError kind now link).identity = link.identity := by
  have marked := fun (link : LinkHealth) cooldown => identity_markDead link now cooldown
  simp only [LinkHealth.identity, LinkIdentity.mk.injEq] at marked
  cases kind <;> simp only [noteWorkerError, LinkHealth.identity] <;> split <;> simp [marked]

theorem links_markWorkerError (kind : LinkErrorKind) (now : Time) :
    (tracker.markWorkerError ref kind now).links = tracker.links := by
  unfold markWorkerError
  split
  · rfl
  · exact links_update _ _ (identity_noteWorkerError kind now)

theorem links_decayCounters : tracker.decayCounters.links = tracker.links := by
  simp only [links, decayCounters, List.map_map, Option.map_map]
  rfl

theorem link?_identity (tracker : LinkHealthTracker) (ref : LinkRef) :
    (tracker.link? ref).map LinkHealth.identity = tracker.links.link? ref := by
  cases ref with
  | primary position => simp [link?, LinkTable.link?, links]
  | secondary => rfl

end LinkHealthTracker

/-! ## The two numberings -/

/-- What `newLinkHealthTracker` establishes: a url or an index hint names one link. -/
structure WellNumbered (table : LinkTable) : Prop where
  primary : ∀ link ∈ table.primary, 0 ≤ link.indexHint ∧ link.isSecondary = false
  urls : (table.primary.map LinkIdentity.url).Nodup
  hints : (table.primary.map LinkIdentity.indexHint).Nodup
  secondary : ∀ link, table.secondary = some link →
    link.indexHint = -1 ∧ link.isSecondary = true ∧
      link.url ∉ table.primary.map LinkIdentity.url

section Unique

variable {table : LinkTable} {ref other : LinkRef} {link otherLink : LinkIdentity}

theorem LinkTable.ref_unique {Key : Type} (key : LinkIdentity → Key)
    (nodup : (table.primary.map key).Nodup)
    (apart : ∀ link, table.secondary = some link → key link ∉ table.primary.map key)
    (present : table.link? ref = some link) (otherPresent : table.link? other = some otherLink)
    (same : key link = key otherLink) : ref = other := by
  have inPrimary : ∀ (position : Nat) link, table.primary[position]? = some link →
      (table.primary.map key)[position]? = some (key link) := by
    intro position link present
    rw [List.getElem?_map, present]
    rfl
  cases ref with
  | primary position =>
    have here := inPrimary position link present
    cases other with
    | primary otherPosition =>
      have there := inPrimary otherPosition otherLink otherPresent
      obtain ⟨bound, isHere⟩ := List.getElem?_eq_some_iff.mp here
      obtain ⟨otherBound, isThere⟩ := List.getElem?_eq_some_iff.mp there
      rw [(List.Nodup.getElem_inj_iff nodup).mp (isHere.trans (same.trans isThere.symm))]
    | secondary =>
      exact absurd (same ▸ List.mem_of_getElem? here) (apart otherLink otherPresent)
  | secondary =>
    cases other with
    | primary otherPosition =>
      have there := inPrimary otherPosition otherLink otherPresent
      exact absurd (same ▸ List.mem_of_getElem? there) (apart link present)
    | secondary => rfl

theorem WellNumbered.ref_of_url (numbered : WellNumbered table)
    (present : table.link? ref = some link) (otherPresent : table.link? other = some otherLink)
    (same : link.url = otherLink.url) : ref = other :=
  LinkTable.ref_unique LinkIdentity.url numbered.urls
    (fun link isSecondary => (numbered.secondary link isSecondary).2.2) present otherPresent same

theorem WellNumbered.ref_of_hint (numbered : WellNumbered table)
    (present : table.link? ref = some link) (otherPresent : table.link? other = some otherLink)
    (same : link.indexHint = otherLink.indexHint) : ref = other := by
  apply LinkTable.ref_unique LinkIdentity.indexHint numbered.hints _ present otherPresent same
  intro link isSecondary inPrimary
  obtain ⟨primary, member, sameHint⟩ := List.mem_map.mp inPrimary
  have negative := (numbered.secondary link isSecondary).1
  have natural := (numbered.primary primary member).1
  omega

end Unique

section Clean

variable {raw : List String} {idx : Nat} {seen : List String} {link : LinkHealth}

theorem cleanPrimary_mem (member : link ∈ cleanPrimary raw idx seen) :
    link.url ∉ seen ∧ (idx : Int) ≤ link.indexHint ∧ link.isSecondary = false := by
  induction raw generalizing idx seen with
  | nil => cases member
  | cons first rest inductionHypothesis =>
    simp only [cleanPrimary] at member
    split at member
    · have later := inductionHypothesis member
      exact ⟨later.1, by omega, later.2.2⟩
    · split at member
      · have later := inductionHypothesis member
        exact ⟨later.1, by omega, later.2.2⟩
      · rename_i notSeen
        rcases List.mem_cons.mp member with rfl | inRest
        · exact ⟨notSeen, by simp, rfl⟩
        · have later := inductionHypothesis inRest
          exact ⟨fun old => later.1 (List.mem_cons_of_mem _ old), by omega, later.2.2⟩

theorem cleanPrimary_nodup :
    ((cleanPrimary raw idx seen).map LinkHealth.url).Nodup ∧
      ((cleanPrimary raw idx seen).map LinkHealth.indexHint).Nodup := by
  induction raw generalizing idx seen with
  | nil => simp [cleanPrimary]
  | cons first rest inductionHypothesis =>
    simp only [cleanPrimary]
    split
    · exact inductionHypothesis
    · split
      · exact inductionHypothesis
      · obtain ⟨urls, hints⟩ := @inductionHypothesis (idx + 1) (trimSpace first :: seen)
        refine ⟨List.nodup_cons.mpr ⟨?_, urls⟩, List.nodup_cons.mpr ⟨?_, hints⟩⟩
        · intro again
          obtain ⟨other, member, same⟩ := List.mem_map.mp again
          exact (cleanPrimary_mem member).1 (same ▸ List.mem_cons_self)
        · intro again
          obtain ⟨other, member, same⟩ := List.mem_map.mp again
          have later := (cleanPrimary_mem member).2.1
          simp only at same
          omega

/-- The first `position + 1` raw links, trimmed, have no blank and no duplicate, so that nothing
    before the last of them is left out. -/
def CleanPrefix (raw seen : List String) (position : Nat) : Prop :=
  (∀ url ∈ (raw.take (position + 1)).map trimSpace, url ≠ "" ∧ url ∉ seen) ∧
    ((raw.take (position + 1)).map trimSpace).Nodup

theorem cleanPrefix_cons {first : String} {rest : List String} {position : Nat} :
    CleanPrefix (first :: rest) seen (position + 1) ↔
      trimSpace first ≠ "" ∧ trimSpace first ∉ seen ∧
        CleanPrefix rest (trimSpace first :: seen) position := by
  simp only [CleanPrefix, List.take_succ_cons, List.map_cons, List.nodup_cons, List.mem_cons]
  constructor
  · intro clean
    obtain ⟨blankFree, notAgain, nodup⟩ := clean
    refine ⟨(blankFree _ (.inl rfl)).1, (blankFree _ (.inl rfl)).2, ?_, nodup⟩
    intro url member
    refine ⟨(blankFree url (.inr member)).1, ?_⟩
    rintro (rfl | old)
    · exact notAgain member
    · exact (blankFree url (.inr member)).2 old
  · intro clean
    obtain ⟨notBlank, notSeen, blankFree, nodup⟩ := clean
    refine ⟨?_, fun again => (blankFree _ again).2 (.inl rfl), nodup⟩
    rintro url (rfl | member)
    · exact ⟨notBlank, notSeen⟩
    · exact ⟨(blankFree url member).1, fun old => (blankFree url member).2 (.inr old)⟩

/-- A link of the tracker stands at its raw position exactly when nothing before it was left
    out. -/
theorem cleanPrimary_inPlace {position : Nat}
    (present : (cleanPrimary raw idx seen)[position]? = some link) :
    (idx + position : Int) ≤ link.indexHint ∧
      (link.indexHint = idx + position ↔
        (raw.map trimSpace)[position]? = some link.url ∧ CleanPrefix raw seen position) := by
  induction raw generalizing idx seen position with
  | nil => simp [cleanPrimary] at present
  | cons first rest inductionHypothesis =>
    have skipped : (cleanPrimary rest (idx + 1) seen)[position]? = some link →
        (trimSpace first = "" ∨ trimSpace first ∈ seen) →
        (idx + position : Int) ≤ link.indexHint ∧
        (link.indexHint = idx + position ↔
          ((first :: rest).map trimSpace)[position]? = some link.url ∧
            CleanPrefix (first :: rest) seen position) := by
      intro later leftOut
      have bound := (inductionHypothesis later).1
      refine ⟨by omega, ?_⟩
      constructor
      · omega
      · intro clean
        have head := clean.2.1 (trimSpace first) (by simp)
        rcases leftOut with blank | old
        · exact absurd blank head.1
        · exact absurd old head.2
    simp only [cleanPrimary] at present
    split at present
    · rename_i blank
      exact skipped present (.inl blank)
    · rename_i notBlank
      split at present
      · rename_i old
        exact skipped present (.inr old)
      · rename_i notSeen
        cases position with
        | zero =>
          cases present
          simp [CleanPrefix, notBlank, notSeen]
        | succ position =>
          obtain ⟨bound, inPlace⟩ := inductionHypothesis present
          rw [cleanPrefix_cons]
          refine ⟨by omega, ?_⟩
          simp only [List.map_cons, List.getElem?_cons_succ, notBlank, notSeen, ne_eq,
            not_false_eq_true, true_and]
          rw [← inPlace]
          omega

theorem cleanPrimary_of_clean {position : Nat} {url : String}
    (isRaw : (raw.map trimSpace)[position]? = some url) (clean : CleanPrefix raw seen position) :
    (cleanPrimary raw idx seen)[position]? = some { url := url, indexHint := idx + position } := by
  induction raw generalizing idx seen position with
  | nil => simp at isRaw
  | cons first rest inductionHypothesis =>
    have head := clean.1 (trimSpace first) (by simp)
    simp only [cleanPrimary, head.1, head.2, if_false]
    cases position with
    | zero =>
      cases isRaw
      simp
    | succ position =>
      have later := @inductionHypothesis (idx + 1) _ _ isRaw (cleanPrefix_cons.mp clean).2.2
      rw [List.getElem?_cons_succ, later]
      congr 2
      omega

end Clean

end VkTurn.Client
