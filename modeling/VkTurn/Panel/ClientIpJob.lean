import Mathlib.Data.List.AList
import Mathlib.Data.List.Lattice
import Mathlib.Data.List.Sort
import VkTurn.Store.Transaction
import VkTurn.Text.SqlLike

/-! # The job that limits a client's addresses

`CheckClientIpJob` reads which addresses each email comes from in Xray's access log and bans those
over the client's limit.  It finds the client by a pattern over the text of the settings, so an
inbound's settings are the text here.
-/

namespace VkTurn.Panel

open VkTurn.Store
open VkTurn.Text (sqlLike sqlLike_within)

/-! ## The inbound of an email -/

/-- A row of `inbounds`, as far as the job reads it. -/
structure InboundRow where
  id : Int
  enable : Bool
  settings : String
  deriving DecidableEq

def UniqueRowIds (rows : List InboundRow) : Prop := (rows.map (·.id)).Nodup

abbrev InboundRows := Table InboundRow UniqueRowIds

/-- A `model.Client`, as far as the job reads it. -/
structure LimitedClient where
  email : String
  limitIP : Int
  deriving DecidableEq

/-- `SQLITE_MAX_LIKE_PATTERN_LENGTH`, in bytes. -/
def likePatternLimit : Nat := 50000

def emailPattern (clientEmail : String) : String := "%" ++ clientEmail ++ "%"

/-- `settings LIKE ?`. -/
def mentions (clientEmail : String) (inbound : InboundRow) : Bool :=
  sqlLike (emailPattern clientEmail).toList inbound.settings.toList

/-- `First` orders by the primary key. -/
def getInboundByEmail (inbounds : InboundRows) (clientEmail : String) : Option InboundRow :=
  if likePatternLimit < (emailPattern clientEmail).utf8ByteSize then none
  else (inbounds.rows.filter (mentions clientEmail)).minOn? (·.id)

/-! ## The limit that is enforced -/

inductive IpPolicy where
  /-- The call returns before it writes anything. -/
  | skipped
  /-- The observed addresses are saved and none is banned. -/
  | unlimited
  | limited (limitIp : Nat)
  deriving DecidableEq

def limitOf (limitIp : Int) (enable : Bool) : IpPolicy :=
  if limitIp ≤ 0 ∨ enable = false then .unlimited else .limited limitIp.toNat

/-- The first part of `updateInboundClientIps`: whether it limits the email, and how far.
    `readClients` is what a settings text decodes to. -/
def ipPolicy (readClients : String → List LimitedClient) (inbounds : InboundRows)
    (clientEmail : String) : IpPolicy :=
  match getInboundByEmail inbounds clientEmail with
  | none => .skipped
  | some inbound =>
    if inbound.settings = "" then .skipped
    else match (readClients inbound.settings).find? (·.email = clientEmail) with
      | none => .unlimited
      | some client => limitOf client.limitIP inbound.enable

/-! ## Addresses -/

structure IPWithTimestamp where
  ip : String
  timestamp : Int
  deriving DecidableEq

abbrev IpMap := AList fun _ : String => Int

def ipStaleAfterSeconds : Int := 30 * 60

/-- What one observed address does to the map. -/
def observeIp (staleCutoff : Int) (ipMap : IpMap) (ipTime : IPWithTimestamp) : IpMap :=
  if ipTime.timestamp < staleCutoff then ipMap
  else match ipMap.lookup ipTime.ip with
    | none => ipMap.insert ipTime.ip ipTime.timestamp
    | some existingTime =>
      if existingTime < ipTime.timestamp then ipMap.insert ipTime.ip ipTime.timestamp else ipMap

/-- What one stored address does to it. -/
def restoreIp (staleCutoff : Int) (ipMap : IpMap) (ipTime : IPWithTimestamp) : IpMap :=
  if ipTime.timestamp < staleCutoff then ipMap else ipMap.insert ipTime.ip ipTime.timestamp

def mergeClientIps (old new : List IPWithTimestamp) (staleCutoff : Int) : IpMap :=
  new.foldl (observeIp staleCutoff) (old.foldl (restoreIp staleCutoff) ∅)

/-- `sort.Slice` by timestamp of what comes out of a map: in any order where timestamps agree. -/
structure TimestampSort where
  sort : List IPWithTimestamp → List IPWithTimestamp
  perm : ∀ ips, (sort ips).Perm ips
  ascending : ∀ ips, (sort ips).Pairwise (·.timestamp ≤ ·.timestamp)

def ipEntries (ipMap : IpMap) : List IPWithTimestamp :=
  ipMap.entries.map fun entry => ⟨entry.1, entry.2⟩

def partitionLiveIps (order : TimestampSort) (ipMap : IpMap) (observedThisScan : List String) :
    List IPWithTimestamp × List IPWithTimestamp :=
  (order.sort ((ipEntries ipMap).filter (·.ip ∈ observedThisScan)),
    order.sort ((ipEntries ipMap).filter (·.ip ∉ observedThisScan)))

/-! ## One call for one client -/

/-- What the call meets: the time, the order of timestamps that agree, and whether the log file
    opens and the record is saved. -/
structure IpScanSite where
  now : Int
  order : TimestampSort
  opens : Bool
  saves : Bool

/-- What the call leaves: the record, the live addresses that are banned, and what it returns. -/
structure IpScanResult where
  ips : List IPWithTimestamp
  bannedLive : List IPWithTimestamp := []
  shouldCleanLog : Bool := false

/-- The rest of `updateInboundClientIps`, for a limit. -/
def limitClientIps (limitIp : Nat) (site : IpScanSite) (old new : List IPWithTimestamp) :
    IpScanResult :=
  let ipMap := mergeClientIps old new (site.now - ipStaleAfterSeconds)
  let (liveIps, historicalIps) := partitionLiveIps site.order ipMap (new.map (·.ip))
  if site.opens then
    let (keptLive, bannedLive) :=
      if limitIp < liveIps.length then (liveIps.take limitIp, liveIps.drop limitIp)
      else (liveIps, [])
    -- the bans are in the log before the record is saved
    if site.saves then ⟨keptLive ++ historicalIps, bannedLive, limitIp < liveIps.length⟩
    else ⟨old, bannedLive, false⟩
  else ⟨old, [], false⟩

def followPolicy (site : IpScanSite) (old new : List IPWithTimestamp) : IpPolicy → IpScanResult
  | .skipped => ⟨old, [], false⟩
  | .unlimited => ⟨if site.saves then new else old, [], false⟩
  | .limited limitIp => limitClientIps limitIp site old new

def updateInboundClientIps (readClients : String → List LimitedClient) (inbounds : InboundRows)
    (site : IpScanSite) (clientEmail : String) (old new : List IPWithTimestamp) : IpScanResult :=
  followPolicy site old new (ipPolicy readClients inbounds clientEmail)

/-- What `processLogFile` does for an email that it observed; `none` is no record. -/
def scanClientIps (readClients : String → List LimitedClient) (inbounds : InboundRows)
    (site : IpScanSite) (clientEmail : String) (record : Option (List IPWithTimestamp))
    (new : List IPWithTimestamp) : Option (List IPWithTimestamp) × List IPWithTimestamp :=
  match record with
  | none => (if site.saves then some new else none, [])  -- `addInboundClientIps`
  | some old =>
    let result := updateInboundClientIps readClients inbounds site clientEmail old new
    (some result.ips, result.bannedLive)

/-! ## Whose limit it is -/

section Policy

variable {readClients : String → List LimitedClient} {inbounds : InboundRows}
  {inbound first : InboundRow} {client : LimitedClient} {clientEmail : String}

/-- Emails are distinct over all inbounds. -/
def EmailsApart (readClients : String → List LimitedClient) (inbounds : InboundRows) : Prop :=
  (inbounds.rows.flatMap fun inbound =>
    (readClients inbound.settings).map (·.email)).Nodup

/-- The inbound is the first by id whose text matches. -/
structure FirstMention (inbounds : InboundRows) (clientEmail : String) (first : InboundRow) :
    Prop where
  stored : first ∈ inbounds.rows
  mentioned : mentions clientEmail first = true
  first : ∀ other ∈ inbounds.rows, mentions clientEmail other = true → first.id ≤ other.id

theorem least_of_minOn? {rows : List InboundRow} {least other : InboundRow}
    (found : rows.minOn? (·.id) = some least) (member : other ∈ rows) : least.id ≤ other.id := by
  have isLeast := List.apply_get_minOn?_le_of_mem (f := fun row : InboundRow => row.id) member
  simpa [found] using isLeast

theorem getInboundByEmail_eq_some : getInboundByEmail inbounds clientEmail = some first ↔
    (emailPattern clientEmail).utf8ByteSize ≤ likePatternLimit ∧
      FirstMention inbounds clientEmail first := by
  unfold getInboundByEmail
  split
  · rename_i tooLong
    constructor
    · intro found
      cases found
    · rintro ⟨fits, _⟩
      omega
  · rename_i fits
    constructor
    · intro found
      obtain ⟨stored, mentioned⟩ := List.mem_filter.mp (List.minOn?_mem found)
      refine ⟨by omega, stored, mentioned, fun other isStored isMentioned => ?_⟩
      exact least_of_minOn? found (List.mem_filter.mpr ⟨isStored, isMentioned⟩)
    · rintro ⟨_, isFirst⟩
      have member : first ∈ inbounds.rows.filter (mentions clientEmail) :=
        List.mem_filter.mpr ⟨isFirst.stored, isFirst.mentioned⟩
      obtain ⟨least, found⟩ := Option.isSome_iff_exists.mp
        (List.isSome_minOn?_of_mem (f := (·.id)) member)
      obtain ⟨stored, mentioned⟩ := List.mem_filter.mp (List.minOn?_mem found)
      -- ids are unique, so the least one is this row
      have sameId : least.id = first.id :=
        le_antisymm (least_of_minOn? found member) (isFirst.first least stored mentioned)
      have same : least = first :=
        List.inj_on_of_nodup_map inbounds.valid stored isFirst.stored sameId
      rw [found, same]

/-- An email names one client of one inbound. -/
theorem EmailsApart.same (distinct : EmailsApart readClients inbounds)
    {other : InboundRow} {otherClient : LimitedClient}
    (stored : inbound ∈ inbounds.rows) (member : client ∈ readClients inbound.settings)
    (isStored : other ∈ inbounds.rows) (isMember : otherClient ∈ readClients other.settings)
    (sameEmail : otherClient.email = client.email) : other = inbound ∧ otherClient = client := by
  obtain ⟨each, apart⟩ := List.nodup_flatMap.mp distinct
  have symmetric : Std.Symm (Function.onFun List.Disjoint fun inbound : InboundRow =>
      (readClients inbound.settings).map (·.email)) :=
    ⟨fun _ _ disjoint => List.Disjoint.symm disjoint⟩
  have sameInbound : other = inbound := by
    by_contra differ
    have disjoint := apart.forall isStored stored differ
    have inBoth := List.mem_map_of_mem (f := LimitedClient.email) isMember
    rw [sameEmail] at inBoth
    exact disjoint inBoth (List.mem_map_of_mem member)
  subst sameInbound
  exact ⟨rfl, List.inj_on_of_nodup_map (each other stored) isMember member sameEmail⟩

theorem FirstMention.unique {other : InboundRow}
    (isFirst : FirstMention inbounds clientEmail first)
    (isOther : FirstMention inbounds clientEmail other) : first = other := by
  have below := isFirst.first other isOther.stored isOther.mentioned
  have above := isOther.first first isFirst.stored isFirst.mentioned
  exact List.inj_on_of_nodup_map inbounds.valid isFirst.stored isOther.stored
    (le_antisymm below above)

/-- The client is in its own inbound and in no other. -/
theorem EmailsApart.limit_of_find (distinct : EmailsApart readClients inbounds)
    (stored : inbound ∈ inbounds.rows) (member : client ∈ readClients inbound.settings)
    (isStored : first ∈ inbounds.rows) :
    (match (readClients first.settings).find? (·.email = client.email) with
      | none => IpPolicy.unlimited
      | some found => limitOf found.limitIP first.enable) =
      if first = inbound then limitOf client.limitIP inbound.enable else .unlimited := by
  cases found : (readClients first.settings).find? (·.email = client.email) with
  | none =>
    have absent : first ≠ inbound := by
      rintro rfl
      simpa using List.find?_eq_none.mp found client member
    simp only [if_neg absent]
  | some other =>
    have sameEmail : other.email = client.email := by simpa using List.find?_some found
    obtain ⟨sameInbound, sameClient⟩ := distinct.same stored member isStored
      (List.mem_of_find?_eq_some found) sameEmail
    dsimp only
    rw [if_pos sameInbound, sameInbound, sameClient]

/-- What the policy is once the pattern has found an inbound. -/
theorem ipPolicy_of_first (fits : (emailPattern clientEmail).utf8ByteSize ≤ likePatternLimit)
    (isFirst : FirstMention inbounds clientEmail first) (isText : first.settings ≠ "") :
    ipPolicy readClients inbounds clientEmail =
      match (readClients first.settings).find? (·.email = clientEmail) with
      | none => .unlimited
      | some client => limitOf client.limitIP first.enable := by
  unfold ipPolicy
  rw [getInboundByEmail_eq_some.mpr ⟨fits, isFirst⟩]
  simp only [if_neg isText]

theorem ipPolicy_skipped (unread : ∀ first, ¬((emailPattern clientEmail).utf8ByteSize ≤
      likePatternLimit ∧ FirstMention inbounds clientEmail first ∧ first.settings ≠ "")) :
    ipPolicy readClients inbounds clientEmail = .skipped := by
  unfold ipPolicy
  cases found : getInboundByEmail inbounds clientEmail with
  | none => rfl
  | some first =>
    obtain ⟨fits, isFirst⟩ := getInboundByEmail_eq_some.mp found
    have isEmpty : first.settings = "" := by
      by_contra isText
      exact unread first ⟨fits, isFirst, isText⟩
    simp [isEmpty]

theorem limitOf_ne_skipped {limitIp : Int} {enable : Bool} : limitOf limitIp enable ≠ .skipped := by
  unfold limitOf
  split <;> simp

theorem limitOf_eq_unlimited {limitIp : Int} {enable : Bool} :
    limitOf limitIp enable = .unlimited ↔ limitIp ≤ 0 ∨ enable = false := by
  unfold limitOf
  split
  · rename_i unlimited
    exact iff_of_true rfl unlimited
  · rename_i limited
    exact iff_of_false IpPolicy.noConfusion limited

/-! Each policy shows in what a call does. -/

theorem sorted_insertionSort (ips : List IPWithTimestamp) :
    (ips.insertionSort (·.timestamp ≤ ·.timestamp)).Pairwise (·.timestamp ≤ ·.timestamp) := by
  have total : Std.Total fun ip other : IPWithTimestamp => ip.timestamp ≤ other.timestamp :=
    ⟨fun ip other => le_total ip.timestamp other.timestamp⟩
  have transitive : IsTrans IPWithTimestamp fun ip other => ip.timestamp ≤ other.timestamp :=
    ⟨fun _ _ _ => le_trans⟩
  exact List.pairwise_insertionSort _ ips

def insertionOrder : TimestampSort where
  sort := List.insertionSort (·.timestamp ≤ ·.timestamp)
  perm := List.perm_insertionSort _
  ascending := sorted_insertionSort

theorem unlimited_shows {policy : IpPolicy}
    (agrees : ∀ site old new,
      followPolicy site old new policy = followPolicy site old new .unlimited) :
    policy = .unlimited := by
  have closedLog := agrees ⟨0, insertionOrder, false, true⟩ [] [⟨"", 0⟩]
  cases policy with
  | skipped => simp [followPolicy] at closedLog
  | unlimited => rfl
  | limited limitIp => simp [followPolicy, limitClientIps] at closedLog

theorem partition_one : partitionLiveIps insertionOrder
    (mergeClientIps [] [⟨"", 0⟩] (-ipStaleAfterSeconds)) [""] = ([⟨"", 0⟩], []) := by
  decide

/-- A call that is skipped is not what any limit asks for: the observed address is not saved. -/
theorem limitOf_saves {limitIp : Int} {enable : Bool} :
    (followPolicy ⟨0, insertionOrder, true, true⟩ [] [⟨"", 0⟩]
      (limitOf limitIp enable)).ips ≠ [] := by
  unfold limitOf
  split
  · simp [followPolicy]
  · have positive : ¬limitIp.toNat < 1 := by omega
    simp [followPolicy, limitClientIps, partition_one, positive]

/-- A call does what the limit and the state of the client's own inbound ask for exactly when the
    pattern's first match is that inbound, or there is nothing to limit. -/
theorem updateInboundClientIps_iff (distinct : EmailsApart readClients inbounds)
    (stored : inbound ∈ inbounds.rows) (member : client ∈ readClients inbound.settings) :
    (∀ site old new, updateInboundClientIps readClients inbounds site client.email old new =
        followPolicy site old new (limitOf client.limitIP inbound.enable)) ↔
      (emailPattern client.email).utf8ByteSize ≤ likePatternLimit ∧
      ∃ first, FirstMention inbounds client.email first ∧ first.settings ≠ "" ∧
        (first = inbound ∨ client.limitIP ≤ 0 ∨ inbound.enable = false) := by
  by_cases read : ∃ first, (emailPattern client.email).utf8ByteSize ≤ likePatternLimit ∧
      FirstMention inbounds client.email first ∧ first.settings ≠ ""
  · obtain ⟨first, fits, isFirst, isText⟩ := read
    have policy := @ipPolicy_of_first readClients _ _ _ fits isFirst isText
    rw [distinct.limit_of_find stored member isFirst.stored] at policy
    unfold updateInboundClientIps
    rw [policy]
    constructor
    · intro agrees
      refine ⟨fits, first, isFirst, isText, ?_⟩
      by_cases same : first = inbound
      · exact .inl same
      · rw [if_neg same] at agrees
        exact .inr (limitOf_eq_unlimited.mp
          (unlimited_shows fun site old new => (agrees site old new).symm))
    · rintro ⟨_, other, isOther, _, agrees⟩ site old new
      have sameFirst : other = first := isOther.unique isFirst
      subst sameFirst
      by_cases same : other = inbound
      · rw [if_pos same]
      · rw [if_neg same, limitOf_eq_unlimited.mpr (agrees.resolve_left same)]
  · have unread := @ipPolicy_skipped readClients _ _ (not_exists.mp read)
    unfold updateInboundClientIps
    rw [unread]
    constructor
    · intro agrees
      have saved := @limitOf_saves client.limitIP inbound.enable
      rw [← agrees] at saved
      exact absurd rfl saved
    · rintro ⟨fits, first, isFirst, isText, _⟩
      exact absurd ⟨first, fits, isFirst, isText⟩ read

/-- An inbound whose text holds the email is the one that limits it when the text of no inbound
    with a smaller id matches. -/
theorem updateInboundClientIps_of_text (distinct : EmailsApart readClients inbounds)
    (stored : inbound ∈ inbounds.rows) (member : client ∈ readClients inbound.settings)
    (fits : (emailPattern client.email).utf8ByteSize ≤ likePatternLimit)
    {before after : String} (text : inbound.settings = before ++ (client.email ++ after))
    (isText : inbound.settings ≠ "")
    (noneBefore : ∀ other ∈ inbounds.rows, other.id < inbound.id →
      mentions client.email other = false) (site : IpScanSite) (old new : List IPWithTimestamp) :
    updateInboundClientIps readClients inbounds site client.email old new =
      followPolicy site old new (limitOf client.limitIP inbound.enable) := by
  refine (updateInboundClientIps_iff distinct stored member).mpr
    ⟨fits, inbound, ⟨stored, ?_, fun other isStored mentioned => ?_⟩, isText, .inl rfl⟩ site old new
  · unfold mentions emailPattern
    rw [text]
    simpa using @sqlLike_within client.email.toList before.toList after.toList
  · by_contra smaller
    rw [noneBefore other isStored (by omega)] at mentioned
    cases mentioned

end Policy

/-! The email of one client is in the middle of another's. -/

def outerText : String := "\x7b\"clients\":[\x7b\"email\":\"ba@x\",\"limitIp\":0\x7d]\x7d"
def innerText : String := "\x7b\"clients\":[\x7b\"email\":\"a@x\",\"limitIp\":1\x7d]\x7d"

def readOverlapping (text : String) : List LimitedClient :=
  if text = outerText then [⟨"ba@x", 0⟩] else if text = innerText then [⟨"a@x", 1⟩] else []

theorem uniqueOverlapping : UniqueRowIds [⟨1, true, outerText⟩, ⟨2, true, innerText⟩] := by
  simp [UniqueRowIds]

def overlappingInbounds : InboundRows :=
  ⟨[⟨1, true, outerText⟩, ⟨2, true, innerText⟩], uniqueOverlapping⟩

/-- With a limit of one address the second one is to be banned, but the other client's inbound is
    found and it limits nothing. -/
theorem overlapping_email_unlimited :
    EmailsApart readOverlapping overlappingInbounds ∧
    (⟨2, true, innerText⟩ : InboundRow) ∈ overlappingInbounds.rows ∧
    (⟨"a@x", 1⟩ : LimitedClient) ∈ readOverlapping innerText ∧
    (updateInboundClientIps readOverlapping overlappingInbounds ⟨0, insertionOrder, true, true⟩
      "a@x" [] [⟨"A", 1⟩, ⟨"B", 2⟩]).bannedLive = [] ∧
    (followPolicy ⟨0, insertionOrder, true, true⟩ [] [⟨"A", 1⟩, ⟨"B", 2⟩]
      (limitOf 1 true)).bannedLive = [⟨"B", 2⟩] := by
  refine ⟨?_, ?_, ?_, ?_, ?_⟩
  · unfold EmailsApart
    decide +kernel
  · decide +kernel
  · decide +kernel
  · decide +kernel
  · decide +kernel

theorem uniqueAlone : UniqueRowIds [⟨2, true, innerText⟩] := by
  simp [UniqueRowIds]

/-- Without the inbound of the other client the second address is banned. -/
theorem updateInboundClientIps_iff_alone :
    (updateInboundClientIps readOverlapping ⟨[⟨2, true, innerText⟩], uniqueAlone⟩
      ⟨0, insertionOrder, true, true⟩ "a@x" [] [⟨"A", 1⟩, ⟨"B", 2⟩]).bannedLive = [⟨"B", 2⟩] := by
  have distinct : EmailsApart readOverlapping ⟨[⟨2, true, innerText⟩], uniqueAlone⟩ := by
    unfold EmailsApart
    decide +kernel
  have isFirst : FirstMention ⟨[⟨2, true, innerText⟩], uniqueAlone⟩ "a@x" ⟨2, true, innerText⟩ :=
    ⟨by decide +kernel, by decide +kernel, by simp⟩
  have follows := (@updateInboundClientIps_iff readOverlapping
    ⟨[⟨2, true, innerText⟩], uniqueAlone⟩ ⟨2, true, innerText⟩ ⟨"a@x", 1⟩ distinct
    (by decide +kernel) (by decide +kernel)).mpr
    ⟨by decide +kernel, _, isFirst, by decide +kernel, .inl rfl⟩
  rw [follows]
  decide +kernel

end VkTurn.Panel
