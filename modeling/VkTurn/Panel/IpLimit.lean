import VkTurn.Panel.ClientIpJob
import VkTurn.Transition.Machine

/-! # Original connections and newcomers

The scans of the access log for one client with a limit.  Addresses are kept by their last sighting,
the earliest first, so an address that was kept before and is seen again moves behind a newcomer.
-/

namespace VkTurn.Panel

open VkTurn.Transition

/-! ## A sorted list in two parts -/

section Sorted

variable {n : Nat} {sorted : List IPWithTimestamp} {old newcomer : IPWithTimestamp}

theorem le_of_take_of_drop (ascending : sorted.Pairwise (·.timestamp ≤ ·.timestamp))
    (isNewcomer : newcomer ∈ sorted.take n) (isOld : old ∈ sorted.drop n) :
    newcomer.timestamp ≤ old.timestamp := by
  rw [← List.take_append_drop n sorted, List.pairwise_append] at ascending
  exact ascending.2.2 newcomer isNewcomer old isOld

/-- Everything in front of `old` and `old` itself are no later. -/
theorem lt_countP_of_drop (ascending : sorted.Pairwise (·.timestamp ≤ ·.timestamp))
    (isOld : old ∈ sorted.drop n) : n < sorted.countP (·.timestamp ≤ old.timestamp) := by
  have inFront : (sorted.take n).countP (·.timestamp ≤ old.timestamp) = (sorted.take n).length := by
    rw [List.countP_eq_length]
    intro ip isInFront
    exact decide_eq_true (le_of_take_of_drop ascending isInFront isOld)
  have isCounted : 0 < (sorted.drop n).countP (·.timestamp ≤ old.timestamp) := by
    rw [List.countP_pos_iff]
    exact ⟨old, isOld, decide_eq_true (le_refl old.timestamp)⟩
  have long := List.length_pos_of_mem isOld
  rw [List.length_drop] at long
  rw [List.length_take] at inFront
  rw [← List.take_append_drop n sorted, List.countP_append]
  omega

/-- Nothing behind `newcomer` is earlier, nor is `newcomer` itself. -/
theorem countP_lt_of_take (ascending : sorted.Pairwise (·.timestamp ≤ ·.timestamp))
    (isNewcomer : newcomer ∈ sorted.take n) :
    sorted.countP (·.timestamp < newcomer.timestamp) < n := by
  have behind : (sorted.drop n).countP (·.timestamp < newcomer.timestamp) = 0 := by
    rw [List.countP_eq_zero]
    intro ip isBehind
    have later := le_of_take_of_drop ascending isNewcomer isBehind
    simpa using later
  have isLess : (sorted.take n).countP (·.timestamp < newcomer.timestamp) <
      (sorted.take n).length := by
    refine lt_of_le_of_ne List.countP_le_length fun all => ?_
    have self := List.countP_eq_length.mp all newcomer isNewcomer
    simp at self
  rw [List.length_take] at isLess
  rw [← List.take_append_drop n sorted, List.countP_append]
  omega

end Sorted

/-! ## Scans -/

/-- The live addresses of a scan: observed in it, and not stale. -/
def liveEntries (record : Option (List IPWithTimestamp)) (observed : List IPWithTimestamp)
    (now : Int) : List IPWithTimestamp :=
  (ipEntries (mergeClientIps (record.getD []) observed (now - ipStaleAfterSeconds))).filter
    (·.ip ∈ observed.map (·.ip))

/-- What a scan did, with the addresses that the scan before it kept and those that the record or
    an earlier scan had. -/
structure IpScanReport where
  keptBefore : List String := []
  seenBefore : List String := []
  live : List IPWithTimestamp := []
  banned : List IPWithTimestamp := []

def IpScanReport.kept (report : IpScanReport) : List IPWithTimestamp :=
  report.live.filter (· ∉ report.banned)

/-- The record of the client, and what the scans saw and did. -/
structure IpTracking where
  record : Option (List IPWithTimestamp)
  seen : List String
  last : IpScanReport := {}

def StartsTracking (state : IpTracking) : Prop :=
  ∃ record, state = { record, seen := (record.getD []).map (·.ip) }

section Scans

variable {readClients : String → List LimitedClient} {clientEmail : String} {n : Nat}

/-- A scan: the database with the client at its limit, and what the log shows of its addresses,
    nothing when the client is not in it. -/
structure IpScan (readClients : String → List LimitedClient) (clientEmail : String) (n : Nat) where
  inbounds : InboundRows
  limit : ∀ inbound ∈ inbounds.rows, ∀ client ∈ readClients inbound.settings,
    client.email = clientEmail → client.limitIP = n
  observed : List IPWithTimestamp
  site : IpScanSite

def IpTracking.live (state : IpTracking) (scan : IpScan readClients clientEmail n) :
    List IPWithTimestamp :=
  liveEntries state.record scan.observed scan.site.now

def IpTracking.scan (state : IpTracking) (scan : IpScan readClients clientEmail n) : IpTracking :=
  let (record, banned) :=
    if scan.observed = [] then (state.record, [])
    else scanClientIps readClients scan.inbounds scan.site clientEmail state.record scan.observed
  { record
    seen := state.seen ++ scan.observed.map (·.ip)
    last := {
      keptBefore := state.last.kept.map (·.ip)
      seenBefore := state.seen
      live := state.live scan
      banned } }

def ipScans (readClients : String → List LimitedClient) (clientEmail : String) (n : Nat) :
    Machine IpTracking (IpScan readClients clientEmail n) :=
  ⟨fun state scan => some (state.scan scan)⟩

/-! ## Protection -/

/-- No address that was kept before is banned while one that is new is kept, and as many are kept as
    the limit allows. -/
structure OriginalsProtected (n : Nat) (report : IpScanReport) : Prop where
  original : ∀ old ∈ report.banned, old.ip ∈ report.keptBefore →
    ∀ newcomer ∈ report.kept, newcomer.ip ∈ report.seenBefore
  count : report.kept.length = min n report.live.length

/-- The scan gets to the limit: there is a record, the client is found and the log file opens. -/
def Enforces (state : IpTracking) (scan : IpScan readClients clientEmail n) : Prop :=
  state.record ≠ none ∧ ipPolicy readClients scan.inbounds clientEmail = .limited n ∧
    scan.site.opens = true

instance (state : IpTracking) (scan : IpScan readClients clientEmail n) :
    Decidable (Enforces state scan) :=
  inferInstanceAs (Decidable (_ ∧ _ ∧ _))

/-- An address that was kept and is live again was last seen before every newcomer, unless there is
    room for it in any order or no room for the newcomer in any order. -/
def OldSeenFirst (state : IpTracking) (scan : IpScan readClients clientEmail n) : Prop :=
  ∀ old ∈ state.live scan, old.ip ∈ state.last.kept.map (·.ip) →
    ∀ newcomer ∈ state.live scan, newcomer.ip ∉ state.seen →
      old.timestamp < newcomer.timestamp ∨
        (state.live scan).countP (·.timestamp ≤ old.timestamp) ≤ n ∨
        n ≤ (state.live scan).countP (·.timestamp < newcomer.timestamp)

instance (state : IpTracking) (scan : IpScan readClients clientEmail n) :
    Decidable (OldSeenFirst state scan) :=
  inferInstanceAs (Decidable (∀ old ∈ state.live scan, _))

/-- A scan that limits has its originals first, and one that does not has nothing to limit. -/
def KeepsOriginals (state : IpTracking) (scan : IpScan readClients clientEmail n) : Prop :=
  if Enforces state scan then OldSeenFirst state scan else (state.live scan).length ≤ n

instance (state : IpTracking) (scan : IpScan readClients clientEmail n) :
    Decidable (KeepsOriginals state scan) :=
  inferInstanceAs (Decidable (if Enforces state scan then _ else _))

/-! ## What one scan bans -/

variable {state : IpTracking} {scan : IpScan readClients clientEmail n}

/-- A limit that is found is the holders. -/
theorem IpScan.policy (scan : IpScan readClients clientEmail n) {limitIp : Nat}
    (found : ipPolicy readClients scan.inbounds clientEmail = .limited limitIp) : limitIp = n := by
  unfold ipPolicy at found
  cases first : getInboundByEmail scan.inbounds clientEmail with
  | none => simp [first] at found
  | some inbound =>
    simp only [first] at found
    split at found
    · cases found
    · cases client : (readClients inbound.settings).find? (·.email = clientEmail) with
      | none => simp [client] at found
      | some holder =>
        have stored := (getInboundByEmail_eq_some.mp first).2.stored
        have named : holder.email = clientEmail := by simpa using List.find?_some client
        have limit := scan.limit inbound stored holder (List.mem_of_find?_eq_some client) named
        simp only [client, limitOf] at found
        split at found
        · cases found
        · cases found
          omega

theorem limitClientIps_banned (limitIp : Nat) (site : IpScanSite) (old new : List IPWithTimestamp) :
    (limitClientIps limitIp site old new).bannedLive =
      if site.opens then (site.order.sort (liveEntries (some old) new site.now)).drop limitIp
      else [] := by
  have same (live : List IPWithTimestamp) :
      (if limitIp < live.length then (live.take limitIp, live.drop limitIp) else (live, [])).2 =
        live.drop limitIp := by
    split
    · rfl
    · rename_i fits
      exact (List.drop_eq_nil_of_le (by omega)).symm
  unfold limitClientIps
  dsimp only
  by_cases opens : site.opens = true
  · by_cases saves : site.saves = true
    · simp only [opens, saves, if_true, same]
      rfl
    · simp only [opens, saves, if_true, same]
      rfl
  · simp [opens]

theorem updateInboundClientIps_banned {old : List IPWithTimestamp} :
    (updateInboundClientIps readClients scan.inbounds scan.site clientEmail old
        scan.observed).bannedLive =
      if ipPolicy readClients scan.inbounds clientEmail = .limited n ∧ scan.site.opens = true then
        (scan.site.order.sort (liveEntries (some old) scan.observed scan.site.now)).drop n
      else [] := by
  unfold updateInboundClientIps
  cases policy : ipPolicy readClients scan.inbounds clientEmail with
  | skipped => simp [followPolicy]
  | unlimited => simp [followPolicy]
  | limited limitIp =>
    have isLimit := scan.policy policy
    subst isLimit
    simp [followPolicy, limitClientIps_banned]

theorem live_of_quiet (quiet : scan.observed = []) : state.live scan = [] := by
  unfold IpTracking.live liveEntries
  simp [quiet]

/-- What is banned is the end of the live addresses in their order, or nothing. -/
theorem scan_banned : (state.scan scan).last.banned =
    if Enforces state scan then (scan.site.order.sort (state.live scan)).drop n else [] := by
  unfold IpTracking.scan Enforces
  by_cases quiet : scan.observed = []
  · have nothing : scan.site.order.sort [] = [] := (scan.site.order.perm []).eq_nil
    simp [quiet, live_of_quiet quiet, nothing]
  · unfold IpTracking.live
    obtain ⟨record, seen, last⟩ := state
    cases record with
    | none => simp [quiet, scanClientIps]
    | some old => simp [quiet, scanClientIps, updateInboundClientIps_banned]

/-! ## What one scan keeps -/

theorem nodup_ipEntries (ipMap : IpMap) : (ipEntries ipMap).Nodup := by
  refine List.Nodup.of_map (·.ip) ?_
  unfold ipEntries
  rw [List.map_map]
  exact ipMap.nodupKeys

theorem nodup_live : (state.live scan).Nodup := (nodup_ipEntries _).filter _

/-- The live addresses that are not banned are the first of them. -/
theorem kept_perm (enforces : Enforces state scan) : (state.scan scan).last.kept.Perm
    ((scan.site.order.sort (state.live scan)).take n) := by
  have banned := @scan_banned _ _ _ state scan
  rw [if_pos enforces] at banned
  have sorted := scan.site.order.perm (state.live scan)
  have nodup := sorted.nodup_iff.mpr nodup_live
  unfold IpScanReport.kept
  rw [banned]
  refine (sorted.symm.filter _).trans ?_
  generalize scan.site.order.sort (state.live scan) = live at nodup
  rw [← List.take_append_drop n live] at nodup
  have apart := List.disjoint_of_nodup_append nodup
  have first : (live.take n).filter (· ∉ live.drop n) = live.take n := by
    rw [List.filter_eq_self]
    intro ip isFirst
    exact decide_eq_true (apart isFirst)
  have none : (live.drop n).filter (· ∉ live.drop n) = [] := by
    rw [List.filter_eq_nil_iff]
    intro ip isLast
    simpa using isLast
  have whole : live.filter (· ∉ live.drop n) = live.take n := calc
    live.filter (· ∉ live.drop n)
      = (live.take n ++ live.drop n).filter (· ∉ live.drop n) := by rw [List.take_append_drop]
    _ = live.take n := by rw [List.filter_append, first, none, List.append_nil]
  rw [whole]

theorem kept_of_not_enforces (free : ¬Enforces state scan) :
    (state.scan scan).last.kept = state.live scan := by
  have banned := @scan_banned _ _ _ state scan
  rw [if_neg free] at banned
  unfold IpScanReport.kept
  rw [banned]
  simp [IpTracking.scan]

/-! ## Runs -/

theorem scan_protects (keeps : KeepsOriginals state scan) :
    OriginalsProtected n (state.scan scan).last := by
  unfold KeepsOriginals at keeps
  have banned := @scan_banned _ _ _ state scan
  split at keeps
  · rename_i enforces
    rw [if_pos enforces] at banned
    have kept := kept_perm enforces
    have sorted := scan.site.order.perm (state.live scan)
    have ascending := scan.site.order.ascending (state.live scan)
    refine ⟨fun old isBanned wasKept newcomer isKept => ?_, ?_⟩
    · rw [banned] at isBanned
      have isFirst := kept.mem_iff.mp isKept
      have live := sorted.mem_iff.mp (List.mem_of_mem_drop isBanned)
      have newLive := sorted.mem_iff.mp (List.mem_of_mem_take isFirst)
      by_contra isNew
      have inOrder := le_of_take_of_drop ascending isFirst isBanned
      have room := lt_countP_of_drop ascending isBanned
      have taken := countP_lt_of_take ascending isFirst
      rw [sorted.countP_eq] at room taken
      rcases keeps old live wasKept newcomer newLive isNew with earlier | fits | full
      · omega
      · omega
      · omega
    · rw [kept.length_eq, List.length_take, sorted.length_eq]
      rfl
  · rename_i free
    rw [if_neg free] at banned
    refine ⟨fun old isBanned => ?_, ?_⟩
    · rw [banned] at isBanned
      cases isBanned
    · rw [kept_of_not_enforces free]
      exact (Nat.min_eq_right keeps).symm

/-- In every run whose scans see the originals first, or have nothing to limit where they do not
    limit, no original is banned for a newcomer. -/
theorem originals_protected
    (reached : (ipScans readClients clientEmail n).ReachableWhile KeepsOriginals StartsTracking
      state) : OriginalsProtected n state.last := by
  induction reached with
  | start isStart =>
    obtain ⟨record, rfl⟩ := isStart
    exact ⟨fun _ isBanned => absurd isBanned List.not_mem_nil, by simp [IpScanReport.kept]⟩
  | step _ keeps stepped =>
    cases stepped
    exact scan_protects keeps

end Scans

/-! One client with a limit of one address, in scans of its own inbound. -/

def singleInbound : InboundRows := ⟨[⟨2, true, innerText⟩], uniqueAlone⟩

theorem singleInbound_limit : ∀ inbound ∈ singleInbound.rows,
    ∀ client ∈ readOverlapping inbound.settings,
      client.email = "a@x" → client.limitIP = (1 : Nat) := by
  decide

def singleScan (observed : List IPWithTimestamp) (now : Int) : IpScan readOverlapping "a@x" 1 :=
  ⟨singleInbound, singleInbound_limit, observed, now, insertionOrder, true, true⟩

def singleStart : IpTracking := { record := some [⟨"A", 100⟩], seen := ["A"] }

theorem singleStart_starts : StartsTracking singleStart := ⟨some [⟨"A", 100⟩], rfl⟩

/-- The address that was kept is seen again after the newcomer, and it is the one that is banned. -/
theorem newcomer_kept :
    ∃ state, (ipScans readOverlapping "a@x" 1).Reachable StartsTracking state ∧
      (⟨"A", 300⟩ : IPWithTimestamp) ∈ state.last.banned ∧ "A" ∈ state.last.keptBefore ∧
      (⟨"B", 200⟩ : IPWithTimestamp) ∈ state.last.kept ∧ "B" ∉ state.last.seenBefore := by
  refine ⟨(singleStart.scan (singleScan [⟨"A", 100⟩] 150)).scan
    (singleScan [⟨"A", 300⟩, ⟨"B", 200⟩] 350), ?_, ?_⟩
  · exact .step (.step (.start singleStart_starts) trivial rfl) trivial rfl
  · refine ⟨?_, ?_, ?_, ?_⟩
    · decide +kernel
    · decide +kernel
    · decide +kernel
    · decide +kernel

/-- With the newcomer seen last, it is the one that is banned. -/
theorem originals_protected_single : OriginalsProtected 1
    ((singleStart.scan (singleScan [⟨"A", 100⟩] 150)).scan
      (singleScan [⟨"A", 200⟩, ⟨"B", 300⟩] 350)).last := by
  refine originals_protected (.step (.step (.start singleStart_starts) ?_ rfl) ?_ rfl)
  · decide +kernel
  · decide +kernel

end VkTurn.Panel
