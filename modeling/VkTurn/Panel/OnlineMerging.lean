import VkTurn.Panel.OnlineClients
import VkTurn.Panel.PeerValidity

/-! # What the merged list holds

With a heartbeat the list is put together anew, without blanks, doubles and clients whose own
heartbeat is not good; without one the base list is handed on as it is.
-/

namespace VkTurn.Panel

open VkTurn.Text (trimSpace trimSpace_trimSpace)

variable {library : Library} {digest : Digest} {clock : Clock} {order : MapOrder String}
  {inbounds : List Inbound} {snapshot : Int → Beats} {now : Int} {base : List String}

/-! ## What the list is asked for -/

/-- The key that emails are compared by. -/
def emailKey (library : Library) (email : String) : String := library.toLower (trimSpace email)

/-- The clients of an inbound with the heartbeats that are recorded for them. -/
def inboundHeartbeats (library : Library) (digest : Digest) (clock : Clock)
    (snapshot : Int → Beats) (inbound : Inbound) : List (VKTurnProxyClient × HeartbeatState) :=
  match getVKTurnProxySettings clock inbound.settings with
  | .error _ => []
  | .ok settings => settings.clients.filterMap fun client =>
      (recordedHeartbeat library digest (snapshot inbound.id) client).map (client, ·)

def heartbeats (library : Library) (digest : Digest) (clock : Clock) (inbounds : List Inbound)
    (snapshot : Int → Beats) : List (VKTurnProxyClient × HeartbeatState) :=
  inbounds.flatMap (inboundHeartbeats library digest clock snapshot)

/-- The clients of the inbounds that can be read. -/
def inboundClients (clock : Clock) (inbounds : List Inbound) : List VKTurnProxyClient :=
  inbounds.flatMap fun inbound =>
    match getVKTurnProxySettings clock inbound.settings with
    | .error _ => []
    | .ok settings => settings.clients

/-- The client is enabled, and its heartbeat says online and is not too old. -/
def IsOnline (now : Int) (beat : VKTurnProxyClient × HeartbeatState) : Prop :=
  beat.1.enable ∧ beat.2.online ∧ now - beat.2.lastSeen ≤ vkTurnProxyHeartbeatOnlineGrace

instance (beat : VKTurnProxyClient × HeartbeatState) : Decidable (IsOnline now beat) :=
  inferInstanceAs (Decidable (_ ∧ _))

def Lists (library : Library) (emails : List String) (email : String) : Prop :=
  ∃ entry ∈ emails, library.toLower entry = emailKey library email

/-- Entries without surrounding blanks, not empty and distinct up to case. -/
structure Clean (library : Library) (emails : List String) : Prop where
  trimmed : ∀ email ∈ emails, trimSpace email = email ∧ email ≠ ""
  distinct : (emails.map library.toLower).Nodup

structure RightlyMerged (library : Library) (base : List String)
    (beats : List (VKTurnProxyClient × HeartbeatState)) (now : Int) (emails : List String) :
    Prop where
  clean : Clean library emails
  clients : ∀ beat ∈ beats, Lists library emails beat.1.email ↔ IsOnline now beat
  others : ∀ email ∈ base, trimSpace email ≠ "" →
    (∀ beat ∈ beats, emailKey library beat.1.email ≠ emailKey library email) →
      Lists library emails email

/-! ## The presence sets -/

/-- What the sets have of the heartbeats so far. -/
structure Presence.Holds (presence : Presence) (now : Int)
    (beats : List (VKTurnProxyClient × HeartbeatState)) : Prop where
  authoritative : ∀ email, email ∈ presence.authoritative ↔
    ∃ beat ∈ beats, trimSpace beat.1.email = email
  online : ∀ email, email ∈ presence.online ↔
    ∃ beat ∈ beats, IsOnline now beat ∧ trimSpace beat.1.email = email

theorem notePresence_none {beats : Beats} {presence : Presence} {client : VKTurnProxyClient}
    (absent : recordedHeartbeat library digest beats client = none) :
    notePresence library digest beats now presence client = presence := by
  simp only [notePresence, absent]

theorem notePresence_some {beats : Beats} {presence : Presence} {client : VKTurnProxyClient}
    {state : HeartbeatState}
    (recorded : recordedHeartbeat library digest beats client = some state) :
    (notePresence library digest beats now presence client).authoritative =
        presence.authoritative.insert (trimSpace client.email) ∧
      (notePresence library digest beats now presence client).online =
        if IsOnline now (client, state) then presence.online.insert (trimSpace client.email)
        else presence.online := by
  unfold notePresence IsOnline
  simp only [recorded]
  by_cases online : state.online
  · by_cases recent : client.enable ∧ now - state.lastSeen ≤ vkTurnProxyHeartbeatOnlineGrace
    · simp only [online, recent, not_true, if_false, and_self, if_true]
      -- the time of the last heartbeat does not matter for the sets
      split <;> exact ⟨rfl, rfl⟩
    · have notOnline : ¬ (client.enable = true ∧ True ∧
          now - state.lastSeen ≤ vkTurnProxyHeartbeatOnlineGrace) :=
        fun all => recent ⟨all.1, all.2.2⟩
      simp only [online, recent, notOnline, not_true, if_false]
      split <;> exact ⟨rfl, rfl⟩
  · simp [online]

theorem notePresence_holds {beats : Beats} {presence : Presence}
    {seen : List (VKTurnProxyClient × HeartbeatState)} (holds : presence.Holds now seen)
    (client : VKTurnProxyClient) :
    (notePresence library digest beats now presence client).Holds now
      (seen ++ ((recordedHeartbeat library digest beats client).map (client, ·)).toList) := by
  cases recorded : recordedHeartbeat library digest beats client with
  | none =>
    rw [notePresence_none recorded]
    simpa using holds
  | some state =>
    obtain ⟨authoritative, online⟩ := @notePresence_some library digest now beats presence client
      state recorded
    constructor
    · intro email
      rw [authoritative, List.mem_insert_iff, holds.authoritative]
      simp only [Option.map_some, Option.toList_some, List.mem_append, List.mem_singleton,
        or_and_right, exists_or, exists_eq_left]
      exact ⟨fun known => known.symm.imp_right Eq.symm, fun known => known.symm.imp_left Eq.symm⟩
    · intro email
      rw [online]
      simp only [Option.map_some, Option.toList_some, List.mem_append, List.mem_singleton,
        or_and_right, exists_or, exists_eq_left]
      by_cases live : IsOnline now (client, state)
      · rw [if_pos live, List.mem_insert_iff, holds.online]
        simp only [live, true_and]
        exact ⟨fun known => known.symm.imp_right Eq.symm, fun known => known.symm.imp_left Eq.symm⟩
      · rw [if_neg live, holds.online]
        simp only [live, false_and, or_false]

theorem foldl_notePresence_holds {beats : Beats} (clients : List VKTurnProxyClient)
    {presence : Presence} {seen : List (VKTurnProxyClient × HeartbeatState)}
    (holds : presence.Holds now seen) :
    (clients.foldl (notePresence library digest beats now) presence).Holds now
      (seen ++ clients.filterMap fun client =>
        (recordedHeartbeat library digest beats client).map (client, ·)) := by
  induction clients generalizing presence seen with
  | nil => simpa using holds
  | cons client clients inductionHypothesis =>
    have rest := inductionHypothesis (@notePresence_holds library digest now beats presence seen
      holds client)
    rw [List.foldl_cons, List.filterMap_cons]
    cases recorded : recordedHeartbeat library digest beats client with
    | none => simpa [recorded] using rest
    | some state => simpa [recorded] using rest

theorem recordedHeartbeat_empty {beats : Beats} (empty : beats.entries = [])
    (client : VKTurnProxyClient) : recordedHeartbeat library digest beats client = none := by
  have absent : ∀ fingerprint, beats.lookup fingerprint = none := by
    intro fingerprint
    rw [AList.lookup_eq_none, AList.mem_keys, AList.keys, empty]
    simp
  unfold recordedHeartbeat
  split
  · rfl
  · split
    · rfl
    · rw [absent]
      rfl

theorem inboundPresence_holds {presence : Presence}
    {seen : List (VKTurnProxyClient × HeartbeatState)} (holds : presence.Holds now seen)
    (inbound : Inbound) :
    (inboundPresence library digest clock snapshot now presence inbound).Holds now
      (seen ++ inboundHeartbeats library digest clock snapshot inbound) := by
  unfold inboundPresence inboundHeartbeats
  cases getVKTurnProxySettings clock inbound.settings with
  | error message => simpa using holds
  | ok settings =>
    by_cases empty : (snapshot inbound.id).entries = []
    · simp only [empty, if_true, recordedHeartbeat_empty empty, Option.map_none]
      simpa using holds
    · rw [if_neg empty]
      exact foldl_notePresence_holds settings.clients holds

theorem presence_holds : (buildVKTurnProxyHeartbeatPresence library digest clock inbounds snapshot
    now).Holds now (heartbeats library digest clock inbounds snapshot) := by
  have fold : ∀ (rest : List Inbound) {presence : Presence}
      {seen : List (VKTurnProxyClient × HeartbeatState)}, presence.Holds now seen →
      (rest.foldl (inboundPresence library digest clock snapshot now) presence).Holds now
        (seen ++ heartbeats library digest clock rest snapshot) := by
    intro rest
    induction rest with
    | nil =>
      intro presence seen holds
      simpa [heartbeats] using holds
    | cons inbound rest inductionHypothesis =>
      intro presence seen holds
      have next := inductionHypothesis (@inboundPresence_holds library digest clock snapshot now
        presence seen holds inbound)
      rw [List.foldl_cons]
      simpa [heartbeats] using next
  have start : (⟨[], [], ∅⟩ : Presence).Holds now [] := ⟨by simp, by simp⟩
  exact fold inbounds start

/-! ## Merging -/

/-- What a loop over emails leaves: the keys it took are new and not refused. -/
structure Takes (library : Library) (refused : String → Bool) (seen emails : List String)
    (merged : Merged) : Prop where
  clean : Clean library merged.emails
  taken : ∀ key, key ∈ merged.emails.map library.toLower ↔
    key ∉ seen ∧ refused key = false ∧
      ∃ email ∈ emails, trimSpace email ≠ "" ∧ emailKey library email = key
  seen : ∀ key, key ∈ merged.seen ↔ key ∈ seen ∨ key ∈ merged.emails.map library.toLower

section Loop

variable {refused : String → Bool} {seen emails : List String} {merged : Merged} {email : String}

/-- An email that is passed over brings no new key. -/
theorem Takes.pass (takes : Takes library refused seen emails merged)
    (known : trimSpace email ≠ "" → refused (emailKey library email) = false →
      emailKey library email ∈ merged.seen) :
    Takes library refused seen (emails ++ [email]) merged := by
  refine ⟨takes.clean, fun key => ?_, takes.seen⟩
  rw [takes.taken]
  constructor
  · rintro ⟨new, accepted, other, member, rest⟩
    exact ⟨new, accepted, other, List.mem_append_left _ member, rest⟩
  · rintro ⟨new, accepted, other, member, notBlank, rfl⟩
    refine ⟨new, accepted, ?_⟩
    rcases List.mem_append.mp member with before | isLast
    · exact ⟨other, before, notBlank, rfl⟩
    · rw [List.mem_singleton.mp isLast] at new accepted notBlank ⊢
      have there := (takes.seen _).mp (known notBlank accepted)
      exact ((takes.taken _).mp (there.resolve_left new)).2.2

/-- An email that is taken brings its key. -/
theorem Takes.take (takes : Takes library refused seen emails merged)
    (notBlank : trimSpace email ≠ "") (accepted : refused (emailKey library email) = false)
    (new : emailKey library email ∉ merged.seen) :
    Takes library refused seen (emails ++ [email])
      ⟨merged.emails ++ [trimSpace email], emailKey library email :: merged.seen⟩ := by
  have notSeen : emailKey library email ∉ seen := fun before =>
    new ((takes.seen _).mpr (.inl before))
  have notTaken : emailKey library email ∉ merged.emails.map library.toLower := fun before =>
    new ((takes.seen _).mpr (.inr before))
  have keys : (merged.emails ++ [trimSpace email]).map library.toLower =
      merged.emails.map library.toLower ++ [emailKey library email] := by
    rw [List.map_append]
    rfl
  refine ⟨⟨?_, ?_⟩, fun key => ?_, fun key => ?_⟩
  · intro entry member
    rcases List.mem_append.mp member with before | isLast
    · exact takes.clean.trimmed entry before
    · rw [List.mem_singleton.mp isLast]
      exact ⟨trimSpace_trimSpace email, notBlank⟩
  · rw [keys, List.nodup_append]
    refine ⟨takes.clean.distinct, by simp, ?_⟩
    rintro key before last isLast rfl
    exact notTaken (List.mem_singleton.mp isLast ▸ before)
  · rw [keys, List.mem_append, takes.taken, List.mem_singleton]
    constructor
    · rintro (⟨isNew, isAccepted, other, member, rest⟩ | rfl)
      · exact ⟨isNew, isAccepted, other, List.mem_append_left _ member, rest⟩
      · exact ⟨notSeen, accepted, email, by simp, notBlank, rfl⟩
    · rintro ⟨isNew, isAccepted, other, member, otherNotBlank, rfl⟩
      rcases List.mem_append.mp member with before | isLast
      · exact .inl ⟨isNew, isAccepted, other, before, otherNotBlank, rfl⟩
      · rw [List.mem_singleton.mp isLast]
        exact .inr rfl
  · rw [List.mem_cons, takes.seen, keys, List.mem_append, List.mem_singleton, or_comm, or_assoc]

theorem foldl_noteEmail_takes (refused : String → Bool) (seen emails : List String) :
    Takes library refused seen emails (emails.foldl (noteEmail library refused) ⟨[], seen⟩) := by
  induction emails using List.reverseRecOn with
  | nil => exact ⟨⟨by simp, by simp⟩, by simp, by simp⟩
  | append_singleton emails email inductionHypothesis =>
    rw [List.foldl_append, List.foldl_cons, List.foldl_nil]
    generalize emails.foldl (noteEmail library refused) ⟨[], seen⟩ = merged at inductionHypothesis
    unfold noteEmail
    by_cases blank : trimSpace email = ""
    · simp only [blank, if_true]
      exact inductionHypothesis.pass fun notBlank => absurd blank notBlank
    · simp only [blank, if_false]
      cases accepted : refused (library.toLower (trimSpace email)) with
      | true =>
        refine inductionHypothesis.pass fun _ isAccepted => ?_
        rw [emailKey, accepted] at isAccepted
        cases isAccepted
      | false =>
        by_cases known : library.toLower (trimSpace email) ∈ merged.seen
        · simp only [known, if_true]
          exact inductionHypothesis.pass fun _ _ => known
        · simp only [known, if_false]
          exact inductionHypothesis.take blank accepted known

end Loop

theorem mem_normalizedEmailSet {key : String} {emails : List String} :
    key ∈ normalizedEmailSet library emails ↔
      ∃ email ∈ emails, trimSpace email ≠ "" ∧ emailKey library email = key := by
  simp [normalizedEmailSet, emailKey, and_assoc]

/-- The general path: clean, with the keys of the extra emails and those of the base that are not
    refused. -/
theorem mergeOnlineClientLists_general {extra authoritative : List String}
    (some_beat : ¬ (extra = [] ∧ authoritative = [])) :
    Clean library (mergeOnlineClientLists library order base extra authoritative) ∧
      ∀ key, key ∈ (mergeOnlineClientLists library order base extra authoritative).map
          library.toLower ↔
        key ∈ normalizedEmailSet library extra ∨
          key ∉ normalizedEmailSet library authoritative ∧
            key ∈ normalizedEmailSet library base := by
  obtain ⟨result, isResult⟩ : ∃ result, base.foldl (noteEmail library (refusedKey
      (normalizedEmailSet library extra) (normalizedEmailSet library authoritative))) ⟨[], []⟩ =
        result := ⟨_, rfl⟩
  obtain ⟨appended, isAppended⟩ : ∃ appended, (order.arrange extra).foldl
      (noteEmail library fun _ => false) ⟨[], result.seen⟩ = appended := ⟨_, rfl⟩
  have merged : mergeOnlineClientLists library order base extra authoritative =
      result.emails ++ appended.emails.mergeSort := by
    unfold mergeOnlineClientLists
    rw [if_neg some_beat, ← isAppended, ← isResult]
  have first := @foldl_noteEmail_takes library (refusedKey (normalizedEmailSet library extra)
    (normalizedEmailSet library authoritative)) [] base
  have second := @foldl_noteEmail_takes library (fun _ => false) result.seen (order.arrange extra)
  rw [isResult] at first
  rw [isAppended] at second
  rw [merged]
  have sorted := List.mergeSort_perm appended.emails (fun a b => decide (a ≤ b))
  have inExtra : ∀ key, (∃ email ∈ order.arrange extra, trimSpace email ≠ "" ∧
      emailKey library email = key) ↔ key ∈ normalizedEmailSet library extra := by
    intro key
    simp only [mem_normalizedEmailSet, (order.perm extra).mem_iff]
  refine ⟨⟨?_, ?_⟩, fun key => ?_⟩
  · intro email member
    rcases List.mem_append.mp member with inResult | inAppended
    · exact first.clean.trimmed email inResult
    · exact second.clean.trimmed email (sorted.mem_iff.mp inAppended)
  · rw [List.map_append, List.nodup_append]
    refine ⟨first.clean.distinct, (sorted.map _).nodup_iff.mpr second.clean.distinct, ?_⟩
    rintro key inResult _ inAppended rfl
    have new := ((second.taken key).mp ((sorted.map _).mem_iff.mp inAppended)).1
    exact new ((first.seen key).mpr (.inr inResult))
  · rw [List.map_append, List.mem_append, (sorted.map _).mem_iff, second.taken, first.seen,
      first.taken, inExtra, ← mem_normalizedEmailSet]
    simp only [refusedKey, List.not_mem_nil, not_false_eq_true, true_and, false_or,
      decide_eq_false_iff_not, not_and, not_not]
    by_cases isExtra : key ∈ normalizedEmailSet library extra
    · simp only [isExtra, implies_true, true_and, and_true, true_or, iff_true]
      by_cases inBase : key ∈ normalizedEmailSet library base <;> simp [inBase]
    · simp only [isExtra, imp_false, and_false, or_false, false_or]

/-! ## The list for given heartbeats -/

/-- Only a client with an email has a heartbeat. -/
theorem email_of_recordedHeartbeat {beats : Beats} {client : VKTurnProxyClient}
    {state : HeartbeatState}
    (recorded : recordedHeartbeat library digest beats client = some state) :
    trimSpace client.email ≠ "" := by
  intro blank
  unfold recordedHeartbeat at recorded
  rw [if_pos (.inl blank)] at recorded
  cases recorded

theorem email_of_heartbeat {beat : VKTurnProxyClient × HeartbeatState}
    (member : beat ∈ heartbeats library digest clock inbounds snapshot) :
    trimSpace beat.1.email ≠ "" := by
  obtain ⟨inbound, -, inInbound⟩ := List.mem_flatMap.mp member
  unfold inboundHeartbeats at inInbound
  cases read : getVKTurnProxySettings clock inbound.settings with
  | error message => simp [read] at inInbound
  | ok settings =>
    simp only [read, List.mem_filterMap, Option.map_eq_some_iff] at inInbound
    obtain ⟨client, -, state, recorded, rfl⟩ := inInbound
    exact email_of_recordedHeartbeat recorded

theorem emailKey_trimSpace (email : String) :
    emailKey library (trimSpace email) = emailKey library email := by
  rw [emailKey, trimSpace_trimSpace, emailKey]

theorem lists_iff {emails : List String} {email : String} :
    Lists library emails email ↔ emailKey library email ∈ emails.map library.toLower := by
  simp [Lists]

/-- A clean list lists each of its entries. -/
theorem Clean.lists {emails : List String} (clean : Clean library emails) {email : String}
    (member : email ∈ emails) : Lists library emails email :=
  ⟨email, member, by rw [emailKey, (clean.trimmed email member).1]⟩

section Presence

variable {presence : Presence} {beats : List (VKTurnProxyClient × HeartbeatState)} {key : String}

theorem Presence.Holds.mem_onlineKeys (holds : presence.Holds now beats)
    (emails : ∀ beat ∈ beats, trimSpace beat.1.email ≠ "") :
    key ∈ normalizedEmailSet library presence.online ↔
      ∃ beat ∈ beats, IsOnline now beat ∧ emailKey library beat.1.email = key := by
  rw [mem_normalizedEmailSet]
  constructor
  · rintro ⟨email, member, -, rfl⟩
    obtain ⟨beat, isBeat, live, rfl⟩ := (holds.online email).mp member
    exact ⟨beat, isBeat, live, (emailKey_trimSpace _).symm⟩
  · rintro ⟨beat, isBeat, live, rfl⟩
    refine ⟨trimSpace beat.1.email, (holds.online _).mpr ⟨beat, isBeat, live, rfl⟩, ?_,
      emailKey_trimSpace _⟩
    rw [trimSpace_trimSpace]
    exact emails beat isBeat

theorem Presence.Holds.mem_authoritativeKeys (holds : presence.Holds now beats)
    (emails : ∀ beat ∈ beats, trimSpace beat.1.email ≠ "") :
    key ∈ normalizedEmailSet library presence.authoritative ↔
      ∃ beat ∈ beats, emailKey library beat.1.email = key := by
  rw [mem_normalizedEmailSet]
  constructor
  · rintro ⟨email, member, -, rfl⟩
    obtain ⟨beat, isBeat, rfl⟩ := (holds.authoritative email).mp member
    exact ⟨beat, isBeat, (emailKey_trimSpace _).symm⟩
  · rintro ⟨beat, isBeat, rfl⟩
    refine ⟨trimSpace beat.1.email, (holds.authoritative _).mpr ⟨beat, isBeat, rfl⟩, ?_,
      emailKey_trimSpace _⟩
    rw [trimSpace_trimSpace]
    exact emails beat isBeat

/-- Without a heartbeat both sets are empty, and with one they are not both. -/
theorem Presence.Holds.empty_iff (holds : presence.Holds now beats) :
    presence.online = [] ∧ presence.authoritative = [] ↔ beats = [] := by
  constructor
  · rintro ⟨-, noAuthoritative⟩
    refine List.eq_nil_iff_forall_not_mem.mpr fun beat member => ?_
    have known := (holds.authoritative _).mpr ⟨beat, member, rfl⟩
    rw [noAuthoritative] at known
    exact List.not_mem_nil known
  · rintro rfl
    constructor
    · refine List.eq_nil_iff_forall_not_mem.mpr fun email member => ?_
      simpa using (holds.online email).mp member
    · refine List.eq_nil_iff_forall_not_mem.mpr fun email member => ?_
      simpa using (holds.authoritative email).mp member

end Presence

/-- Heartbeats of one email, up to blanks and case, agree on whether the client is online. -/
def Agree (library : Library) (now : Int) (beats : List (VKTurnProxyClient × HeartbeatState)) :
    Prop :=
  ∀ beat ∈ beats, ∀ other ∈ beats,
    emailKey library other.1.email = emailKey library beat.1.email →
      IsOnline now other → IsOnline now beat

/-- The shortcut hands the base list on, and it is right when that list is clean. -/
theorem mergeOnlineClientLists_shortcut :
    RightlyMerged library base [] now (mergeOnlineClientLists library order base [] []) ↔
      Clean library base := by
  have handedOn : mergeOnlineClientLists library order base [] [] = base := if_pos ⟨rfl, rfl⟩
  rw [handedOn]
  constructor
  · exact fun right => right.clean
  · intro clean
    refine ⟨clean, by simp, fun email member _ _ => ?_⟩
    exact clean.lists member

theorem mergeOnlineClientLists_heartbeats {presence : Presence}
    {beats : List (VKTurnProxyClient × HeartbeatState)} (holds : presence.Holds now beats)
    (emails : ∀ beat ∈ beats, trimSpace beat.1.email ≠ "") (someBeat : beats ≠ []) :
    RightlyMerged library base beats now
        (mergeOnlineClientLists library order base presence.online presence.authoritative) ↔
      Agree library now beats := by
  obtain ⟨clean, keys⟩ := @mergeOnlineClientLists_general library order base presence.online
    presence.authoritative (mt holds.empty_iff.mp someBeat)
  have listed : ∀ beat ∈ beats, (Lists library (mergeOnlineClientLists library order base
      presence.online presence.authoritative) beat.1.email ↔ ∃ other ∈ beats,
        IsOnline now other ∧ emailKey library other.1.email = emailKey library beat.1.email) := by
    intro beat member
    rw [lists_iff, keys, holds.mem_onlineKeys emails, holds.mem_authoritativeKeys emails]
    -- the client's own heartbeat is in the way of the base list
    have known : ∃ other ∈ beats,
        emailKey library other.1.email = emailKey library beat.1.email := ⟨beat, member, rfl⟩
    simp only [known, not_true, false_and, or_false]
  constructor
  · intro right beat member other isOther same live
    exact (right.clients beat member).mp ((listed beat member).mpr ⟨other, isOther, live, same⟩)
  · intro agree
    refine ⟨clean, fun beat member => ?_, fun email member notBlank notTheirs => ?_⟩
    · rw [listed beat member]
      constructor
      · rintro ⟨other, isOther, live, same⟩
        exact agree beat member other isOther same live
      · exact fun live => ⟨beat, member, live, rfl⟩
    · rw [lists_iff, keys, holds.mem_authoritativeKeys emails]
      refine .inr ⟨?_, mem_normalizedEmailSet.mpr ⟨email, member, notBlank, rfl⟩⟩
      rintro ⟨beat, isBeat, same⟩
      exact notTheirs beat isBeat same

/-- The list is right exactly when the base list was clean or there is a heartbeat, and no two
    clients of one email, up to blanks and case, disagree. -/
theorem mergeOnlineClientLists_right_iff (library : Library) (digest : Digest) (clock : Clock)
    (order : MapOrder String) (base : List String) (inbounds : List Inbound)
    (snapshot : Int → Beats) (now : Int) :
    let beats := heartbeats library digest clock inbounds snapshot
    let presence := buildVKTurnProxyHeartbeatPresence library digest clock inbounds snapshot now
    RightlyMerged library base beats now
        (mergeOnlineClientLists library order base presence.online presence.authoritative) ↔
      (beats ≠ [] ∨ Clean library base) ∧ Agree library now beats := by
  intro beats presence
  have holds : presence.Holds now beats := presence_holds
  by_cases noBeat : beats = []
  · obtain ⟨noneOnline, noneAuthoritative⟩ := holds.empty_iff.mpr noBeat
    have agree : Agree library now [] := by
      intro beat member
      simp at member
    rw [noneOnline, noneAuthoritative, noBeat, mergeOnlineClientLists_shortcut]
    simp [agree]
  · rw [mergeOnlineClientLists_heartbeats holds (fun _ => email_of_heartbeat) noBeat]
    simp [noBeat]

/-- One email twice in the base list, and no VK TURN inbound. -/
theorem mergeOnlineClientLists_keeps_doubles :
    ¬ ∀ (library : Library) (digest : Digest) (clock : Clock) (order : MapOrder String)
      (base : List String) (inbounds : List Inbound) (snapshot : Int → Beats) (now : Int),
      let beats := heartbeats library digest clock inbounds snapshot
      let presence := buildVKTurnProxyHeartbeatPresence library digest clock inbounds snapshot now
      ((inboundClients clock inbounds).map fun client => library.toLower client.email).Nodup →
        RightlyMerged library base beats now
          (mergeOnlineClientLists library order base presence.online presence.authoritative) := by
  intro claim
  have right := claim canonical ⟨fun _ => [], fun _ => ""⟩ ⟨0, ""⟩ ⟨id, List.Perm.refl⟩
    ["a@example", "a@example"] [] (fun _ => ∅) 0 (by simp [inboundClients])
  have distinct := right.clean.distinct
  revert distinct
  decide

end VkTurn.Panel
