import VkTurn.Panel.PeerTraffics
import VkTurn.Text.Leftmost
import Mathlib.Algebra.Ring.Int.Defs

/-! # What the traffic of the peers adds up to

A peer's traffic is bound to an email when its tag is that of a WireGuard inbound and a client with
that email has the peer of the inbound with its key.
-/

namespace VkTurn.Panel

open VkTurn.Store VkTurn.Text

variable {clock : Clock} {db : Database} {email : String} {traffic : WireGuardPeerTraffic}
  {traffics : List WireGuardPeerTraffic}

def wireGuardInbounds (db : Database) : List Inbound :=
  db.inbounds.rows.filter (·.protocol = .wireguard)

/-- All clients that are bound to a peer of a stored WireGuard inbound. -/
def boundClients (clock : Clock) (db : Database) : List PeerClient :=
  (db.inbounds.rows.filter (·.protocol = .vkTurnProxy)).flatMap
    (peerClients clock ((wireGuardInbounds db).map (·.id)))

/-- The WireGuard inbound and the peer of it that a client is bound to. -/
def PeerClient.pair (bound : PeerClient) : Int × String :=
  (bound.wireguardInboundID, trimSpace bound.client.peerPublicKey)

/-- The traffic is of the peer that a client is bound to. -/
def PeerClient.Carries (db : Database) (bound : PeerClient) (traffic : WireGuardPeerTraffic) :
    Prop :=
  trimSpace bound.client.peerPublicKey = trimSpace traffic.publicKey ∧
    ∃ inbound ∈ wireGuardInbounds db,
      inbound.tag = traffic.inboundTag ∧ inbound.id = bound.wireguardInboundID

def BoundTo (clock : Clock) (db : Database) (email : String) (traffic : WireGuardPeerTraffic) :
    Prop :=
  ∃ bound ∈ boundClients clock db, bound.client.email = email ∧ bound.Carries db traffic

instance (bound : PeerClient) : Decidable (bound.Carries db traffic) :=
  inferInstanceAs (Decidable (_ ∧ _))

instance : Decidable (BoundTo clock db email traffic) :=
  inferInstanceAs (Decidable (∃ bound ∈ boundClients clock db, _))

/-! ## Keys of bindings -/

theorem bindingKey_inj {id other : Int} {publicKey otherKey : String} :
    wireGuardPeerTrafficBindingKey id publicKey = wireGuardPeerTrafficBindingKey other otherKey ↔
      id = other ∧ trimSpace publicKey = trimSpace otherKey := by
  constructor
  · intro same
    have nul : "\x00".toList = separator '\x00' 0 := by decide
    -- the text of an id has no NUL, so that the first one ends it
    have free : ∀ number : Int, '\x00' ∉ (toString number).toList := by
      intro number member
      rcases mem_toString_int member with isSign | isDigit
      · exact absurd isSign (by decide)
      · exact absurd isDigit (by decide)
    have chars := congrArg String.toList same
    simp only [wireGuardPeerTrafficBindingKey, String.toList_append, nul] at chars
    have ids : (toString id).toList = (toString other).toList := by
      rw [← takeWhile_segment (free id) (trimSpace publicKey).toList, chars,
        takeWhile_segment (free other)]
    refine ⟨toString_int_inj (String.toList_injective ids), ?_⟩
    rw [ids] at chars
    exact String.toList_injective (List.append_cancel_left chars)
  · rintro ⟨rfl, trimmed⟩
    unfold wireGuardPeerTrafficBindingKey
    rw [trimmed]

theorem inboundIDByTag_lookup {tag : String} {id : Int} :
    (inboundIDByTag (wireGuardInbounds db)).lookup tag = some id ↔
      ∃ inbound ∈ wireGuardInbounds db, inbound.tag = tag ∧ inbound.id = id :=
  lookup_foldl_insert_iff (db.inbounds.valid.2.sublist (List.filter_sublist.map _))

theorem peerClients_relevant {relevant all : List Int} (among : ∀ id ∈ relevant, id ∈ all)
    (inbound : Inbound) :
    peerClients clock relevant inbound =
      (peerClients clock all inbound).filter (·.wireguardInboundID ∈ relevant) := by
  unfold peerClients
  cases getVKTurnProxySettings clock inbound.settings with
  | error message => rfl
  | ok settings =>
    by_cases forwards : settings.forward.type ≠ .wireguardInbound
    · simp [forwards]
    · by_cases isRelevant : settings.forward.wireguardInboundID ∈ relevant
      · have isThere := among _ isRelevant
        simp only [forwards, if_false, isRelevant, isThere, not_true]
        refine (List.filter_eq_self.mpr fun bound member => ?_).symm
        obtain ⟨client, -, rfl⟩ := List.mem_map.mp member
        simpa using isRelevant
      · simp only [forwards, if_false, isRelevant, not_false_eq_true, if_true]
        symm
        rw [List.filter_eq_nil_iff]
        intro bound member
        split at member
        · cases member
        · obtain ⟨client, -, rfl⟩ := List.mem_map.mp member
          simpa using isRelevant

/-! ## The client of a peer's traffic -/

/-- The bindings that the call collects. -/
def relevantIDs (db : Database) (traffics : List WireGuardPeerTraffic) : List Int :=
  traffics.filterMap ((inboundIDByTag (wireGuardInbounds db)).lookup ·.inboundTag)

def collected (clock : Clock) (db : Database) (traffics : List WireGuardPeerTraffic) :
    List PeerClient :=
  (db.inbounds.rows.filter (·.protocol = .vkTurnProxy)).flatMap
    (peerClients clock (relevantIDs db traffics))

theorem collected_eq : collected clock db traffics =
    (boundClients clock db).filter (·.wireguardInboundID ∈ relevantIDs db traffics) := by
  have among : ∀ id ∈ relevantIDs db traffics, id ∈ (wireGuardInbounds db).map (·.id) := by
    intro id member
    obtain ⟨traffic, -, found⟩ := List.mem_filterMap.mp member
    obtain ⟨inbound, isThere, -, rfl⟩ := inboundIDByTag_lookup.mp found
    exact List.mem_map_of_mem isThere
  unfold collected boundClients
  rw [List.filter_flatMap]
  congr 1
  funext inbound
  exact peerClients_relevant among inbound

/-- The client that the call takes a traffic for. -/
def clientOf (clock : Clock) (db : Database) (traffics : List WireGuardPeerTraffic) :
    WireGuardPeerTraffic → Option ClientTraffic :=
  boundClient (inboundIDByTag (wireGuardInbounds db))
    (clientByBinding (collected clock db traffics))

theorem collected_keys (unique : ((boundClients clock db).map PeerClient.pair).Nodup) :
    ((collected clock db traffics).map PeerClient.key).Nodup := by
  rw [collected_eq]
  refine List.Nodup.map_on ?_ ((List.Nodup.of_map _ unique).filter _)
  intro bound member other otherMember same
  obtain ⟨ids, keys⟩ := bindingKey_inj.mp same
  exact List.inj_on_of_nodup_map unique (List.mem_filter.mp member).1
    (List.mem_filter.mp otherMember).1 (Prod.ext ids keys)

theorem clientOf_eq_some_iff (unique : ((boundClients clock db).map PeerClient.pair).Nodup)
    (member : traffic ∈ traffics) {client : ClientTraffic} :
    clientOf clock db traffics traffic = some client ↔
      ∃ bound ∈ boundClients clock db, bound.Carries db traffic ∧ bound.traffic = client := by
  have byKey := fun key => @lookup_foldl_insert_iff _ _ _ _ PeerClient.key PeerClient.traffic _
    (@collected_keys clock db traffics unique) key client
  unfold clientOf boundClient clientByBinding
  rw [Option.bind_eq_bind, Option.bind_eq_some_iff]
  constructor
  · rintro ⟨id, found, client⟩
    obtain ⟨bound, isCollected, sameKey, rfl⟩ := (byKey _).mp client
    obtain ⟨inbound, isThere, tag, rfl⟩ := inboundIDByTag_lookup.mp found
    obtain ⟨ids, keys⟩ := bindingKey_inj.mp sameKey
    rw [collected_eq] at isCollected
    exact ⟨bound, (List.mem_filter.mp isCollected).1, ⟨keys, inbound, isThere, tag, ids.symm⟩, rfl⟩
  · rintro ⟨bound, isBound, ⟨keys, inbound, isThere, tag, ids⟩, rfl⟩
    have found : (inboundIDByTag (wireGuardInbounds db)).lookup traffic.inboundTag =
        some bound.wireguardInboundID :=
      inboundIDByTag_lookup.mpr ⟨inbound, isThere, tag, ids⟩
    -- the traffic itself makes the inbound a relevant one
    have relevant : bound.wireguardInboundID ∈ relevantIDs db traffics :=
      List.mem_filterMap.mpr ⟨traffic, member, found⟩
    refine ⟨_, found, (byKey _).mpr ⟨bound, ?_, bindingKey_inj.mpr ⟨rfl, keys⟩, rfl⟩⟩
    rw [collected_eq]
    exact List.mem_filter.mpr ⟨isBound, by simpa using relevant⟩

/-! ## Adding up -/

/-- The traffics of each email. -/
def emailTotals (bound : WireGuardPeerTraffic → Option ClientTraffic) :
    Grouping WireGuardPeerTraffic String ClientTraffic where
  route traffic := (bound traffic).map (·.email)
  create traffic :=
    { inboundID := ((bound traffic).map (·.inboundID)).getD 0, enable := false,
      email := ((bound traffic).map (·.email)).getD "" }
  change traffic total :=
    { total with up := total.up + traffic.up, down := total.down + traffic.down }

section Totals

variable {bound : WireGuardPeerTraffic → Option ClientTraffic}

theorem addPeerTraffic_lookup (map : AList fun _ : String => ClientTraffic)
    (traffic : WireGuardPeerTraffic) :
    (fun email => (addPeerTraffic bound map traffic).lookup email) =
      (emailTotals bound).fill (fun email => map.lookup email) traffic := by
  funext email
  rw [Grouping.fill_apply]
  unfold addPeerTraffic emailTotals
  cases found : bound traffic with
  | none => simp [found]
  | some client =>
    by_cases same : client.email = email
    · subst same
      simp [found, Grouping.settle]
    · simp only [found, Option.map_some, Option.some.injEq, same, if_false]
      exact AList.lookup_insert_ne (Ne.symm same)

theorem foldl_addPeerTraffic_lookup (map : AList fun _ : String => ClientTraffic) (email : String) :
    (traffics.foldl (addPeerTraffic bound) map).lookup email =
      (traffics.filter fun traffic => (bound traffic).map (·.email) = some email).foldl
        (emailTotals bound).settle (map.lookup email) := by
  have filled : (fun email => (traffics.foldl (addPeerTraffic bound) map).lookup email) =
      traffics.foldl (emailTotals bound).fill (fun email => map.lookup email) := by
    induction traffics generalizing map with
    | nil => rfl
    | cons traffic traffics inductionHypothesis =>
      rw [List.foldl_cons, inductionHypothesis, addPeerTraffic_lookup, List.foldl_cons]
  have at_email := congrFun filled email
  rw [Grouping.foldl_fill] at at_email
  exact at_email

/-- Further traffics are added to a total. -/
theorem settle_some (own : List WireGuardPeerTraffic) (total : ClientTraffic) :
    own.foldl (emailTotals bound).settle (some total) =
      some { total with
        up := total.up + (own.map (·.up)).sum, down := total.down + (own.map (·.down)).sum } := by
  induction own generalizing total with
  | nil => simp
  | cons traffic own inductionHypothesis =>
    have settled : (emailTotals bound).settle (some total) traffic =
        some { total with up := total.up + traffic.up, down := total.down + traffic.down } := rfl
    rw [List.foldl_cons, settled, inductionHypothesis]
    simp only [List.map_cons, List.sum_cons, Int.add_assoc]

/-- The total of an email, when there is something to add up. -/
theorem settle_none {own : List WireGuardPeerTraffic}
    (all : ∀ traffic ∈ own, (bound traffic).map (·.email) = some email) {total : ClientTraffic}
    (settled : own.foldl (emailTotals bound).settle none = some total) :
    own ≠ [] ∧ total.email = email ∧ total.up = (own.map (·.up)).sum ∧
      total.down = (own.map (·.down)).sum := by
  cases own with
  | nil => cases settled
  | cons traffic own =>
    have first : (emailTotals bound).settle none traffic =
        some { (emailTotals bound).create traffic with
          up := traffic.up, down := traffic.down } := by
      simp [Grouping.settle, emailTotals]
    rw [List.foldl_cons, first, settle_some] at settled
    cases settled
    have named : ((emailTotals bound).create traffic).email = email := by
      simp [emailTotals, all traffic (by simp)]
    exact ⟨by simp, named, by simp, by simp⟩

end Totals

/-! ## The whole call -/

theorem foldl_addPeerTraffic_none {bound : WireGuardPeerTraffic → Option ClientTraffic}
    (noClient : ∀ traffic ∈ traffics, bound traffic = none)
    (map : AList fun _ : String => ClientTraffic) :
    traffics.foldl (addPeerTraffic bound) map = map := by
  induction traffics generalizing map with
  | nil => rfl
  | cons traffic traffics inductionHypothesis =>
    have unchanged : addPeerTraffic bound map traffic = map := by
      simp [addPeerTraffic, noClient traffic (by simp)]
    rw [List.foldl_cons, unchanged,
      inductionHypothesis fun traffic member => noClient traffic (by simp [member])]

/-- The totals of the call: the early returns have nothing to add up. -/
def totals (clock : Clock) (db : Database) (traffics : List WireGuardPeerTraffic) :
    AList fun _ : String => ClientTraffic :=
  traffics.foldl (addPeerTraffic (clientOf clock db traffics)) ∅

theorem buildVKTurnProxyClientTraffics_eq (clock : Clock) (db : Database)
    (traffics : List WireGuardPeerTraffic) :
    buildVKTurnProxyClientTraffics (fun _ => false) clock db traffics =
      .ok (mapToSlice (totals clock db traffics)) := by
  have unfolded : buildVKTurnProxyClientTraffics (fun _ => false) clock db traffics =
      if traffics = [] then .ok []
      else if wireGuardInbounds db = [] then .ok []
      else if relevantIDs db traffics = [] then .ok []
      else if db.inbounds.rows.filter (·.protocol = .vkTurnProxy) = [] then .ok []
      else if collected clock db traffics = [] then .ok []
      else .ok (mapToSlice (totals clock db traffics)) := rfl
  have early : (∀ traffic ∈ traffics, clientOf clock db traffics traffic = none) →
      (.ok [] : Except String (List ClientTraffic)) =
        .ok (mapToSlice (totals clock db traffics)) := by
    intro noClient
    unfold totals
    rw [foldl_addPeerTraffic_none noClient]
    rfl
  have untagged : relevantIDs db traffics = [] →
      ∀ traffic ∈ traffics, clientOf clock db traffics traffic = none := by
    intro noTag traffic member
    have absent := List.filterMap_eq_nil_iff.mp noTag traffic member
    unfold clientOf boundClient
    rw [absent]
    rfl
  have unbound : collected clock db traffics = [] →
      ∀ traffic ∈ traffics, clientOf clock db traffics traffic = none := by
    intro nothing traffic _
    unfold clientOf boundClient
    rw [nothing]
    cases (inboundIDByTag (wireGuardInbounds db)).lookup traffic.inboundTag <;> rfl
  rw [unfolded]
  split_ifs with noTraffic noInbound noTag noProxy nothing
  · exact early (by simp [noTraffic])
  · refine early (untagged (List.filterMap_eq_nil_iff.mpr fun traffic _ => ?_))
    rw [noInbound]
    rfl
  · exact early (untagged noTag)
  · exact early (unbound (by rw [collected, noProxy]; rfl))
  · exact early (unbound nothing)
  · rfl

theorem totals_lookup {total : ClientTraffic}
    (found : (totals clock db traffics).lookup email = some total) :
    total.email = email ∧
      (∃ traffic ∈ traffics, (clientOf clock db traffics traffic).map (·.email) = some email) ∧
      total.up = ((traffics.filter fun traffic =>
        (clientOf clock db traffics traffic).map (·.email) = some email).map (·.up)).sum ∧
      total.down = ((traffics.filter fun traffic =>
        (clientOf clock db traffics traffic).map (·.email) = some email).map (·.down)).sum := by
  unfold totals at found
  rw [foldl_addPeerTraffic_lookup, AList.lookup_empty] at found
  obtain ⟨some_own, named, up, down⟩ := settle_none
    (fun traffic member => by simpa using (List.mem_filter.mp member).2) found
  obtain ⟨traffic, member⟩ := List.exists_mem_of_ne_nil _ some_own
  obtain ⟨inTraffics, isOwn⟩ := List.mem_filter.mp member
  exact ⟨named, ⟨traffic, inTraffics, by simpa using isOwn⟩, up, down⟩

theorem totals_of_client (member : traffic ∈ traffics)
    (isOwn : (clientOf clock db traffics traffic).map (·.email) = some email) :
    ∃ total, (totals clock db traffics).lookup email = some total := by
  unfold totals
  rw [foldl_addPeerTraffic_lookup, AList.lookup_empty]
  have own : traffic ∈ traffics.filter fun traffic =>
      (clientOf clock db traffics traffic).map (·.email) = some email :=
    List.mem_filter.mpr ⟨member, by simpa using isOwn⟩
  cases split : traffics.filter fun traffic =>
      (clientOf clock db traffics traffic).map (·.email) = some email with
  | nil =>
    rw [split] at own
    cases own
  | cons first rest => exact ⟨_, settle_some rest _⟩

/-- Every value is the total of its own email. -/
theorem mem_totals {total : ClientTraffic} :
    total ∈ mapToSlice (totals clock db traffics) ↔
      (totals clock db traffics).lookup total.email = some total := by
  unfold mapToSlice
  rw [List.mem_map]
  constructor
  · rintro ⟨⟨key, value⟩, member, rfl⟩
    have found := Option.mem_def.mp (AList.mem_lookup_iff.mpr member)
    rw [(totals_lookup found).1]
    exact found
  · intro found
    exact ⟨⟨total.email, total⟩, AList.mem_lookup_iff.mp found, rfl⟩

theorem totals_emails : (mapToSlice (totals clock db traffics)).map (·.email) =
    (totals clock db traffics).keys := by
  unfold mapToSlice AList.keys List.keys
  rw [List.map_map]
  refine List.map_congr_left fun entry member => ?_
  exact (totals_lookup (AList.mem_lookup_iff.mpr member)).1

/-- Each email with a bound peer traffic has one entry, with the sums over the traffics that are
    bound to it, and a bound traffic is bound to one email. -/
theorem buildVKTurnProxyClientTraffics_conserves
    (unique : ((boundClients clock db).map PeerClient.pair).Nodup)
    (traffics : List WireGuardPeerTraffic) :
    ∃ result, buildVKTurnProxyClientTraffics (fun _ => false) clock db traffics = .ok result ∧
      (result.map (·.email)).Nodup ∧
      (∀ email, email ∈ result.map (·.email) ↔
        ∃ traffic ∈ traffics, BoundTo clock db email traffic) ∧
      (∀ total ∈ result,
        total.up = ((traffics.filter (BoundTo clock db total.email)).map (·.up)).sum ∧
        total.down = ((traffics.filter (BoundTo clock db total.email)).map (·.down)).sum) ∧
      ∀ traffic ∈ traffics, (∃ email, BoundTo clock db email traffic) →
        ∃! email, BoundTo clock db email traffic := by
  have bound : ∀ traffic ∈ traffics, ∀ email,
      (clientOf clock db traffics traffic).map (·.email) = some email ↔
        BoundTo clock db email traffic := by
    intro traffic member email
    rw [Option.map_eq_some_iff]
    constructor
    · rintro ⟨client, found, rfl⟩
      obtain ⟨bound, isBound, carries, rfl⟩ := (clientOf_eq_some_iff unique member).mp found
      exact ⟨bound, isBound, rfl, carries⟩
    · rintro ⟨bound, isBound, rfl, carries⟩
      exact ⟨bound.traffic, (clientOf_eq_some_iff unique member).mpr
        ⟨bound, isBound, carries, rfl⟩, rfl⟩
  have filters : ∀ email, traffics.filter (fun traffic =>
        (clientOf clock db traffics traffic).map (·.email) = some email) =
      traffics.filter (BoundTo clock db email) := by
    intro email
    refine List.filter_congr fun traffic member => ?_
    rw [decide_eq_decide]
    exact bound traffic member email
  refine ⟨_, buildVKTurnProxyClientTraffics_eq clock db traffics, ?_, ?_, ?_, ?_⟩
  · rw [totals_emails]
    exact AList.keys_nodup _
  · intro email
    rw [totals_emails, ← AList.mem_keys, ← AList.lookup_isSome, Option.isSome_iff_exists]
    constructor
    · rintro ⟨total, found⟩
      obtain ⟨-, ⟨traffic, member, isOwn⟩, -⟩ := totals_lookup found
      exact ⟨traffic, member, (bound traffic member email).mp isOwn⟩
    · rintro ⟨traffic, member, isBound⟩
      exact totals_of_client member ((bound traffic member email).mpr isBound)
  · intro total member
    obtain ⟨-, -, up, down⟩ := totals_lookup (mem_totals.mp member)
    rw [← filters]
    exact ⟨up, down⟩
  · rintro traffic member ⟨email, isBound⟩
    refine ⟨email, isBound, fun other alsoBound => ?_⟩
    have first := (bound traffic member email).mpr isBound
    have second := (bound traffic member other).mpr alsoBound
    exact Option.some.inj (second.symm.trans first)

/-- Two clients with a peer each, one of them under a key with blanks around it. -/
def twoPeerClients : Database where
  inbounds := ⟨[
    { id := 1, port := 51820, protocol := .wireguard, tag := "wg"
      settings := .wireguard { peers := some [] } },
    { id := 2, port := 56000, protocol := .vkTurnProxy, tag := "vk"
      settings := .vkTurnProxy
        { forward := { type := .wireguardInbound, wireguardInboundID := 1 }
          clients := [
            { id := "phone", email := "phone@example", enable := true, link := "a"
              peerPublicKey := " first " },
            { id := "laptop", email := "laptop@example", enable := true, link := "b"
              peerPublicKey := "second" }] } }], by decide⟩
  clientTraffics := ⟨[], uniqueTraffics_nil⟩
  clientIps := ⟨[], uniqueIps_nil⟩

theorem buildVKTurnProxyClientTraffics_conserves_two :
    let clock : Clock := ⟨1700000000000, "a0b1"⟩
    let traffics : List WireGuardPeerTraffic :=
      [⟨"wg", "first", 1, 20⟩, ⟨"wg", "other", 5, 5⟩, ⟨"wg", "first", 3, 40⟩,
        ⟨"vk", "second", 7, 7⟩]
    ∃ result, buildVKTurnProxyClientTraffics (fun _ => false) clock twoPeerClients traffics =
        .ok result ∧
      (∀ email, email ∈ result.map (·.email) ↔
        ∃ traffic ∈ traffics, BoundTo clock twoPeerClients email traffic) ∧
      ∀ total ∈ result, total.email = "phone@example" → total.up = 4 := by
  intro clock traffics
  have unique : ((boundClients clock twoPeerClients).map PeerClient.pair).Nodup := by
    decide +kernel
  obtain ⟨result, built, -, emails, sums, -⟩ :=
    buildVKTurnProxyClientTraffics_conserves unique traffics
  refine ⟨result, built, emails, fun total member phone => ?_⟩
  have sum := (sums total member).1
  rw [phone] at sum
  have computed : ((traffics.filter (BoundTo clock twoPeerClients "phone@example")).map
      (·.up)).sum = 4 := by
    decide +kernel
  exact sum.trans computed

end VkTurn.Panel
