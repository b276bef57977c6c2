import VkTurn.Panel.XrayCounters

/-! # Whether every counter reaches its own entry

Three conditions on the names decide it: no tag is that of an inbound and of an outbound, no tag of
a WireGuard inbound ends in the word of another kind, and the keys of the WireGuard peers differ.
-/

namespace VkTurn.Panel

open VkTurn.Store VkTurn.Text

/-! ## What the claim asks for -/

def Reported (counters : List Counter) (counted : Counted) : Prop :=
  ∃ counter ∈ counters, counter.1.counted = counted

instance (counters : List Counter) (counted : Counted) : Decidable (Reported counters counted) :=
  inferInstanceAs (Decidable (∃ counter ∈ counters, counter.1.counted = counted))

/-- The API's own inbound and outbound. -/
def Counted.isApi (counted : Counted) : Prop :=
  counted = .inbound "api" ∨ counted = .outbound "api"

instance (counted : Counted) : Decidable counted.isApi :=
  inferInstanceAs (Decidable (_ ∨ _))

/-- The value of the counter of a name, nothing being zero. -/
def valueOf (counters : List Counter) (name : CounterName) : Int :=
  ((counters.find? fun counter => counter.1 = name).map Prod.snd).getD 0

abbrev Traffics := List Traffic × List ClientTraffic × List WireGuardPeerTraffic

def entriesOf (traffics : Traffics) : List Entry :=
  traffics.1.map Traffic.readEntry ++ traffics.2.1.map ClientTraffic.readEntry ++
    traffics.2.2.map WireGuardPeerTraffic.readEntry

/-- What is counted has one entry with the values of its own counters, and nothing else has one. -/
def Demultiplexed (counters : List Counter) (traffics : Traffics) : Prop :=
  ∀ counted, ((entriesOf traffics).filter fun entry => entry.counted = counted) =
    if Reported counters counted ∧ ¬ counted.isApi then
      [⟨counted, valueOf counters ⟨counted, false⟩, valueOf counters ⟨counted, true⟩⟩]
    else []

structure ToldApart (counters : List Counter) : Prop where
  kinds : ∀ tag, tag ≠ "api" →
    ¬ (Reported counters (.inbound tag) ∧ Reported counters (.outbound tag))
  endings : ∀ tag publicKey, Reported counters (.wireguard tag publicKey) →
    ∀ word ∈ ["inbound", "outbound", "user"], ¬ word.toList <:+ tag.toList
  keys : ∀ tag publicKey tag' publicKey', Reported counters (.wireguard tag publicKey) →
    Reported counters (.wireguard tag' publicKey') →
    tag ++ "\x00" ++ publicKey = tag' ++ "\x00" ++ publicKey' →
      tag = tag' ∧ publicKey = publicKey'

/-! ## Slots -/

variable {counters : List Counter} {counted other : Counted} {slot : Slot}

theorem slot_eq_none_iff : counted.slot = none ↔ counted.isApi := by
  cases counted <;> simp [Counted.slot, Counted.isApi]

theorem slot_tag_iff {key : String} : counted.slot = some (.tag key) ↔
    key ≠ "api" ∧ (counted = .inbound key ∨ counted = .outbound key) := by
  cases counted with
  | inbound tag => by_cases isApi : tag = "api" <;> simp [Counted.slot, isApi] <;> grind
  | outbound tag => by_cases isApi : tag = "api" <;> simp [Counted.slot, isApi] <;> grind
  | user email => simp [Counted.slot]
  | wireguard tag publicKey => simp [Counted.slot]

theorem slot_email_iff {key : String} :
    counted.slot = some (.email key) ↔ counted = .user key := by
  cases counted with
  | inbound tag => by_cases isApi : tag = "api" <;> simp [Counted.slot, isApi]
  | outbound tag => by_cases isApi : tag = "api" <;> simp [Counted.slot, isApi]
  | user email => simp [Counted.slot]
  | wireguard tag publicKey => simp [Counted.slot]

theorem slot_peer_iff {key : String} : counted.slot = some (.peer key) ↔
    ∃ tag publicKey, counted = .wireguard tag publicKey ∧
      tag ++ "\x00" ++ publicKey = key := by
  cases counted with
  | inbound tag => by_cases isApi : tag = "api" <;> simp [Counted.slot, isApi]
  | outbound tag => by_cases isApi : tag = "api" <;> simp [Counted.slot, isApi]
  | user email => simp [Counted.slot]
  | wireguard tag publicKey => simp [Counted.slot]

/-- Under the conditions a slot is that of one reported thing. -/
theorem ToldApart.of_slot (apart : ToldApart counters) (first : Reported counters counted)
    (second : Reported counters other) (inFirst : counted.slot = some slot)
    (inSecond : other.slot = some slot) : counted = other := by
  cases slot with
  | tag key =>
    obtain ⟨notApi, firstKind⟩ := slot_tag_iff.mp inFirst
    obtain ⟨-, secondKind⟩ := slot_tag_iff.mp inSecond
    rcases firstKind with rfl | rfl <;> rcases secondKind with rfl | rfl
    · rfl
    · exact absurd ⟨first, second⟩ (apart.kinds key notApi)
    · exact absurd ⟨second, first⟩ (apart.kinds key notApi)
    · rfl
  | email key => rw [slot_email_iff.mp inFirst, slot_email_iff.mp inSecond]
  | peer key =>
    obtain ⟨tag, publicKey, rfl, joined⟩ := slot_peer_iff.mp inFirst
    obtain ⟨tag', publicKey', rfl, joined'⟩ := slot_peer_iff.mp inSecond
    obtain ⟨rfl, rfl⟩ := apart.keys tag publicKey tag' publicKey' first second
      (joined.trans joined'.symm)
    rfl

/-! ## The values of the maps -/

/-- Every entry is at the slot of what it is the entry of. -/
def TrafficMaps.Consistent (maps : TrafficMaps) : Prop :=
  ∀ slot entry, maps.entry slot = some entry → entry.counted.slot = some slot

section Family

variable {α : Type} {map : AList fun _ : String => α} {view : α → Entry} {slotOf : String → Slot}

theorem family_filter (consistent : ∀ key entry, (map.lookup key).map view = some entry →
      entry.counted.slot = some (slotOf key))
    (injective : Function.Injective slotOf) {key : String}
    (inFamily : counted.slot = some (slotOf key)) :
    ((mapToSlice map).map view).filter (fun entry => entry.counted = counted) =
      (((map.lookup key).map view).filter fun entry => entry.counted = counted).toList := by
  have only : ∀ other value, map.lookup other = some value →
      decide ((view value).counted = counted) = true → other = key := by
    intro other value found same
    have there := consistent other (view value) (by rw [found, Option.map_some])
    rw [of_decide_eq_true same, inFamily] at there
    exact (injective (Option.some.inj there)).symm
  have filtered := filter_values only
  rw [List.filter_map]
  unfold mapToSlice
  have composed : ((fun entry : Entry => decide (entry.counted = counted)) ∘ view) =
      fun value => decide ((view value).counted = counted) := rfl
  rw [composed, filtered]
  cases map.lookup key with
  | none => rfl
  | some value =>
    by_cases same : (view value).counted = counted <;> simp [Option.filter, same]

theorem other_family_filter (consistent : ∀ key entry, (map.lookup key).map view = some entry →
      entry.counted.slot = some (slotOf key))
    (other : ∀ key, counted.slot ≠ some (slotOf key)) :
    ((mapToSlice map).map view).filter (fun entry => entry.counted = counted) = [] := by
  rw [List.filter_eq_nil_iff]
  intro entry member
  obtain ⟨value, inSlice, rfl⟩ := List.mem_map.mp member
  obtain ⟨⟨key, value'⟩, inMap, same⟩ := List.mem_map.mp inSlice
  subst same
  have found := AList.mem_lookup_iff.mpr inMap
  have there := consistent key (view value') (by rw [Option.mem_def.mp found, Option.map_some])
  simp only [decide_eq_true_eq]
  intro isThis
  exact other key (isThis ▸ there)

end Family

theorem filter_entries {maps : TrafficMaps} (consistent : maps.Consistent) (counted : Counted) :
    ((entriesOf (mapToSlice maps.tags, mapToSlice maps.emails, mapToSlice maps.peers)).filter
        fun entry => entry.counted = counted) =
      ((counted.slot.bind maps.entry).filter fun entry => entry.counted = counted).toList := by
  have tags := fun key entry found => consistent (.tag key) entry found
  have emails := fun key entry found => consistent (.email key) entry found
  have peers := fun key entry found => consistent (.peer key) entry found
  unfold entriesOf
  rw [List.filter_append, List.filter_append]
  cases slotted : counted.slot with
  | none =>
    rw [other_family_filter tags (by simp [slotted]),
      other_family_filter emails (by simp [slotted]),
      other_family_filter peers (by simp [slotted])]
    rfl
  | some slot =>
    cases slot with
    | tag key =>
      rw [family_filter tags (fun a b same => Slot.tag.inj same) slotted,
        other_family_filter emails (by simp [slotted]),
        other_family_filter peers (by simp [slotted]), List.append_nil, List.append_nil]
      rfl
    | email key =>
      rw [other_family_filter tags (by simp [slotted]),
        family_filter emails (fun a b same => Slot.email.inj same) slotted,
        other_family_filter peers (by simp [slotted]), List.nil_append, List.append_nil]
      rfl
    | peer key =>
      rw [other_family_filter tags (by simp [slotted]),
        other_family_filter emails (by simp [slotted]),
        family_filter peers (fun a b same => Slot.peer.inj same) slotted]
      rfl

/-! ## What a run of the loop leaves -/

def readingOf (counter : Counter) : Reading :=
  ⟨counter.1.counted.misread, counter.1.isDown, counter.2⟩

/-- The maps when the loop has gone through the counters. -/
def mapsOf (counters : List Counter) : TrafficMaps :=
  (counters.map Counter.stat).foldl processStat ⟨∅, ∅, ∅⟩

theorem mapsOf_entry (wellNamed : WellNamed counters) (slot : Slot) :
    (mapsOf counters).entry slot =
      ((counters.map readingOf).filter fun reading => readings.route reading = some slot).foldl
        readings.settle none := by
  have empty : (⟨∅, ∅, ∅⟩ : TrafficMaps).entry = fun _ => none := by
    funext slot
    cases slot <;> rfl
  have read : (counters.map Counter.stat).filterMap readStat = counters.map readingOf := by
    rw [List.filterMap_map, ← List.filterMap_eq_map]
    refine List.filterMap_congr fun counter member => ?_
    exact readStat_counter (wellNamed.parts counter member)
  unfold mapsOf
  rw [foldl_processStat_entry, read, empty, Grouping.foldl_fill]

theorem Entry.set_counted (entry : Entry) (isDown : Bool) (value : Int) :
    (entry.set isDown value).counted = entry.counted := by
  unfold Entry.set
  split <;> rfl

/-- An entry is that of something which a counter was read as. -/
theorem mapsOf_read (wellNamed : WellNamed counters) {entry : Entry}
    (found : (mapsOf counters).entry slot = some entry) :
    entry.counted.slot = some slot ∧
      ∃ counter ∈ counters, counter.1.counted.misread = entry.counted := by
  rw [mapsOf_entry wellNamed] at found
  have kept := @Grouping.settled_of_kept Reading Slot Entry readings
    ((counters.map readingOf).filter fun reading => readings.route reading = some slot)
    (fun entry => entry.counted.slot = some slot ∧
      ∃ counter ∈ counters, counter.1.counted.misread = entry.counted)
  refine kept ?_ ?_ (fun value absent => by cases absent) found
  · intro reading member
    simp only [List.mem_filter, List.mem_map, decide_eq_true_eq] at member
    obtain ⟨⟨counter, inCounters, rfl⟩, routed⟩ := member
    have set := Entry.set_counted ⟨(readingOf counter).counted, 0, 0⟩ (readingOf counter).isDown
      (readingOf counter).value
    exact ⟨(congrArg _ set).trans routed, counter, inCounters, set.symm⟩
  · intro reading _ entry ⟨slotted, counter, inCounters, same⟩
    have set := Entry.set_counted entry reading.isDown reading.value
    exact ⟨(congrArg _ set).trans slotted, counter, inCounters, same.trans set.symm⟩

theorem mapsOf_consistent (wellNamed : WellNamed counters) : (mapsOf counters).Consistent :=
  fun _ _ found => (mapsOf_read wellNamed found).1

/-! ## The values of an entry -/

/-- The counters of one thing settle to its values. -/
theorem settle_counters {own : List Counter} (all : ∀ counter ∈ own, counter.1.counted = counted)
    (unique : (own.map Prod.fst).Nodup) :
    (own.map fun counter => (⟨counted, counter.1.isDown, counter.2⟩ : Reading)).foldl
        readings.settle none =
      if own = [] then none
      else some ⟨counted, valueOf own ⟨counted, false⟩, valueOf own ⟨counted, true⟩⟩ := by
  induction own using List.reverseRecOn with
  | nil => rfl
  | append_singleton own counter inductionHypothesis =>
    obtain ⟨⟨this, isDown⟩, value⟩ := counter
    have same : this = counted := all (⟨this, isDown⟩, value) (by simp)
    subst same
    rw [List.map_append, List.nodup_append] at unique
    have earlier := inductionHypothesis
      (fun counter member => all counter (by simp [member])) unique.1
    -- the name is new, so that the values of the other names stay
    have fresh : own.find? (fun counter => counter.1 = ⟨this, isDown⟩) = none := by
      rw [List.find?_eq_none]
      intro counter member same
      have inNames : counter.1 ∈ own.map Prod.fst := List.mem_map_of_mem member
      exact unique.2.2 _ inNames _ (by simp) (of_decide_eq_true same)
    have values : ∀ down, valueOf (own ++ [(⟨this, isDown⟩, value)]) ⟨this, down⟩ =
        if down = isDown then value else valueOf own ⟨this, down⟩ := by
      intro down
      unfold valueOf
      rw [List.find?_append]
      by_cases same : down = isDown
      · subst same
        rw [fresh]
        simp
      · have other : ¬ isDown = down := fun back => same back.symm
        simp [same, other]
    have notEmpty : own ++ [(⟨this, isDown⟩, value)] ≠ [] := by simp
    rw [List.map_append, List.foldl_append, earlier, if_neg notEmpty, values, values]
    unfold valueOf
    cases own with
    | nil => cases isDown <;> rfl
    | cons first rest => cases isDown <;> rfl

/-- The values of a name are those among the counters of what it counts. -/
theorem valueOf_filter (counters : List Counter) (counted : Counted) (isDown : Bool) :
    valueOf (counters.filter fun counter => counter.1.counted = counted) ⟨counted, isDown⟩ =
      valueOf counters ⟨counted, isDown⟩ := by
  unfold valueOf
  rw [List.find?_filter]
  congr 3
  funext counter
  by_cases same : counter.1 = ⟨counted, isDown⟩
  · simp [same]
  · simp [same]

/-! ## Both directions -/

/-- The conditions on the tags keep every reading right. -/
theorem ToldApart.misread (apart : ToldApart counters) (reported : Reported counters counted) :
    counted.misread = counted := by
  cases counted with
  | wireguard tag publicKey =>
    have endings := apart.endings tag publicKey reported
    have noTag : ending tagWords tag.toList = none := by
      rw [ending_eq_none_iff]
      intro word member
      simp only [tagWords, List.mem_cons, List.not_mem_nil, or_false] at member
      rcases member with rfl | rfl
      · exact endings "inbound" (by simp)
      · exact endings "outbound" (by simp)
    have noUser : ending userWords tag.toList = none := by
      rw [ending_eq_none_iff]
      intro word member
      simp only [userWords, List.mem_cons, List.not_mem_nil, or_false] at member
      rw [member]
      exact endings "user" (by simp)
    exact misread_noWord noTag noUser
  | inbound _ | outbound _ | user _ => rfl

/-- What is read as a WireGuard peer is the counter of that peer. -/
theorem misread_wireguard {tag publicKey : String}
    (read : counted.misread = .wireguard tag publicKey) :
    counted = .wireguard tag publicKey ∧
      ∀ word ∈ ["inbound", "outbound", "user"], ¬ word.toList <:+ tag.toList := by
  cases counted with
  | wireguard tag' publicKey' =>
    cases ends : ending tagWords tag'.toList with
    | some word =>
      rw [misread_tagWord ends] at read
      split at read <;> cases read
    | none =>
      cases userEnds : ending userWords tag'.toList with
      | some word =>
        rw [misread_userWord ends (by simp [userEnds])] at read
        cases read
      | none =>
        rw [misread_noWord ends userEnds] at read
        cases read
        rw [ending_eq_none_iff] at ends userEnds
        refine ⟨rfl, fun word member => ?_⟩
        simp only [List.mem_cons, List.not_mem_nil, or_false] at member
        rcases member with rfl | rfl | rfl
        · exact ends _ (by simp [tagWords])
        · exact ends _ (by simp [tagWords])
        · exact userEnds _ (by simp [userWords])
  | inbound _ => cases read
  | outbound _ => cases read
  | user _ => cases read

/-- The result of the loop. -/
def traffics (counters : List Counter) : Traffics :=
  (mapToSlice (mapsOf counters).tags, mapToSlice (mapsOf counters).emails,
    mapToSlice (mapsOf counters).peers)

theorem demultiplexed_of_toldApart (wellNamed : WellNamed counters)
    (apart : ToldApart counters) : Demultiplexed counters (traffics counters) := by
  intro counted
  unfold traffics
  rw [filter_entries (mapsOf_consistent wellNamed)]
  cases slotted : counted.slot with
  | none => simp [slot_eq_none_iff.mp slotted]
  | some slot =>
    have notApi : ¬ counted.isApi := fun isApi => by
      rw [slot_eq_none_iff.mpr isApi] at slotted
      cases slotted
    rw [Option.bind_some]
    by_cases reported : Reported counters counted
    · rw [if_pos ⟨reported, notApi⟩, mapsOf_entry wellNamed]
      -- the readings of the slot are those of the thing's own counters
      have own : ((counters.map readingOf).filter fun reading =>
            readings.route reading = some slot) =
          (counters.filter fun counter => counter.1.counted = counted).map fun counter =>
            ⟨counted, counter.1.isDown, counter.2⟩ := by
        rw [List.filter_map]
        have sameTest : ∀ counter ∈ counters,
            decide (readings.route (readingOf counter) = some slot) =
              decide (counter.1.counted = counted) := by
          intro counter member
          have here : Reported counters counter.1.counted := ⟨counter, member, rfl⟩
          have route : readings.route (readingOf counter) = counter.1.counted.slot :=
            congrArg Counted.slot (apart.misread here)
          rw [route, decide_eq_decide]
          exact ⟨fun there => apart.of_slot here reported there slotted,
            fun same => same ▸ slotted⟩
        have composed : ((fun reading => decide (readings.route reading = some slot)) ∘
            readingOf) = fun counter => decide (readings.route (readingOf counter) = some slot) :=
          rfl
        rw [composed, List.filter_congr sameTest]
        refine List.map_congr_left fun counter member => ?_
        have this : counter.1.counted = counted := by simpa using (List.mem_filter.mp member).2
        unfold readingOf
        rw [apart.misread ⟨counter, (List.mem_filter.mp member).1, rfl⟩, this]
      rw [own, settle_counters (by simp) (wellNamed.unique.sublist (List.filter_sublist.map _)),
        valueOf_filter, valueOf_filter]
      obtain ⟨counter, member, same⟩ := reported
      rw [if_neg (List.ne_nil_of_mem (List.mem_filter.mpr ⟨member, by simpa using same⟩))]
      simp [Option.filter]
    · rw [if_neg fun both => reported both.1]
      cases found : (mapsOf counters).entry slot with
      | none => rfl
      | some entry =>
        obtain ⟨-, counter, member, read⟩ := mapsOf_read wellNamed found
        have here : Reported counters counter.1.counted := ⟨counter, member, rfl⟩
        have other : entry.counted ≠ counted := fun same =>
          reported ⟨counter, member, ((apart.misread here).symm.trans read).trans same⟩
        simp [Option.filter, other]

/-- A reported thing that is shown has the entry of its slot. -/
theorem entry_of_demultiplexed (wellNamed : WellNamed counters)
    (right : Demultiplexed counters (traffics counters)) (reported : Reported counters counted)
    (slotted : counted.slot = some slot) :
    ∃ entry, (mapsOf counters).entry slot = some entry ∧ entry.counted = counted := by
  have notApi : ¬ counted.isApi := fun isApi => by
    rw [slot_eq_none_iff.mpr isApi] at slotted
    cases slotted
  have shown := right counted
  unfold traffics at shown
  rw [filter_entries (mapsOf_consistent wellNamed), slotted, Option.bind_some,
    if_pos ⟨reported, notApi⟩] at shown
  cases found : (mapsOf counters).entry slot with
  | none => simp [found] at shown
  | some entry =>
    refine ⟨entry, rfl, ?_⟩
    by_contra other
    simp [found, Option.filter, other] at shown

theorem toldApart_of_demultiplexed (wellNamed : WellNamed counters)
    (right : Demultiplexed counters (traffics counters)) : ToldApart counters := by
  have shared : ∀ {first second : Counted} {slot : Slot}, Reported counters first →
      Reported counters second → first.slot = some slot → second.slot = some slot →
      first = second := by
    intro first second slot inFirst inSecond firstSlot secondSlot
    obtain ⟨entry, found, rfl⟩ := entry_of_demultiplexed wellNamed right inFirst firstSlot
    obtain ⟨entry', found', rfl⟩ := entry_of_demultiplexed wellNamed right inSecond secondSlot
    rw [Option.some.inj (found.symm.trans found')]
  constructor
  · intro tag notApi ⟨inbound, outbound⟩
    have same := shared inbound outbound (slot_tag_iff.mpr ⟨notApi, .inl rfl⟩)
      (slot_tag_iff.mpr ⟨notApi, .inr rfl⟩)
    cases same
  · intro tag publicKey reported
    obtain ⟨entry, found, same⟩ := entry_of_demultiplexed wellNamed right reported
      (slot_peer_iff.mpr ⟨tag, publicKey, rfl, rfl⟩)
    obtain ⟨-, counter, -, read⟩ := mapsOf_read wellNamed found
    exact (misread_wireguard (read.trans same)).2
  · intro tag publicKey tag' publicKey' first second joined
    have same := shared first second (slot_peer_iff.mpr ⟨tag, publicKey, rfl, rfl⟩)
      (slot_peer_iff.mpr ⟨tag', publicKey', rfl, joined.symm⟩)
    cases same
    exact ⟨rfl, rfl⟩

theorem getTraffic_ok {api : XrayStatsAPI} {reset : Bool} {query : Bool → Except String (List Stat)}
    (client : api.grpcClient = true) (service : api.queryStats = some query)
    (answer : query reset = .ok (counters.map Counter.stat)) :
    getTraffic api reset = .ok (traffics counters) := by
  unfold getTraffic
  rw [if_neg (by simp [client]), service]
  simp only [answer]
  rfl

/-- Every counter reaches its own entry, and no other, exactly under the three conditions. -/
theorem getTraffic_demultiplexes_iff (wellNamed : WellNamed counters) {api : XrayStatsAPI}
    {reset : Bool} {query : Bool → Except String (List Stat)} (client : api.grpcClient = true)
    (service : api.queryStats = some query)
    (answer : query reset = .ok (counters.map Counter.stat)) :
    ∃ result, getTraffic api reset = .ok result ∧
      (Demultiplexed counters result ↔ ToldApart counters) :=
  ⟨traffics counters, getTraffic_ok client service answer,
    toldApart_of_demultiplexed wellNamed, demultiplexed_of_toldApart wellNamed⟩

/-- An inbound, its peer and a user, the counters of the API left out. -/
theorem getTraffic_demultiplexes_peer :
    let counters : List Counter := [(⟨.inbound "wg", true⟩, 5), (⟨.inbound "api", true⟩, 1),
      (⟨.wireguard "wg" "key", true⟩, 4), (⟨.user "a@b", false⟩, 3)]
    ∃ result, getTraffic ⟨true, some fun _ => .ok (counters.map Counter.stat)⟩ true = .ok result ∧
      Demultiplexed counters result := by
  intro counters
  have apart : ToldApart counters := by
    have inbounds : ∀ tag, Reported counters (.outbound tag) → False := by
      rintro tag ⟨counter, member, same⟩
      simp only [counters, List.mem_cons, List.not_mem_nil, or_false] at member
      rcases member with rfl | rfl | rfl | rfl <;> cases same
    have peers : ∀ tag publicKey, Reported counters (.wireguard tag publicKey) →
        tag = "wg" ∧ publicKey = "key" := by
      rintro tag publicKey ⟨counter, member, same⟩
      simp only [counters, List.mem_cons, List.not_mem_nil, or_false] at member
      rcases member with rfl | rfl | rfl | rfl <;> cases same
      exact ⟨rfl, rfl⟩
    constructor
    · exact fun tag _ both => inbounds tag both.2
    · intro tag publicKey reported
      obtain ⟨rfl, -⟩ := peers tag publicKey reported
      decide
    · intro tag publicKey tag' publicKey' first second _
      obtain ⟨rfl, rfl⟩ := peers tag publicKey first
      obtain ⟨rfl, rfl⟩ := peers tag' publicKey' second
      exact ⟨rfl, rfl⟩
  obtain ⟨result, found, exactly⟩ := @getTraffic_demultiplexes_iff counters
    ⟨by decide, by decide⟩ ⟨true, some fun _ => .ok (counters.map Counter.stat)⟩ true _ rfl rfl rfl
  exact ⟨result, found, exactly.mpr apart⟩

/-- The outbound of a tag that an inbound has too gets no entry, and its value is the inbound's. -/
theorem getTraffic_shares_tag :
    let counters : List Counter := [(⟨.inbound "proxy", true⟩, 5), (⟨.outbound "proxy", true⟩, 7)]
    WellNamed counters ∧
      getTraffic ⟨true, some fun _ => .ok (counters.map Counter.stat)⟩ true =
        .ok ([⟨true, "proxy", 0, 7⟩], [], []) ∧
      ¬ Demultiplexed counters ([⟨true, "proxy", 0, 7⟩], [], []) := by
  refine ⟨⟨by decide +kernel, by decide +kernel⟩, by decide +kernel, fun right => ?_⟩
  have outbound := right (.outbound "proxy")
  revert outbound
  decide +kernel

end VkTurn.Panel
