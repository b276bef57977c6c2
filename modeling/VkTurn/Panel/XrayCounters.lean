import VkTurn.Panel.XrayStats

/-! # Whether the counters are told apart

A counter is read as something else when a pattern matches inside its name, and two counters share
an entry when a map has one key for both.  Neither happens exactly when the names meet three
conditions.
-/

namespace VkTurn.Panel

open VkTurn.Store VkTurn.Text

/-! ## What a name is read as -/

structure Reading where
  counted : Counted
  isDown : Bool
  value : Int
  deriving DecidableEq

def readStat (stat : Stat) : Option Reading :=
  match trafficRegex stat.name with
  | some (kind, tag, link) =>
    some ⟨if kind = "inbound" then .inbound tag else .outbound tag, link = "downlink",
      stat.value⟩
  | none =>
    match clientTrafficRegex stat.name with
    | some (email, link) => some ⟨.user email, link = "downlink", stat.value⟩
    | none =>
      match wireGuardPeerTrafficRegex stat.name with
      | some (tag, publicKey, link) =>
        some ⟨.wireguard tag publicKey, link = "downlink", stat.value⟩
      | none => none

/-- The map and the key of an entry. -/
inductive Slot where
  | tag (key : String)
  | email (key : String)
  | peer (key : String)
  deriving DecidableEq

def Counted.slot : Counted → Option Slot
  | .inbound tag => if tag = "api" then none else some (.tag tag)
  | .outbound tag => if tag = "api" then none else some (.tag tag)
  | .user email => some (.email email)
  | .wireguard tag publicKey => some (.peer (tag ++ "\x00" ++ publicKey))

structure Entry where
  counted : Counted
  up : Int
  down : Int
  deriving DecidableEq

def Entry.set (entry : Entry) (isDown : Bool) (value : Int) : Entry :=
  if isDown then { entry with down := value } else { entry with up := value }

def readings : Grouping Reading Slot Entry where
  route reading := reading.counted.slot
  create reading := ⟨reading.counted, 0, 0⟩
  change reading entry := entry.set reading.isDown reading.value

def Traffic.readEntry (traffic : Traffic) : Entry :=
  ⟨if traffic.isInbound then .inbound traffic.tag else .outbound traffic.tag, traffic.up,
    traffic.down⟩

def ClientTraffic.readEntry (traffic : ClientTraffic) : Entry :=
  ⟨.user traffic.email, traffic.up, traffic.down⟩

def WireGuardPeerTraffic.readEntry (traffic : WireGuardPeerTraffic) : Entry :=
  ⟨.wireguard traffic.inboundTag traffic.publicKey, traffic.up, traffic.down⟩

def TrafficMaps.entry (maps : TrafficMaps) : Slot → Option Entry
  | .tag key => (maps.tags.lookup key).map Traffic.readEntry
  | .email key => (maps.emails.lookup key).map ClientTraffic.readEntry
  | .peer key => (maps.peers.lookup key).map WireGuardPeerTraffic.readEntry

/-! ## The loop fills the maps with what it reads -/

/-- A map that changes at one key to what the reading makes of its entry. -/
theorem fill_of_update {maps after : TrafficMaps} {reading : Reading} {key : Slot}
    (routed : reading.counted.slot = some key)
    (settled : after.entry key = readings.settle (maps.entry key) reading)
    (others : ∀ other, other ≠ key → after.entry other = maps.entry other) :
    after.entry = readings.fill maps.entry reading := by
  funext other
  rw [Grouping.fill_apply]
  have route : readings.route reading = some key := routed
  rw [route]
  by_cases same : other = key
  · subst same
    rw [if_pos rfl, settled]
  · rw [if_neg (by simpa using Ne.symm same), others other same]

theorem processTraffic_entry (maps : TrafficMaps) (kind tag link : String) (value : Int) :
    ({ maps with tags := processTraffic (kind, tag, link) value maps.tags } : TrafficMaps).entry =
      readings.fill maps.entry
        ⟨if kind = "inbound" then .inbound tag else .outbound tag, link = "downlink",
          value⟩ := by
  by_cases isApi : tag = "api"
  · -- the API's own counters are skipped
    have noSlot : (if kind = "inbound" then Counted.inbound tag else .outbound tag).slot =
        none := by
      split <;> simp [Counted.slot, isApi]
    funext slot
    rw [Grouping.fill_apply, if_neg (by simp [readings, noSlot])]
    simp only [processTraffic, if_pos isApi]
  · have hasSlot : (if kind = "inbound" then Counted.inbound tag else .outbound tag).slot =
        some (.tag tag) := by
      split <;> simp [Counted.slot, isApi]
    refine fill_of_update hasSlot ?_ ?_
    · simp only [processTraffic, if_neg isApi, TrafficMaps.entry, AList.lookup_insert,
        Option.map_some, Grouping.settle, readings, Entry.set]
      cases maps.tags.lookup tag with
      | none => by_cases down : link = "downlink" <;> simp [down, Traffic.readEntry]
      | some traffic => by_cases down : link = "downlink" <;> simp [down, Traffic.readEntry]
    · intro other different
      cases other with
      | tag key =>
        have other : key ≠ tag := fun same => different (by rw [same])
        simp only [processTraffic, if_neg isApi, TrafficMaps.entry, AList.lookup_insert_ne other]
      | email key => rfl
      | peer key => rfl

theorem processClientTraffic_entry (maps : TrafficMaps) (email link : String) (value : Int) :
    ({ maps with emails := processClientTraffic (email, link) value maps.emails } :
      TrafficMaps).entry =
      readings.fill maps.entry ⟨.user email, link = "downlink", value⟩ := by
  have hasSlot : (Counted.user email).slot = some (.email email) := rfl
  refine fill_of_update hasSlot ?_ ?_
  · simp only [processClientTraffic, TrafficMaps.entry, AList.lookup_insert, Option.map_some,
      Grouping.settle, readings, Entry.set]
    cases maps.emails.lookup email with
    | none => by_cases down : link = "downlink" <;> simp [down, ClientTraffic.readEntry]
    | some traffic => by_cases down : link = "downlink" <;> simp [down, ClientTraffic.readEntry]
  · intro other different
    cases other with
    | tag key => rfl
    | email key =>
      have other : key ≠ email := fun same => different (by rw [same])
      simp only [processClientTraffic, TrafficMaps.entry, AList.lookup_insert_ne other]
    | peer key => rfl

theorem processWireGuardPeerTraffic_entry (maps : TrafficMaps) (tag publicKey link : String)
    (value : Int) :
    ({ maps with
        peers := processWireGuardPeerTraffic (tag, publicKey, link) value maps.peers } :
      TrafficMaps).entry =
      readings.fill maps.entry ⟨.wireguard tag publicKey, link = "downlink", value⟩ := by
  have hasSlot : (Counted.wireguard tag publicKey).slot =
      some (.peer (tag ++ "\x00" ++ publicKey)) := rfl
  refine fill_of_update hasSlot ?_ ?_
  · simp only [processWireGuardPeerTraffic, TrafficMaps.entry, AList.lookup_insert, Option.map_some,
      Grouping.settle, readings, Entry.set]
    cases maps.peers.lookup (tag ++ "\x00" ++ publicKey) with
    | none => by_cases down : link = "downlink" <;> simp [down, WireGuardPeerTraffic.readEntry]
    | some traffic =>
      by_cases down : link = "downlink" <;> simp [down, WireGuardPeerTraffic.readEntry]
  · intro other different
    cases other with
    | tag key => rfl
    | email key => rfl
    | peer key =>
      have other : key ≠ tag ++ "\x00" ++ publicKey := fun same => different (by rw [same])
      simp only [processWireGuardPeerTraffic, TrafficMaps.entry, AList.lookup_insert_ne other]

/-- A round of the loop, on the maps seen as one. -/
theorem processStat_entry (maps : TrafficMaps) (stat : Stat) :
    (processStat maps stat).entry =
      match readStat stat with
      | some reading => readings.fill maps.entry reading
      | none => maps.entry := by
  unfold processStat readStat
  cases trafficRegex stat.name with
  | some groups => exact processTraffic_entry maps groups.1 groups.2.1 groups.2.2 stat.value
  | none =>
    cases clientTrafficRegex stat.name with
    | some groups => exact processClientTraffic_entry maps groups.1 groups.2 stat.value
    | none =>
      cases wireGuardPeerTrafficRegex stat.name with
      | some groups =>
        exact processWireGuardPeerTraffic_entry maps groups.1 groups.2.1 groups.2.2 stat.value
      | none => rfl

theorem foldl_processStat_entry (maps : TrafficMaps) (stats : List Stat) :
    (stats.foldl processStat maps).entry =
      (stats.filterMap readStat).foldl readings.fill maps.entry := by
  induction stats generalizing maps with
  | nil => rfl
  | cons stat stats inductionHypothesis =>
    rw [List.foldl_cons, inductionHypothesis, processStat_entry, List.filterMap_cons]
    cases readStat stat with
    | none => rfl
    | some reading => rfl

/-! ## How the names are read -/

def bars : List Char := separator '>' 2

/-- The end of every name. -/
def nameEnd (isDown : Bool) : List Char :=
  "traffic".toList ++ bars ++ (if isDown then "downlink" else "uplink").toList

def tagWords : List (List Char) := ["inbound".toList, "outbound".toList]

def userWords : List (List Char) := ["user".toList]

def peerWords : List (List Char) := ["wireguard".toList]

/-- What the patterns take a counter for: they look for the end of a segment, and the tag of a
    WireGuard inbound may end in the word of another kind. -/
def Counted.misread : Counted → Counted
  | .wireguard tag publicKey =>
    match ending tagWords tag.toList with
    | some word =>
      if String.ofList word = "inbound" then .inbound publicKey else .outbound publicKey
    | none =>
      if ending userWords tag.toList = none then .wireguard tag publicKey else .user publicKey
  | counted => counted

section Names

variable {tag name publicKey : String} {isDown : Bool} {words : List (List Char)}

theorem text_toList (counter : CounterName) :
    counter.text.toList =
      (counter.counted.parts.map String.toList).foldr (fun part rest => part ++ bars ++ rest)
        (nameEnd counter.isDown) := by
  have barsText : ">>>".toList = bars := by decide
  have endText : "traffic>>>".toList = "traffic".toList ++ bars := by decide
  unfold CounterName.text
  induction counter.counted.parts with
  | nil =>
    rw [List.foldr_nil, List.map_nil, List.foldr_nil, String.toList_append, endText]
    rfl
  | cons part parts inductionHypothesis =>
    rw [List.foldr_cons, List.map_cons, List.foldr_cons, String.toList_append,
      String.toList_append, inductionHypothesis, barsText]

/-- A counter of one part, and one of two. -/
theorem one_text {counted : Counted} {kind : String} (parts : counted.parts = [kind, name])
    (value : Int) :
    (Counter.stat (⟨counted, isDown⟩, value)).name.toList =
      kind.toList ++ bars ++ (name.toList ++ bars ++ nameEnd isDown) := by
  refine (text_toList ⟨counted, isDown⟩).trans ?_
  rw [parts]
  rfl

theorem two_text {counted : Counted} {kind : String} (parts : counted.parts = [kind, tag, name])
    (value : Int) :
    (Counter.stat (⟨counted, isDown⟩, value)).name.toList =
      kind.toList ++ bars ++ (tag.toList ++ bars ++ (name.toList ++ bars ++ nameEnd isDown)) := by
  refine (text_toList ⟨counted, isDown⟩).trans ?_
  rw [parts]
  rfl

theorem matchLink_link :
    matchLink (if isDown then "downlink" else "uplink").toList =
      some (if isDown then "downlink" else "uplink") := by
  cases isDown <;> decide

theorem link_free : '>' ∉ (if isDown then "downlink" else "uplink").toList := by
  cases isDown <;> decide

/-- Behind its first segment a text matches as the word `traffic` and a direction. -/
theorem matchTraffic_segment {chars segment rest : List Char}
    (cut : segmentOf '>' 2 chars = some (segment, rest)) :
    matchTraffic chars = (("traffic".toList ++ separator '>' 2).isPrefixOf? rest).bind fun rest =>
      (matchLink rest).bind fun link => some (String.ofList segment, link) := by
  unfold matchTraffic
  rw [cut]
  rfl

theorem matchTraffic_name (full : name ≠ "") (free : '>' ∉ name.toList) :
    matchTraffic (name.toList ++ bars ++ nameEnd isDown) =
      some (name, if isDown then "downlink" else "uplink") := by
  have notEmpty : name.toList ≠ [] := by simpa using full
  have behind := @word_at_segment '>' 2 "traffic".toList "traffic".toList
    (if isDown then "downlink" else "uplink").toList (by decide) (by decide)
  rw [if_pos rfl] at behind
  unfold bars nameEnd
  rw [matchTraffic_segment (segmentOf_segment free notEmpty _), bars, behind, Option.bind_some,
    matchLink_link, Option.bind_some, String.ofList_toList]

/-- The end of a name is no traffic of a name. -/
theorem matchTraffic_end : matchTraffic (nameEnd isDown) = none := by
  have cut := @segmentOf_segment '>' 2 "traffic".toList (by decide) (by decide)
    (if isDown then "downlink" else "uplink").toList
  have atEnd := @word_at_end '>' 2 "traffic".toList _ (@link_free isDown)
  unfold nameEnd bars
  rw [matchTraffic_segment cut, atEnd, Option.bind_none]

theorem matchPeerTraffic_segment {chars tagChars rest : List Char} {link : String}
    (cut : segmentOf '>' 2 chars = some (tagChars, rest))
    (matched : matchTraffic rest = some (publicKey, link)) :
    matchPeerTraffic chars = some (String.ofList tagChars, publicKey, link) := by
  unfold matchPeerTraffic
  rw [cut]
  simp only [Option.bind_eq_bind, Option.bind_some, matched]

theorem matchPeerTraffic_name (tagFull : tag ≠ "") (tagFree : '>' ∉ tag.toList)
    (keyFull : publicKey ≠ "") (keyFree : '>' ∉ publicKey.toList) :
    matchPeerTraffic (tag.toList ++ bars ++ (publicKey.toList ++ bars ++ nameEnd isDown)) =
      some (tag, publicKey, if isDown then "downlink" else "uplink") := by
  have notEmpty : tag.toList ≠ [] := by simpa using tagFull
  have cut := @segmentOf_segment '>' 2 tag.toList tagFree notEmpty
    (publicKey.toList ++ bars ++ nameEnd isDown)
  have matched := @matchTraffic_name publicKey isDown keyFull keyFree
  have ofTag := matchPeerTraffic_segment cut matched
  rw [String.ofList_toList] at ofTag
  exact ofTag

/-- Nothing is found behind the name of what is counted. -/
theorem leftmost_name (wordsFree : ∀ word ∈ words, '>' ∉ word) (full : [] ∉ words)
    (noEnd : ending words "traffic".toList = none) (free : '>' ∉ name.toList) :
    leftmost (keyed '>' 2 words matchTraffic) (name.toList ++ bars ++ nameEnd isDown) = none := by
  have trafficFree : '>' ∉ "traffic".toList := by decide
  have last : leftmost (keyed '>' 2 words matchTraffic) (nameEnd isDown) = none := by
    unfold nameEnd bars
    rw [leftmost_segment wordsFree full trafficFree, noEnd, Option.bind_none, Option.none_or,
      leftmost_end link_free]
  rw [bars, leftmost_segment wordsFree full free, matchTraffic_end, last]
  cases ending words name.toList <;> rfl

theorem tagWords_free : ∀ word ∈ tagWords, '>' ∉ word := by decide

theorem userWords_free : ∀ word ∈ userWords, '>' ∉ word := by decide

theorem peerWords_free : ∀ word ∈ peerWords, '>' ∉ word := by decide

/-- A name with one part behind its kind. -/
theorem leftmost_kind {kind : List Char} (wordsFree : ∀ word ∈ words, '>' ∉ word)
    (full : [] ∉ words) (kindFree : '>' ∉ kind) (ends : ending words kind = some kind)
    (nameFull : name ≠ "") (nameFree : '>' ∉ name.toList) :
    leftmost (keyed '>' 2 words matchTraffic)
        (kind ++ bars ++ (name.toList ++ bars ++ nameEnd isDown)) =
      some (kind, name, if isDown then "downlink" else "uplink") :=
  leftmost_found wordsFree full kindFree ends (matchTraffic_name nameFull nameFree)

theorem link_isDown : decide ((if isDown then "downlink" else "uplink") = "downlink") = isDown := by
  cases isDown <;> decide

end Names

section Reads

variable {stat : Stat} {chars kind : List Char} {tag name publicKey link : String}

theorem readStat_traffic (text : stat.name.toList = chars)
    (found : leftmost (keyed '>' 2 tagWords matchTraffic) chars = some (kind, name, link)) :
    readStat stat =
      some ⟨if String.ofList kind = "inbound" then .inbound name else .outbound name,
        link = "downlink", stat.value⟩ := by
  have matched : trafficRegex stat.name = some (String.ofList kind, name, link) := by
    unfold trafficRegex
    rw [text]
    exact congrArg _ found
  unfold readStat
  rw [matched]

theorem readStat_client (text : stat.name.toList = chars)
    (noTraffic : leftmost (keyed '>' 2 tagWords matchTraffic) chars = none)
    (found : leftmost (keyed '>' 2 userWords matchTraffic) chars = some (kind, name, link)) :
    readStat stat = some ⟨.user name, link = "downlink", stat.value⟩ := by
  have unmatched : trafficRegex stat.name = none := by
    unfold trafficRegex
    rw [text]
    exact congrArg _ noTraffic
  have matched : clientTrafficRegex stat.name = some (name, link) := by
    unfold clientTrafficRegex
    rw [text]
    exact congrArg _ found
  unfold readStat
  rw [unmatched, matched]

theorem readStat_peer (text : stat.name.toList = chars)
    (noTraffic : leftmost (keyed '>' 2 tagWords matchTraffic) chars = none)
    (noClient : leftmost (keyed '>' 2 userWords matchTraffic) chars = none)
    (found : leftmost (keyed '>' 2 peerWords matchPeerTraffic) chars =
      some (kind, tag, publicKey, link)) :
    readStat stat = some ⟨.wireguard tag publicKey, link = "downlink", stat.value⟩ := by
  have unmatched : trafficRegex stat.name = none := by
    unfold trafficRegex
    rw [text]
    exact congrArg _ noTraffic
  have noUser : clientTrafficRegex stat.name = none := by
    unfold clientTrafficRegex
    rw [text]
    exact congrArg _ noClient
  have matched : wireGuardPeerTrafficRegex stat.name = some (tag, publicKey, link) := by
    unfold wireGuardPeerTrafficRegex
    rw [text]
    exact congrArg _ found
  unfold readStat
  rw [unmatched, noUser, matched]

end Reads

theorem misread_tagWord {tag publicKey : String} {word : List Char}
    (ends : ending tagWords tag.toList = some word) :
    (Counted.wireguard tag publicKey).misread =
      if String.ofList word = "inbound" then .inbound publicKey else .outbound publicKey := by
  simp only [Counted.misread, ends]

theorem misread_userWord {tag publicKey : String} (noTag : ending tagWords tag.toList = none)
    (ends : ending userWords tag.toList ≠ none) :
    (Counted.wireguard tag publicKey).misread = .user publicKey := by
  simp only [Counted.misread, noTag, if_neg ends]

theorem misread_noWord {tag publicKey : String} (noTag : ending tagWords tag.toList = none)
    (noUser : ending userWords tag.toList = none) :
    (Counted.wireguard tag publicKey).misread = .wireguard tag publicKey := by
  simp only [Counted.misread, noTag, if_pos noUser]

theorem readStat_wireguard {tag publicKey : String} (isDown : Bool) (value : Int)
    (tagFull : tag ≠ "") (tagFree : '>' ∉ tag.toList) (keyFull : publicKey ≠ "")
    (keyFree : '>' ∉ publicKey.toList) :
    readStat (Counter.stat (⟨.wireguard tag publicKey, isDown⟩, value)) =
      some ⟨(Counted.wireguard tag publicKey).misread, isDown, value⟩ := by
  have text := @two_text tag publicKey isDown (.wireguard tag publicKey) "wireguard" rfl value
  have keyTraffic := @matchTraffic_name publicKey isDown keyFull keyFree
  -- behind the kind the search goes on at the tag
  have atTag := @leftmost_skip _ '>' 2 tagWords "wireguard".toList
    (tag.toList ++ bars ++ (publicKey.toList ++ bars ++ nameEnd isDown)) matchTraffic
    tagWords_free (by decide) (by decide) (by decide)
  have userAtTag := @leftmost_skip _ '>' 2 userWords "wireguard".toList
    (tag.toList ++ bars ++ (publicKey.toList ++ bars ++ nameEnd isDown)) matchTraffic
    userWords_free (by decide) (by decide) (by decide)
  cases ends : ending tagWords tag.toList with
  | some word =>
    have found := atTag.trans (leftmost_found tagWords_free (by decide) tagFree ends keyTraffic)
    rw [readStat_traffic text found, link_isDown, misread_tagWord ends]
    rfl
  | none =>
    have noTraffic := (atTag.trans (leftmost_skip tagWords_free (by decide) tagFree ends)).trans
      (@leftmost_name publicKey isDown tagWords tagWords_free (by decide) (by decide) keyFree)
    cases userEnds : ending userWords tag.toList with
    | some word =>
      have found := userAtTag.trans
        (leftmost_found userWords_free (by decide) tagFree userEnds keyTraffic)
      rw [readStat_client text noTraffic found, link_isDown,
        misread_userWord ends (by simp [userEnds])]
      rfl
    | none =>
      have noClient := (userAtTag.trans
        (leftmost_skip userWords_free (by decide) tagFree userEnds)).trans
          (@leftmost_name publicKey isDown userWords userWords_free (by decide) (by decide) keyFree)
      have found := @leftmost_found _ '>' 2 peerWords "wireguard".toList "wireguard".toList
        (tag.toList ++ bars ++ (publicKey.toList ++ bars ++ nameEnd isDown)) matchPeerTraffic
        _ peerWords_free (by decide) (by decide) (by decide)
        (matchPeerTraffic_name tagFull tagFree keyFull keyFree)
      rw [readStat_peer text noTraffic noClient found, link_isDown, misread_noWord ends userEnds]
      rfl

theorem readStat_counter {counter : Counter}
    (wellNamed : ∀ part ∈ counter.1.counted.parts, part ≠ "" ∧ '>' ∉ part.toList) :
    readStat counter.stat =
      some ⟨counter.1.counted.misread, counter.1.isDown, counter.2⟩ := by
  obtain ⟨⟨counted, isDown⟩, value⟩ := counter
  cases counted with
  | inbound tag =>
    have named := wellNamed tag (by simp [Counted.parts])
    have text := @one_text tag isDown (.inbound tag) "inbound" rfl value
    rw [readStat_traffic text (leftmost_kind tagWords_free (by decide) (by decide) (by decide)
      named.1 named.2), link_isDown]
    rfl
  | outbound tag =>
    have named := wellNamed tag (by simp [Counted.parts])
    have text := @one_text tag isDown (.outbound tag) "outbound" rfl value
    rw [readStat_traffic text (leftmost_kind tagWords_free (by decide) (by decide) (by decide)
      named.1 named.2), link_isDown]
    rfl
  | user email =>
    have named := wellNamed email (by simp [Counted.parts])
    have text := @one_text email isDown (.user email) "user" rfl value
    have atEmail := @leftmost_skip _ '>' 2 tagWords "user".toList
      (email.toList ++ bars ++ nameEnd isDown) matchTraffic tagWords_free (by decide) (by decide)
      (by decide)
    have noTraffic := atEmail.trans
      (@leftmost_name email isDown tagWords tagWords_free (by decide) (by decide) named.2)
    rw [readStat_client text noTraffic (leftmost_kind userWords_free (by decide) (by decide)
      (by decide) named.1 named.2), link_isDown]
    rfl
  | wireguard tag publicKey =>
    have tagNamed := wellNamed tag (by simp [Counted.parts])
    have keyNamed := wellNamed publicKey (by simp [Counted.parts])
    exact readStat_wireguard isDown value tagNamed.1 tagNamed.2 keyNamed.1 keyNamed.2

end VkTurn.Panel
