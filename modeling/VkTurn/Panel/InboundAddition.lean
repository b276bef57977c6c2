import VkTurn.Panel.ClientRecords
import VkTurn.Panel.PeerValidity
import VkTurn.Panel.UniqueBindings

/-! # What `AddInbound` stores of VK TURN settings

The clients of new settings are written again as clients of Xray, which have no links and no peer,
so that these are lost.  The rest of the settings comes back as it was read.
-/

namespace VkTurn.Panel

open VkTurn.Store
open VkTurn.Text (roundFloat64 throughFloat64)

/-! ## What has to come back -/

def untimed (client : VKTurnProxyClient) : VKTurnProxyClient :=
  { client with createdAt := 0, updatedAt := 0 }

/-- The same settings up to the timestamps of the clients. -/
structure SameUpToTimes (reread parsed : VKTurnProxySettings) : Prop where
  own : reread = { parsed with clients := reread.clients }
  clients : reread.clients.map untimed = parsed.clients.map untimed

/-- A client without the fields that Xray's clients do not have. -/
structure Plain (client : VKTurnProxyClient) : Prop where
  link : client.link = ""
  links : client.links = []
  linkSecondary : client.linkSecondary = ""
  peerPublicKey : client.peerPublicKey = ""
  peerManaged : client.peerManaged = false
  peer : client.peer = none

/-- The time can be read back from JSON, as every real time can. -/
def Timely (clock : Clock) : Prop := ∃ reread, rereadNumber clock.now = .ok reread

theorem untimed_asModelClient {clock : Clock} {client : VKTurnProxyClient} :
    untimed (asModelClient clock client) = untimed client ↔ Plain client := by
  cases client
  simp only [untimed, asModelClient, VKTurnProxyClient.mk.injEq, true_and]
  constructor
  · rintro ⟨link, links, linkSecondary, peerPublicKey, peerManaged, peer⟩
    exact ⟨link.symm, links.symm, linkSecondary.symm, peerPublicKey.symm, peerManaged.symm,
      peer.symm⟩
  · rintro ⟨link, links, linkSecondary, peerPublicKey, peerManaged, peer⟩
    exact ⟨link.symm, links.symm, linkSecondary.symm, peerPublicKey.symm, peerManaged.symm,
      peer.symm⟩

/-! ## Numbers that were read before -/

/-- A number that a float64 holds. -/
def Exact (number : Int) : Prop := rereadNumber number = .ok number

theorem exact_of_reread {number reread : Int} (passed : rereadNumber number = .ok reread) :
    Exact reread :=
  rereadNumber_idem passed

theorem Exact.round {number : Int} (exact : Exact number) : roundFloat64 number = number := by
  unfold Exact rereadNumber at exact
  cases kept : throughFloat64 number with
  | none =>
    rw [kept] at exact
    cases exact
  | some reread =>
    rw [kept] at exact
    unfold throughFloat64 at kept
    dsimp only at kept
    split at kept
    · exact (Option.some.inj kept).trans (Except.ok.inj exact)
    · cases kept

structure ExactOwn (settings : VKTurnProxySettings) : Prop where
  wireguardInboundID : Exact settings.forward.wireguardInboundID
  port : Exact settings.forward.port
  wgMTU : Exact settings.wgMTU
  threads : Exact settings.threads
  credsGroupSize : Exact settings.credsGroupSize

structure ExactClient (client : VKTurnProxyClient) : Prop where
  limitIP : Exact client.limitIP
  totalGB : Exact client.totalGB
  expiryTime : Exact client.expiryTime
  tgID : Exact client.tgID
  reset : Exact client.reset

section Exactness

variable {settings decoded : VKTurnProxySettings} {client result : VKTurnProxyClient}

theorem ExactOwn.round (exact : ExactOwn settings) : roundOwnNumbers settings = settings := by
  unfold roundOwnNumbers
  rw [exact.wireguardInboundID.round, exact.port.round, exact.wgMTU.round, exact.threads.round,
    exact.credsGroupSize.round]

theorem ExactOwn.reread (exact : ExactOwn settings) : rereadOwnNumbers settings = .ok settings := by
  have one : rereadNumber settings.forward.wireguardInboundID =
    .ok settings.forward.wireguardInboundID := exact.wireguardInboundID
  have two : rereadNumber settings.forward.port = .ok settings.forward.port := exact.port
  have three : rereadNumber settings.wgMTU = .ok settings.wgMTU := exact.wgMTU
  have four : rereadNumber settings.threads = .ok settings.threads := exact.threads
  have five : rereadNumber settings.credsGroupSize = .ok settings.credsGroupSize :=
    exact.credsGroupSize
  unfold rereadOwnNumbers
  rw [one, two, three, four, five]
  rfl

theorem exactOwn_of_reread (passed : rereadOwnNumbers settings = .ok decoded) :
    ExactOwn decoded := by
  simp only [rereadOwnNumbers, bind_eq_ok, pure_eq_ok] at passed
  obtain ⟨_, one, _, two, _, three, _, four, _, five, rfl⟩ := passed
  exact ⟨exact_of_reread one, exact_of_reread two, exact_of_reread three, exact_of_reread four,
    exact_of_reread five⟩

/-- The times of a client that was read before. -/
theorem exactClient_of_reread (passed : rereadClient client = .ok result) :
    ExactClient result ∧ Exact result.createdAt := by
  simp only [rereadClient, bind_eq_ok, pure_eq_ok] at passed
  obtain ⟨_, one, _, two, _, three, _, four, _, five, _, six, _, _, _, _, rfl⟩ := passed
  exact ⟨⟨exact_of_reread one, exact_of_reread two, exact_of_reread three, exact_of_reread four,
    exact_of_reread five⟩, exact_of_reread six⟩

/-- A client as it is stored can be read back as soon as its times can. -/
theorem reread_asModelClient {clock : Clock} (exact : ExactClient client) {created updated : Int}
    (isCreated : rereadNumber (asModelClient clock client).createdAt = .ok created)
    (isUpdated : rereadNumber clock.now = .ok updated) :
    rereadClient (asModelClient clock client) =
      .ok { asModelClient clock client with createdAt := created, updatedAt := updated } := by
  have one : rereadNumber (asModelClient clock client).limitIP = .ok client.limitIP :=
    exact.limitIP
  have two : rereadNumber (asModelClient clock client).totalGB = .ok client.totalGB :=
    exact.totalGB
  have three : rereadNumber (asModelClient clock client).expiryTime = .ok client.expiryTime :=
    exact.expiryTime
  have four : rereadNumber (asModelClient clock client).tgID = .ok client.tgID := exact.tgID
  have five : rereadNumber (asModelClient clock client).reset = .ok client.reset := exact.reset
  have six : rereadNumber (asModelClient clock client).updatedAt = .ok updated := isUpdated
  unfold rereadClient
  rw [one, two, three, four, five, isCreated, six]
  rfl

theorem updated_of_reread_asModelClient {clock : Clock}
    (passed : rereadClient (asModelClient clock client) = .ok result) : Timely clock := by
  simp only [rereadClient, bind_eq_ok, pure_eq_ok] at passed
  obtain ⟨_, _, _, _, _, _, _, _, _, _, _, _, updated, isUpdated, -⟩ := passed
  exact ⟨updated, isUpdated⟩

end Exactness

/-! ## Reading twice -/

theorem mapM_of_forall {Value Result Part : Type} {read : Value → Except String Result}
    {part : Result → Part} {image : Value → Part} {values : List Value}
    (reads : ∀ value ∈ values, ∃ result, read value = .ok result ∧ part result = image value) :
    ∃ results, values.mapM read = .ok results ∧ results.map part = values.map image := by
  induction values with
  | nil => exact ⟨[], rfl, rfl⟩
  | cons head tail inductionHypothesis =>
    obtain ⟨first, isFirst, sameFirst⟩ := reads head List.mem_cons_self
    obtain ⟨rest, isRest, sameRest⟩ := inductionHypothesis fun value member =>
      reads value (List.mem_cons_of_mem _ member)
    refine ⟨first :: rest, ?_, ?_⟩
    · rw [List.mapM_cons, isFirst, isRest]
      rfl
    · rw [List.map_cons, List.map_cons, sameFirst, sameRest]

section Reading

variable {clock later : Clock} {raw : Settings} {parsed decoded : VKTurnProxySettings}
  {client : VKTurnProxyClient}

theorem decoded_exact (isDecoded : decodeVKTurnProxySettings raw = .ok decoded)
    (hasClients : decoded.clients ≠ []) :
    ExactOwn decoded ∧ ∀ client ∈ decoded.clients, ExactClient client ∧ Exact client.createdAt := by
  cases raw with
  | vkTurnProxy stored =>
    have passed : sanitizeVKTurnProxySettingsJSON stored = .ok decoded := isDecoded
    by_cases noClients : stored.clients = []
    · rw [sanitizeVKTurnProxySettingsJSON, if_pos noClients] at passed
      cases passed
      exact absurd noClients hasClients
    · rw [sanitizeVKTurnProxySettingsJSON, if_neg noClients] at passed
      obtain ⟨own, isOwn, passed⟩ := bind_eq_ok.mp passed
      obtain ⟨clients, isClients, passed⟩ := bind_eq_ok.mp passed
      cases pure_eq_ok.mp passed
      obtain ⟨one, two, three, four, five⟩ := exactOwn_of_reread isOwn
      exact ⟨⟨one, two, three, four, five⟩,
        forall_of_mapM_eq_ok (fun _ _ => exactClient_of_reread) isClients⟩
  | wireguard stored =>
    cases isDecoded
    exact absurd rfl hasClients
  | clients stored =>
    cases isDecoded
    exact absurd rfl hasClients
  | text stored =>
    simp only [decodeVKTurnProxySettings] at isDecoded
    split at isDecoded
    · cases isDecoded
      exact absurd rfl hasClients
    · cases isDecoded

/-- Settings that were normalized, and of these the ones that keep their clients' times. -/
theorem parsed_exact (read : getVKTurnProxySettings clock raw = .ok parsed)
    (hasClients : parsed.clients ≠ []) (timely : Timely clock) :
    ExactOwn parsed ∧ ∀ client ∈ parsed.clients, ExactClient client ∧
      ∃ created, rereadNumber (asModelClient clock client).createdAt = .ok created := by
  obtain ⟨decoded, isDecoded, rfl⟩ := getVKTurnProxySettings_eq_ok.mp read
  have decodedClients : decoded.clients ≠ [] := by
    intro none
    exact hasClients (by simp [normalizeVKTurnProxySettings, none])
  obtain ⟨own, clients⟩ := decoded_exact isDecoded decodedClients
  refine ⟨⟨own.wireguardInboundID, own.port, ?_, own.threads, own.credsGroupSize⟩, ?_⟩
  · show Exact (if decoded.wgMTU = 0 then 1280 else decoded.wgMTU)
    split
    · unfold Exact
      decide
    · exact own.wgMTU
  · intro client member
    obtain ⟨before, inDecoded, rfl⟩ := List.mem_map.mp member
    obtain ⟨exact, exactTime⟩ := clients before inDecoded
    refine ⟨⟨exact.limitIP, exact.totalGB, exact.expiryTime, exact.tgID, exact.reset⟩, ?_⟩
    -- the time of creation is either the client's own or that of the call
    unfold asModelClient
    dsimp only
    split
    · exact timely
    · unfold normalizeVKTurnProxyClient
      dsimp only
      split
      · exact timely
      · exact ⟨_, exactTime⟩

theorem default_idem {Value : Type} [DecidableEq Value] {value empty default : Value}
    (notEmpty : default ≠ empty) :
    (if (if value = empty then default else value) = empty then default
      else if value = empty then default else value) =
      if value = empty then default else value := by
  by_cases isEmpty : value = empty
  · simp [isEmpty, notEmpty]
  · simp [isEmpty]

/-- Normalizing again changes the clients alone. -/
theorem normalize_twice (clients : List VKTurnProxyClient) :
    normalizeVKTurnProxySettings later
        { normalizeVKTurnProxySettings clock decoded with clients } =
      { normalizeVKTurnProxySettings clock decoded with
        clients := clients.map (normalizeVKTurnProxyClient later) } := by
  unfold normalizeVKTurnProxySettings
  simp only [VKTurnProxySettings.mk.injEq, and_true, true_and]
  refine ⟨default_idem (by decide), default_idem (by decide), default_idem (by decide),
    default_idem (by decide), default_idem (by decide)⟩

theorem untimed_normalize (named : client.id ≠ "") :
    untimed (normalizeVKTurnProxyClient later client) = untimed client := by
  unfold untimed normalizeVKTurnProxyClient
  simp [named]

/-- Without clients the settings come back as they are. -/
theorem read_stored_noClients (read : getVKTurnProxySettings clock raw = .ok parsed)
    (noClients : parsed.clients = []) :
    getVKTurnProxySettings later (withTimestamps clock (.vkTurnProxy parsed)) = .ok parsed := by
  obtain ⟨decoded, -, rfl⟩ := getVKTurnProxySettings_eq_ok.mp read
  have stored : withTimestamps clock (.vkTurnProxy (normalizeVKTurnProxySettings clock decoded)) =
      .vkTurnProxy (normalizeVKTurnProxySettings clock decoded) := if_pos noClients
  refine getVKTurnProxySettings_eq_ok.mpr ⟨normalizeVKTurnProxySettings clock decoded, ?_, ?_⟩
  · rw [stored]
    exact if_pos noClients
  · have again := @normalize_twice clock later decoded
      (normalizeVKTurnProxySettings clock decoded).clients
    rw [noClients, List.map_nil] at again
    conv_rhs at again => rw [← noClients]
    conv_lhs at again => rw [← noClients]
    exact again

theorem withTimestamps_clients (hasClients : parsed.clients ≠ []) :
    withTimestamps clock (.vkTurnProxy parsed) = .vkTurnProxy { roundOwnNumbers parsed with
      clients := parsed.clients.map (asModelClient clock) } :=
  if_neg hasClients

/-- With clients, what comes back of each is what a client of Xray has of it. -/
theorem read_stored (read : getVKTurnProxySettings clock raw = .ok parsed)
    (hasClients : parsed.clients ≠ []) (named : ∀ client ∈ parsed.clients, client.id ≠ "")
    (timely : Timely clock) :
    ∃ reread, getVKTurnProxySettings later (withTimestamps clock (.vkTurnProxy parsed)) =
        .ok reread ∧
      reread = { parsed with clients := reread.clients } ∧
      reread.clients.map untimed =
        parsed.clients.map fun client => untimed (asModelClient clock client) := by
  obtain ⟨own, clients⟩ := parsed_exact read hasClients timely
  obtain ⟨results, isRead, sameClients⟩ :
      ∃ results, parsed.clients.mapM (rereadClient ∘ asModelClient clock) = .ok results ∧
        results.map (fun result => untimed (normalizeVKTurnProxyClient later result)) =
          parsed.clients.map fun client => untimed (asModelClient clock client) := by
    refine mapM_of_forall fun client member => ?_
    obtain ⟨exact, created, isCreated⟩ := clients client member
    obtain ⟨updated, isUpdated⟩ := timely
    refine ⟨_, reread_asModelClient exact isCreated isUpdated, ?_⟩
    exact @untimed_normalize later { asModelClient clock client with
      createdAt := created, updatedAt := updated } (named client member)
  obtain ⟨decoded, -, rfl⟩ := getVKTurnProxySettings_eq_ok.mp read
  generalize isParsed : normalizeVKTurnProxySettings clock decoded = parsed at *
  have stored : withTimestamps clock (.vkTurnProxy parsed) = .vkTurnProxy
      { parsed with clients := parsed.clients.map (asModelClient clock) } := by
    rw [withTimestamps_clients hasClients, own.round]
  have storedOwn : ExactOwn { parsed with clients := parsed.clients.map (asModelClient clock) } :=
    ⟨own.wireguardInboundID, own.port, own.wgMTU, own.threads, own.credsGroupSize⟩
  have sanitized : sanitizeVKTurnProxySettingsJSON
      { parsed with clients := parsed.clients.map (asModelClient clock) } =
        .ok { parsed with clients := results } := by
    unfold sanitizeVKTurnProxySettingsJSON
    rw [if_neg (by simpa using hasClients), storedOwn.reread]
    refine bind_eq_ok.mpr ⟨_, rfl, bind_eq_ok.mpr ⟨results, ?_, rfl⟩⟩
    rw [List.mapM_map]
    exact isRead
  refine ⟨{ parsed with clients := results.map (normalizeVKTurnProxyClient later) }, ?_, rfl, ?_⟩
  · rw [stored]
    refine getVKTurnProxySettings_eq_ok.mpr ⟨_, sanitized, ?_⟩
    rw [← isParsed]
    exact normalize_twice results
  · rw [List.map_map]
    exact sameClients

/-- Clients are read back only with their times. -/
theorem timely_of_read_stored {reread : VKTurnProxySettings} (hasClients : parsed.clients ≠ [])
    (read : getVKTurnProxySettings later (withTimestamps clock (.vkTurnProxy parsed)) =
      .ok reread) : Timely clock := by
  obtain ⟨decoded, isDecoded, -⟩ := getVKTurnProxySettings_eq_ok.mp read
  rw [withTimestamps_clients hasClients] at isDecoded
  have passed : sanitizeVKTurnProxySettingsJSON { roundOwnNumbers parsed with
      clients := parsed.clients.map (asModelClient clock) } = .ok decoded := isDecoded
  unfold sanitizeVKTurnProxySettingsJSON at passed
  rw [if_neg (by simpa using hasClients)] at passed
  obtain ⟨own, isOwn, passed⟩ := bind_eq_ok.mp passed
  obtain ⟨clients, isClients, -⟩ := bind_eq_ok.mp passed
  rw [(rereadOwnNumbers_keeps isOwn).1, List.mapM_map] at isClients
  obtain ⟨client, rest, split⟩ := List.exists_cons_of_ne_nil hasClients
  obtain ⟨result, -, isResult⟩ := exists_of_mapM_eq_ok isClients
    (show client ∈ parsed.clients from split ▸ List.mem_cons_self)
  exact updated_of_reread_asModelClient isResult

end Reading

/-! ## The call -/

section Call

variable {library : Library} {faults : InboundSite → Bool} {clock : Clock} {newID : Int}
  {requested inbound row : Inbound} {clients : List Client} {clientStats : List ClientTraffic}
  {db next : Database} {parsed : VKTurnProxySettings}

/-- What the call stores is what it checked. -/
theorem addInbound_row
    (added : addInbound library faults clock newID requested clientStats db = (.ok (), next))
    (stored : row ∈ next.inbounds.rows) (new : row ∉ db.inbounds.rows) :
    ∃ inbound clients, checkedInbound library faults clock db requested = .ok (inbound, clients) ∧
      row.settings = inbound.settings := by
  have ensured : Ensures (addInbound library faults clock newID requested clientStats) db
      (fun _ after => ∀ row ∈ after.inbounds.rows, row ∉ db.inbounds.rows →
        ∃ inbound clients,
          checkedInbound library faults clock db requested = .ok (inbound, clients) ∧
            row.settings = inbound.settings) (fun _ => True) := by
    refine Ensures.bind (Ensures.query (fun ⟨inbound, clients⟩ checked => ?_) trivial)
    refine Ensures.uncheckedTransaction (fun after ran => ?_) trivial
    split
    · exact fun row member isNew => absurd member isNew
    · intro row member isNew
      refine ⟨inbound, clients, checked, ?_⟩
      obtain ⟨written, numbered, ran⟩ := bind_eq_ok.mp ran
      obtain ⟨-, sameSettings⟩ := withID_eq_ok numbered
      obtain ⟨saved, isSaved, ran⟩ := bind_eq_ok.mp ran
      cases pure_eq_ok.mp ran
      obtain ⟨upserted, isUpserted, stats⟩ := bind_eq_ok.mp (attempt_eq_ok.mp isSaved).2
      -- the traffic rows leave the inbounds as they are
      have savedRows : saved.inbounds = upserted.inbounds :=
        foldlM_keeps (·.inbounds = upserted.inbounds)
          (fun _ _ _ _ same created => (createTraffic_inbounds created).trans same) rfl stats
      have sameRows : ∀ after : Database, after.inbounds = upserted.inbounds →
          row ∈ after.inbounds.rows → row.settings = inbound.settings := by
        intro after same inAfter
        rw [same, (upsertInbound_eq_ok.mp isUpserted).1] at inAfter
        rcases mem_upsertRow inAfter with rfl | ⟨inBefore, -⟩
        · exact sameSettings
        · exact absurd inBefore isNew
      split at member
      · exact sameRows _ ((addClientStats_inbounds faults saved written.id clients).trans
          savedRows) member
      · exact sameRows saved savedRows member
  unfold Ensures at ensured
  rw [added] at ensured
  exact ensured row stored new

/-- The settings that the call stores, and that their clients have ids. -/
theorem checkedInbound_stores (isVKTurn : requested.protocol = .vkTurnProxy)
    (read : getVKTurnProxySettings clock requested.settings = .ok parsed)
    (checked : checkedInbound library faults clock db requested = .ok (inbound, clients)) :
    inbound.settings = withTimestamps clock (.vkTurnProxy parsed) ∧
      ∀ client ∈ parsed.clients, client.id ≠ "" := by
  obtain ⟨_, _, checked⟩ := bind_eq_ok.mp checked
  obtain ⟨_, checked⟩ := refuse_eq_ok.mp checked
  obtain ⟨written, isWritten, checked⟩ := bind_eq_ok.mp checked
  obtain ⟨_, _, checked⟩ := bind_eq_ok.mp checked
  obtain ⟨_, checked⟩ := refuse_eq_ok.mp checked
  obtain ⟨clients, isClients, checked⟩ := bind_eq_ok.mp checked
  obtain ⟨_, secured, checked⟩ := bind_eq_ok.mp checked
  cases pure_eq_ok.mp checked
  unfold checkedSettings at isWritten
  rw [if_pos isVKTurn, read] at isWritten
  obtain ⟨_, isParsed, isWritten⟩ := bind_eq_ok.mp isWritten
  cases isParsed
  obtain ⟨_, -, isWritten⟩ := bind_eq_ok.mp isWritten
  cases pure_eq_ok.mp isWritten
  refine ⟨rfl, fun client member empty => ?_⟩
  have isClient : toModelClient client ∈ clients := by
    rw [getClients_eq_ok isClients]
    exact List.mem_map_of_mem member
  have keyed : clientKey requested.protocol (toModelClient client) = "" := by
    rw [isVKTurn]
    exact empty
  unfold secureClients at secured
  rw [if_pos (List.any_eq_true.mpr ⟨_, isClient, by simpa using keyed⟩)] at secured
  cases secured

/-- The stored row gives the settings back exactly when there is no client, or the clients have
    nothing that a client of Xray does not have. -/
theorem addInbound_faithful_iff (isVKTurn : requested.protocol = .vkTurnProxy)
    (read : getVKTurnProxySettings clock requested.settings = .ok parsed)
    (added : addInbound library faults clock newID requested clientStats db = (.ok (), next))
    (stored : row ∈ next.inbounds.rows) (new : row ∉ db.inbounds.rows) :
    (∀ later, ∃ reread, getVKTurnProxySettings later row.settings = .ok reread ∧
        SameUpToTimes reread parsed) ↔
      parsed.clients = [] ∨ Timely clock ∧ ∀ client ∈ parsed.clients, Plain client := by
  obtain ⟨inbound, clients, checked, sameSettings⟩ := addInbound_row added stored new
  obtain ⟨isStored, named⟩ := checkedInbound_stores isVKTurn read checked
  rw [sameSettings, isStored]
  by_cases noClients : parsed.clients = []
  · refine iff_of_true (fun later => ?_) (.inl noClients)
    exact ⟨parsed, read_stored_noClients read noClients, rfl, rfl⟩
  · simp only [noClients, false_or]
    constructor
    · intro faithful
      obtain ⟨reread, isRead, -, sameClients⟩ := faithful clock
      have timely := timely_of_read_stored noClients isRead
      obtain ⟨other, isOther, -, asStored⟩ :=
        @read_stored clock clock _ _ read noClients named timely
      rw [isRead] at isOther
      cases isOther
      refine ⟨timely, fun client member => (@untimed_asModelClient clock client).mp ?_⟩
      exact List.map_inj_left.mp (asStored.symm.trans sameClients) client member
    · rintro ⟨timely, plain⟩ later
      obtain ⟨reread, isRead, own, asStored⟩ :=
        @read_stored clock later _ _ read noClients named timely
      refine ⟨reread, isRead, own, asStored.trans ?_⟩
      exact List.map_congr_left fun client member =>
        untimed_asModelClient.mpr (plain client member)

end Call

/-! ## A client with a link -/

def noon : Clock := ⟨1700000000000, "a0b1"⟩

/-- A request for a VK TURN inbound with one client, forwarding to the peers of `onePeer`. -/
def clientInbound (client : VKTurnProxyClient) : Inbound where
  id := 0
  port := 56001
  protocol := .vkTurnProxy
  tag := "inbound-56001"
  settings := .vkTurnProxy
    { forward := { type := .wireguardInbound, wireguardInboundID := 1 }, clients := [client] }

def linkedPhone : VKTurnProxyClient where
  id := "phone"
  email := "a@example"
  enable := true
  link := "https://vk.com/call/join/a"
  peerPublicKey := "key"

def bareTablet : VKTurnProxyClient where
  id := "tablet"
  email := "b@example"
  enable := true
  totalGB := 5
  link := ""
  peerPublicKey := ""

/-- What reading the settings of a request gives. -/
def readClientInbound (client : VKTurnProxyClient) : VKTurnProxySettings :=
  normalizeVKTurnProxySettings noon
    { forward := { type := .wireguardInbound, wireguardInboundID := 1 }, clients := [client] }

/-- The row that the call leaves. -/
def storedClientInbound (client : VKTurnProxyClient) : Inbound :=
  { clientInbound client with
    id := 3
    settings := withTimestamps noon (.vkTurnProxy (readClientInbound client)) }

theorem addInbound_faithful_tablet :
    ∃ next, addInbound lowerCase (fun _ => false) noon 3 (clientInbound bareTablet) [] onePeer =
        (.ok (), next) ∧
      ∀ later, ∃ reread,
        getVKTurnProxySettings later (storedClientInbound bareTablet).settings = .ok reread ∧
          SameUpToTimes reread (readClientInbound bareTablet) := by
  obtain ⟨next, added, stored⟩ : ∃ next, addInbound lowerCase (fun _ => false) noon 3
      (clientInbound bareTablet) [] onePeer = (.ok (), next) ∧
        storedClientInbound bareTablet ∈ next.inbounds.rows := ⟨_, rfl, by decide +kernel⟩
  have plain : ∀ client ∈ (readClientInbound bareTablet).clients, Plain client := by
    intro client member
    cases List.mem_singleton.mp member
    exact ⟨rfl, rfl, rfl, rfl, rfl, rfl⟩
  have timely : Timely noon := ⟨1700000000000, by decide +kernel⟩
  exact ⟨next, added, (addInbound_faithful_iff rfl (by decide +kernel) added stored
    (by decide +kernel)).mpr (.inr ⟨timely, plain⟩)⟩

/-- The client is stored without its link and its key. -/
theorem addInbound_drops_link :
    ¬ ∀ (library : Library) (faults : InboundSite → Bool) (clock : Clock) (newID : Int)
      (requested row : Inbound) (clientStats : List ClientTraffic) (db next : Database)
      (parsed : VKTurnProxySettings),
      requested.protocol = .vkTurnProxy →
        getVKTurnProxySettings clock requested.settings = .ok parsed →
        addInbound library faults clock newID requested clientStats db = (.ok (), next) →
        row ∈ next.inbounds.rows → row ∉ db.inbounds.rows →
          ∀ later, ∃ reread, getVKTurnProxySettings later row.settings = .ok reread ∧
            SameUpToTimes reread parsed := by
  intro claim
  obtain ⟨next, added, stored⟩ : ∃ next, addInbound lowerCase (fun _ => false) noon 3
      (clientInbound linkedPhone) [] onePeer = (.ok (), next) ∧
        storedClientInbound linkedPhone ∈ next.inbounds.rows := ⟨_, rfl, by decide +kernel⟩
  obtain ⟨reread, isRead, same⟩ := claim _ _ _ _ _ _ _ _ _ (readClientInbound linkedPhone) rfl
    (by decide +kernel) added stored (by decide +kernel) noon
  have lost : (getVKTurnProxySettings noon (storedClientInbound linkedPhone).settings).map
      (·.clients.map (·.link)) = .ok [""] := by decide +kernel
  rw [isRead] at lost
  have links := congrArg (List.map (·.link)) same.clients
  rw [List.map_map, List.map_map] at links
  have isEmpty : [linkedPhone.link] = [""] := links.symm.trans (Except.ok.inj lost)
  exact absurd isEmpty (by decide)

end VkTurn.Panel
