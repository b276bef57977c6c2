import Mathlib.Tactic.Linarith
import Mathlib.Tactic.Ring
import VkTurn.Panel.QuotaEnforcement
import VkTurn.Panel.TrafficRenewal

/-! # Renewal and expiry

What `autoRenewClients` makes of a database, in closed form, and whether the clients that it renews
are still enabled after the pass that disables the expired ones.  The loop of the renewal stops at
an expiry time that is not before the clock, and the other pass takes one that is not after it.
-/

namespace VkTurn.Panel

open VkTurn.Store

/-! ## Periods -/

section Periods

variable {now step expiryTime : Int} {fuel : Nat}

/-- The loop adds whole periods, and stops as soon as it can. -/
theorem renewedExpiryTime_steps (positive : 0 < step) (enough : now - expiryTime ≤ fuel) :
    ∃ k : Nat, renewedExpiryTime now step fuel expiryTime = expiryTime + k * step ∧
      now ≤ expiryTime + k * step ∧ ∀ j : Nat, now ≤ expiryTime + j * step → k ≤ j := by
  induction fuel generalizing expiryTime with
  | zero => exact ⟨0, by simp [renewedExpiryTime], by simpa using enough, fun j _ => Nat.zero_le j⟩
  | succ fuel inductionHypothesis =>
    unfold renewedExpiryTime
    by_cases before : expiryTime < now
    · rw [if_pos before]
      obtain ⟨k, same, reaches, least⟩ := @inductionHypothesis (expiryTime + step) (by omega)
      have shift (j : Nat) : expiryTime + ((j + 1 : Nat) : Int) * step =
          expiryTime + step + j * step := by
        push_cast
        ring
      refine ⟨k + 1, by rw [shift]; exact same, by rw [shift]; exact reaches, fun j later => ?_⟩
      cases j with
      | zero => simp at later; omega
      | succ j =>
        rw [shift] at later
        have := least j later
        omega
    · rw [if_neg before]
      exact ⟨0, by simp, by simpa using before, fun j _ => Nat.zero_le j⟩

end Periods

/-- The smallest expiry time after the clock that is a number of periods after the row's. -/
def FirstLater (now : Int) (row : ClientTraffic) (expiryTime : Int) : Prop :=
  ∃ k : Nat, expiryTime = row.expiryTime + k * (row.reset * 86400000) ∧ now < expiryTime ∧
    ∀ j : Nat, now < row.expiryTime + j * (row.reset * 86400000) →
      expiryTime ≤ row.expiryTime + j * (row.reset * 86400000)

/-- What a due row has. -/
structure Due (now : Int) (row : ClientTraffic) : Prop where
  resets : 0 < row.reset
  expires : 0 < row.expiryTime
  reached : row.expiryTime ≤ now

section Next

variable {now : Int} {row : ClientTraffic}

theorem mem_dueTraffics {db : Database} :
    row ∈ dueTraffics now db ↔ row ∈ db.clientTraffics.rows ∧ Due now row := by
  unfold dueTraffics
  rw [List.mem_filter]
  refine and_congr_right fun _ => ?_
  rw [decide_eq_true_iff]
  exact ⟨fun ⟨resets, expires, reached⟩ => ⟨resets, expires, reached⟩,
    fun due => ⟨due.resets, due.expires, due.reached⟩⟩

theorem nextExpiryTime_steps (resets : 0 < row.reset) :
    ∃ k : Nat, nextExpiryTime now row = row.expiryTime + k * (row.reset * 86400000) ∧
      now ≤ row.expiryTime + k * (row.reset * 86400000) ∧
      ∀ j : Nat, now ≤ row.expiryTime + j * (row.reset * 86400000) → k ≤ j := by
  unfold nextExpiryTime
  exact renewedExpiryTime_steps (by omega) (by omega)

theorem le_nextExpiryTime (resets : 0 < row.reset) : now ≤ nextExpiryTime now row := by
  obtain ⟨k, same, reaches, _⟩ := @nextExpiryTime_steps now row resets
  omega

/-- A row that was renewed is not moved again. -/
theorem nextExpiryTime_again {expiryTime : Int} (later : now ≤ expiryTime) :
    nextExpiryTime now { row with expiryTime } = expiryTime := by
  unfold nextExpiryTime
  have noFuel : (now - expiryTime).toNat = 0 := by omega
  simp only [noFuel, renewedExpiryTime]

/-- The loop gives what it should exactly when the clock does not meet the end of a period. -/
theorem firstLater_nextExpiryTime (due : Due now row) :
    FirstLater now row (nextExpiryTime now row) ↔
      ¬ row.reset * 86400000 ∣ now - row.expiryTime := by
  obtain ⟨k, same, reaches, least⟩ := @nextExpiryTime_steps now row due.resets
  have positive : 0 < row.reset * 86400000 := by
    have := due.resets
    omega
  constructor
  · rintro ⟨_, _, later, _⟩ ⟨m, multiple⟩
    have notNegative : 0 ≤ m := by
      by_contra negative
      have := due.reached
      nlinarith
    obtain ⟨j, isNat⟩ := Int.eq_ofNat_of_zero_le notNegative
    have meets : row.expiryTime + j * (row.reset * 86400000) = now := by
      rw [← isNat]
      linarith
    have fewer := least j (by omega)
    have ordered : (k : Int) * (row.reset * 86400000) ≤ j * (row.reset * 86400000) :=
      Int.mul_le_mul_of_nonneg_right (by exact_mod_cast fewer) (by omega)
    omega
  · intro apart
    have notNow : row.expiryTime + k * (row.reset * 86400000) ≠ now := by
      intro meets
      exact apart ⟨k, by linarith⟩
    refine ⟨k, same, by omega, fun j later => ?_⟩
    have fewer := least j (by omega)
    have ordered : (k : Int) * (row.reset * 86400000) ≤ j * (row.reset * 86400000) :=
      Int.mul_le_mul_of_nonneg_right (by exact_mod_cast fewer) (by omega)
    omega

theorem not_firstLater_of_reached {expiryTime : Int} (reached : expiryTime ≤ now) :
    ¬ FirstLater now row expiryTime := by
  rintro ⟨_, _, later, _⟩
  omega

end Next

/-! ## The renewing pass -/

def renewedRow (now : Int) (row : ClientTraffic) : ClientTraffic :=
  { row with expiryTime := nextExpiryTime now row, up := 0, down := 0, enable := true }

/-- A row in memory once the clients of some emails were visited. -/
def visitedRow (now : Int) (emails : List String) (row : ClientTraffic) : ClientTraffic :=
  if row.email ∈ emails then renewedRow now row else row

def visitedRows (now : Int) (due : List ClientTraffic) (emails : List String) :
    List ClientTraffic :=
  due.map (visitedRow now emails)

/-- A client after its visit. -/
def renewClient {Record : Type} (now : Int) (due : List ClientTraffic)
    (fields : ClientFields Record) (client : Record) : Record :=
  match due.find? (·.email = fields.email client) with
  | none => client
  | some row => fields.withExpiryTime (nextExpiryTime now row) client

/-- What the pass knows after it met some emails. -/
def VisitedEmails (due : List ClientTraffic) (before after met : List String) : Prop :=
  ∀ email, email ∈ after ↔ email ∈ before ∨ (email ∈ due.map (·.email) ∧ email ∈ met)

section Pass

variable {now : Int} {due : List ClientTraffic} {emails : List String} {Record : Type}
  {fields : ClientFields Record}

theorem VisitedEmails.refl : VisitedEmails due emails emails [] := by
  intro email
  simp

theorem VisitedEmails.trans {middle after first second : List String}
    (before : VisitedEmails due emails middle first)
    (next : VisitedEmails due middle after second) :
    VisitedEmails due emails after (first ++ second) := by
  intro email
  rw [next email, before email, List.mem_append]
  tauto

@[simp] theorem visitedRow_email {row : ClientTraffic} :
    (visitedRow now emails row).email = row.email := by
  unfold visitedRow
  split
  · rfl
  · rfl

theorem visitedRows_nil : visitedRows now due [] = due := by
  unfold visitedRows visitedRow
  simp

theorem nextExpiryTime_visited {row : ClientTraffic} (resets : 0 < row.reset) :
    nextExpiryTime now (visitedRow now emails row) = nextExpiryTime now row := by
  unfold visitedRow
  split
  · exact @nextExpiryTime_again now row _ (le_nextExpiryTime resets)
  · rfl

theorem renewedRow_visited {row : ClientTraffic} :
    { visitedRow now emails row with
      expiryTime := nextExpiryTime now row, up := 0, down := 0, enable := true } =
      renewedRow now row := by
  unfold visitedRow
  split
  · rfl
  · rfl

theorem find?_visitedRows (email : String) :
    (visitedRows now due emails).find? (·.email = email) =
      (due.find? (·.email = email)).map (visitedRow now emails) := by
  unfold visitedRows
  rw [List.find?_map]
  have sameEmail : ((fun row : ClientTraffic => decide (row.email = email)) ∘
      visitedRow now emails) = fun row => decide (row.email = email) := by
    funext row
    dsimp only [Function.comp_apply]
    rw [visitedRow_email]
  rw [sameEmail]

/-- The row of the client that is visited is renewed, once more or for the first time. -/
theorem found_visitedRows (unique : (due.map (·.email)).Nodup) {row : ClientTraffic}
    (member : row ∈ due) :
    (renewPass now).found ⟨visitedRows now due emails, emails⟩ (visitedRow now emails row)
        (nextExpiryTime now row) =
      ⟨visitedRows now due (emails ++ [row.email]), emails ++ [row.email]⟩ := by
  unfold ClientPass.found visitedRows
  rw [visitedRow_email, List.map_map]
  congr 1
  refine List.map_congr_left fun other inDue => ?_
  dsimp only [Function.comp_apply]
  rw [visitedRow_email]
  by_cases same : other.email = row.email
  · have sameRow : other = row := List.inj_on_of_nodup_map unique inDue member same
    subst sameRow
    rw [if_pos rfl]
    refine renewedRow_visited.trans ?_
    unfold visitedRow
    rw [if_pos (List.mem_append_right _ List.mem_cons_self)]
  · rw [if_neg same]
    unfold visitedRow
    have sameMember : other.email ∈ emails ++ [row.email] ↔ other.email ∈ emails := by simp [same]
    simp only [sameMember]

theorem renewPass_visits (unique : (due.map (·.email)).Nodup) (resets : ∀ row ∈ due, 0 < row.reset)
    (client : Record) :
    ∃ next, (renewPass now).visit fields ⟨visitedRows now due emails, emails⟩ client =
        some (⟨visitedRows now due next, next⟩, renewClient now due fields client) ∧
      VisitedEmails due emails next [fields.email client] := by
  unfold ClientPass.visit renewClient
  have selectsAll : (fun row : ClientTraffic => decide ((renewPass now).selects row = true ∧
      row.email = fields.email client)) = fun row => decide (row.email = fields.email client) := by
    funext row
    simp [renewPass]
  rw [selectsAll, find?_visitedRows]
  cases isFound : due.find? (·.email = fields.email client) with
  | none =>
    refine ⟨emails, rfl, fun email => ?_⟩
    have absent : fields.email client ∉ due.map (·.email) := by
      intro member
      obtain ⟨row, inDue, same⟩ := List.mem_map.mp member
      simpa [same] using List.find?_eq_none.mp isFound row inDue
    simp only [List.mem_singleton]
    constructor
    · exact .inl
    · rintro (isVisited | ⟨inDue, rfl⟩)
      · exact isVisited
      · exact absurd inDue absent
  | some row =>
    have member := List.mem_of_find?_eq_some isFound
    have same : row.email = fields.email client := by simpa using List.find?_some isFound
    refine ⟨emails ++ [row.email], ?_, fun email => ?_⟩
    · dsimp only [Option.map_some]
      have next : (renewPass now).expiryTime
          (visitedRow now emails row) (fields.expiryTime? client) =
            some (nextExpiryTime now row) :=
        congrArg some (nextExpiryTime_visited (resets row member))
      rw [next]
      simp only [Option.map_some, found_visitedRows unique member]
    · rw [List.mem_append, List.mem_singleton, List.mem_singleton, same]
      constructor
      · rintro (isVisited | rfl)
        · exact .inl isVisited
        · exact .inr ⟨List.mem_map.mpr ⟨row, member, same⟩, rfl⟩
      · rintro (isVisited | ⟨_, rfl⟩)
        · exact .inl isVisited
        · exact .inr rfl

theorem renewPass_visitsAll (unique : (due.map (·.email)).Nodup)
    (resets : ∀ row ∈ due, 0 < row.reset) (clients : List Record) :
    ∃ next, (renewPass now).visitAll fields ⟨visitedRows now due emails, emails⟩ clients =
        some (⟨visitedRows now due next, next⟩, clients.map (renewClient now due fields)) ∧
      VisitedEmails due emails next (clients.map fields.email) := by
  induction clients generalizing emails with
  | nil => exact ⟨emails, rfl, VisitedEmails.refl⟩
  | cons client rest inductionHypothesis =>
    obtain ⟨middle, first, metFirst⟩ :=
      @renewPass_visits now due emails _ fields unique resets client
    obtain ⟨next, others, metOthers⟩ := @inductionHypothesis middle
    refine ⟨next, ?_, metFirst.trans metOthers⟩
    unfold ClientPass.visitAll
    rw [first]
    dsimp only [Option.bind_eq_bind, Option.bind_some]
    rw [others]
    rfl

end Pass

/-! ## The clients of settings -/

/-- The clients that settings list, with all that is stored of them. -/
def clientEntries : Settings → List (VKTurnProxyClient ⊕ Client)
  | .vkTurnProxy settings => settings.clients.map .inl
  | .clients clients => clients.map .inr
  | .wireguard _ => []
  | .text _ => []

def storedEmail : VKTurnProxyClient ⊕ Client → String := Sum.elim (·.email) (·.email)

def storedExpiryTime : VKTurnProxyClient ⊕ Client → Int := Sum.elim (·.expiryTime) (·.expiryTime)

/-- A client whose numbers passed through a float64. -/
def roundStored : VKTurnProxyClient ⊕ Client → VKTurnProxyClient ⊕ Client :=
  Sum.map roundVKTurnProxyClient roundClient

def renewStored (now : Int) (due : List ClientTraffic) :
    VKTurnProxyClient ⊕ Client → VKTurnProxyClient ⊕ Client :=
  Sum.map (renewClient now due vkTurnProxyClientFields) (renewClient now due clientFields)

/-- The clients of an inbound after the pass. -/
def renewedClients (now : Int) (due : List ClientTraffic) (settings : Settings) :
    List (VKTurnProxyClient ⊕ Client) :=
  (clientEntries settings).map fun client => renewStored now due (roundStored client)

section Clients

variable {now : Int} {due : List ClientTraffic} {emails : List String}

theorem storedEmail_round (client : VKTurnProxyClient ⊕ Client) :
    storedEmail (roundStored client) = storedEmail client := by
  cases client with
  | inl client => rfl
  | inr client => rfl

theorem renewClient_email {Record : Type} {fields : ClientFields Record}
    (sameEmail : ∀ expiryTime client,
      fields.email (fields.withExpiryTime expiryTime client) = fields.email client)
    (client : Record) : fields.email (renewClient now due fields client) = fields.email client := by
  unfold renewClient
  cases due.find? (·.email = fields.email client) with
  | none => rfl
  | some row => exact sameEmail _ _

theorem storedEmail_renew (client : VKTurnProxyClient ⊕ Client) :
    storedEmail (renewStored now due client) = storedEmail client := by
  cases client with
  | inl client => exact @renewClient_email now due _ vkTurnProxyClientFields (fun _ _ => rfl) client
  | inr client => exact @renewClient_email now due _ clientFields (fun _ _ => rfl) client

/-- A client that is due gets the expiry time of its row. -/
theorem storedExpiryTime_renew {client : VKTurnProxyClient ⊕ Client} {row : ClientTraffic}
    (isFound : due.find? (·.email = storedEmail client) = some row) :
    storedExpiryTime (renewStored now due client) = nextExpiryTime now row := by
  cases client with
  | inl client =>
    have same : due.find? (·.email = vkTurnProxyClientFields.email client) = some row := isFound
    simp only [renewStored, Sum.map_inl, renewClient, same]
    rfl
  | inr client =>
    have same : due.find? (·.email = clientFields.email client) = some row := isFound
    simp only [renewStored, Sum.map_inr, renewClient, same]
    rfl

/-- A client that is not due stays as it is. -/
theorem renewStored_of_not_due {client : VKTurnProxyClient ⊕ Client}
    (absent : storedEmail client ∉ due.map (·.email)) : renewStored now due client = client := by
  have notFound : due.find? (·.email = storedEmail client) = none := by
    rw [List.find?_eq_none]
    intro row member same
    exact absent (List.mem_map.mpr ⟨row, member, by simpa using same⟩)
  cases client with
  | inl client =>
    have same : due.find? (·.email = vkTurnProxyClientFields.email client) = none := notFound
    simp only [renewStored, Sum.map_inl, renewClient, same]
  | inr client =>
    have same : due.find? (·.email = clientFields.email client) = none := notFound
    simp only [renewStored, Sum.map_inr, renewClient, same]

theorem clientList_eq_some {settings : Settings} {met : List String}
    (hasList : clientList settings = some met) :
    met = (clientEntries settings).map storedEmail := by
  cases settings with
  | vkTurnProxy settings =>
    unfold clientList at hasList
    dsimp only at hasList
    split at hasList
    · cases hasList
    · cases hasList
      simp [clientEntries, storedEmail]
  | wireguard settings => cases hasList
  | clients clients =>
    cases hasList
    simp [clientEntries, storedEmail]
  | text text => cases hasList

theorem clientEntries_rewriteUntyped (settings : Settings) :
    clientEntries (rewriteUntyped settings) = (clientEntries settings).map roundStored := by
  cases settings with
  | vkTurnProxy settings =>
    unfold rewriteUntyped
    by_cases empty : settings.clients = []
    · simp [clientEntries, empty]
    · simp [clientEntries, empty, roundStored]
  | wireguard settings => rfl
  | clients clients => simp [rewriteUntyped, clientEntries, roundStored]
  | text text => rfl

theorem renewPass_visitsSettings (unique : (due.map (·.email)).Nodup)
    (resets : ∀ row ∈ due, 0 < row.reset) {settings : Settings} {met : List String}
    (hasList : clientList settings = some met) :
    ∃ next after, (renewPass now).visitSettings ⟨visitedRows now due emails, emails⟩ settings =
        some (⟨visitedRows now due next, next⟩, after) ∧
      clientEntries after = renewedClients now due settings ∧
      VisitedEmails due emails next met := by
  have twice : renewedClients now due settings =
      (clientEntries (rewriteUntyped settings)).map (renewStored now due) := by
    rw [clientEntries_rewriteUntyped, List.map_map]
    rfl
  rw [← clientList_rewriteUntyped] at hasList
  rw [twice]
  unfold ClientPass.visitSettings
  cases rewritten : rewriteUntyped settings with
  | vkTurnProxy settings =>
    rw [rewritten] at hasList
    unfold clientList at hasList
    dsimp only at hasList ⊢
    split at hasList
    · cases hasList
    · rename_i notEmpty
      cases hasList
      rw [if_neg notEmpty]
      obtain ⟨next, ran, isMet⟩ := @renewPass_visitsAll now due emails _ vkTurnProxyClientFields
        unique resets settings.clients
      refine ⟨next, _, by rw [ran]; rfl, ?_, isMet⟩
      simp [clientEntries, renewStored, renewPass]
  | wireguard settings =>
    rw [rewritten] at hasList
    cases hasList
  | clients clients =>
    rw [rewritten] at hasList
    cases hasList
    dsimp only
    by_cases empty : clients = []
    · subst empty
      exact ⟨emails, _, rfl, rfl, VisitedEmails.refl⟩
    · rw [if_neg empty]
      obtain ⟨next, ran, isMet⟩ := @renewPass_visitsAll now due emails _ clientFields unique resets
        clients
      refine ⟨next, _, by rw [ran]; rfl, ?_, isMet⟩
      simp [clientEntries, renewStored]
  | text text =>
    rw [rewritten] at hasList
    cases hasList

/-- The inbounds before and after the pass, each with its counterpart. -/
structure Counterparts (now : Int) (due : List ClientTraffic) (inbounds after : List Inbound) :
    Prop where
  of_after : ∀ other ∈ after, ∃ inbound ∈ inbounds, inbound.id = other.id ∧
    clientEntries other.settings = renewedClients now due inbound.settings
  of_before : ∀ inbound ∈ inbounds, ∃ other ∈ after, inbound.id = other.id

theorem renewPass_visitsInbounds (unique : (due.map (·.email)).Nodup)
    (resets : ∀ row ∈ due, 0 < row.reset) {inbounds : List Inbound}
    (hasLists : ∀ inbound ∈ inbounds, clientList inbound.settings ≠ none) :
    ∃ next after, (renewPass now).visitInbounds ⟨visitedRows now due emails, emails⟩ inbounds =
        some (⟨visitedRows now due next, next⟩, after) ∧
      Counterparts now due inbounds after ∧
      VisitedEmails due emails next (inbounds.flatMap fun inbound =>
        (clientList inbound.settings).getD []) := by
  induction inbounds generalizing emails with
  | nil => exact ⟨emails, [], rfl, ⟨by simp, by simp⟩, VisitedEmails.refl⟩
  | cons inbound rest inductionHypothesis =>
    obtain ⟨met, hasList⟩ := Option.ne_none_iff_exists'.mp (hasLists inbound List.mem_cons_self)
    obtain ⟨middle, settings, first, clients, metFirst⟩ :=
      @renewPass_visitsSettings now due emails unique resets _ _ hasList
    obtain ⟨next, others, ran, pairs, metOthers⟩ := @inductionHypothesis middle fun other inRest =>
      hasLists other (List.mem_cons_of_mem _ inRest)
    refine ⟨next, { inbound with settings } :: others, ?_, ⟨?_, ?_⟩, ?_⟩
    · unfold ClientPass.visitInbounds
      rw [first]
      dsimp only [Option.bind_eq_bind, Option.bind_some]
      rw [ran]
      rfl
    · intro other member
      rcases List.mem_cons.mp member with rfl | inOthers
      · exact ⟨inbound, List.mem_cons_self, rfl, clients⟩
      · obtain ⟨before, inRest, same⟩ := pairs.of_after other inOthers
        exact ⟨before, List.mem_cons_of_mem _ inRest, same⟩
    · intro before member
      rcases List.mem_cons.mp member with rfl | inRest
      · exact ⟨_, List.mem_cons_self, rfl⟩
      · obtain ⟨other, inOthers, same⟩ := pairs.of_before before inRest
        exact ⟨other, List.mem_cons_of_mem _ inOthers, same⟩
    · rw [List.flatMap_cons, hasList]
      exact metFirst.trans metOthers

end Clients

/-! ## The database that the renewal leaves -/

/-- The tables after a renewal that met some emails. -/
structure RenewedTables (now : Int) (db after : Database) (emails : List String) : Prop where
  rows : after.clientTraffics.rows = db.clientTraffics.rows.map fun row =>
    if row ∈ dueTraffics now db then visitedRow now emails row else row
  ids : after.inbounds.rows.map (·.id) = db.inbounds.rows.map (·.id)
  inbounds : ∀ inbound ∈ db.inbounds.rows, ∃ other ∈ after.inbounds.rows, other.id = inbound.id ∧
    clientEntries other.settings =
      if inbound ∈ inboundsOf db (dueTraffics now db) then
        renewedClients now (dueTraffics now db) inbound.settings
      else clientEntries inbound.settings
  emails : ∀ email, email ∈ emails ↔ Renewable now db email

section Tables

variable {now : Int} {db : Database} {emails : List String} {after : List Inbound}

theorem due_unique (now : Int) (db : Database) : ((dueTraffics now db).map (·.email)).Nodup :=
  db.clientTraffics.valid.sublist (List.filter_sublist.map _)

theorem saveSettings_renewed
    (pairs : Counterparts now (dueTraffics now db) (inboundsOf db (dueTraffics now db)) after) :
    ∀ inbound ∈ db.inbounds.rows, ∃ other ∈ (db.saveSettings after).inbounds.rows,
      other.id = inbound.id ∧ clientEntries other.settings =
        if inbound ∈ inboundsOf db (dueTraffics now db) then
          renewedClients now (dueTraffics now db) inbound.settings
        else clientEntries inbound.settings := by
  intro inbound stored
  refine ⟨_, List.mem_map_of_mem stored, rfl, ?_⟩
  have same {other : Inbound} (selected : other ∈ inboundsOf db (dueTraffics now db))
      (sameID : other.id = inbound.id) : other = inbound :=
    List.inj_on_of_nodup_map db.inbounds.valid.1 (List.mem_filter.mp selected).1 stored sameID
  cases isFound : after.find? (·.id = inbound.id) with
  | none =>
    have notSelected : inbound ∉ inboundsOf db (dueTraffics now db) := by
      intro selected
      obtain ⟨other, inAfter, sameID⟩ := pairs.of_before inbound selected
      simpa [sameID] using List.find?_eq_none.mp isFound other inAfter
    simp [notSelected]
  | some other =>
    have sameID : other.id = inbound.id := by simpa using List.find?_some isFound
    obtain ⟨before, selected, isBefore, clients⟩ := pairs.of_after other
      (List.mem_of_find?_eq_some isFound)
    have isInbound := same selected (isBefore.trans sameID)
    subst isInbound
    rw [if_pos selected, ← clients]
    rfl

theorem saveTraffics_renewed {middle : Database}
    (sameTraffics : middle.clientTraffics = db.clientTraffics) :
    (middle.saveTraffics (visitedRows now (dueTraffics now db) emails)).clientTraffics.rows =
      db.clientTraffics.rows.map fun row =>
        if row ∈ dueTraffics now db then visitedRow now emails row else row := by
  unfold Database.saveTraffics Database.mapTraffics
  dsimp only
  rw [sameTraffics]
  refine List.map_congr_left fun row stored => ?_
  rw [find?_visitedRows]
  cases isFound : (dueTraffics now db).find? (·.email = row.email) with
  | none =>
    have notDue : row ∉ dueTraffics now db := by
      intro isDue
      simpa using List.find?_eq_none.mp isFound row isDue
    simp [notDue]
  | some other =>
    have same : other.email = row.email := by simpa using List.find?_some isFound
    have isDue := List.mem_of_find?_eq_some isFound
    have sameRow : other = row := List.inj_on_of_nodup_map db.clientTraffics.valid
      (List.mem_filter.mp isDue).1 stored same
    subst sameRow
    simp [isDue]

/-! ## How the renewal ends when no statement fails -/

def noFaults : TrafficSite → Bool := fun _ => false

theorem autoRenewClients_idle (idle : dueTraffics now db = []) :
    autoRenewClients noFaults now db = (.done, db, {}) := by
  unfold autoRenewClients
  simp only [noFaults, idle, Bool.false_eq_true, if_false, if_true]

/-- There is no inbound to save. -/
theorem autoRenewClients_orphans (isDue : dueTraffics now db ≠ [])
    (orphans : inboundsOf db (dueTraffics now db) = []) :
    autoRenewClients noFaults now db = (.failed, db, {}) := by
  unfold autoRenewClients
  simp only [noFaults, isDue, orphans, ClientPass.visitInbounds, Bool.false_eq_true, if_false,
    true_or, if_true]

theorem mapInbounds_ids {update : Inbound → Inbound}
    {sameKeys : ∀ inbound, (update inbound).id = inbound.id ∧ (update inbound).tag = inbound.tag} :
    (db.mapInbounds update sameKeys).inbounds.rows.map (·.id) = db.inbounds.rows.map (·.id) := by
  unfold Database.mapInbounds
  rw [List.map_map]
  exact List.map_congr_left fun inbound _ => (sameKeys inbound).1

theorem autoRenewClients_renews (isDue : dueTraffics now db ≠ [])
    (selects : inboundsOf db (dueTraffics now db) ≠ [])
    (hasLists : ∀ inbound ∈ inboundsOf db (dueTraffics now db),
      clientList inbound.settings ≠ none) :
    ∃ next emails renewal, autoRenewClients noFaults now db = (.done, next, renewal) ∧
      RenewedTables now db next emails := by
  obtain ⟨emails, after, ran, pairs, isMet⟩ := @renewPass_visitsInbounds now (dueTraffics now db) []
    (due_unique now db) (fun row member => (mem_dueTraffics.mp member).2.resets) _ hasLists
  rw [visitedRows_nil] at ran
  have notEmpty : after ≠ [] := by
    intro empty
    obtain ⟨inbound, member⟩ := List.exists_mem_of_ne_nil _ selects
    obtain ⟨other, inAfter, _⟩ := pairs.of_before inbound member
    rw [empty] at inAfter
    cases inAfter
  have found (email : String) : email ∈ emails ↔ Renewable now db email := by
    rw [isMet email, List.mem_flatMap]
    simp [Renewable]
  unfold autoRenewClients
  simp only [noFaults, isDue, notEmpty, ran, Bool.false_eq_true, if_false, or_false]
  have sameIDs : (db.saveSettings after).inbounds.rows.map (·.id) =
      db.inbounds.rows.map (·.id) := by
    unfold Database.saveSettings
    exact mapInbounds_ids
  exact ⟨_, emails, _, rfl, saveTraffics_renewed rfl, sameIDs, saveSettings_renewed pairs, found⟩

end Tables

/-! ## The call -/

/-- A batch for a call whose statements all succeed. -/
def TrafficCall.ofBatch (running : Bool) (times : TrafficTimes) (inboundTraffics : List Traffic)
    (clientTraffics : List ClientTraffic) : TrafficCall where
  faults := noFaults
  running := running
  times := times
  inboundTraffics := inboundTraffics
  clientTraffics := clientTraffics

namespace TrafficCall

variable (library : Library) (call : TrafficCall)

/-- The database that the renewal meets, if the call comes to it. -/
def renewalStart (db : Database) : Option Database :=
  match addInboundTraffic call.faults call.inboundTraffics db with
  | .error _ => none
  | .ok counted =>
    match addClientTraffic call.faults library call.running call.times call.clientTraffics
      counted with
    | (.done, counted) => some counted
    | _ => none

/-- What the renewal meets and leaves.  A call that does not come to it leaves its clients as they
    are in the end. -/
def renewalStep (db : Database) : Database × Database :=
  match call.renewalStart library db with
  | some start => (start, (autoRenewClients call.faults call.times.renew start).2.1)
  | none => ((call.run library db).db, (call.run library db).db)

end TrafficCall

/-- A due client is renewed, in its row and in its inbound's settings, and it is enabled. -/
structure RenewedClient (now : Int) (row : ClientTraffic) (db : Database) : Prop where
  inRow : ∃ stored ∈ db.clientTraffics.rows, stored.email = row.email ∧
    FirstLater now row stored.expiryTime ∧ stored.up = 0 ∧ stored.down = 0 ∧ stored.enable = true
  inSettings : ∃ inbound ∈ db.inbounds.rows, inbound.id = row.inboundID ∧
    (∃ client ∈ clientEntries inbound.settings, storedEmail client = row.email) ∧
    ∀ client ∈ clientEntries inbound.settings, storedEmail client = row.email →
      FirstLater now row (storedExpiryTime client)

/-- The clients of settings that are not due. -/
def othersOf (due : List ClientTraffic) (settings : Settings) :
    List (VKTurnProxyClient ⊕ Client) :=
  (clientEntries settings).filter (storedEmail · ∉ due.map (·.email))

/-- The clients that are not due are the same before and after. -/
structure OthersUnchanged (now : Int) (before after : Database) : Prop where
  rows : ∀ row ∈ before.clientTraffics.rows, row ∉ dueTraffics now before →
    row ∈ after.clientTraffics.rows
  clients : ∀ inbound ∈ before.inbounds.rows, ∃ other ∈ after.inbounds.rows,
    other.id = inbound.id ∧ othersOf (dueTraffics now before) other.settings =
      othersOf (dueTraffics now before) inbound.settings

namespace TrafficCall

variable (library : Library) (call : TrafficCall)

/-- Every client that is due is renewed and stays enabled, and no other is changed. -/
def RenewsDue (db : Database) : Prop :=
  (∀ row ∈ dueTraffics call.times.renew (call.renewalStep library db).1,
    RenewedClient call.times.renew row (call.run library db).db) ∧
  OthersUnchanged call.times.renew (call.renewalStep library db).1
    (call.renewalStep library db).2

end TrafficCall

/-- The clock does not meet the end of one of the row's periods, the new expiry time is still to
    come when clients are disabled, and the client is in the settings of its inbound. -/
structure KeepsEnabled (times : TrafficTimes) (db : Database) (row : ClientTraffic) : Prop where
  apart : ¬ row.reset * 86400000 ∣ times.renew - row.expiryTime
  later : times.disableClients < nextExpiryTime times.renew row
  listed : ∃ inbound ∈ db.inbounds.rows, inbound.id = row.inboundID ∧
    ∃ client ∈ clientEntries inbound.settings, storedEmail client = row.email

/-- Settings that the renewal can read, and that it changes in nothing but the clients that are
    due. -/
structure RewritesExactly (due : List ClientTraffic) (settings : Settings) : Prop where
  hasList : clientList settings ≠ none
  exact : ∀ client ∈ clientEntries settings, storedEmail client ∉ due.map (·.email) →
    roundStored client = client

namespace TrafficCall

variable (library : Library) (call : TrafficCall)

def RenewsWhen (db : Database) : Prop :=
  dueTraffics call.times.renew (call.renewalStep library db).1 = [] ∨
  ∃ start, call.renewalStart library db = some start ∧
    (∀ row ∈ dueTraffics call.times.renew start, KeepsEnabled call.times start row) ∧
    ∀ inbound ∈ inboundsOf start (dueTraffics call.times.renew start),
      RewritesExactly (dueTraffics call.times.renew start) inbound.settings

end TrafficCall

section Call

variable {library : Library} {running : Bool} {times : TrafficTimes}
  {db start next : Database} {renewal : Renewal} {ending : Ending}

/-- What is left of the tables after the phases behind a renewal. -/
structure SettledTables (now : Int) (next final : Database) : Prop where
  rows : final.clientTraffics.rows = next.clientTraffics.rows.map fun row => { row with
    enable := row.enable && !overLimit now row.total row.up row.down row.expiryTime }
  ids : final.inbounds.rows.map (·.id) = next.inbounds.rows.map (·.id)
  inbounds : ∀ inbound ∈ next.inbounds.rows, ∃ other ∈ final.inbounds.rows,
    other.id = inbound.id ∧ other.settings = inbound.settings

theorem settleTraffic_settles (renews : autoRenewClients noFaults times.renew start =
      (ending, next, renewal)) (notPanicked : ending ≠ .panicked) :
    SettledTables times.disableClients next (settleTraffic noFaults running times db start).db := by
  have isDone := @disableInvalidClients_done noFaults running times.disableClients next
    (by simp [noFaults]) (by simp [noFaults])
  have settled : (settleTraffic noFaults running times db start).db =
      (disableInvalidInbounds noFaults running times.disableInbounds
        (disabledOverLimit times.disableClients next)).2 := by
    unfold settleTraffic
    rw [renews]
    cases ending with
    | panicked => exact absurd rfl notPanicked
    | done => simp [isDone, disableInvalidInbounds, committing, noFaults]
    | failed => simp [isDone, disableInvalidInbounds, committing, noFaults]
  rw [settled]
  refine ⟨?_, ?_, fun inbound stored => ?_⟩
  · rw [disableInvalidInbounds_traffics]
    rfl
  · unfold disableInvalidInbounds
    simp only [noFaults, Bool.false_eq_true, and_false, if_false]
    exact mapInbounds_ids
  · unfold disableInvalidInbounds
    simp only [noFaults, Bool.false_eq_true, and_false, if_false]
    exact ⟨_, List.mem_map_of_mem stored, rfl, rfl⟩

/-- A row that keeps its expiry time is not renewed. -/
theorem not_renewed {now : Int} {row : ClientTraffic} {final : Database}
    (isDue : row ∈ dueTraffics now start)
    (kept : ∀ stored ∈ final.clientTraffics.rows, stored.email = row.email →
      stored.expiryTime = row.expiryTime) : ¬ RenewedClient now row final := by
  intro renewed
  obtain ⟨stored, inFinal, same, later, _⟩ := renewed.inRow
  rw [kept stored inFinal same] at later
  exact not_firstLater_of_reached (mem_dueTraffics.mp isDue).2.reached later

/-- Rows that a pass over all rows leaves with their emails and expiry times. -/
theorem kept_of_map {row : ClientTraffic} {final : Database}
    {update : ClientTraffic → ClientTraffic}
    (rows : final.clientTraffics.rows = start.clientTraffics.rows.map update)
    (sameEmail : ∀ row, (update row).email = row.email)
    (sameExpiry : ∀ row, (update row).expiryTime = row.expiryTime)
    (stored : row ∈ start.clientTraffics.rows) :
    ∀ other ∈ final.clientTraffics.rows, other.email = row.email →
      other.expiryTime = row.expiryTime := by
  intro other inFinal same
  rw [rows] at inFinal
  obtain ⟨before, isStored, rfl⟩ := List.mem_map.mp inFinal
  rw [sameEmail] at same
  have sameRow : before = row :=
    List.inj_on_of_nodup_map start.clientTraffics.valid isStored stored same
  rw [sameExpiry, sameRow]

theorem othersUnchanged_refl {now : Int} : OthersUnchanged now start start :=
  ⟨fun _ stored _ => stored, fun inbound stored => ⟨inbound, stored, rfl, rfl⟩⟩

/-! The rest of the section is about a renewal that is written. -/

variable {now : Int} {emails : List String} {final : Database}

/-- An inbound after the renewal, from the one before. -/
theorem RenewedTables.counterpart (renewed : RenewedTables now start next emails) {other : Inbound}
    (stored : other ∈ next.inbounds.rows) :
    ∃ inbound ∈ start.inbounds.rows, other.id = inbound.id ∧ clientEntries other.settings =
      if inbound ∈ inboundsOf start (dueTraffics now start) then
        renewedClients now (dueTraffics now start) inbound.settings
      else clientEntries inbound.settings := by
  have hasID : other.id ∈ start.inbounds.rows.map (·.id) :=
    renewed.ids ▸ List.mem_map_of_mem stored
  obtain ⟨inbound, isStored, sameID⟩ := List.mem_map.mp hasID
  obtain ⟨same, inNext, isSame, clients⟩ := renewed.inbounds inbound isStored
  have isOther : same = other := List.inj_on_of_nodup_map next.inbounds.valid.1 inNext stored
    (isSame.trans sameID)
  exact ⟨inbound, isStored, sameID.symm, isOther ▸ clients⟩

theorem SettledTables.counterpart (settled : SettledTables now next final) {other : Inbound}
    (stored : other ∈ final.inbounds.rows) :
    ∃ inbound ∈ next.inbounds.rows, other.id = inbound.id ∧ other.settings = inbound.settings := by
  have hasID : other.id ∈ next.inbounds.rows.map (·.id) :=
    settled.ids ▸ List.mem_map_of_mem stored
  obtain ⟨inbound, isStored, sameID⟩ := List.mem_map.mp hasID
  obtain ⟨same, inFinal, isSame, settings⟩ := settled.inbounds inbound isStored
  have isOther : same = other := List.inj_on_of_nodup_map final.inbounds.valid.1 inFinal stored
    (isSame.trans sameID)
  exact ⟨inbound, isStored, sameID.symm, isOther ▸ settings⟩

/-- The row of a client in the end. -/
theorem settled_row (renewed : RenewedTables now start next emails)
    (settled : SettledTables times.disableClients next final) {row stored : ClientTraffic}
    (isDue : row ∈ dueTraffics now start) (inFinal : stored ∈ final.clientTraffics.rows)
    (same : stored.email = row.email) : stored = { visitedRow now emails row with
      enable := (visitedRow now emails row).enable && !overLimit times.disableClients
        (visitedRow now emails row).total (visitedRow now emails row).up
        (visitedRow now emails row).down (visitedRow now emails row).expiryTime } := by
  rw [settled.rows, renewed.rows, List.map_map] at inFinal
  obtain ⟨before, isStored, rfl⟩ := List.mem_map.mp inFinal
  dsimp only [Function.comp_apply] at same ⊢
  have sameEmail : before.email = row.email := by
    split at same
    · rwa [visitedRow_email] at same
    · exact same
  have sameRow : before = row := List.inj_on_of_nodup_map start.clientTraffics.valid isStored
    (mem_dueTraffics.mp isDue).1 sameEmail
  subst sameRow
  rw [if_pos isDue]

/-- A renewed client is over its limit exactly when its new expiry time is reached. -/
theorem overLimit_renewed {row : ClientTraffic} (due : Due now row) :
    overLimit times.disableClients row.total 0 0 (nextExpiryTime now row) = false ↔
      times.disableClients < nextExpiryTime now row := by
  have positive : 0 < nextExpiryTime now row := by
    have later := @le_nextExpiryTime now row due.resets
    have expires := due.expires
    have reached := due.reached
    omega
  unfold overLimit
  simp only [decide_eq_false_iff_not]
  omega

/-- A client in the settings of an inbound in the end, from the one before. -/
theorem settled_client (renewed : RenewedTables now start next emails)
    (settled : SettledTables times.disableClients next final) {row : ClientTraffic}
    (isDue : row ∈ dueTraffics now start) {inbound : Inbound}
    (stored : inbound ∈ final.inbounds.rows) (sameID : inbound.id = row.inboundID) :
    ∃ before ∈ start.inbounds.rows, before.id = row.inboundID ∧
      clientEntries inbound.settings =
        renewedClients now (dueTraffics now start) before.settings := by
  obtain ⟨middle, inNext, middleID, settings⟩ := settled.counterpart stored
  obtain ⟨before, isStored, beforeID, clients⟩ := renewed.counterpart inNext
  have isInbound : before.id = row.inboundID := by rw [← beforeID, ← middleID, sameID]
  have selected : before ∈ inboundsOf start (dueTraffics now start) := by
    unfold inboundsOf
    rw [List.mem_filter, List.any_eq_true]
    exact ⟨isStored, row, isDue, decide_eq_true isInbound.symm⟩
  rw [if_pos selected] at clients
  exact ⟨before, isStored, isInbound, by rw [settings, clients]⟩

theorem find?_due {row : ClientTraffic} (isDue : row ∈ dueTraffics now start) {email : String}
    (same : email = row.email) :
    (dueTraffics now start).find? (·.email = email) = some row := by
  subst same
  cases isFound : (dueTraffics now start).find? (·.email = row.email) with
  | none => simpa using List.find?_eq_none.mp isFound row isDue
  | some other =>
    have sameEmail : other.email = row.email := by simpa using List.find?_some isFound
    exact congrArg some (List.inj_on_of_nodup_map (due_unique now start)
      (List.mem_of_find?_eq_some isFound) isDue sameEmail)

/-- The clients of a due row after the pass have its new expiry time. -/
theorem storedExpiryTime_renewedClients {row : ClientTraffic}
    (isDue : row ∈ dueTraffics now start) {settings : Settings}
    {client : VKTurnProxyClient ⊕ Client}
    (member : client ∈ renewedClients now (dueTraffics now start) settings)
    (same : storedEmail client = row.email) : storedExpiryTime client = nextExpiryTime now row := by
  obtain ⟨before, _, rfl⟩ := List.mem_map.mp member
  rw [storedEmail_renew] at same
  exact storedExpiryTime_renew (find?_due isDue same)

/-- The settings of an inbound list the same emails after the pass. -/
theorem listed_renewedClients {due : List ClientTraffic} {settings : Settings} {email : String} :
    (∃ client ∈ renewedClients now due settings, storedEmail client = email) ↔
      ∃ client ∈ clientEntries settings, storedEmail client = email := by
  unfold renewedClients
  constructor
  · rintro ⟨client, member, same⟩
    obtain ⟨before, isStored, rfl⟩ := List.mem_map.mp member
    rw [storedEmail_renew, storedEmail_round] at same
    exact ⟨before, isStored, same⟩
  · rintro ⟨client, member, same⟩
    refine ⟨_, List.mem_map_of_mem member, ?_⟩
    rw [storedEmail_renew, storedEmail_round]
    exact same

theorem renewable_of_listed {row : ClientTraffic} (isDue : row ∈ dueTraffics now start)
    (hasLists : ∀ inbound ∈ inboundsOf start (dueTraffics now start),
      clientList inbound.settings ≠ none)
    (listed : ∃ inbound ∈ start.inbounds.rows, inbound.id = row.inboundID ∧
      ∃ client ∈ clientEntries inbound.settings, storedEmail client = row.email) :
    Renewable now start row.email := by
  obtain ⟨inbound, stored, sameID, client, member, same⟩ := listed
  have selected : inbound ∈ inboundsOf start (dueTraffics now start) := by
    unfold inboundsOf
    rw [List.mem_filter, List.any_eq_true]
    exact ⟨stored, row, isDue, decide_eq_true sameID.symm⟩
  refine ⟨List.mem_map_of_mem isDue, inbound, selected, ?_⟩
  obtain ⟨met, hasList⟩ := Option.ne_none_iff_exists'.mp (hasLists inbound selected)
  rw [hasList, Option.getD_some, clientList_eq_some hasList, ← same]
  exact List.mem_map_of_mem member

theorem renewedClient_iff (isCall : times.renew = now)
    (renewed : RenewedTables now start next emails)
    (settled : SettledTables times.disableClients next final)
    (hasLists : ∀ inbound ∈ inboundsOf start (dueTraffics now start),
      clientList inbound.settings ≠ none) {row : ClientTraffic}
    (isDue : row ∈ dueTraffics now start) :
    RenewedClient now row final ↔ KeepsEnabled times start row := by
  obtain ⟨stored, due⟩ := mem_dueTraffics.mp isDue
  subst isCall
  constructor
  · intro renewedClient
    obtain ⟨last, inFinal, same, later, _, _, enabled⟩ := renewedClient.inRow
    obtain ⟨inbound, isStored, sameID, hasClient, _⟩ := renewedClient.inSettings
    have isLast := settled_row renewed settled isDue inFinal same
    have isVisited : row.email ∈ emails := by
      by_contra notVisited
      rw [isLast] at later
      simp only [visitedRow, if_neg notVisited] at later
      exact not_firstLater_of_reached due.reached later
    rw [isLast] at later enabled
    simp only [visitedRow, if_pos isVisited, renewedRow, Bool.true_and] at later enabled
    obtain ⟨before, isBefore, beforeID, clients⟩ :=
      settled_client renewed settled isDue isStored sameID
    rw [clients] at hasClient
    refine ⟨(firstLater_nextExpiryTime due).mp later, ?_, before, isBefore, beforeID,
      listed_renewedClients.mp hasClient⟩
    exact (overLimit_renewed due).mp (by simpa using enabled)
  · intro keeps
    have later := (firstLater_nextExpiryTime due).mpr keeps.apart
    have isVisited : row.email ∈ emails :=
      (renewed.emails row.email).mpr (renewable_of_listed isDue hasLists keeps.listed)
    refine ⟨?_, ?_⟩
    · have inFinal : ∃ last ∈ final.clientTraffics.rows, last.email = row.email := by
        rw [settled.rows, renewed.rows, List.map_map]
        refine ⟨_, List.mem_map_of_mem stored, ?_⟩
        dsimp only [Function.comp_apply]
        rw [if_pos isDue, visitedRow_email]
      obtain ⟨last, inFinal, same⟩ := inFinal
      have isLast := settled_row renewed settled isDue inFinal same
      simp only [visitedRow, if_pos isVisited, renewedRow, Bool.true_and,
        (overLimit_renewed due).mpr keeps.later] at isLast
      subst isLast
      exact ⟨_, inFinal, rfl, later, rfl, rfl, rfl⟩
    · obtain ⟨before, isBefore, beforeID, hasClient⟩ := keeps.listed
      obtain ⟨middle, inNext, middleID, _⟩ := renewed.inbounds before isBefore
      obtain ⟨inbound, inFinal, inboundID, _⟩ := settled.inbounds middle inNext
      have sameID : inbound.id = row.inboundID := by rw [inboundID, middleID, beforeID]
      obtain ⟨other, isOther, otherID, clients⟩ :=
        settled_client renewed settled isDue inFinal sameID
      have isBefore : other = before := List.inj_on_of_nodup_map start.inbounds.valid.1 isOther
        isBefore (otherID.trans beforeID.symm)
      rw [isBefore] at clients
      refine ⟨inbound, inFinal, sameID, ?_, fun client member same => ?_⟩
      · rw [clients]
        exact listed_renewedClients.mpr hasClient
      · rw [clients] at member
        rw [storedExpiryTime_renewedClients isDue member same]
        exact later

/-- The clients that are not due, after the pass. -/
theorem othersOf_renewed {due : List ClientTraffic} {before after : Settings}
    (clients : clientEntries after = renewedClients now due before) :
    othersOf due after = (othersOf due before).map roundStored := by
  unfold othersOf
  rw [clients]
  unfold renewedClients
  rw [List.filter_map]
  have sameEmail : ((fun client => decide (storedEmail client ∉ due.map (·.email))) ∘ fun client =>
      renewStored now due (roundStored client)) =
        fun client => decide (storedEmail client ∉ due.map (·.email)) := by
    funext client
    dsimp only [Function.comp_apply]
    rw [storedEmail_renew, storedEmail_round]
  rw [sameEmail]
  refine List.map_congr_left fun client member => ?_
  have absent := of_decide_eq_true (List.mem_filter.mp member).2
  exact renewStored_of_not_due (by rwa [storedEmail_round])

theorem othersUnchanged_iff (renewed : RenewedTables now start next emails) :
    OthersUnchanged now start next ↔
      ∀ inbound ∈ inboundsOf start (dueTraffics now start),
        ∀ client ∈ clientEntries inbound.settings,
          storedEmail client ∉ (dueTraffics now start).map (·.email) →
            roundStored client = client := by
  have exactly (inbound : Inbound) :
      (othersOf (dueTraffics now start) inbound.settings).map roundStored =
          othersOf (dueTraffics now start) inbound.settings ↔
        ∀ client ∈ clientEntries inbound.settings,
          storedEmail client ∉ (dueTraffics now start).map (·.email) →
            roundStored client = client := by
    conv_lhs => rhs; rw [← List.map_id (othersOf (dueTraffics now start) inbound.settings)]
    rw [List.map_inj_left]
    unfold othersOf
    simp only [List.mem_filter, decide_eq_true_iff, id, and_imp]
  constructor
  · intro unchanged inbound selected
    have stored := (List.mem_filter.mp selected).1
    obtain ⟨other, inNext, sameID, clients⟩ := renewed.inbounds inbound stored
    obtain ⟨same, isStored, isSame, others⟩ := unchanged.clients inbound stored
    have isOther : same = other := List.inj_on_of_nodup_map next.inbounds.valid.1 isStored inNext
      (isSame.trans sameID.symm)
    subst isOther
    rw [if_pos selected] at clients
    rw [othersOf_renewed clients] at others
    exact (exactly inbound).mp others
  · intro exact
    refine ⟨fun row stored notDue => ?_, fun inbound stored => ?_⟩
    · rw [renewed.rows]
      refine List.mem_map.mpr ⟨row, stored, if_neg notDue⟩
    · obtain ⟨other, inNext, sameID, clients⟩ := renewed.inbounds inbound stored
      refine ⟨other, inNext, sameID, ?_⟩
      by_cases selected : inbound ∈ inboundsOf start (dueTraffics now start)
      · rw [if_pos selected] at clients
        rw [othersOf_renewed clients]
        exact (exactly inbound).mpr (exact inbound selected)
      · rw [if_neg selected] at clients
        unfold othersOf
        rw [clients]

/-! ## The call as a whole -/

variable {inboundTraffics : List Traffic} {clientTraffics : List ClientTraffic}

theorem run_of_start (isStart : (TrafficCall.ofBatch running times inboundTraffics
      clientTraffics).renewalStart library db = some start) :
    (TrafficCall.ofBatch running times inboundTraffics clientTraffics).run library db =
      settleTraffic noFaults running times db start := by
  unfold TrafficCall.renewalStart at isStart
  unfold TrafficCall.run addTraffic
  cases counts : addInboundTraffic (TrafficCall.ofBatch running times inboundTraffics
      clientTraffics).faults (TrafficCall.ofBatch running times inboundTraffics
      clientTraffics).inboundTraffics db with
  | error message =>
    rw [counts] at isStart
    cases isStart
  | ok counted =>
    rw [counts] at isStart
    dsimp only at isStart ⊢
    split at isStart
    · rename_i final ran
      cases isStart
      rw [ran]
      rfl
    · cases isStart

/-- An inbound of a client that is due has no list of clients: what was counted is stored. -/
theorem settleTraffic_panicked
    (panics : ∃ inbound ∈ inboundsOf start (dueTraffics times.renew start),
      clientList inbound.settings = none) (isDue : dueTraffics times.renew start ≠ []) :
    (settleTraffic noFaults running times db start).db = start := by
  have renews : autoRenewClients noFaults times.renew start = (.panicked, start, {}) :=
    autoRenewClients_panicked ⟨⟨rfl, isDue, rfl⟩, panics⟩
  unfold settleTraffic
  rw [renews]
  rfl

/-- Rows of which only the switch may have changed. -/
theorem kept_of_settled {row : ClientTraffic} (settled : SettledTables now start final)
    (isDue : row ∈ dueTraffics times.renew start) : ¬ RenewedClient times.renew row final :=
  not_renewed isDue (kept_of_map settled.rows (fun _ => rfl) (fun _ => rfl)
    (mem_dueTraffics.mp isDue).1)

theorem selected_of_listed {row : ClientTraffic} (isDue : row ∈ dueTraffics times.renew start)
    (keeps : KeepsEnabled times start row) :
    inboundsOf start (dueTraffics times.renew start) ≠ [] := by
  intro orphans
  obtain ⟨inbound, stored, sameID, _⟩ := keeps.listed
  have selected : inbound ∈ inboundsOf start (dueTraffics times.renew start) := by
    unfold inboundsOf
    rw [List.mem_filter, List.any_eq_true]
    exact ⟨stored, row, isDue, decide_eq_true sameID.symm⟩
  rw [orphans] at selected
  cases selected

/-- A call that comes to the renewal with clients that are due. -/
theorem renewsDue_of_start (isStart : (TrafficCall.ofBatch running times inboundTraffics
      clientTraffics).renewalStart library db = some start)
    (isDue : dueTraffics times.renew start ≠ []) :
    ((∀ row ∈ dueTraffics times.renew start, RenewedClient times.renew row
        ((TrafficCall.ofBatch running times inboundTraffics clientTraffics).run library db).db) ∧
      OthersUnchanged times.renew start (autoRenewClients noFaults times.renew start).2.1) ↔
    ((∀ row ∈ dueTraffics times.renew start, KeepsEnabled times start row) ∧
      ∀ inbound ∈ inboundsOf start (dueTraffics times.renew start),
        RewritesExactly (dueTraffics times.renew start) inbound.settings) := by
  rw [run_of_start isStart]
  obtain ⟨row, member⟩ := List.exists_mem_of_ne_nil _ isDue
  by_cases hasLists : ∀ inbound ∈ inboundsOf start (dueTraffics times.renew start),
      clientList inbound.settings ≠ none
  · by_cases orphans : inboundsOf start (dueTraffics times.renew start) = []
    · -- no inbound is found, and no row is written
      have settled := @settleTraffic_settles running times db start start {} .failed
        (autoRenewClients_orphans isDue orphans) (by decide)
      refine iff_of_false ?_ ?_
      · rintro ⟨renewed, _⟩
        exact kept_of_settled settled member (renewed row member)
      · rintro ⟨keeps, _⟩
        exact selected_of_listed member (keeps row member) orphans
    · obtain ⟨next, emails, renewal, renews, tables⟩ :=
        autoRenewClients_renews isDue orphans hasLists
      have settled := @settleTraffic_settles running times db start next renewal .done renews
        (by decide)
      rw [renews]
      refine and_congr ?_ ?_
      · exact forall₂_congr fun row member =>
          renewedClient_iff rfl tables settled hasLists member
      · rw [othersUnchanged_iff tables]
        exact forall₂_congr fun inbound selected =>
          ⟨fun exact => ⟨hasLists inbound selected, exact⟩, fun rewrites => rewrites.exact⟩
  · -- the renewal panics before it writes anything
    obtain ⟨inbound, selected, noList⟩ :
        ∃ inbound ∈ inboundsOf start (dueTraffics times.renew start),
          clientList inbound.settings = none := by
      by_contra none
      exact hasLists fun inbound selected noList => none ⟨inbound, selected, noList⟩
    have final := @settleTraffic_panicked running times db start ⟨inbound, selected, noList⟩ isDue
    refine iff_of_false ?_ ?_
    · rintro ⟨renewed, _⟩
      have isRenewed := renewed row member
      rw [final] at isRenewed
      refine not_renewed member (fun stored inFinal same => ?_) isRenewed
      rw [List.inj_on_of_nodup_map start.clientTraffics.valid inFinal
        (mem_dueTraffics.mp member).1 same]
    · rintro ⟨_, rewrites⟩
      exact (rewrites inbound selected).hasList noList

end Call

/-! A client whose expiry time is the time of the call. -/

def expiringInbound : Inbound where
  id := 1
  port := 443
  protocol := ⟨"vless"⟩
  settings := .clients [{ email := "a", enable := true, expiryTime := 5000, reset := 1 }]
  tag := "inbound-443"

def expiringRow : ClientTraffic where
  inboundID := 1
  enable := true
  email := "a"
  up := 3
  expiryTime := 5000
  reset := 1

theorem uniqueInbounds_expiring : UniqueInbounds [expiringInbound] := by
  unfold UniqueInbounds
  simp

theorem uniqueTraffics_expiring : UniqueTraffics [expiringRow] := by
  unfold UniqueTraffics
  simp

def expiringDatabase : Database where
  inbounds := ⟨[expiringInbound], uniqueInbounds_expiring⟩
  clientTraffics := ⟨[expiringRow], uniqueTraffics_expiring⟩
  clientIps := ⟨[], uniqueIps_nil⟩

/-- A call without traffic at a time. -/
def quietCall (now : Int) : TrafficCall := .ofBatch true ⟨now, now, now, now, now⟩ [] []

example : ((quietCall 5001).run canonical expiringDatabase).db.clientTraffics.rows =
    [{ expiringRow with up := 0, expiryTime := 86405000 }] := by decide

end VkTurn.Panel
