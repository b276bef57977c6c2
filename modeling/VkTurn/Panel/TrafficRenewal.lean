import VkTurn.Panel.TrafficLedgers

/-! # What a renewal stores

`autoRenewClients` writes a renewal twice, to the settings of the client's inbound and to the
client's row, and it panics before both where an inbound of a client that is due has no list of
clients.
-/

namespace VkTurn.Panel

open VkTurn.Store

/-- The emails in the list of clients, if settings have one. -/
def clientList : Settings → Option (List String)
  | .vkTurnProxy settings =>
    if settings.clients = [] then none else some (settings.clients.map (·.email))
  | .clients clients => some (clients.map (·.email))
  | _ => none

section Renewals

variable {faults : TrafficSite → Bool} {now : Int} {db : Database} {visited : Visited}
  {email : String}

/-- After a renewing pass that met `emails`. -/
structure Renews (visited next : Visited) (emails : List String) : Prop where
  sameEmails : next.rows.map (·.email) = visited.rows.map (·.email)
  found : ∀ email, email ∈ next.emails ↔
    email ∈ visited.emails ∨ (email ∈ visited.rows.map (·.email) ∧ email ∈ emails)

theorem Renews.refl : Renews visited visited [] :=
  ⟨rfl, fun email => by simp⟩

theorem Renews.trans {middle next : Visited} {first second : List String}
    (before : Renews visited middle first) (after : Renews middle next second) :
    Renews visited next (first ++ second) := by
  refine ⟨after.sameEmails.trans before.sameEmails, fun email => ?_⟩
  rw [after.found, before.found, before.sameEmails, List.mem_append]
  tauto

theorem renewPass_visit {Record : Type} (now : Int) (fields : ClientFields Record) (visited : Visited)
    (client : Record) :
    ∃ next after, (renewPass now).visit fields visited client = some (next, after) ∧
      Renews visited next [fields.email client] := by
  unfold ClientPass.visit
  cases isFound : visited.rows.find? fun row =>
      (renewPass now).selects row ∧ row.email = fields.email client with
  | none =>
    refine ⟨visited, client, rfl, rfl, fun email => ?_⟩
    have absent : fields.email client ∉ visited.rows.map (·.email) := by
      intro member
      obtain ⟨row, inRows, same⟩ := List.mem_map.mp member
      have misses := List.find?_eq_none.mp isFound row inRows
      simp [renewPass, same] at misses
    constructor
    · exact .inl
    · rintro (isVisited | ⟨inRows, isClient⟩)
      · exact isVisited
      · rw [List.mem_singleton.mp isClient] at inRows
        exact absurd inRows absent
  | some row =>
    have same : row.email = fields.email client := by
      have hit := List.find?_some isFound
      simpa [renewPass] using hit
    have inRows : row.email ∈ visited.rows.map (·.email) :=
      List.mem_map_of_mem (List.mem_of_find?_eq_some isFound)
    refine ⟨_, _, rfl, ClientPass.found_map (renewPass now).sameEmail _ _ _, fun email => ?_⟩
    unfold ClientPass.found
    dsimp only
    rw [List.mem_append, List.mem_singleton, List.mem_singleton, ← same]
    constructor
    · rintro (isVisited | rfl)
      · exact .inl isVisited
      · exact .inr ⟨inRows, rfl⟩
    · rintro (isVisited | ⟨_, isClient⟩)
      · exact .inl isVisited
      · exact .inr isClient

theorem renewPass_visitAll {Record : Type} (now : Int) (fields : ClientFields Record)
    (visited : Visited) (clients : List Record) :
    ∃ next after, (renewPass now).visitAll fields visited clients = some (next, after) ∧
      Renews visited next (clients.map fields.email) := by
  induction clients generalizing visited with
  | nil => exact ⟨visited, [], rfl, Renews.refl⟩
  | cons client rest inductionHypothesis =>
    obtain ⟨middle, first, visitedFirst, renewsFirst⟩ :=
      renewPass_visit now fields visited client
    obtain ⟨next, others, visitedRest, renewsRest⟩ := inductionHypothesis middle
    refine ⟨next, first :: others, ?_, renewsFirst.trans renewsRest⟩
    unfold ClientPass.visitAll
    rw [visitedFirst]
    dsimp only [Option.bind_eq_bind, Option.bind_some]
    rw [visitedRest]
    rfl

theorem clientList_rewriteUntyped {settings : Settings} :
    clientList (rewriteUntyped settings) = clientList settings := by
  cases settings with
  | vkTurnProxy settings =>
    unfold rewriteUntyped
    dsimp only
    by_cases empty : settings.clients = []
    · rw [if_pos empty]
    · rw [if_neg empty]
      have notEmpty : settings.clients.map roundVKTurnProxyClient ≠ [] := by simpa using empty
      unfold clientList
      dsimp only
      rw [if_neg empty, if_neg notEmpty, List.map_map]
      rfl
  | wireguard settings => rfl
  | clients clients =>
    unfold rewriteUntyped clientList
    dsimp only
    rw [List.map_map]
    rfl
  | text text => rfl

theorem renewPass_visitSettings (now : Int) (visited : Visited) {settings : Settings}
    {emails : List String} (hasList : clientList settings = some emails) :
    ∃ next after, (renewPass now).visitSettings visited settings = some (next, after) ∧
      Renews visited next emails := by
  rw [← clientList_rewriteUntyped] at hasList
  unfold ClientPass.visitSettings
  cases rewritten : rewriteUntyped settings with
  | vkTurnProxy settings =>
    rw [rewritten] at hasList
    unfold clientList at hasList
    dsimp only at hasList ⊢
    split at hasList
    · cases hasList
    · rename_i notEmpty
      cases hasList
      rw [if_neg notEmpty]
      obtain ⟨next, after, ran, renews⟩ := renewPass_visitAll now vkTurnProxyClientFields visited
        settings.clients
      exact ⟨next, _, by rw [ran]; rfl, renews⟩
  | wireguard settings =>
    rw [rewritten] at hasList
    cases hasList
  | clients clients =>
    rw [rewritten] at hasList
    cases hasList
    dsimp only
    by_cases empty : clients = []
    · subst empty
      exact ⟨visited, _, rfl, Renews.refl⟩
    · rw [if_neg empty]
      obtain ⟨next, after, ran, renews⟩ := renewPass_visitAll now clientFields visited clients
      exact ⟨next, _, by rw [ran]; rfl, renews⟩
  | text text =>
    rw [rewritten] at hasList
    cases hasList

theorem renewPass_panics_settings {settings : Settings} (noList : clientList settings = none) :
    (renewPass now).visitSettings visited settings = none := by
  rw [← clientList_rewriteUntyped] at noList
  unfold ClientPass.visitSettings
  cases rewritten : rewriteUntyped settings with
  | vkTurnProxy settings =>
    rw [rewritten] at noList
    unfold clientList at noList
    dsimp only at noList ⊢
    split at noList
    · rename_i empty
      rw [if_pos empty]
      rfl
    · cases noList
  | wireguard settings => rfl
  | clients clients =>
    rw [rewritten] at noList
    cases noList
  | text text => rfl

theorem renewPass_panics (visited : Visited) {inbounds : List Inbound}
    (noList : ∃ inbound ∈ inbounds, clientList inbound.settings = none) :
    (renewPass now).visitInbounds visited inbounds = none := by
  induction inbounds generalizing visited with
  | nil => simp at noList
  | cons inbound rest inductionHypothesis =>
    unfold ClientPass.visitInbounds
    cases hasList : clientList inbound.settings with
    | none =>
      rw [renewPass_panics_settings hasList]
      rfl
    | some emails =>
      obtain ⟨next, after, ran, _⟩ := renewPass_visitSettings now visited hasList
      have restPanics := inductionHypothesis next <| by
        obtain ⟨other, member, isNone⟩ := noList
        rcases List.mem_cons.mp member with rfl | inRest
        · exact absurd (hasList.symm.trans isNone) (Option.some_ne_none _)
        · exact ⟨other, inRest, isNone⟩
      rw [ran]
      dsimp only [Option.bind_eq_bind, Option.bind_some]
      rw [restPanics]
      rfl

theorem renewPass_visitInbounds (now : Int) (visited : Visited) {inbounds : List Inbound}
    (hasLists : ∀ inbound ∈ inbounds, clientList inbound.settings ≠ none) :
    ∃ next after, (renewPass now).visitInbounds visited inbounds = some (next, after) ∧
      Renews visited next (inbounds.flatMap fun inbound =>
        (clientList inbound.settings).getD []) ∧ after.length = inbounds.length := by
  induction inbounds generalizing visited with
  | nil => exact ⟨visited, [], rfl, Renews.refl, rfl⟩
  | cons inbound rest inductionHypothesis =>
    obtain ⟨emails, hasList⟩ := Option.ne_none_iff_exists'.mp
      (hasLists inbound List.mem_cons_self)
    obtain ⟨middle, first, visitedFirst, renewsFirst⟩ :=
      renewPass_visitSettings now visited hasList
    obtain ⟨next, others, visitedRest, renewsRest, sameLength⟩ := inductionHypothesis
      middle fun other inRest => hasLists other (List.mem_cons_of_mem _ inRest)
    refine ⟨next, { inbound with settings := first } :: others, ?_, ?_, by simp [sameLength]⟩
    · unfold ClientPass.visitInbounds
      rw [visitedFirst]
      dsimp only [Option.bind_eq_bind, Option.bind_some]
      rw [visitedRest]
      rfl
    · rw [List.flatMap_cons, hasList]
      exact renewsFirst.trans renewsRest

/-- There is something to renew, and it can be read. -/
def RenewalStarts (faults : TrafficSite → Bool) (now : Int) (db : Database) : Prop :=
  faults .expired = false ∧ dueTraffics now db ≠ [] ∧ faults .renewedInbounds = false

/-- An inbound of a client that is due has no list of clients. -/
def RenewalPanics (faults : TrafficSite → Bool) (now : Int) (db : Database) : Prop :=
  RenewalStarts faults now db ∧ ∃ inbound ∈ inboundsOf db (dueTraffics now db),
    clientList inbound.settings = none

/-- The client is due, and is in the settings of an inbound of those that are. -/
def Renewable (now : Int) (db : Database) (email : String) : Prop :=
  email ∈ (dueTraffics now db).map (·.email) ∧
    ∃ inbound ∈ inboundsOf db (dueTraffics now db),
      email ∈ (clientList inbound.settings).getD []

/-- The settings of a client that is renewed are saved, and then its row is not. -/
def RenewalTorn (faults : TrafficSite → Bool) (now : Int) (db : Database) : Prop :=
  RenewalStarts faults now db ∧ faults .saveInbounds = false ∧ faults .saveRenewed = true ∧
    ∃ email, Renewable now db email

def Renewed (faults : TrafficSite → Bool) (now : Int) (db : Database) (email : String) : Prop :=
  RenewalStarts faults now db ∧ faults .saveInbounds = false ∧ faults .saveRenewed = false ∧
    Renewable now db email

theorem autoRenewClients_panicked (panics : RenewalPanics faults now db) :
    autoRenewClients faults now db = (.panicked, db, {}) := by
  obtain ⟨⟨expires, isDue, reads⟩, noList⟩ := panics
  unfold autoRenewClients
  simp only [expires, isDue, reads, renewPass_panics _ noList]
  rfl

/-- Rows of clients that are not renewed keep their counters. -/
theorem clientLedger_renewed {inbounds after : List Inbound} {middle : Database}
    (sameTraffics : middle.clientTraffics = db.clientTraffics)
    (ran : (renewPass now).visitInbounds { rows := dueTraffics now db } inbounds =
      some (visited, after)) :
    ∀ row ∈ (middle.saveTraffics visited.rows).clientTraffics.rows, row.email ∉ visited.emails →
      row ∈ db.clientTraffics.rows := by
  intro row member untouched
  unfold Database.saveTraffics Database.mapTraffics at member
  dsimp only at member
  rw [sameTraffics] at member
  obtain ⟨before, stored, rfl⟩ := List.mem_map.mp member
  cases isFound : visited.rows.find? (·.email = before.email) with
  | none => exact stored
  | some saved =>
    rw [isFound] at untouched
    have isDue := ClientPass.visitInbounds_untouched ran saved (List.mem_of_find?_eq_some isFound)
      untouched
    exact (List.mem_filter.mp isDue).1

theorem autoRenewClients_ends (lists : ¬ RenewalPanics faults now db) :
    ∃ ending next renewal, autoRenewClients faults now db = (ending, next, renewal) ∧
      ending ≠ .panicked ∧ next.inboundLedger = db.inboundLedger ∧
      next.clientTraffics.rows.map (·.email) = db.clientTraffics.rows.map (·.email) ∧
      (∀ row ∈ next.clientTraffics.rows, row.email ∉ renewal.inRows →
        row ∈ db.clientTraffics.rows) ∧
      (∀ email, email ∈ renewal.inRows ↔ Renewed faults now db email) ∧
      (renewal.inSettings = renewal.inRows ↔ ¬ RenewalTorn faults now db) := by
  by_cases starts : RenewalStarts faults now db
  · have hasLists : ∀ inbound ∈ inboundsOf db (dueTraffics now db),
        clientList inbound.settings ≠ none :=
      fun inbound member isNone => lists ⟨starts, inbound, member, isNone⟩
    obtain ⟨visited, after, ran, renews, sameLength⟩ :=
      renewPass_visitInbounds now { rows := dueTraffics now db } hasLists
    have found (email : String) : email ∈ visited.emails ↔ Renewable now db email := by
      rw [renews.found, List.mem_flatMap]
      simp [Renewable]
    obtain ⟨expires, isDue, reads⟩ := starts
    unfold autoRenewClients
    simp only [expires, isDue, reads, ran, Bool.false_eq_true, if_false]
    by_cases stops : after = [] ∨ faults .saveInbounds = true
    · -- nothing was written
      have nobody (email : String) : faults .saveInbounds = false → ¬ Renewable now db email := by
        rintro saves ⟨_, inbound, member, _⟩
        rcases stops with isEmpty | fails
        · rw [isEmpty] at sameLength
          rw [List.length_eq_zero_iff.mp sameLength.symm] at member
          cases member
        · exact nomatch saves.symm.trans fails
      rw [if_pos stops]
      refine ⟨_, _, _, rfl, by decide, rfl, rfl, fun row member _ => member, fun email => ?_, ?_⟩
      · exact ⟨nofun, fun renewed => absurd renewed.2.2.2 (nobody email renewed.2.1)⟩
      · refine ⟨fun _ torn => ?_, fun _ => rfl⟩
        obtain ⟨_, saves, _, email, isRenewable⟩ := torn
        exact nobody email saves isRenewable
    · rw [if_neg stops]
      have saves : faults .saveInbounds = false := Bool.eq_false_iff.mpr fun fails => stops (.inr fails)
      cases savesRows : faults .saveRenewed with
      | true =>
        refine ⟨_, _, _, rfl, by decide, inboundLedger_saveSettings, rfl,
          fun row member _ => member, fun email => ?_, ?_⟩
        · exact ⟨nofun, fun renewed => nomatch savesRows.symm.trans renewed.2.2.1⟩
        · constructor
          · rintro same ⟨_, _, _, email, isRenewable⟩
            have noEmails : visited.emails = [] := same
            have isVisited := (found email).mpr isRenewable
            rw [noEmails] at isVisited
            cases isVisited
          · intro whole
            refine List.eq_nil_iff_forall_not_mem.mpr fun email member => whole ?_
            exact ⟨⟨expires, isDue, reads⟩, saves, savesRows, email, (found email).mp member⟩
      | false =>
        refine ⟨_, _, _, rfl, by decide, inboundLedger_saveSettings, ?_,
          clientLedger_renewed rfl ran, fun email => ?_, ?_⟩
        · unfold Database.saveTraffics Database.mapTraffics
          rw [List.map_map]
          exact List.map_congr_left fun row _ => key_overwritten
        · exact (found email).trans
            ⟨fun isRenewable => ⟨⟨expires, isDue, reads⟩, saves, savesRows, isRenewable⟩,
              fun renewed => renewed.2.2.2⟩
        · exact ⟨fun _ torn => (nomatch savesRows.symm.trans torn.2.2.1), fun _ => rfl⟩
  · unfold autoRenewClients
    have idle (ending : Ending) (notPanicked : ending ≠ .panicked) :
        ∃ next renewal, ((ending, db, {}) : Ending × Database × Renewal) =
            (ending, next, renewal) ∧ ending ≠ .panicked ∧
          next.inboundLedger = db.inboundLedger ∧
          next.clientTraffics.rows.map (·.email) = db.clientTraffics.rows.map (·.email) ∧
          (∀ row ∈ next.clientTraffics.rows, row.email ∉ renewal.inRows →
            row ∈ db.clientTraffics.rows) ∧
          (∀ email, email ∈ renewal.inRows ↔ Renewed faults now db email) ∧
          (renewal.inSettings = renewal.inRows ↔ ¬ RenewalTorn faults now db) :=
      ⟨db, {}, rfl, notPanicked, rfl, rfl, fun row member _ => member,
        fun email => ⟨nofun, fun renewed => absurd renewed.1 starts⟩,
        ⟨fun _ torn => starts torn.1, fun _ => rfl⟩⟩
    unfold RenewalStarts at starts
    cases expires : faults .expired with
    | true => exact ⟨_, idle .failed (by decide)⟩
    | false =>
      by_cases nobody : dueTraffics now db = []
      · simp only [nobody, Bool.false_eq_true, if_false, if_true]
        exact ⟨_, idle .done (by decide)⟩
      · have reads : faults .renewedInbounds = true :=
          Bool.eq_true_of_not_eq_false fun reads => starts ⟨expires, nobody, reads⟩
        simp only [nobody, reads, Bool.false_eq_true, if_false, if_true]
        exact ⟨_, idle .failed (by decide)⟩

end Renewals

end VkTurn.Panel
