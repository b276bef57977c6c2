import VkTurn.Panel.ClientRecords
import VkTurn.Panel.PeerValidity
import VkTurn.Panel.UniqueBindings
import VkTurn.Panel.XrayClients

/-! # Emails are unique

The traffic rows are keyed by email, so the clients of all inbounds need emails of their own, up
to case.  The calls that add clients look for their emails first; `UpdateInbound` does not, and
`UpdateVKTurnProxyClient` does not where the new email folds to the old one.
-/

namespace VkTurn.Panel

open VkTurn.Store VkTurn.Transition

/-! ## Distinct emails -/

/-- No two emails agree up to case; a client may have none. -/
def DistinctEmails (toLower : String → String) (emails : List String) : Prop :=
  ((emails.filter (· ≠ "")).map toLower).Nodup

def emailsOf (clients : List Client) : List String := clients.map (·.email)

theorem emailsOf_toModelClient (clients : List VKTurnProxyClient) :
    emailsOf (clients.map toModelClient) = clients.map (·.email) := by
  unfold emailsOf
  rw [List.map_map]
  rfl

namespace Database

def emails (db : Database) : List String := db.clientTable.flatMap (emailsOf ·.2)

/-- The emails of the clients of all inbounds but one. -/
def otherEmails (db : Database) (inboundID : Int) : List String :=
  (db.clientTable.filter (·.1 ≠ inboundID)).flatMap (emailsOf ·.2)

end Database

def EmailsDistinct (library : Library) (db : Database) : Prop :=
  DistinctEmails library.toLower db.emails

section Lists

variable {toLower : String → String} {emails others all : List String} {email : String}

theorem DistinctEmails.sublist (distinct : DistinctEmails toLower emails)
    (sub : others.Sublist emails) : DistinctEmails toLower others :=
  List.Nodup.sublist ((sub.filter _).map _) distinct

theorem DistinctEmails.perm (distinct : DistinctEmails toLower emails) (perm : emails.Perm others) :
    DistinctEmails toLower others :=
  ((perm.filter _).map _).nodup_iff.mp distinct

theorem distinctEmails_cons_empty : DistinctEmails toLower ("" :: emails) ↔
    DistinctEmails toLower emails := by
  unfold DistinctEmails
  rw [List.filter_cons_of_neg (by decide)]

theorem distinctEmails_append : DistinctEmails toLower (emails ++ others) ↔
    DistinctEmails toLower emails ∧ DistinctEmails toLower others ∧
      ∀ email ∈ emails, email ≠ "" → ∀ other ∈ others, other ≠ "" →
        toLower other ≠ toLower email := by
  unfold DistinctEmails
  rw [List.filter_append, List.map_append, List.nodup_append]
  refine and_congr_right fun _ => and_congr_right fun _ => ?_
  constructor
  · intro differ email inEmails named other inOthers otherNamed same
    refine differ _ ?_ _ ?_ same.symm
    · exact List.mem_map_of_mem (List.mem_filter.mpr ⟨inEmails, decide_eq_true named⟩)
    · exact List.mem_map_of_mem (List.mem_filter.mpr ⟨inOthers, decide_eq_true otherNamed⟩)
  · rintro differ _ inEmails _ inOthers same
    obtain ⟨email, isEmail, rfl⟩ := List.mem_map.mp inEmails
    obtain ⟨other, isOther, rfl⟩ := List.mem_map.mp inOthers
    obtain ⟨isEmail, named⟩ := List.mem_filter.mp isEmail
    obtain ⟨isOther, otherNamed⟩ := List.mem_filter.mp isOther
    exact differ email isEmail (of_decide_eq_true named) other isOther
      (of_decide_eq_true otherNamed) same.symm

theorem distinctEmails_cons (named : email ≠ "") : DistinctEmails toLower (email :: emails) ↔
    (∀ other ∈ emails, other ≠ "" → toLower other ≠ toLower email) ∧
      DistinctEmails toLower emails := by
  have single : DistinctEmails toLower [email] := by
    unfold DistinctEmails
    simp [named]
  rw [← List.singleton_append, distinctEmails_append]
  simp only [single, true_and, List.mem_singleton, forall_eq]
  exact ⟨fun ⟨distinct, differ⟩ => ⟨differ named, distinct⟩,
    fun ⟨differ, distinct⟩ => ⟨distinct, fun _ => differ⟩⟩

variable {library : Library}

theorem contains_eq_false : contains library emails email = false ↔
    ∀ other ∈ emails, library.toLower other ≠ library.toLower email := by
  unfold contains
  rw [List.any_eq_false]
  simp

/-- Emails that the check lets pass are new. -/
theorem firstKnownEmail_new {seen : List String}
    (passed : firstKnownEmail library all seen emails = "") :
    DistinctEmails library.toLower emails ∧
      ∀ email ∈ emails, email ≠ "" → ∀ other ∈ seen ++ all,
        library.toLower other ≠ library.toLower email := by
  induction emails generalizing seen with
  | nil => exact ⟨List.nodup_nil, nofun⟩
  | cons email rest inductionHypothesis =>
    unfold firstKnownEmail at passed
    by_cases isEmpty : email = ""
    · rw [if_pos isEmpty] at passed
      obtain ⟨distinct, new⟩ := inductionHypothesis passed
      subst isEmpty
      refine ⟨distinctEmails_cons_empty.mpr distinct, fun other member notEmpty => ?_⟩
      rcases List.mem_cons.mp member with rfl | inRest
      · exact absurd rfl notEmpty
      · exact new other inRest notEmpty
    · rw [if_neg isEmpty] at passed
      by_cases known : contains library seen email ∨ contains library all email
      · rw [if_pos known] at passed
        exact absurd passed isEmpty
      · rw [if_neg known] at passed
        obtain ⟨distinct, new⟩ := inductionHypothesis passed
        push Not at known
        have notSeen := contains_eq_false.mp (Bool.eq_false_iff.mpr known.1)
        have notStored := contains_eq_false.mp (Bool.eq_false_iff.mpr known.2)
        refine ⟨(distinctEmails_cons isEmpty).mpr ⟨fun other inRest notEmpty same => ?_, distinct⟩,
          fun other member notEmpty => ?_⟩
        · exact new other inRest notEmpty email (by simp) same.symm
        · rcases List.mem_cons.mp member with rfl | inRest
          · intro stored isStored
            rcases List.mem_append.mp isStored with inSeen | inAll
            · exact notSeen stored inSeen
            · exact notStored stored inAll
          · intro stored isStored
            refine new other inRest notEmpty stored ?_
            rcases List.mem_append.mp isStored with inSeen | inAll
            · simp [inSeen]
            · simp [inAll]

/-- New emails go with the stored ones. -/
theorem DistinctEmails.add (distinct : DistinctEmails library.toLower all)
    (passed : firstKnownEmail library all [] emails = "") :
    DistinctEmails library.toLower (emails ++ all) := by
  obtain ⟨own, new⟩ := firstKnownEmail_new passed
  exact distinctEmails_append.mpr ⟨own, distinct,
    fun email member named other stored _ => new email member named other stored⟩

/-- One email gives way to another. -/
theorem DistinctEmails.set {index : Nat}
    (distinct : DistinctEmails toLower (email :: (emails.eraseIdx index ++ others))) :
    DistinctEmails toLower (emails.set index email ++ others) := by
  by_cases inRange : index < emails.length
  · exact distinct.perm ((List.set_perm_cons_eraseIdx inRange email).append_right others).symm
  · rw [List.set_eq_of_length_le (by omega)]
    rw [List.eraseIdx_of_length_le (by omega)] at distinct
    exact distinct.sublist (List.sublist_cons_self _ _)

end Lists

/-! ## Saves -/

section Saves

variable {library : Library} {db next : Database} {inbound : Inbound} {clients : List Client}
  {inboundID : Int}

/-- The emails of an inbound before those of the others. -/
theorem EmailsDistinct.stored (distinct : EmailsDistinct library db)
    (stored : (inboundID, clients) ∈ db.clientTable) :
    DistinctEmails library.toLower (emailsOf clients ++ db.otherEmails inboundID) := by
  have perm := (perm_filter_key (clientTable_keys db) stored).flatMap_right (emailsOf ·.2)
  rw [List.flatMap_cons] at perm
  exact distinct.perm perm

theorem EmailsDistinct.upsert
    (distinct : DistinctEmails library.toLower
      (emailsOf (settingsClients inbound.settings) ++ db.otherEmails inbound.id))
    (saved : db.upsertInbound inbound = .ok next) : EmailsDistinct library next := by
  have perm := (upsertRow_perm (inbound.id, settingsClients inbound.settings)
    (clientTable_keys db)).flatMap_right (emailsOf ·.2)
  rw [← clientTable_upserted saved, List.flatMap_cons] at perm
  exact distinct.perm perm.symm

/-- A save writes the emails of one inbound, or of none. -/
theorem EmailsDistinct.save (distinct : EmailsDistinct library db)
    (own : DistinctEmails library.toLower
      (emailsOf (settingsClients inbound.settings) ++ db.otherEmails inbound.id))
    (saved : db.saveInbound inbound = .ok next) : EmailsDistinct library next := by
  by_cases present : db.clientTable.any (·.1 = inbound.id)
  · have perm := (upsertRow_perm (inbound.id, settingsClients inbound.settings)
      (clientTable_keys db)).flatMap_right (emailsOf ·.2)
    unfold upsertRow at perm
    rw [if_pos present, ← clientTable_saved saved, List.flatMap_cons] at perm
    exact own.perm perm.symm
  · have same : next.clientTable = db.clientTable := by
      rw [clientTable_saved saved]
      exact replaceRow_of_not_mem fun other member same =>
        present (List.any_eq_true.mpr ⟨other, member, decide_eq_true same⟩)
    unfold EmailsDistinct Database.emails
    rw [same]
    exact distinct

theorem EmailsDistinct.congr (distinct : EmailsDistinct library db)
    (same : next.clientTable = db.clientTable) : EmailsDistinct library next := by
  unfold EmailsDistinct Database.emails
  rw [same]
  exact distinct

theorem otherEmails_congr (same : next.clientTable = db.clientTable) :
    next.otherEmails inboundID = db.otherEmails inboundID := by
  unfold Database.otherEmails
  rw [same]

theorem otherEmails_sublist (db : Database) (inboundID : Int) :
    (db.otherEmails inboundID).Sublist db.emails :=
  List.filter_sublist.flatMap _

theorem emailsOf_eq_ok {list : List String}
    (isList : Database.getAllEmails.emailsOf inbound = .ok list) :
    list = emailsOf (settingsClients inbound.settings) := by
  unfold Database.getAllEmails.emailsOf at isList
  split at isList
  · rename_i isVKTurn
    cases isList
    rw [isVKTurn]
    exact (emailsOf_toModelClient _).symm
  · rename_i isWireguard
    cases isList
    rw [isWireguard]
    rfl
  · rename_i isClients
    cases isList
    rw [isClients]
    rfl
  · cases isList

/-- What the check of emails reads. -/
theorem getAllEmails_eq_ok {fails : Bool} {emails : List String}
    (read : db.getAllEmails fails = .ok emails) : emails = db.emails := by
  obtain ⟨_, read⟩ := attempt_eq_ok.mp read
  cases mapped : db.inbounds.rows.mapM Database.getAllEmails.emailsOf with
  | error message =>
    rw [mapped] at read
    cases read
  | ok lists =>
    rw [mapped] at read
    cases read
    have isLists := mapM_eq_map (fun inbound list isList => emailsOf_eq_ok isList) mapped
    unfold Database.emails Database.clientTable
    rw [isLists, List.flatMap_map]
    rfl

end Saves

/-! ## AddInbound and UpdateInbound -/

section Inbounds

variable {library : Library} {faults : InboundSite → Bool} {clock : Clock} {db next : Database}
  {newID : Int} {inbound requested oldInbound : Inbound} {clients : List Client}
  {clientStats : List ClientTraffic}

theorem checkEmails_eq_ok {fails : Bool} {emails : List String} {existEmail : String}
    (checked : checkEmailsExistForClients library db fails emails = .ok existEmail) :
    firstKnownEmail library db.emails [] emails = existEmail := by
  obtain ⟨allEmails, isRead, checked⟩ := bind_eq_ok.mp checked
  rw [← getAllEmails_eq_ok isRead]
  exact pure_eq_ok.mp checked

theorem emailsOf_withTimestamps (settings : Settings) :
    emailsOf (settingsClients (withTimestamps clock settings)) =
      emailsOf (settingsClients settings) := by
  cases settings with
  | vkTurnProxy settings =>
    unfold withTimestamps
    dsimp only
    split
    · rfl
    · unfold settingsClients
      dsimp only
      rw [emailsOf_toModelClient, emailsOf_toModelClient, List.map_map]
      rfl
  | wireguard settings => rfl
  | clients clients => rfl
  | text text => rfl

theorem emailsOf_rewriteUntyped (settings : Settings) :
    emailsOf (settingsClients (rewriteUntyped settings)) = emailsOf (settingsClients settings) := by
  cases settings with
  | vkTurnProxy settings =>
    unfold rewriteUntyped
    dsimp only
    split
    · rfl
    · unfold settingsClients
      dsimp only
      rw [emailsOf_toModelClient, emailsOf_toModelClient, List.map_map]
      rfl
  | wireguard settings => rfl
  | clients clients =>
    unfold rewriteUntyped settingsClients emailsOf
    dsimp only
    rw [List.map_map]
    rfl
  | text text => rfl

theorem checkedInbound_new
    (checked : checkedInbound library faults clock db requested = .ok (inbound, clients)) :
    firstKnownEmail library db.emails [] (emailsOf (settingsClients inbound.settings)) = "" := by
  obtain ⟨_, _, checked⟩ := bind_eq_ok.mp checked
  obtain ⟨_, checked⟩ := refuse_eq_ok.mp checked
  obtain ⟨written, _, checked⟩ := bind_eq_ok.mp checked
  obtain ⟨existEmail, isEmail, checked⟩ := bind_eq_ok.mp checked
  obtain ⟨isNew, checked⟩ := refuse_eq_ok.mp checked
  obtain ⟨_, _, checked⟩ := bind_eq_ok.mp checked
  obtain ⟨_, _, checked⟩ := bind_eq_ok.mp checked
  cases pure_eq_ok.mp checked
  obtain ⟨read, isRead, isEmail⟩ := bind_eq_ok.mp isEmail
  have isEmpty : existEmail = "" := by simpa using isNew
  rw [emailsOf_withTimestamps, ← getClients_eq_ok isRead]
  exact (checkEmails_eq_ok isEmail).trans isEmpty

theorem addInbound_emails (distinct : EmailsDistinct library db) :
    Ensures (addInbound library faults clock newID requested clientStats) db
      (fun _ => EmailsDistinct library) (EmailsDistinct library) := by
  refine Ensures.bind (Ensures.query (fun ⟨inbound, clients⟩ checked => ?_) distinct)
  have isNew := distinct.add (checkedInbound_new checked)
  refine Ensures.uncheckedTransaction (fun next added => ?_) distinct
  split
  · exact distinct
  · obtain ⟨written, numbered, added⟩ := bind_eq_ok.mp added
    obtain ⟨_, sameSettings⟩ := withID_eq_ok numbered
    obtain ⟨saved, isSaved, added⟩ := bind_eq_ok.mp added
    cases pure_eq_ok.mp added
    obtain ⟨stored, isStored, stats⟩ := bind_eq_ok.mp (attempt_eq_ok.mp isSaved).2
    have storedDistinct : EmailsDistinct library stored := by
      refine EmailsDistinct.upsert (DistinctEmails.sublist isNew ?_) isStored
      rw [sameSettings]
      exact (List.Sublist.refl _).append (otherEmails_sublist db written.id)
    have savedDistinct : EmailsDistinct library saved :=
      foldlM_keeps (EmailsDistinct library) (fun _ _ _ _ distinct created =>
        distinct.congr (clientTable_congr (createTraffic_inbounds created))) storedDistinct stats
    split
    · exact savedDistinct.congr
        (clientTable_congr (addClientStats_inbounds faults saved written.id clients))
    · exact savedDistinct

/-- The emails of a request are new beside those of the other inbounds. -/
def ReplacesDistinct (library : Library) (db : Database) (requested : Inbound) : Prop :=
  DistinctEmails library.toLower
    (emailsOf (settingsClients requested.settings) ++ db.otherEmails requested.id)

theorem checkedSettings_emails {targetFails : Bool}
    (checked : checkedSettings library clock db targetFails requested = .ok inbound) :
    inbound.id = requested.id ∧ (emailsOf (settingsClients inbound.settings)).Sublist
      (emailsOf (settingsClients requested.settings)) := by
  unfold checkedSettings at checked
  split at checked
  · obtain ⟨settings, decoded, checked⟩ := bind_eq_ok.mp checked
    obtain ⟨_, _, checked⟩ := bind_eq_ok.mp checked
    cases pure_eq_ok.mp checked
    refine ⟨rfl, ?_⟩
    unfold settingsClients
    dsimp only
    rw [emailsOf_toModelClient]
    rcases decoded_emails decoded with noClients | same
    · rw [noClients]
      exact List.nil_sublist _
    · rw [same]
      exact List.Sublist.refl _
  · cases pure_eq_ok.mp checked
    exact ⟨rfl, List.Sublist.refl _⟩

theorem replaceInbound_emails (distinct : EmailsDistinct library db)
    (own : DistinctEmails library.toLower
      (emailsOf (settingsClients inbound.settings) ++ db.otherEmails oldInbound.id)) :
    Ensures (replaceInbound faults oldInbound inbound) db
      (fun _ => EmailsDistinct library) (EmailsDistinct library) := by
  unfold Ensures replaceInbound
  cases updated : updateClientTraffics faults db oldInbound inbound with
  | error message => exact distinct
  | ok stats =>
    have sameTable := clientTable_congr (updateClientTraffics_inbounds updated)
    have statsDistinct := distinct.congr sameTable
    dsimp only
    cases saved : attempt (faults .save)
        (stats.saveInbound (replacedInbound oldInbound inbound)) with
    | error message =>
      dsimp only
      split
      · exact distinct
      · exact statsDistinct
    | ok next =>
      dsimp only
      split
      · exact distinct
      · refine statsDistinct.save ?_ (attempt_eq_ok.mp saved).2
        unfold replacedInbound
        rw [otherEmails_congr sameTable, emailsOf_rewriteUntyped]
        exact own

theorem updateInbound_emails (distinct : EmailsDistinct library db)
    (replaces : ReplacesDistinct library db requested) :
    Ensures (updateInbound library faults clock requested) db
      (fun _ => EmailsDistinct library) (EmailsDistinct library) := by
  refine Ensures.bind (Ensures.query (fun ⟨inbound, oldInbound⟩ checked => ?_) distinct)
  obtain ⟨_, _, checked⟩ := bind_eq_ok.mp checked
  obtain ⟨_, checked⟩ := refuse_eq_ok.mp checked
  obtain ⟨written, isWritten, checked⟩ := bind_eq_ok.mp checked
  obtain ⟨sameID, sub⟩ := checkedSettings_emails isWritten
  have isRead : inbound = written ∧ oldInbound.id = written.id := by
    split at checked
    · obtain ⟨_, _, checked⟩ := bind_eq_ok.mp checked
      obtain ⟨_, _, checked⟩ := bind_eq_ok.mp checked
      obtain ⟨old, isOld, checked⟩ := bind_eq_ok.mp checked
      cases pure_eq_ok.mp checked
      exact ⟨rfl, (inbound?_mem (getInbound_eq_ok.mp isOld).2).2⟩
    · obtain ⟨old, isOld, checked⟩ := bind_eq_ok.mp checked
      cases pure_eq_ok.mp checked
      exact ⟨rfl, (inbound?_mem (getInbound_eq_ok.mp isOld).2).2⟩
  obtain ⟨rfl, sameOld⟩ := isRead
  refine replaceInbound_emails distinct (DistinctEmails.sublist replaces ?_)
  rw [sameOld, sameID]
  exact sub.append (List.Sublist.refl _)

end Inbounds

/-! ## The calls on VK TURN clients -/

section Clients

variable {library : Library} {faults : Faults} {clock : Clock} {db middle : Database}
  {inboundID : Int} {old : Inbound} {settings : VKTurnProxySettings} {data : Envelope}
  {clientID : String}

/-- The emails that a call has read of an inbound, before those of the others. -/
theorem EmailsDistinct.decoded (distinct : EmailsDistinct library db)
    (found : db.inbound? inboundID = some old)
    (decoded : getVKTurnProxySettings clock old.settings = .ok settings) :
    DistinctEmails library.toLower
      (settings.clients.map (·.email) ++ db.otherEmails inboundID) := by
  obtain ⟨member, rfl⟩ := inbound?_mem found
  refine (distinct.stored (mem_clientTable member)).sublist (List.Sublist.append ?_ (List.Sublist.refl _))
  rcases decoded_emails decoded with noClients | same
  · rw [noClients]
    exact List.nil_sublist _
  · rw [same]
    exact List.Sublist.refl _

/-- A new email before those that are stored. -/
theorem EmailsDistinct.decoded_new (distinct : EmailsDistinct library db)
    (found : db.inbound? inboundID = some old)
    (decoded : getVKTurnProxySettings clock old.settings = .ok settings) {emails : List String}
    (isNew : firstKnownEmail library db.emails [] emails = "") :
    DistinctEmails library.toLower
      (emails ++ (settings.clients.map (·.email) ++ db.otherEmails inboundID)) := by
  obtain ⟨own, _, new⟩ := distinctEmails_append.mp (DistinctEmails.add distinct isNew)
  refine distinctEmails_append.mpr ⟨own, distinct.decoded found decoded, ?_⟩
  intro email isEmail named other isOther otherNamed
  refine new email isEmail named other ?_ otherNamed
  rcases List.mem_append.mp isOther with isOwn | isOther
  · obtain ⟨member, rfl⟩ := inbound?_mem found
    rcases decoded_emails decoded with noClients | same
    · rw [noClients] at isOwn
      cases isOwn
    · rw [same] at isOwn
      exact List.mem_flatMap.mpr ⟨_, mem_clientTable member, isOwn⟩
  · exact (otherEmails_sublist db inboundID).subset isOther

theorem saveSettings_emails (distinct : EmailsDistinct library db)
    (sameTable : middle.clientTable = db.clientTable)
    {saveTraffics : Database → Except String Database}
    (keeps : ∀ before after, saveTraffics before = .ok after → after.inbounds = before.inbounds)
    (own : DistinctEmails library.toLower
      (settings.clients.map (·.email) ++ db.otherEmails old.id)) :
    Ensures (transaction (faults .commit) (saveSettings faults old settings saveTraffics)) middle
      (fun _ => EmailsDistinct library) (EmailsDistinct library) := by
  have middleDistinct := distinct.congr sameTable
  refine Ensures.transaction (fun next saves _ => ?_) fun _ => middleDistinct
  obtain ⟨stored, isStored, sameInbounds⟩ := saveSettings_inbounds keeps saves
  refine EmailsDistinct.congr (middleDistinct.save ?_ isStored) (clientTable_congr sameInbounds)
  rw [otherEmails_congr sameTable]
  unfold settingsClients
  dsimp only
  rw [emailsOf_toModelClient]
  exact own

theorem refuseKnownEmail_new {email : String}
    (passed : refuseKnownEmail library faults db email = .ok ()) :
    firstKnownEmail library db.emails [] [email] = "" := by
  obtain ⟨existEmail, isEmail, passed⟩ := bind_eq_ok.mp passed
  rw [checkEmails_eq_ok isEmail]
  split at passed
  · cases passed
  · rename_i isEmpty
    simpa using isEmpty

/-- What is known after a client was bound. -/
theorem applyBinding_emails {client : VKTurnProxyClient} {previous : Option VKTurnProxyClient} :
    Ensures (applyVKTurnProxyClientBinding library faults clock settings client previous) db
      (fun bound next => next.clientTable = db.clientTable ∧ bound.email = client.email)
      (fun next => next.clientTable = db.clientTable) :=
  ((applyBinding_clients db rfl).and applyBinding_record).mono
    (fun _ _ ended => ⟨ended.1, congrArg Client.email ended.2⟩) fun _ ended => ended.1

theorem addVKTurnProxyClient_emails (distinct : EmailsDistinct library db) :
    Ensures (addVKTurnProxyClient library faults clock inboundID data) db
      (fun _ => EmailsDistinct library) (EmailsDistinct library) := by
  refine Ensures.bind (Ensures.query (fun ⟨old, settings, client⟩ checked => ?_) distinct)
  obtain ⟨inbound, found, checked⟩ := bind_eq_ok.mp checked
  obtain ⟨decoded, isDecoded, checked⟩ := bind_eq_ok.mp checked
  obtain ⟨_, _, checked⟩ := bind_eq_ok.mp checked
  obtain ⟨_, _, checked⟩ := bind_eq_ok.mp checked
  obtain ⟨_, _, checked⟩ := bind_eq_ok.mp checked
  obtain ⟨_, refused, checked⟩ := bind_eq_ok.mp checked
  cases pure_eq_ok.mp checked
  have found := (getInbound_eq_ok.mp found).2
  have added := distinct.decoded_new found isDecoded (refuseKnownEmail_new refused)
  refine Ensures.bind (applyBinding_emails.mono ?_ fun _ same => distinct.congr same)
  rintro bound middle ⟨sameTable, sameEmail⟩
  refine saveSettings_emails distinct sameTable (fun _ _ => addTraffic_inbounds) ?_
  obtain ⟨_, rfl⟩ := inbound?_mem found
  dsimp only
  rw [List.map_append, List.map_singleton, sameEmail]
  refine added.perm ?_
  rw [← List.append_assoc]
  exact List.perm_append_comm.append_right _

/-- Where the new email of a client folds to its old one, it is new beside the others. -/
def FoldsDistinct (library : Library) (clock : Clock) (db : Database) (inboundID : Int)
    (data : Envelope) (clientID : String) : Prop :=
  ∀ old settings request index previous, db.inbound? inboundID = some old →
    getVKTurnProxySettings clock old.settings = .ok settings → data = .ok [request] →
    clientAt settings clientID = .ok (index, previous) →
    library.equalFold request.email previous.email = true →
    DistinctEmails library.toLower
      ((settings.clients.map (·.email)).set index request.email ++ db.otherEmails inboundID)

theorem updateVKTurnProxyClient_emails (distinct : EmailsDistinct library db)
    (folds : FoldsDistinct library clock db inboundID data clientID) :
    Ensures (updateVKTurnProxyClient library faults clock inboundID data clientID) db
      (fun _ => EmailsDistinct library) (EmailsDistinct library) := by
  refine Ensures.bind (Ensures.query (fun ⟨old, settings, index, previous, client⟩ checked => ?_)
    distinct)
  obtain ⟨inbound, found, checked⟩ := bind_eq_ok.mp checked
  obtain ⟨decoded, isDecoded, checked⟩ := bind_eq_ok.mp checked
  obtain ⟨_, _, checked⟩ := bind_eq_ok.mp checked
  obtain ⟨request, isRequest, checked⟩ := bind_eq_ok.mp checked
  obtain ⟨⟨place, stored⟩, isStored, checked⟩ := bind_eq_ok.mp checked
  obtain ⟨validated, isValid, checked⟩ := bind_eq_ok.mp checked
  have found := (getInbound_eq_ok.mp found).2
  have sameEmail : validated.email = request.email :=
    congrArg Client.email (validateVKTurnProxyClient_record isValid)
  -- the email is one that folds to the old one, or it was looked for
  have own : inbound = old ∧ decoded = settings ∧ place = index ∧ validated = client ∧
      DistinctEmails library.toLower
        ((decoded.clients.map (·.email)).set place request.email ++ db.otherEmails inboundID) := by
    split at checked
    · obtain ⟨_, refused, checked⟩ := bind_eq_ok.mp checked
      cases pure_eq_ok.mp checked
      have added := distinct.decoded_new found isDecoded (refuseKnownEmail_new refused)
      rw [sameEmail, List.singleton_append] at added
      refine ⟨rfl, rfl, rfl, rfl, DistinctEmails.set (added.sublist (List.Sublist.cons_cons _ ?_))⟩
      exact (List.eraseIdx_sublist ..).append (List.Sublist.refl _)
    · rename_i isFolded
      cases pure_eq_ok.mp checked
      refine ⟨rfl, rfl, rfl, rfl, folds _ _ request _ _ found isDecoded
        (onlyClient_eq_ok isRequest) isStored ?_⟩
      rw [← sameEmail]
      simpa using isFolded
  obtain ⟨rfl, rfl, rfl, rfl, own⟩ := own
  refine Ensures.bind (applyBinding_emails.mono ?_ fun _ same => distinct.congr same)
  rintro bound middle ⟨sameTable, boundEmail⟩
  refine saveSettings_emails distinct sameTable (fun _ _ => updateTraffic_inbounds) ?_
  obtain ⟨_, rfl⟩ := inbound?_mem found
  dsimp only
  rw [List.map_set, boundEmail, sameEmail]
  exact own

theorem setVKTurnProxyClientEnable_emails {enable : Bool} (distinct : EmailsDistinct library db) :
    Ensures (setVKTurnProxyClientEnable library faults clock inboundID clientID enable) db
      (fun _ => EmailsDistinct library) (EmailsDistinct library) := by
  refine Ensures.bind (Ensures.query (fun client isClient => ?_) distinct)
  split
  · exact Ensures.pure distinct
  · refine updateVKTurnProxyClient_emails distinct ?_
    intro old settings request index previous found decoded isRequest isPrevious _
    cases isRequest
    obtain ⟨inbound, isInbound, isClient⟩ := bind_eq_ok.mp isClient
    obtain ⟨_, isClient⟩ := refuse_eq_ok.mp isClient
    obtain ⟨read, isRead, isClient⟩ := bind_eq_ok.mp isClient
    obtain ⟨⟨place, stored⟩, isStored, isClient⟩ := bind_eq_ok.mp isClient
    cases pure_eq_ok.mp isClient
    cases found.symm.trans (getInbound_eq_ok.mp isInbound).2
    cases decoded.symm.trans isRead
    cases isPrevious.symm.trans isStored
    -- the client keeps its email
    obtain ⟨inRange, isMember⟩ := List.getElem?_eq_some_iff.mp (clientAt_eq_ok isPrevious)
    have unchanged : (settings.clients.map (·.email)).set index client.email =
        settings.clients.map (·.email) := by
      rw [← List.map_set, ← isMember, List.set_getElem_self]
    dsimp only
    rw [unchanged]
    exact distinct.decoded found decoded

theorem delVKTurnProxyClient_emails (distinct : EmailsDistinct library db) :
    Ensures (delVKTurnProxyClient library faults clock inboundID clientID) db
      (fun _ => EmailsDistinct library) (EmailsDistinct library) := by
  refine Ensures.bind (Ensures.query (fun ⟨old, settings, index, client⟩ checked => ?_) distinct)
  obtain ⟨inbound, found, checked⟩ := bind_eq_ok.mp checked
  obtain ⟨decoded, isDecoded, checked⟩ := bind_eq_ok.mp checked
  obtain ⟨⟨place, stored⟩, isStored, checked⟩ := bind_eq_ok.mp checked
  cases pure_eq_ok.mp checked
  have found := (getInbound_eq_ok.mp found).2
  have own : DistinctEmails library.toLower
      ((settings.clients.eraseIdx index).map (·.email) ++ db.otherEmails old.id) := by
    have stored := distinct.decoded found isDecoded
    obtain ⟨_, rfl⟩ := inbound?_mem found
    exact stored.sublist (((List.eraseIdx_sublist ..).map _).append (List.Sublist.refl _))
  dsimp only
  split
  · refine Ensures.bind ((mutateWireguardPeers_clients db rfl).mono (fun _ middle sameTable => ?_)
      fun _ same => distinct.congr same)
    exact saveSettings_emails distinct sameTable (fun _ _ => delTraffic_inbounds) own
  · exact saveSettings_emails distinct rfl (fun _ _ => delTraffic_inbounds) own

end Clients

/-! ## The calls on clients of Xray's own protocols -/

section XrayClients

variable {library : Library} {faults : ClientFaults} {clock : Clock} {running : Bool}
  {db stats next : Database} {old : Inbound} {inboundID : Int} {data : Settings}
  {clients : List Client} {settings : Settings} {clientID : String}

theorem emailsOf_appendClients (appended : appendClients old.settings clients = some settings) :
    emailsOf (settingsClients settings) =
      emailsOf (settingsClients old.settings) ++ emailsOf clients := by
  have before := emailsOf_rewriteUntyped old.settings
  unfold appendClients at appended
  cases rewritten : rewriteUntyped old.settings with
  | vkTurnProxy stored =>
    rw [rewritten] at appended before
    dsimp only at appended
    split at appended
    · cases appended
    · cases appended
      rw [← before]
      unfold settingsClients
      dsimp only
      rw [emailsOf_toModelClient, emailsOf_toModelClient, List.map_append, List.map_map]
      rfl
  | clients stored =>
    rw [rewritten] at appended before
    cases appended
    rw [← before]
    unfold settingsClients emailsOf
    rw [List.map_append, List.map_map]
    rfl
  | wireguard stored =>
    rw [rewritten] at appended
    cases appended
  | text text =>
    rw [rewritten] at appended
    cases appended

theorem emailsOf_setClient (index : Nat) (client : Client) :
    emailsOf (settingsClients (setClient old.settings index client)) =
        (emailsOf (settingsClients old.settings)).set index client.email := by
  have before := emailsOf_rewriteUntyped old.settings
  unfold setClient
  cases rewritten : rewriteUntyped old.settings with
  | vkTurnProxy stored =>
    rw [rewritten] at before
    rw [← before]
    unfold settingsClients
    dsimp only
    rw [emailsOf_toModelClient, emailsOf_toModelClient, List.map_set]
    rfl
  | clients stored =>
    rw [rewritten] at before
    rw [← before]
    unfold settingsClients emailsOf
    dsimp only
    rw [List.map_set]
    rfl
  | wireguard stored =>
    rw [rewritten] at before
    rw [← before]
    rfl
  | text text =>
    rw [rewritten] at before
    rw [← before]
    rfl

theorem addClientRows_inbounds {panicked : Bool}
    (added : addClientRows faults old clients db = (panicked, next)) :
    next.inbounds = db.inbounds := by
  induction clients generalizing db with
  | nil =>
    cases added
    rfl
  | cons client rest inductionHypothesis =>
    unfold addClientRows at added
    split at added
    · exact inductionHypothesis added
    · cases created : addClientStat db (faults.own (.createStat client.email)) old.id client with
      | ok stored =>
        have first := addClientStat_inbounds created
        rw [created] at added
        dsimp only at added
        split at added
        · cases added
          exact first
        · exact (inductionHypothesis added).trans first
      | error message =>
        rw [created] at added
        dsimp only at added
        split at added
        · cases added
          rfl
        · exact inductionHypothesis added

theorem updateClientRows_inbounds {oldEmail : String} {client : Client}
    (updated : updateClientRows faults db inboundID oldEmail client = .ok next) :
    next.inbounds = db.inbounds := by
  unfold updateClientRows at updated
  split at updated
  · split at updated
    · obtain ⟨stored, isStored, updated⟩ := bind_eq_ok.mp updated
      obtain ⟨_, _, isWritten⟩ := bind_eq_ok.mp (attempt_eq_ok.mp isStored).2
      cases pure_eq_ok.mp isWritten
      obtain ⟨_, _, isNext⟩ := bind_eq_ok.mp (attempt_eq_ok.mp updated).2
      cases pure_eq_ok.mp isNext
      rfl
    · split at updated
      · rename_i created
        cases updated
        exact addClientStat_inbounds created
      · cases updated
        rfl
  · obtain ⟨stored, isStored, updated⟩ := bind_eq_ok.mp updated
    obtain ⟨_, _, isNext⟩ := bind_eq_ok.mp (attempt_eq_ok.mp updated).2
    cases pure_eq_ok.mp isNext
    show stored.inbounds = db.inbounds
    exact delClientStat_inbounds isStored

/-- A call ends with what its last save leaves, or without it. -/
theorem endsWith_emails (distinct : EmailsDistinct library db)
    (sameInbounds : stats.inbounds = db.inbounds)
    (own : DistinctEmails library.toLower
      (emailsOf (settingsClients settings) ++ db.otherEmails old.id)) :
    EmailsDistinct library (endsWith faults db stats
      (attempt (faults.own .save) (stats.saveInbound { old with settings }))).2 := by
  have sameTable := clientTable_congr sameInbounds
  unfold endsWith
  cases saved : attempt (faults.own .save) (stats.saveInbound { old with settings }) with
  | error message =>
    dsimp only
    split
    · exact distinct
    · exact distinct.congr sameTable
  | ok next =>
    dsimp only
    split
    · exact distinct
    · refine (distinct.congr sameTable).save ?_ (attempt_eq_ok.mp saved).2
      rw [otherEmails_congr sameTable]
      exact own

theorem storeClients_emails (distinct : EmailsDistinct library db)
    (own : DistinctEmails library.toLower
      (emailsOf (settingsClients settings) ++ db.otherEmails old.id)) :
    Ensures (storeClients faults running old clients settings) db
      (fun _ => EmailsDistinct library) (EmailsDistinct library) := by
  refine Ensures.of_ends ?_
  unfold storeClients
  split
  · exact distinct
  · split
    · rename_i stats added
      dsimp only
      split
      · exact distinct
      · exact distinct.congr (clientTable_congr (addClientRows_inbounds added))
    · rename_i stats added
      exact endsWith_emails distinct (addClientRows_inbounds added) own

theorem storeClient_emails {update : ClientUpdate} (distinct : EmailsDistinct library db)
    (own : DistinctEmails library.toLower
      (emailsOf (settingsClients update.settings) ++ db.otherEmails old.id)) :
    Ensures (storeClient faults running old update) db
      (fun _ => EmailsDistinct library) (EmailsDistinct library) := by
  refine Ensures.of_ends ?_
  unfold storeClient
  split
  · exact distinct
  · rename_i stats updated
    split
    · dsimp only
      split
      · exact distinct
      · exact distinct.congr (clientTable_congr (updateClientRows_inbounds updated))
    · exact endsWith_emails distinct (updateClientRows_inbounds updated) own

theorem addInboundClient_emails (distinct : EmailsDistinct library db) :
    Ensures (addInboundClient library faults clock running inboundID data) db
      (fun _ => EmailsDistinct library) (EmailsDistinct library) := by
  refine Ensures.bind (Ensures.query (fun old isOld => ?_) distinct)
  obtain ⟨stored, rfl⟩ := inbound?_mem (getInbound_eq_ok.mp isOld).2
  split
  · exact addVKTurnProxyClient_emails distinct
  · split
    · exact (addInboundPeer_clients db rfl).mono (fun _ _ same => distinct.congr same)
        fun _ same => distinct.congr same
    · refine Ensures.bind (Ensures.query (fun ⟨clients, settings⟩ checked => ?_) distinct)
      refine storeClients_emails distinct ?_
      obtain ⟨read, isRead, checked⟩ := bind_eq_ok.mp checked
      obtain ⟨_, checked⟩ := refuse_eq_ok.mp checked
      obtain ⟨existEmail, isEmail, checked⟩ := bind_eq_ok.mp checked
      obtain ⟨isNew, checked⟩ := refuse_eq_ok.mp checked
      obtain ⟨_, _, checked⟩ := bind_eq_ok.mp checked
      have isEmpty : existEmail = "" := by simpa using isNew
      split at checked
      · cases checked
      · rename_i appended
        cases pure_eq_ok.mp checked
        have added := DistinctEmails.add distinct ((checkEmails_eq_ok isEmail).trans isEmpty)
        rw [emailsOf_appendClients appended]
        -- the new emails stand behind the old ones of the inbound
        have perm := (perm_filter_key (clientTable_keys db) (mem_clientTable stored)).flatMap_right
          (emailsOf ·.2)
        rw [List.flatMap_cons] at perm
        refine added.perm ((perm.append_left _).trans ?_)
        rw [← List.append_assoc]
        exact List.perm_append_comm.append_right _

/-- What an update of a client does to the emails of its inbound. -/
theorem checkedClient_emails {update : ClientUpdate} (distinct : EmailsDistinct library db)
    (stored : old ∈ db.inbounds.rows)
    (checked : checkedClient library faults db old data clientID = .ok update) :
    DistinctEmails library.toLower
      (emailsOf (settingsClients update.settings) ++ db.otherEmails old.id) := by
  obtain ⟨read, isRead, checked⟩ := bind_eq_ok.mp checked
  obtain ⟨_, checked⟩ := refuse_eq_ok.mp checked
  cases read with
  | nil => cases checked
  | cons client rest =>
    obtain ⟨oldClients, isOld, checked⟩ := bind_eq_ok.mp checked
    split at checked
    · cases checked
    · rename_i index isIndex
      obtain ⟨_, checked⟩ := refuse_eq_ok.mp checked
      rw [getClients_eq_ok isOld] at checked isIndex
      have own := distinct.stored (mem_clientTable stored)
      have siblings : ((emailsOf (settingsClients old.settings)).eraseIdx index ++
          db.otherEmails old.id).Sublist
            (emailsOf (settingsClients old.settings) ++ db.otherEmails old.id) :=
        (List.eraseIdx_sublist ..).append (List.Sublist.refl _)
      dsimp only at checked
      split at checked
      · obtain ⟨existEmail, isEmail, checked⟩ := bind_eq_ok.mp checked
        obtain ⟨isNew, checked⟩ := refuse_eq_ok.mp checked
        cases pure_eq_ok.mp checked
        have isEmpty : existEmail = "" := by simpa using isNew
        have added := DistinctEmails.add distinct ((checkEmails_eq_ok isEmail).trans isEmpty)
        have perm := (perm_filter_key (clientTable_keys db) (mem_clientTable stored)).flatMap_right
          (emailsOf ·.2)
        rw [List.flatMap_cons] at perm
        rw [emailsOf_setClient]
        refine DistinctEmails.set ((added.perm (perm.append_left _)).sublist ?_)
        rw [List.map_cons, List.cons_append]
        exact List.Sublist.cons_cons _ (siblings.trans (List.sublist_append_right _ _))
      · rename_i unchecked
        cases pure_eq_ok.mp checked
        rw [emailsOf_setClient]
        by_cases isEmpty : client.email = ""
        · rw [isEmpty]
          exact DistinctEmails.set (distinctEmails_cons_empty.mpr (own.sublist siblings))
        · -- the client keeps the email of the one it replaces
          obtain ⟨inRange, _⟩ := List.findIdx?_eq_some_iff_getElem.mp isIndex
          have sameEmail : client.email = (settingsClients old.settings)[index].email := by
            by_contra differs
            refine unchecked ⟨isEmpty, ?_⟩
            rw [List.getElem?_eq_getElem inRange]
            exact differs
          have unchanged : (emailsOf (settingsClients old.settings)).set index client.email =
              emailsOf (settingsClients old.settings) := by
            unfold emailsOf
            rw [sameEmail, ← List.map_set, List.set_getElem_self]
          rw [unchanged]
          exact own

theorem updateInboundClient_emails (distinct : EmailsDistinct library db)
    (vkTurn : ∀ old, db.inbound? inboundID = some old → old.protocol = .vkTurnProxy →
      Ensures (updateVKTurnProxyClient library faults.vkTurn clock inboundID
        (getVKTurnProxyClientEnvelope data) clientID) db
        (fun _ => EmailsDistinct library) (EmailsDistinct library)) :
    Ensures (updateInboundClient library faults clock running inboundID data clientID) db
      (fun _ => EmailsDistinct library) (EmailsDistinct library) := by
  refine Ensures.bind (Ensures.query (fun old isOld => ?_) distinct)
  have found := (getInbound_eq_ok.mp isOld).2
  split
  · rename_i isVKTurn
    exact vkTurn old found isVKTurn
  · split
    · split
      · exact Ensures.throw distinct
      · exact (updateInboundPeer_clients db rfl).mono (fun _ _ same => distinct.congr same)
          fun _ same => distinct.congr same
    · refine Ensures.bind (Ensures.query (fun update checked => ?_) distinct)
      exact storeClient_emails distinct
        (checkedClient_emails distinct (inbound?_mem found).1 checked)

/-- A client of Xray's own protocols has no links, so it is none that a VK TURN inbound takes. -/
theorem updateVKTurnProxyClient_noLinks {vkTurn : Faults} {client : Client} :
    Keeps (updateVKTurnProxyClient library vkTurn clock inboundID
      (getVKTurnProxyClientEnvelope (.clients [client])) clientID) (EmailsDistinct library) := by
  intro db distinct
  refine Ensures.bind (Ensures.query (fun ⟨old, settings, index, previous, bound⟩ checked => ?_)
    distinct)
  obtain ⟨_, _, checked⟩ := bind_eq_ok.mp checked
  obtain ⟨_, _, checked⟩ := bind_eq_ok.mp checked
  obtain ⟨_, _, checked⟩ := bind_eq_ok.mp checked
  obtain ⟨request, isRequest, checked⟩ := bind_eq_ok.mp checked
  obtain ⟨_, _, checked⟩ := bind_eq_ok.mp checked
  obtain ⟨_, isValid, _⟩ := bind_eq_ok.mp checked
  have isData := onlyClient_eq_ok isRequest
  unfold getVKTurnProxyClientEnvelope at isData
  dsimp only at isData
  split at isData
  · cases isData
    exact absurd rfl (validateVKTurnProxyClient_links isValid)
  · cases isData

theorem succeeds_keeps {program : Program Database Unit} {holds : Database → Prop}
    (keeps : Keeps program holds) : Keeps (succeeds program) holds := by
  intro db held
  have ended := keeps.ends held
  refine Ensures.of_ends ?_
  unfold succeeds
  split
  · rename_i ran
    rw [ran] at ended
    exact ended
  · rename_i ran
    rw [ran] at ended
    exact ended

theorem copyClients_emails {copyFaults : CopyFaults} {credential : String → String}
    {sourceInbound targetInbound : Inbound} {allowedEmails : List String} (place : Nat)
    (occupied : List String) (sources newClients : List Client) :
    Keeps (copyClients library clock running copyFaults credential sourceInbound targetInbound
      allowedEmails place occupied sources newClients) (EmailsDistinct library) := by
  induction sources generalizing place occupied newClients with
  | nil => exact Keeps.pure _
  | cons source rest inductionHypothesis =>
    have goesOn (written : Bool) (originalEmail subID : String) :
        Keeps (if written = true then
            copyClients library clock running copyFaults credential sourceInbound targetInbound
              allowedEmails (place + 1)
              (library.toLower (nextAvailableCopiedEmail library originalEmail targetInbound.id
                occupied) :: occupied) rest
              (newClients ++ [buildTargetClientFromSource { source with subID }
                targetInbound.protocol (nextAvailableCopiedEmail library originalEmail
                  targetInbound.id occupied) (credential (nextAvailableCopiedEmail library
                    originalEmail targetInbound.id occupied))])
          else copyClients library clock running copyFaults credential sourceInbound targetInbound
            allowedEmails (place + 1) occupied rest newClients) (EmailsDistinct library) := by
      split
      · exact inductionHypothesis _ _ _
      · exact inductionHypothesis _ _ _
    unfold copyClients
    dsimp only
    split
    · exact inductionHypothesis _ _ _
    · split
      · exact Keeps.bind (Keeps.pure _) fun written => goesOn written _ _
      · split
        · exact Keeps.bind (Keeps.pure _) fun written => goesOn written _ _
        · refine Keeps.bind (succeeds_keeps fun db distinct => ?_) fun written => goesOn written _ _
          exact updateInboundClient_emails distinct fun _ _ _ =>
            updateVKTurnProxyClient_noLinks db distinct

theorem copyInboundClients_emails {copyFaults : CopyFaults} {credential : String → String}
    {targetInboundID sourceInboundID : Int} {clientEmails : List String} :
    Keeps (copyInboundClients library clock running copyFaults credential targetInboundID
      sourceInboundID clientEmails) (EmailsDistinct library) := by
  refine Keeps.refuse fun _ => Keeps.bind (Keeps.query _) fun targetInbound =>
    Keeps.bind (Keeps.query _) fun sourceInbound => Keeps.bind (Keeps.query _) fun sources => ?_
  split
  · exact Keeps.pure _
  · refine Keeps.bind (Keeps.query _) fun allEmails =>
      Keeps.bind (copyClients_emails _ _ _ _) fun newClients => ?_
    split
    · exact Keeps.pure _
    · exact fun db distinct => addInboundClient_emails distinct

end XrayClients

/-! ## Sequences of calls -/

inductive EmailRequest where
  | addInbound (faults : InboundSite → Bool) (newID : Int) (inbound : Inbound)
      (clientStats : List ClientTraffic)
  | updateInbound (faults : InboundSite → Bool) (inbound : Inbound)
  | addInboundClient (faults : ClientFaults) (inboundID : Int) (data : Settings)
  | updateInboundClient (faults : ClientFaults) (inboundID : Int) (data : Settings)
      (clientID : String)
  | copyInboundClients (faults : CopyFaults) (credential : String → String)
      (targetInboundID sourceInboundID : Int) (clientEmails : List String)
  | client (faults : Faults) (call : ClientCall)

structure EmailCall where
  request : EmailRequest
  clock : Clock
  running : Bool := true

def EmailCall.program (library : Library) (call : EmailCall) : Program Database Unit :=
  match call.request with
  | .addInbound faults newID inbound clientStats =>
    addInbound library faults call.clock newID inbound clientStats
  | .updateInbound faults inbound => updateInbound library faults call.clock inbound
  | .addInboundClient faults inboundID data =>
    addInboundClient library faults call.clock call.running inboundID data
  | .updateInboundClient faults inboundID data clientID =>
    updateInboundClient library faults call.clock call.running inboundID data clientID
  | .copyInboundClients faults credential targetInboundID sourceInboundID clientEmails =>
    copyInboundClients library call.clock call.running faults credential targetInboundID
      sourceInboundID clientEmails
  | .client faults clientCall => clientCall.program library faults call.clock

/-- The database under one call after the other, which keeps what a failed call has written. -/
def emailCalls (library : Library) : Machine Database EmailCall where
  step db call := some (call.program library db).2

/-- `UpdateInbound` is asked for emails that are new, and so is an update of a VK TURN client whose
    new email folds to its old one. -/
def AsksForNewEmails (library : Library) (db : Database) (call : EmailCall) : Prop :=
  match call.request with
  | .updateInbound _ inbound => ReplacesDistinct library db inbound
  | .updateInboundClient _ inboundID data clientID =>
    ∀ old, db.inbound? inboundID = some old → old.protocol = .vkTurnProxy →
      FoldsDistinct library call.clock db inboundID (getVKTurnProxyClientEnvelope data) clientID
  | .client _ (.update inboundID data clientID) =>
    FoldsDistinct library call.clock db inboundID data clientID
  | _ => True

theorem EmailsDistinct.step {library : Library} {db : Database} {call : EmailCall}
    (distinct : EmailsDistinct library db) (asks : AsksForNewEmails library db call) :
    Ensures (call.program library) db (fun _ => EmailsDistinct library)
      (EmailsDistinct library) := by
  obtain ⟨request, clock, running⟩ := call
  cases request with
  | addInbound => exact addInbound_emails distinct
  | updateInbound => exact updateInbound_emails distinct asks
  | addInboundClient => exact addInboundClient_emails distinct
  | updateInboundClient faults inboundID data clientID =>
    exact updateInboundClient_emails distinct fun old found isVKTurn =>
      updateVKTurnProxyClient_emails distinct (asks old found isVKTurn)
  | copyInboundClients => exact copyInboundClients_emails db distinct
  | client faults call =>
    cases call with
    | add => exact addVKTurnProxyClient_emails distinct
    | update => exact updateVKTurnProxyClient_emails distinct asks
    | setEnable => exact setVKTurnProxyClientEnable_emails distinct
    | del => exact delVKTurnProxyClient_emails distinct

/-- As long as the calls that do not look for an email are asked for new ones, emails stay
    distinct up to case. -/
theorem emails_stay_distinct {library : Library} {db : Database}
    (reached : (emailCalls library).ReachableWhile (AsksForNewEmails library)
      (EmailsDistinct library) db) : EmailsDistinct library db := by
  refine reached.invariant (fun _ => id) fun db next call distinct asks stepped => ?_
  cases stepped
  exact (distinct.step asks).ends

/-! ## Two emails that differ in case -/

/-- Libraries whose `ToLower` takes the letters of ASCII. -/
def lowering : Library :=
  { canonical with toLower := fun text => String.ofList (text.toList.map Char.toLower) }

theorem noInbounds_emails : EmailsDistinct lowering noInbounds := List.nodup_nil

/-- A VLESS inbound with clients under these emails. -/
def vlessInbound (id : Int) (emails : List String) : Inbound where
  id := id
  port := 443
  protocol := ⟨"vless"⟩
  settings := .clients (emails.map fun email => { id := "7c1e", email, enable := true })
  tag := "inbound-443"

def addVless (emails : List String) : EmailCall where
  request := .addInbound (fun _ => false) 1 (vlessInbound 0 emails) []
  clock := ⟨1700000000000, "a0b1"⟩

def updateVless (emails : List String) : EmailCall where
  request := .updateInbound (fun _ => false) (vlessInbound 1 emails)
  clock := ⟨1700000000000, "a0b1"⟩

theorem emails_stay_distinct_pair :
    ∃ db, (emailCalls lowering).run noInbounds [addVless ["a"], updateVless ["a", "b"]] =
        some db ∧ db.emails = ["a", "b"] ∧ EmailsDistinct lowering db := by
  have started : (emailCalls lowering).ReachableWhile (AsksForNewEmails lowering)
      (EmailsDistinct lowering) noInbounds := .start noInbounds_emails
  have added := started.step (show AsksForNewEmails lowering _ (addVless ["a"]) from trivial) rfl
  refine ⟨_, rfl, by decide +kernel, emails_stay_distinct (added.step
    (show AsksForNewEmails lowering _ (updateVless ["a", "b"]) from ?_) rfl)⟩
  show List.Nodup _
  decide +kernel

/-- An update is not looked at, and both calls succeed. -/
theorem updated_to_one_email_twice :
    ∃ middle next, (addVless ["a"]).program lowering noInbounds = (.ok (), middle) ∧
      (updateVless ["a", "A"]).program lowering middle = (.ok (), next) ∧
      (emailCalls lowering).Reachable (EmailsDistinct lowering) next ∧
      ¬ EmailsDistinct lowering next := by
  refine ⟨((addVless ["a"]).program lowering noInbounds).2, _, rfl, rfl,
    Machine.Reachable.run (.start noInbounds_emails)
      (show (emailCalls lowering).run noInbounds [addVless ["a"], updateVless ["a", "A"]] =
        some _ from rfl), ?_⟩
  show ¬ List.Nodup _
  decide +kernel

end VkTurn.Panel
