import VkTurn.Panel.Inbounds

/-! # Traffic accounting

`AddTraffic` adds what Xray and the VK TURN processes have counted to the inbounds and to the
rows of their clients, renews clients whose period has ended, and disables what is over its
limit, all in one transaction.

The running Xray and the restart flag are left out.  One statement reads the rows that the others
of its phase write, so a row that is saved differs from the stored one in what the phase changed.
-/

namespace VkTurn.Panel

open VkTurn.Store

/-- `xray.Traffic`. -/
structure Traffic where
  isInbound : Bool
  tag : String
  up : Int
  down : Int
  deriving DecidableEq

/-- The statements of a call; an inbound's counters are updated by the position of its traffic in
    the batch. -/
inductive TrafficSite where
  | inbound (index : Nat)
  | find
  | create (email : String)
  | adjustedInbounds
  | saveAdjusted
  | save
  | expired
  | renewedInbounds
  | saveInbounds
  | saveRenewed
  | invalidClients
  | disableClients
  | invalidInbounds
  | disableInbounds
  | commit
  deriving DecidableEq

/-- The time of each phase in milliseconds. -/
structure TrafficTimes where
  adjust : Int
  online : Int
  renew : Int
  disableClients : Int
  disableInbounds : Int

/-- How a phase ends. -/
inductive Ending where
  | done
  | failed
  | panicked
  deriving DecidableEq

/-! ## Writing rows -/

namespace Database

def mapInbounds (db : Database) (update : Inbound → Inbound)
    (sameKeys : ∀ inbound, (update inbound).id = inbound.id ∧ (update inbound).tag = inbound.tag) :
    Database where
  inbounds := ⟨db.inbounds.rows.map update, by
    unfold UniqueInbounds
    rw [List.map_map, List.map_map]
    have sameIDs : (fun inbound => (update inbound).id) = fun inbound => inbound.id :=
      funext fun inbound => (sameKeys inbound).1
    have sameTags : (fun inbound => (update inbound).tag) = fun inbound => inbound.tag :=
      funext fun inbound => (sameKeys inbound).2
    unfold Function.comp
    rw [sameIDs, sameTags]
    exact db.inbounds.valid⟩
  clientTraffics := db.clientTraffics
  clientIps := db.clientIps

def mapTraffics (db : Database) (update : ClientTraffic → ClientTraffic)
    (sameEmail : ∀ row, (update row).email = row.email) : Database where
  inbounds := db.inbounds
  clientTraffics := ⟨db.clientTraffics.rows.map update, by
    unfold UniqueTraffics
    rw [List.map_map]
    have sameEmails : (fun row => (update row).email) = fun row => row.email := funext sameEmail
    unfold Function.comp
    rw [sameEmails]
    exact db.clientTraffics.valid⟩
  clientIps := db.clientIps

/-- `tx.Save` of inbounds of which only the settings have changed since they were read. -/
def saveSettings (db : Database) (inbounds : List Inbound) : Database :=
  db.mapInbounds (fun inbound => { inbound with
    settings := ((inbounds.find? (·.id = inbound.id)).getD inbound).settings }) fun _ => ⟨rfl, rfl⟩

/-- `tx.Save` of rows that were read from the table. -/
def saveTraffics (db : Database) (rows : List ClientTraffic) : Database :=
  db.mapTraffics (fun row => (rows.find? (·.email = row.email)).getD row) fun _ => key_overwritten

end Database

/-! ## Inbounds -/

def countInbound (traffic : Traffic) (inbound : Inbound) : Inbound :=
  if inbound.tag = traffic.tag then { inbound with
    up := inbound.up + traffic.up
    down := inbound.down + traffic.down
    allTime := inbound.allTime + (traffic.up + traffic.down) }
  else inbound

theorem countInbound_keys (traffic : Traffic) (inbound : Inbound) :
    (countInbound traffic inbound).id = inbound.id ∧
      (countInbound traffic inbound).tag = inbound.tag := by
  unfold countInbound
  split
  · exact ⟨rfl, rfl⟩
  · exact ⟨rfl, rfl⟩

variable (faults : TrafficSite → Bool)

def addInboundTraffic (traffics : List Traffic) (db : Database) : Except String Database :=
  (traffics.zipIdx.filter (·.1.isInbound)).foldlM (fun db entry =>
    attempt (faults (.inbound entry.2)) <|
      .ok (db.mapInbounds (countInbound entry.1) (countInbound_keys entry.1))) db

/-! ## A pass over the clients of inbounds

Two phases go through the clients of inbounds, each with rows in memory, and move the expiry time
of a client and of its row together. -/

/-- The fields of a client's JSON object that a pass reads and writes. -/
structure ClientFields (Record : Type) where
  email : Record → String
  /-- Missing where the number is omitted. -/
  expiryTime? : Record → Option Int
  withExpiryTime : Int → Record → Record

def clientFields : ClientFields Client where
  email := (·.email)
  expiryTime? client := some client.expiryTime
  withExpiryTime expiryTime client := { client with expiryTime }

def vkTurnProxyClientFields : ClientFields VKTurnProxyClient where
  email := (·.email)
  expiryTime? client := if client.expiryTime = 0 then none else some client.expiryTime
  withExpiryTime expiryTime client := { client with expiryTime }

structure ClientPass where
  /-- The rows that a client is looked for in. -/
  selects : ClientTraffic → Bool
  /-- The new expiry time from the row and from the client's own, if there is no panic. -/
  expiryTime : ClientTraffic → Option Int → Option Int
  update : Int → ClientTraffic → ClientTraffic
  sameEmail : ∀ expiryTime row, (update expiryTime row).email = row.email
  stamp : VKTurnProxyClient → VKTurnProxyClient
  /-- What becomes of settings without a list of clients, if there is no panic. -/
  withoutList : Settings → Option Settings
  emptyList : Settings

/-- The rows in memory, and the emails of the clients that were found there. -/
structure Visited where
  rows : List ClientTraffic
  emails : List String := []

namespace ClientPass

variable {Record : Type} (pass : ClientPass) (fields : ClientFields Record)

/-- What is known after the row of a client was found. -/
def found (visited : Visited) (row : ClientTraffic) (expiryTime : Int) : Visited where
  rows := visited.rows.map fun other =>
    if other.email = row.email then pass.update expiryTime other else other
  emails := visited.emails ++ [row.email]

def visit (visited : Visited) (client : Record) : Option (Visited × Record) :=
  match visited.rows.find? fun row => pass.selects row ∧ row.email = fields.email client with
  | none => some (visited, client)
  | some row =>
    (pass.expiryTime row (fields.expiryTime? client)).map fun expiryTime =>
      (pass.found visited row expiryTime, fields.withExpiryTime expiryTime client)

def visitAll : Visited → List Record → Option (Visited × List Record)
  | visited, [] => some (visited, [])
  | visited, client :: rest => do
    let (visited, client) ← pass.visit fields visited client
    let (visited, rest) ← visitAll visited rest
    return (visited, client :: rest)

def visitSettings (visited : Visited) (settings : Settings) : Option (Visited × Settings) :=
  match rewriteUntyped settings with
  | .vkTurnProxy settings =>
    if settings.clients = [] then (pass.withoutList (.vkTurnProxy settings)).map (visited, ·)
    else (pass.visitAll vkTurnProxyClientFields visited settings.clients).map
      fun (visited, clients) =>
        (visited, .vkTurnProxy { settings with clients := clients.map pass.stamp })
  | .clients clients =>
    if clients = [] then some (visited, pass.emptyList)
    else (pass.visitAll clientFields visited clients).map
      fun (visited, clients) => (visited, .clients clients)
  | .wireguard settings => (pass.withoutList (.wireguard settings)).map (visited, ·)
  | .text text => (pass.withoutList (.text text)).map (visited, ·)

def visitInbounds : Visited → List Inbound → Option (Visited × List Inbound)
  | visited, [] => some (visited, [])
  | visited, inbound :: rest => do
    let (visited, settings) ← pass.visitSettings visited inbound.settings
    let (visited, rest) ← visitInbounds visited rest
    return (visited, { inbound with settings } :: rest)

end ClientPass

/-! ## Clients -/

/-- Settings whose list of clients was written from a nil slice. -/
def nullClients : Settings := .wireguard { others := [("clients", "null")], peers := none }

/-- A client whose period starts with its first use: its expiry time is the negative length. -/
def startPass (now : Int) : ClientPass where
  selects row := row.expiryTime < 0
  expiryTime _ own := own.map (now - ·)
  update expiryTime row := { row with expiryTime }
  sameEmail _ _ := rfl
  stamp client := { client with
    createdAt := if client.createdAt = 0 then now else client.createdAt
    updatedAt := now }
  withoutList := some
  emptyList := nullClients

/-- The inbounds of some rows. -/
def inboundsOf (db : Database) (rows : List ClientTraffic) : List Inbound :=
  db.inbounds.rows.filter fun inbound => rows.any (·.inboundID = inbound.id)

def adjustTraffics (now : Int) (db : Database) (rows : List ClientTraffic) :
    Ending × Database × List ClientTraffic :=
  let starting := rows.filter (·.expiryTime < 0)
  if starting = [] then (.done, db, rows)
  else if faults .adjustedInbounds then (.failed, db, rows)
  else match (startPass now).visitInbounds { rows } (inboundsOf db starting) with
    | none => (.panicked, db, rows)
    | some (visited, inbounds) =>
      -- an error of this save is only logged
      (.done, if faults .saveAdjusted then db else db.saveSettings inbounds, visited.rows)

/-- The row of a client that has none. -/
def missingTraffic (traffic : ClientTraffic) : ClientTraffic where
  inboundID := traffic.inboundID
  enable := traffic.enable
  email := traffic.email
  expiryTime := traffic.expiryTime
  total := traffic.total
  reset := traffic.reset

/-- The rows to create for a batch, where there are already those of `known`. -/
def missingTraffics (toLower : String → String) :
    List ClientTraffic → List ClientTraffic → List ClientTraffic
  | _, [] => []
  | known, traffic :: rest =>
    if known.any (toLower ·.email = toLower traffic.email) ∨ traffic.inboundID ≤ 0 then
      missingTraffics toLower known rest
    else missingTraffic traffic ::
      missingTraffics toLower (known ++ [missingTraffic traffic]) rest

def knownTraffics (db : Database) (traffics : List ClientTraffic) : List ClientTraffic :=
  db.clientTraffics.rows.filter fun row => traffics.any (·.email = row.email)

def createTraffics (db : Database) (rows : List ClientTraffic) : Except String Database :=
  rows.foldlM (fun db row => attempt (faults (.create row.email)) (db.createTraffic row)) db

/-- The first traffic of the batch with the row's email is added to it. -/
def countClient (online : Int) (traffics : List ClientTraffic) (row : ClientTraffic) :
    ClientTraffic :=
  match traffics.find? (·.email = row.email) with
  | none => row
  | some traffic => { row with
    up := row.up + traffic.up
    down := row.down + traffic.down
    allTime := row.allTime + (traffic.up + traffic.down)
    lastOnline := if 0 < traffic.up + traffic.down then online else row.lastOnline }

def addClientTraffic (library : Library) (running : Bool) (times : TrafficTimes)
    (traffics : List ClientTraffic) (db : Database) : Ending × Database :=
  if traffics = [] then (.done, db)
  else if faults .find then (.failed, db)
  else
    let known := knownTraffics db traffics
    let missing := missingTraffics library.toLower known traffics
    match createTraffics faults db missing with
    | .error _ => (.failed, db)
    | .ok db =>
      if known ++ missing = [] then (.done, db)
      else match adjustTraffics faults times.adjust db (known ++ missing) with
        | (.failed, db, _) => (.failed, db)
        | (.panicked, db, _) => (.panicked, db)
        | (.done, db, rows) =>
          -- `SetOnlineClients` is a method of the process, which may not be there
          if ¬ running then (.panicked, db)
          -- an error of this save is only logged
          else if faults .save then (.done, db)
          else (.done, db.saveTraffics (rows.map (countClient times.online traffics)))

/-! ## Renewal -/

/-- `for newExpiryTime < now`; every turn adds at least one. -/
def renewedExpiryTime (now step : Int) : Nat → Int → Int
  | 0, expiryTime => expiryTime
  | fuel + 1, expiryTime =>
    if expiryTime < now then renewedExpiryTime now step fuel (expiryTime + step) else expiryTime

theorem renewedExpiryTime_reaches {now step : Int} (positive : 0 < step) {fuel : Nat}
    {expiryTime : Int} (enough : now - expiryTime ≤ fuel) :
    now ≤ renewedExpiryTime now step fuel expiryTime := by
  induction fuel generalizing expiryTime with
  | zero =>
    unfold renewedExpiryTime
    omega
  | succ fuel inductionHypothesis =>
    unfold renewedExpiryTime
    split
    · exact inductionHypothesis (by omega)
    · omega

/-- The end of the period in which `now` falls. -/
def nextExpiryTime (now : Int) (row : ClientTraffic) : Int :=
  renewedExpiryTime now (row.reset * 86400000) (now - row.expiryTime).toNat row.expiryTime

def renewPass (now : Int) : ClientPass where
  selects _ := true
  expiryTime row _ := some (nextExpiryTime now row)
  update expiryTime row := { row with expiryTime, up := 0, down := 0, enable := true }
  sameEmail _ _ := rfl
  stamp := id
  withoutList _ := none
  emptyList := .clients []

/-- The clients whose renewal was written, to settings and to rows. -/
structure Renewal where
  inSettings : List String := []
  inRows : List String := []
  deriving DecidableEq

def dueTraffics (now : Int) (db : Database) : List ClientTraffic :=
  db.clientTraffics.rows.filter fun row =>
    0 < row.reset ∧ 0 < row.expiryTime ∧ row.expiryTime ≤ now

def autoRenewClients (now : Int) (db : Database) : Ending × Database × Renewal :=
  let due := dueTraffics now db
  if faults .expired then (.failed, db, {})
  else if due = [] then (.done, db, {})
  else if faults .renewedInbounds then (.failed, db, {})
  else match (renewPass now).visitInbounds { rows := due } (inboundsOf db due) with
    | none => (.panicked, db, {})
    | some (visited, inbounds) =>
      -- a save of no rows at all is an error
      if inbounds = [] ∨ faults .saveInbounds then (.failed, db, {})
      else
        let db := db.saveSettings inbounds
        if faults .saveRenewed then (.failed, db, { inSettings := visited.emails })
        else (.done, db.saveTraffics visited.rows,
          { inSettings := visited.emails, inRows := visited.emails })

/-! ## Limits -/

def overLimit (now total up down expiryTime : Int) : Bool :=
  (0 < total ∧ total ≤ up + down) ∨ (0 < expiryTime ∧ expiryTime ≤ now)

def disableInvalidClients (running : Bool) (now : Int) (db : Database) : Ending × Database :=
  if running ∧ faults .invalidClients then (.failed, db)
  else if faults .disableClients then (.failed, db)
  else (.done, db.mapTraffics (fun row => { row with
    enable := row.enable && !overLimit now row.total row.up row.down row.expiryTime }) fun _ => rfl)

def disableInvalidInbounds (running : Bool) (now : Int) (db : Database) : Ending × Database :=
  if running ∧ faults .invalidInbounds then (.failed, db)
  else if faults .disableInbounds then (.failed, db)
  else (.done, db.mapInbounds (fun inbound => { inbound with
    enable := inbound.enable &&
      !overLimit now inbound.total inbound.up inbound.down inbound.expiryTime })
    fun _ => ⟨rfl, rfl⟩)

/-! ## The call -/

inductive TrafficOutcome where
  | returnsNil
  | returnsError
  | panics
  deriving DecidableEq

/-- What a call returns and what it leaves. -/
structure Accounting where
  outcome : TrafficOutcome
  committed : Bool
  db : Database
  renewal : Renewal

section Call

variable (library : Library) (running : Bool) (times : TrafficTimes)

def rolledBack (outcome : TrafficOutcome) (db : Database) : Accounting :=
  ⟨outcome, false, db, {}⟩

/-- `tx.Commit()`, whose error nobody looks at. -/
def committing (outcome : TrafficOutcome) (db next : Database) (renewal : Renewal) : Accounting :=
  if faults .commit then rolledBack outcome db else ⟨outcome, true, next, renewal⟩

/-- The phases whose errors are only logged.  The deferred function looks at the last one, and it
    commits what was written before a panic. -/
def settleTraffic (db counted : Database) : Accounting :=
  match autoRenewClients faults times.renew counted with
  | (.panicked, next, renewal) => committing faults .panics db next renewal
  | (_, next, renewal) =>
    let next := (disableInvalidClients faults running times.disableClients next).2
    match disableInvalidInbounds faults running times.disableInbounds next with
    | (.done, next) => committing faults .returnsNil db next renewal
    | (_, _) => rolledBack .returnsNil db

def addTraffic (inboundTraffics : List Traffic) (clientTraffics : List ClientTraffic)
    (db : Database) : Accounting :=
  match addInboundTraffic faults inboundTraffics db with
  | .error _ => rolledBack .returnsError db
  | .ok counted =>
    match addClientTraffic faults library running times clientTraffics counted with
    | (.failed, _) => rolledBack .returnsError db
    | (.panicked, next) => committing faults .panics db next {}
    | (.done, next) => settleTraffic faults running times db next

end Call

end VkTurn.Panel
