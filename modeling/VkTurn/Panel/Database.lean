import VkTurn.Store.Transaction

/-! # The panel's database

The tables `inbounds`, `client_traffics` and `inbound_client_ips` with their unique columns,
and the statements the services make on them.  An inbound's settings column is JSON text; it
is modelled by what the text decodes to, `Settings`.

A statement may fail for reasons of its own (the disk, a lock), which is an argument of the
statements here.
-/

namespace VkTurn.Panel

open VkTurn.Store

/-- `common.NewError`: its arguments with blanks between them and a line end. -/
def newError (parts : List String) : String := String.intercalate " " parts ++ "\n"

/-! ## Settings -/

structure Protocol where
  name : String
  deriving DecidableEq

namespace Protocol

def wireguard : Protocol := ⟨"wireguard"⟩
def vkTurnProxy : Protocol := ⟨"vk-turn-proxy"⟩

end Protocol

structure WireguardPeer where
  privateKey : String
  publicKey : String
  preSharedKey : String := ""
  allowedIPs : List String
  keepAlive : Int := 0
  deriving DecidableEq

/-- The settings of a WireGuard inbound; `others` are the JSON texts of its other keys. -/
structure WireguardSettings where
  others : List (String × String) := []
  peers : Option (List WireguardPeer)
  deriving DecidableEq

inductive VKTurnProxyForwardType where
  | wireguardInbound
  | external
  | other (text : String)
  deriving DecidableEq

structure VKTurnProxyForward where
  type : VKTurnProxyForwardType := .other ""
  wireguardInboundID : Int := 0
  host : String := ""
  port : Int := 0
  deriving DecidableEq

structure VKTurnProxyClientPeer where
  privateKey : String
  publicKey : String
  preSharedKey : String := ""
  allowedIPs : List String := []
  keepAlive : Int := 0
  deriving DecidableEq

structure VKTurnProxyClient where
  id : String
  email : String
  enable : Bool
  comment : String := ""
  limitIP : Int := 0
  totalGB : Int := 0
  expiryTime : Int := 0
  tgID : Int := 0
  subID : String := ""
  reset : Int := 0
  createdAt : Int := 0
  updatedAt : Int := 0
  link : String
  links : List String := []
  linkSecondary : String := ""
  peerPublicKey : String
  peerManaged : Bool := false
  peer : Option VKTurnProxyClientPeer := none
  deriving DecidableEq

structure VKTurnProxySettings where
  forward : VKTurnProxyForward := {}
  sessionMode : String := ""
  localEndpoint : String := ""
  wgDNS : String := ""
  wgMTU : Int := 0
  wgAllowedIPs : String := ""
  threads : Int := 0
  useUDP : Option Bool := none
  noObfuscation : Option Bool := none
  credsGroupSize : Int := 0
  wbStreamEnabled : Bool := false
  wbStreamRoomID : String := ""
  wbStreamDisplayName : String := ""
  wbStreamE2EEnabled : Bool := false
  wbStreamE2ESecret : String := ""
  wbStreamExchangeViaVKTurn : Bool := false
  clients : List VKTurnProxyClient := []
  deriving DecidableEq

/-- A client of one of Xray's own protocols, as far as the panel's accounting reads it. -/
structure Client where
  id : String := ""
  email : String
  enable : Bool
  totalGB : Int := 0
  expiryTime : Int := 0
  reset : Int := 0
  password : String := ""
  auth : String := ""
  subID : String := ""
  deriving DecidableEq

/-- What a settings column holds; `text` is one that is not a JSON object. -/
inductive Settings where
  | vkTurnProxy (settings : VKTurnProxySettings)
  | wireguard (settings : WireguardSettings)
  | clients (clients : List Client)
  | text (text : String)
  deriving DecidableEq

/-! ## Tables -/

structure Inbound where
  id : Int
  up : Int := 0
  down : Int := 0
  total : Int := 0
  allTime : Int := 0
  remark : String := ""
  enable : Bool := true
  expiryTime : Int := 0
  listen : String := ""
  port : Int
  protocol : Protocol
  settings : Settings
  tag : String
  deriving DecidableEq

structure ClientTraffic where
  inboundID : Int
  enable : Bool
  email : String
  up : Int := 0
  down : Int := 0
  allTime : Int := 0
  expiryTime : Int := 0
  total : Int := 0
  reset : Int := 0
  lastOnline : Int := 0
  deriving DecidableEq

structure InboundClientIps where
  clientEmail : String
  ips : String
  deriving DecidableEq

def UniqueInbounds (rows : List Inbound) : Prop :=
  (rows.map (·.id)).Nodup ∧ (rows.map (·.tag)).Nodup

def UniqueTraffics (rows : List ClientTraffic) : Prop := (rows.map (·.email)).Nodup

def UniqueIps (rows : List InboundClientIps) : Prop := (rows.map (·.clientEmail)).Nodup

instance : DecidablePred UniqueInbounds := fun _ => inferInstanceAs (Decidable (_ ∧ _))
instance : DecidablePred UniqueTraffics := fun _ => inferInstanceAs (Decidable (List.Nodup _))
instance : DecidablePred UniqueIps := fun _ => inferInstanceAs (Decidable (List.Nodup _))

/-! An empty table is as unique as it has to be. -/

theorem uniqueInbounds_nil : UniqueInbounds [] := ⟨List.nodup_nil, List.nodup_nil⟩

theorem uniqueTraffics_nil : UniqueTraffics [] := List.nodup_nil

theorem uniqueIps_nil : UniqueIps [] := List.nodup_nil

structure Database where
  inbounds : Table Inbound UniqueInbounds
  clientTraffics : Table ClientTraffic UniqueTraffics
  clientIps : Table InboundClientIps UniqueIps

/-! ## Statements -/

/-- A statement that may fail for reasons of its own. -/
def attempt {Value : Type} (fails : Bool) (statement : Except String Value) :
    Except String Value :=
  if fails then .error "database error" else statement

theorem attempt_eq_ok {Value : Type} {fails : Bool} {statement : Except String Value}
    {value : Value} :
    attempt fails statement = .ok value ↔ fails = false ∧ statement = .ok value := by
  cases fails <;> simp [attempt]

namespace Database

def inbound? (db : Database) (id : Int) : Option Inbound :=
  db.inbounds.rows.find? (·.id = id)

/-- `GetInbound`. -/
def getInbound (db : Database) (fails : Bool) (id : Int) : Except String Inbound :=
  attempt fails <| match db.inbound? id with
    | none => .error "record not found"
    | some inbound => .ok inbound

/-- `tx.Save` of an inbound: an update of the row with its id, or a new row. -/
def upsertInbound (db : Database) (inbound : Inbound) : Except String Database := do
  let inbounds ← Table.write (upsertRow (·.id) inbound db.inbounds.rows)
  return { db with inbounds }

/-- `tx.Save` of an inbound that was read from the table. -/
def saveInbound (db : Database) (inbound : Inbound) : Except String Database := do
  let inbounds ← Table.write (replaceRow (·.id) inbound db.inbounds.rows)
  return { db with inbounds }

def createTraffic (db : Database) (row : ClientTraffic) : Except String Database := do
  let clientTraffics ← Table.write (db.clientTraffics.rows ++ [row])
  return { db with clientTraffics }

/-- `UPDATE client_traffics SET … WHERE email = ?`. -/
def updateTraffic (db : Database) (email : String) (update : ClientTraffic → ClientTraffic) :
    Except String Database := do
  let clientTraffics ← Table.write
    (db.clientTraffics.rows.map fun row => if row.email = email then update row else row)
  return { db with clientTraffics }

def deleteTraffic (db : Database) (email : String) : Except String Database := do
  let clientTraffics ← Table.write (db.clientTraffics.rows.filter (·.email ≠ email))
  return { db with clientTraffics }

def renameClientIps (db : Database) (oldEmail newEmail : String) : Except String Database := do
  let clientIps ← Table.write (db.clientIps.rows.map fun row =>
    if row.clientEmail = oldEmail then { row with clientEmail := newEmail } else row)
  return { db with clientIps }

def deleteClientIps (db : Database) (email : String) : Except String Database := do
  let clientIps ← Table.write (db.clientIps.rows.filter (·.clientEmail ≠ email))
  return { db with clientIps }

def listensEverywhere (listen : String) : Bool :=
  listen = "" ∨ listen = "0.0.0.0" ∨ listen = "::" ∨ listen = "::0"

/-- `checkPortExist`. -/
def checkPortExist (db : Database) (fails : Bool) (listen : String) (port ignoreID : Int) :
    Except String Bool :=
  attempt fails <| .ok <| db.inbounds.rows.any fun other =>
    other.port = port ∧
      (listensEverywhere listen ∨ other.listen = listen ∨ listensEverywhere other.listen) ∧
      (0 < ignoreID → other.id ≠ ignoreID)

/-- `getAllEmails`; the query reads the settings of every inbound as JSON. -/
def getAllEmails (db : Database) (fails : Bool) : Except String (List String) :=
  attempt fails <| (db.inbounds.rows.mapM emailsOf).map List.flatten
where
  emailsOf (inbound : Inbound) : Except String (List String) :=
    match inbound.settings with
    | .vkTurnProxy settings => .ok (settings.clients.map (·.email))
    | .wireguard _ => .ok []
    | .clients clients => .ok (clients.map (·.email))
    | .text _ => .error "malformed JSON"

end Database

/-! ## Reading the tables after a statement -/

section Lemmas

variable {db next : Database} {inbound : Inbound} {id : Int}

theorem getInbound_eq_ok {fails : Bool} : db.getInbound fails id = .ok inbound ↔
    fails = false ∧ db.inbound? id = some inbound := by
  rw [Database.getInbound, attempt_eq_ok]
  cases db.inbound? id <;> simp

theorem inbound?_mem (found : db.inbound? id = some inbound) :
    inbound ∈ db.inbounds.rows ∧ inbound.id = id :=
  ⟨List.mem_of_find?_eq_some found, by simpa using List.find?_some found⟩

theorem inbound?_of_mem (member : inbound ∈ db.inbounds.rows) :
    db.inbound? inbound.id = some inbound :=
  find?_key_of_mem db.inbounds.valid.1 member

theorem saveInbound_eq_ok : db.saveInbound inbound = .ok next ↔
    next.inbounds.rows = replaceRow (·.id) inbound db.inbounds.rows ∧
      next.clientTraffics = db.clientTraffics ∧ next.clientIps = db.clientIps := by
  cases next with
  | mk inbounds clientTraffics clientIps =>
    unfold Database.saveInbound
    constructor
    · intro saved
      cases written : (Table.write (replaceRow (·.id) inbound db.inbounds.rows) :
          Except String (Table Inbound UniqueInbounds)) with
      | error message =>
        rw [written] at saved
        cases saved
      | ok table =>
        rw [written] at saved
        cases saved
        exact ⟨Table.write_eq_ok.mp written, rfl, rfl⟩
    · rintro ⟨rows, rfl, rfl⟩
      rw [Table.write_eq_ok.mpr rows]
      rfl

theorem upsertInbound_eq_ok : db.upsertInbound inbound = .ok next ↔
    next.inbounds.rows = upsertRow (·.id) inbound db.inbounds.rows ∧
      next.clientTraffics = db.clientTraffics ∧ next.clientIps = db.clientIps := by
  cases next with
  | mk inbounds clientTraffics clientIps =>
    unfold Database.upsertInbound
    rw [bind_eq_ok]
    simp only [pure_eq_ok, Database.mk.injEq, Table.write_eq_ok]
    constructor
    · rintro ⟨_, written, rfl, rfl, rfl⟩
      exact ⟨written, rfl, rfl⟩
    · rintro ⟨rows, rfl, rfl⟩
      exact ⟨_, rows, rfl, rfl, rfl⟩

/-- Saving a row under the tag it had breaks no constraint. -/
theorem saveInbound_of_tag {stored : Inbound} (found : db.inbound? inbound.id = some stored)
    (sameTag : inbound.tag = stored.tag) : ∃ next, db.saveInbound inbound = .ok next := by
  have ids : (replaceRow (·.id) inbound db.inbounds.rows).map (·.id) =
      db.inbounds.rows.map (·.id) :=
    map_replaceRow fun _ _ same => same
  have tags : (replaceRow (·.id) inbound db.inbounds.rows).map (·.tag) =
      db.inbounds.rows.map (·.tag) := by
    refine map_replaceRow fun other member same => ?_
    have isStored : some other = some stored := by
      rw [← inbound?_of_mem member, same, found]
    cases isStored
    exact sameTag.symm
  have valid : UniqueInbounds (replaceRow (·.id) inbound db.inbounds.rows) := by
    unfold UniqueInbounds
    rw [ids, tags]
    exact db.inbounds.valid
  exact ⟨{ db with inbounds := ⟨_, valid⟩ }, saveInbound_eq_ok.mpr ⟨rfl, rfl, rfl⟩⟩

theorem inbound?_saved_self {stored : Inbound} (found : db.inbound? inbound.id = some stored)
    (saved : db.saveInbound inbound = .ok next) : next.inbound? inbound.id = some inbound := by
  have stored := inbound?_mem found
  rw [Database.inbound?, (saveInbound_eq_ok.mp saved).1]
  exact find?_replaceRow_self stored.1 stored.2

theorem inbound?_saved_of_ne (saved : db.saveInbound inbound = .ok next)
    (different : id ≠ inbound.id) : next.inbound? id = db.inbound? id := by
  rw [Database.inbound?, (saveInbound_eq_ok.mp saved).1]
  exact find?_replaceRow_of_ne different

theorem checkPortExist_eq_ok {fails : Bool} {listen : String} {port : Int} {exist : Bool} :
    db.checkPortExist fails listen port id = .ok exist ↔
      fails = false ∧ db.checkPortExist false listen port id = .ok exist := by
  simp [Database.checkPortExist, attempt_eq_ok]

/-- Which ports are taken does not change when a row keeps its address. -/
theorem checkPortExist_saved {stored : Inbound} (found : db.inbound? inbound.id = some stored)
    (sameListen : inbound.listen = stored.listen) (samePort : inbound.port = stored.port)
    (saved : db.saveInbound inbound = .ok next) {fails : Bool} {listen : String} {port : Int} :
    next.checkPortExist fails listen port id = db.checkPortExist fails listen port id := by
  unfold Database.checkPortExist
  rw [(saveInbound_eq_ok.mp saved).1, any_replaceRow]
  intro other member same
  have isStored : some other = some stored := by
    rw [← inbound?_of_mem member, same, found]
  cases isStored
  rw [sameListen, samePort, same]

/-- Every row after a save is the saved one or a row of another inbound. -/
theorem mem_saved (saved : db.saveInbound inbound = .ok next) {row : Inbound}
    (member : row ∈ next.inbounds.rows) :
    row = inbound ∨ (row ∈ db.inbounds.rows ∧ row.id ≠ inbound.id) := by
  rw [(saveInbound_eq_ok.mp saved).1] at member
  obtain ⟨before, inBefore, rfl⟩ := List.mem_map.mp member
  by_cases same : before.id = inbound.id
  · exact .inl (if_pos same)
  · rw [if_neg same]
    exact .inr ⟨inBefore, same⟩

end Lemmas

end VkTurn.Panel
