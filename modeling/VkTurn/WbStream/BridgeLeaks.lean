import Mathlib.Data.List.Nodup
import VkTurn.Store.Transaction
import VkTurn.WbStream.BackendBridge

/-! # Backend connections are not leaked

As long as no frame opens a connection after `Close` of its bridge has begun, a pump finds its own
stream under its key or none at all, and all connections are closed when `Close` returns.  `Close`
waits for the pumps of the connections that it has taken itself; a pump that had taken its own
connection before may still be about to close it.
-/

namespace VkTurn.WbStream

open VkTurn.SessionProto VkTurn.Store VkTurn.Transition

def BridgeClose.left : BridgeClose → List Nat
  | .closing left _ => left
  | _ => []

namespace BackendBridge

variable (bridge : BackendBridge)

/-- `dropStream` or `Close` has taken the connection out of the map, and closes it next. -/
def BeingClosed (conn : Nat) : Prop :=
  (∃ pump key, bridge.pumps pump = .dropping key conn) ∨ conn ∈ bridge.close.left

/-- The pump has not ended, and not taken a stream. -/
def Pumps (conn : Nat) (key : StreamKey) : Prop :=
  bridge.pumps conn = .reading key ∨ bridge.pumps conn = .failed key

end BackendBridge

structure BridgeKeeps (bridge : BackendBridge) : Prop where
  isOpen : ∀ conn, bridge.isOpen conn = true ↔
    conn ∈ bridge.streams.map Prod.snd ∨ bridge.BeingClosed conn
  ownOnly : ∀ pump key conn, bridge.pumps pump = .dropping key conn → conn = pump
  afterClose : bridge.close = .returned → ∀ conn, bridge.isOpen conn = false

/-- No frame opens a connection when `Close` has begun, and `Close` returns when no pump is about
    to close one. -/
def BackendBridge.NothingLate (connectAddr : String) (bridge : BackendBridge) :
    BridgeLabel → Prop
  | .handleFrame _ dialed => connectAddr ≠ "" → dialed = true → bridge.close = .notCalled
  | .closeReturns => ∀ pump key conn, bridge.pumps pump ≠ .dropping key conn
  | _ => True

def BridgesNotLate (connectAddr : String) (state : BridgePool) : BridgePoolLabel → Prop
  | .bridge call label => (state.bridges call).NothingLate connectAddr label
  | .pool _ => True

structure BridgeInv (bridge : BackendBridge) : Prop where
  distinct : (bridge.streams.map Prod.fst).Nodup
  listed : ∀ key conn, (key, conn) ∈ bridge.streams →
    bridge.Pumps conn key ∧ bridge.cancelled conn = false
  /-- Before `Close`, a pump that has not ended has its stream in the map. -/
  pumped : bridge.close = .notCalled → ∀ conn key, bridge.Pumps conn key →
    (key, conn) ∈ bridge.streams
  emptied : bridge.close ≠ .notCalled → bridge.streams = []
  isOpen : ∀ conn, bridge.isOpen conn = true ↔
    conn ∈ bridge.streams.map Prod.snd ∨ bridge.BeingClosed conn
  own : ∀ pump key conn, bridge.pumps pump = .dropping key conn → conn = pump
  left : ∀ conn ∈ bridge.close.left, conn < bridge.opened ∧
    ∀ key, bridge.pumps conn ≠ .dropping key conn
  fresh : ∀ conn, bridge.opened ≤ conn →
    bridge.pumps conn = .notStarted ∧ bridge.cancelled conn = false
  quiet : bridge.close = .returned → ∀ pump key conn, bridge.pumps pump ≠ .dropping key conn

section Steps

variable {bridge next : BackendBridge} {conn other : Nat} {key : StreamKey} {phase : PumpPhase}
  {connectAddr : String} {dialed : Bool}

theorem BridgeInv.keeps (inv : BridgeInv bridge) : BridgeKeeps bridge where
  isOpen := inv.isOpen
  ownOnly := inv.own
  afterClose isReturned conn := by
    refine Bool.eq_false_iff.mpr fun isOpen => ?_
    rcases (inv.isOpen conn).mp isOpen with inMap | ⟨pump, key, isDropping⟩ | isLeft
    · rw [inv.emptied (by simp [isReturned])] at inMap
      cases inMap
    · exact inv.quiet isReturned pump key conn isDropping
    · simp [isReturned, BridgeClose.left] at isLeft

theorem BridgeInv.inFlight (inv : BridgeInv bridge) (frames : List StreamKey) :
    BridgeInv { bridge with inFlight := frames } :=
  ⟨inv.distinct, inv.listed, inv.pumped, inv.emptied, inv.isOpen, inv.own, inv.left, inv.fresh,
    inv.quiet⟩

theorem key_unique (inv : BridgeInv bridge) {otherKey : StreamKey}
    (pumps : bridge.Pumps conn key) (member : (otherKey, conn) ∈ bridge.streams) :
    otherKey = key := by
  rcases (inv.listed otherKey conn member).1 with isReading | isFailed
  · rcases pumps with same | same <;> simp_all
  · rcases pumps with same | same <;> simp_all

theorem conn_unique (inv : BridgeInv bridge) (member : (key, conn) ∈ bridge.streams)
    (otherMember : (key, other) ∈ bridge.streams) : conn = other :=
  congrArg Prod.snd (List.inj_on_of_nodup_map inv.distinct member otherMember rfl)

theorem lt_opened (inv : BridgeInv bridge) (started : bridge.pumps conn ≠ .notStarted) :
    conn < bridge.opened := by
  by_contra notSmall
  exact started (inv.fresh conn (Nat.le_of_not_lt notSmall)).1

theorem Pumps.started (pumps : bridge.Pumps conn key) : bridge.pumps conn ≠ .notStarted := by
  rcases pumps with same | same <;> simp [same]

theorem Pumps.notDropping (pumps : bridge.Pumps conn key) (otherKey : StreamKey) :
    bridge.pumps conn ≠ .dropping otherKey other := by
  rcases pumps with same | same <;> simp [same]

/-- A pump goes on under its key or ends, and has taken nothing. -/
theorem BridgeInv.setPump (inv : BridgeInv bridge) (pumps : bridge.Pumps conn key)
    (goesOn : phase = .failed key ∨ phase = .ended ∧ ∀ key, (key, conn) ∉ bridge.streams) :
    BridgeInv (bridge.setPump conn phase) := by
  have notDropping (otherKey : StreamKey) (other : Nat) : phase ≠ .dropping otherKey other := by
    rcases goesOn with rfl | ⟨rfl, _⟩ <;> simp
  have pumpsAfter (pump : Nat) (otherKey : StreamKey) :
      (bridge.setPump conn phase).Pumps pump otherKey → bridge.Pumps pump otherKey := by
    by_cases isConn : pump = conn
    · rw [isConn]
      rcases goesOn with rfl | ⟨rfl, _⟩
      · simp only [BackendBridge.Pumps, BackendBridge.setPump, Function.update_self, reduceCtorEq,
          PumpPhase.failed.injEq, false_or]
        exact fun same => same ▸ pumps
      · simp [BackendBridge.Pumps, BackendBridge.setPump]
    · simp [BackendBridge.Pumps, BackendBridge.setPump, isConn]
  have dropping (pump : Nat) (otherKey : StreamKey) (other : Nat) :
      (bridge.setPump conn phase).pumps pump = .dropping otherKey other ↔
        bridge.pumps pump = .dropping otherKey other := by
    by_cases isConn : pump = conn
    · rw [isConn]
      simp [BackendBridge.setPump, notDropping, Pumps.notDropping pumps]
    · simp [BackendBridge.setPump, isConn]
  constructor
  case distinct => exact inv.distinct
  case listed =>
    intro otherKey pump member
    refine ⟨?_, (inv.listed otherKey pump member).2⟩
    by_cases isConn : pump = conn
    · rw [isConn] at member ⊢
      rcases goesOn with rfl | ⟨_, notListed⟩
      · rw [key_unique inv pumps member]
        simp [BackendBridge.Pumps, BackendBridge.setPump]
      · exact absurd member (notListed otherKey)
    · simpa [BackendBridge.Pumps, BackendBridge.setPump, isConn] using
        (inv.listed otherKey pump member).1
  case pumped =>
    intro isOpen pump otherKey pumps
    exact inv.pumped isOpen pump otherKey (pumpsAfter pump otherKey pumps)
  case emptied => exact inv.emptied
  case isOpen =>
    intro other
    simp only [BackendBridge.BeingClosed, dropping]
    exact inv.isOpen other
  case own =>
    intro pump otherKey other isDropping
    exact inv.own pump otherKey other ((dropping pump otherKey other).mp isDropping)
  case left =>
    intro other isLeft
    refine ⟨(inv.left other isLeft).1, fun otherKey isDropping => ?_⟩
    exact (inv.left other isLeft).2 otherKey ((dropping other otherKey other).mp isDropping)
  case fresh =>
    intro other isFresh
    have notConn : other ≠ conn :=
      Nat.ne_of_gt (Nat.lt_of_lt_of_le (lt_opened inv (Pumps.started pumps)) isFresh)
    simpa [BackendBridge.setPump, notConn] using inv.fresh other isFresh
  case quiet =>
    intro isReturned pump otherKey other isDropping
    exact inv.quiet isReturned pump otherKey other ((dropping pump otherKey other).mp isDropping)

/-- The connection that is dialled has the next number, so that nothing knows it yet. -/
theorem BridgeInv.dial (inv : BridgeInv bridge) (notClosed : bridge.close = .notCalled)
    (lookedUp : bridge.streams.lookup key = none) : BridgeInv (bridge.dial key) := by
  have notStarted : bridge.pumps bridge.opened = .notStarted := (inv.fresh _ (Nat.le_refl _)).1
  have listedOld (otherKey : StreamKey) (pump : Nat) (member : (otherKey, pump) ∈ bridge.streams) :
      pump ≠ bridge.opened :=
    Nat.ne_of_lt (lt_opened inv (Pumps.started (inv.listed otherKey pump member).1))
  have dropping (pump : Nat) (otherKey : StreamKey) (other : Nat) :
      (bridge.dial key).pumps pump = .dropping otherKey other ↔
        bridge.pumps pump = .dropping otherKey other := by
    by_cases isNew : pump = bridge.opened
    · simp [BackendBridge.dial, isNew, notStarted]
    · simp [BackendBridge.dial, isNew]
  constructor
  case distinct =>
    have keys : (bridge.dial key).streams.map Prod.fst =
        (bridge.streams.map Prod.fst).concat key := by simp [BackendBridge.dial]
    rw [keys]
    exact List.Nodup.concat (not_mem_keys_of_lookup lookedUp) inv.distinct
  case listed =>
    intro otherKey pump member
    rcases List.mem_append.mp member with wasListed | isNew
    · simpa [BackendBridge.Pumps, BackendBridge.dial, listedOld otherKey pump wasListed] using
        inv.listed otherKey pump wasListed
    · obtain ⟨rfl, rfl⟩ : otherKey = key ∧ pump = bridge.opened := by simpa using isNew
      simpa [BackendBridge.Pumps, BackendBridge.dial] using (inv.fresh _ (Nat.le_refl _)).2
  case pumped =>
    intro _ pump otherKey pumps
    by_cases isNew : pump = bridge.opened
    · simp [BackendBridge.Pumps, BackendBridge.dial, isNew] at pumps
      simp [BackendBridge.dial, isNew, pumps]
    · simp only [BackendBridge.Pumps, BackendBridge.dial, Function.update_of_ne isNew] at pumps
      simpa [BackendBridge.dial, isNew] using inv.pumped notClosed pump otherKey pumps
  case emptied => exact fun isClosed => absurd notClosed isClosed
  case isOpen =>
    intro other
    simp only [BackendBridge.BeingClosed, dropping]
    by_cases isNew : other = bridge.opened
    · simp [BackendBridge.dial, isNew]
    · simpa [BackendBridge.dial, isNew, BackendBridge.BeingClosed] using inv.isOpen other
  case own =>
    intro pump otherKey other isDropping
    exact inv.own pump otherKey other ((dropping pump otherKey other).mp isDropping)
  case left => simp [BackendBridge.dial, notClosed, BridgeClose.left]
  case fresh =>
    intro other isFresh
    have notNew : other ≠ bridge.opened := Nat.ne_of_gt isFresh
    simpa [BackendBridge.dial, notNew] using inv.fresh other (Nat.le_of_succ_le isFresh)
  case quiet => simp [BackendBridge.dial, notClosed]

theorem BridgeInv.handleFrame (inv : BridgeInv bridge)
    (notLate : connectAddr ≠ "" → dialed = true → bridge.close = .notCalled) :
    BridgeInv (bridge.handleFrame connectAddr key dialed) := by
  simp only [BackendBridge.handleFrame]
  by_cases noAddr : connectAddr = ""
  · rw [if_pos noAddr]
    exact inv
  · rw [if_neg noAddr]
    split
    case h_1 => exact inv
    case h_2 lookedUp =>
      by_cases isDialed : dialed = true
      · rw [if_pos isDialed]
        exact inv.dial (notLate noAddr isDialed) lookedUp
      · rw [if_neg isDialed]
        exact inv

/-- What a pump that finds its key takes out of the map is its own stream: before `Close` the
    stream of a pump that has not ended is listed, and keys are listed once. -/
theorem BridgeInv.drop (inv : BridgeInv bridge) (isFailed : bridge.pumps conn = .failed key) :
    BridgeInv (bridge.dropStream conn key) := by
  have pumps : bridge.Pumps conn key := .inr isFailed
  simp only [BackendBridge.dropStream]
  split
  case h_2 lookedUp =>
    refine inv.setPump pumps (.inr ⟨rfl, fun otherKey member => ?_⟩)
    rw [key_unique inv pumps member] at member
    exact not_mem_keys_of_lookup lookedUp (List.mem_map_of_mem member)
  case h_1 listed lookedUp =>
    have listedMember : (key, listed) ∈ bridge.streams := mem_of_lookup lookedUp
    have notClosed : bridge.close = .notCalled := by
      by_contra isClosed
      rw [inv.emptied isClosed] at listedMember
      cases listedMember
    have member : (key, conn) ∈ bridge.streams := inv.pumped notClosed conn key pumps
    obtain rfl : conn = listed := conn_unique inv member listedMember
    have otherConn (otherKey : StreamKey) (pump : Nat)
        (isListed : (otherKey, pump) ∈ bridge.streams) : otherKey ≠ key ↔ pump ≠ conn := by
      refine not_congr ⟨?_, ?_⟩
      · rintro rfl
        exact conn_unique inv isListed member
      · rintro rfl
        exact key_unique inv pumps isListed
    constructor
    case distinct => exact inv.distinct.sublist (List.filter_sublist.map Prod.fst)
    case listed =>
      intro otherKey pump stays
      obtain ⟨isListed, isOther⟩ : (otherKey, pump) ∈ bridge.streams ∧ otherKey ≠ key := by
        simpa using stays
      simpa [BackendBridge.Pumps, BackendBridge.setPump,
        (otherConn otherKey pump isListed).mp isOther] using inv.listed otherKey pump isListed
    case pumped =>
      intro _ pump otherKey otherPumps
      by_cases isConn : pump = conn
      · simp [BackendBridge.Pumps, BackendBridge.setPump, isConn] at otherPumps
      · simp only [BackendBridge.Pumps, BackendBridge.setPump,
          Function.update_of_ne isConn] at otherPumps
        have isListed := inv.pumped notClosed pump otherKey otherPumps
        simpa using ⟨isListed, (otherConn otherKey pump isListed).mpr isConn⟩
    case emptied => exact fun isClosed => absurd notClosed isClosed
    case isOpen =>
      intro other
      refine (inv.isOpen other).trans ?_
      simp only [BackendBridge.BeingClosed, BackendBridge.setPump]
      by_cases isConn : other = conn
      · -- The connection leaves the map, and the pump is about to close it.
        subst isConn
        exact iff_of_true (.inl (List.mem_map_of_mem member))
          (.inr (.inl ⟨_, key, Function.update_self ..⟩))
      · have dropping (pump : Nat) (otherKey : StreamKey) :
            Function.update bridge.pumps conn (.dropping key conn) pump = .dropping otherKey other ↔
              bridge.pumps pump = .dropping otherKey other := by
          by_cases isSame : pump = conn
          · simp [isSame, isFailed, Ne.symm isConn]
          · simp [isSame]
        have stays : other ∈ (bridge.streams.filter (·.1 ≠ key)).map Prod.snd ↔
            other ∈ bridge.streams.map Prod.snd := by
          simp only [List.mem_map, List.mem_filter, Prod.exists, exists_eq_right,
            decide_eq_true_eq]
          refine exists_congr fun otherKey => and_iff_left_of_imp fun isListed => ?_
          exact (otherConn otherKey other isListed).mpr isConn
        simp only [dropping, stays]
    case own =>
      intro pump otherKey other isDropping
      by_cases isConn : pump = conn
      · simp [BackendBridge.setPump, isConn] at isDropping
        rw [isConn, isDropping.2]
      · simp only [BackendBridge.setPump, Function.update_of_ne isConn] at isDropping
        exact inv.own pump otherKey other isDropping
    case left => simp [BackendBridge.setPump, notClosed, BridgeClose.left]
    case fresh =>
      intro other isFresh
      have notConn : other ≠ conn :=
        Nat.ne_of_gt (Nat.lt_of_lt_of_le (lt_opened inv (Pumps.started pumps)) isFresh)
      simpa [BackendBridge.setPump, notConn] using inv.fresh other isFresh
    case quiet => simp [BackendBridge.setPump, notClosed]

theorem BridgeInv.dropCloses (inv : BridgeInv bridge)
    (isDropping : bridge.pumps conn = .dropping key other) :
    BridgeInv ((bridge.cut other).setPump conn .ended) := by
  obtain rfl : other = conn := inv.own conn key other isDropping
  have notListed (otherKey : StreamKey) (pump : Nat) (member : (otherKey, pump) ∈ bridge.streams) :
      pump ≠ other := by
    rintro rfl
    exact Pumps.notDropping (inv.listed otherKey pump member).1 key isDropping
  have isSmall : other < bridge.opened := lt_opened inv (by simp [isDropping])
  have dropping (pump : Nat) (otherKey : StreamKey) (conn : Nat) :
      Function.update bridge.pumps other .ended pump = .dropping otherKey conn ↔
        bridge.pumps pump = .dropping otherKey conn ∧ conn ≠ other := by
    by_cases isConn : pump = other
    · simp only [isConn, Function.update_self, isDropping, PumpPhase.dropping.injEq, reduceCtorEq,
        false_iff]
      exact fun same => same.2 same.1.2.symm
    · rw [Function.update_of_ne isConn]
      refine (and_iff_left_of_imp fun takes => ?_).symm
      exact fun same => isConn (inv.own pump otherKey conn takes ▸ same)
  constructor
  case distinct => exact inv.distinct
  case listed =>
    intro otherKey pump member
    simpa [BackendBridge.Pumps, BackendBridge.setPump, BackendBridge.cut,
      notListed otherKey pump member] using inv.listed otherKey pump member
  case pumped =>
    intro notClosed pump otherKey pumps
    by_cases isConn : pump = other
    · simp [BackendBridge.Pumps, BackendBridge.setPump, isConn] at pumps
    · simp only [BackendBridge.Pumps, BackendBridge.setPump, BackendBridge.cut,
        Function.update_of_ne isConn] at pumps
      exact inv.pumped notClosed pump otherKey pumps
  case emptied => exact inv.emptied
  case isOpen =>
    intro conn
    simp only [BackendBridge.BeingClosed, BackendBridge.setPump, BackendBridge.cut, dropping]
    by_cases isConn : conn = other
    · have notLeft : other ∉ bridge.close.left := fun isLeft =>
        (inv.left other isLeft).2 key isDropping
      have notInMap : other ∉ bridge.streams.map Prod.snd := by
        intro inMap
        obtain ⟨⟨otherKey, pump⟩, member, same⟩ := List.mem_map.mp inMap
        exact notListed otherKey pump member same
      simp [isConn, notLeft, notInMap]
    · simpa [isConn, BackendBridge.BeingClosed] using inv.isOpen conn
  case own =>
    intro pump otherKey conn takes
    exact inv.own pump otherKey conn ((dropping pump otherKey conn).mp takes).1
  case left =>
    intro conn isLeft
    refine ⟨(inv.left conn isLeft).1, fun otherKey takes => ?_⟩
    exact (inv.left conn isLeft).2 otherKey ((dropping conn otherKey conn).mp takes).1
  case fresh =>
    intro conn isFresh
    have notConn : conn ≠ other := Nat.ne_of_gt (Nat.lt_of_lt_of_le isSmall isFresh)
    simpa [BackendBridge.setPump, BackendBridge.cut, notConn] using inv.fresh conn isFresh
  case quiet =>
    intro isReturned pump otherKey conn takes
    exact inv.quiet isReturned pump otherKey conn ((dropping pump otherKey conn).mp takes).1

theorem BridgeInv.takeAll (inv : BridgeInv bridge) (notClosed : bridge.close = .notCalled) :
    BridgeInv { bridge with
      streams := []
      close := .closing (bridge.streams.map Prod.snd) (bridge.streams.map Prod.snd) } where
  distinct := List.nodup_nil
  listed := nofun
  pumped := nofun
  emptied _ := rfl
  isOpen conn := by
    refine (inv.isOpen conn).trans ?_
    simp [BackendBridge.BeingClosed, notClosed, BridgeClose.left, or_comm]
  own := inv.own
  left conn isLeft := by
    obtain ⟨⟨key, listed⟩, member, rfl⟩ := List.mem_map.mp isLeft
    have pumps : bridge.Pumps listed key := (inv.listed key listed member).1
    have isSmall : listed < bridge.opened := lt_opened inv (Pumps.started pumps)
    exact ⟨isSmall, Pumps.notDropping pumps⟩
  fresh := inv.fresh
  quiet := nofun

theorem BridgeInv.closeConn {left taken : List Nat} (inv : BridgeInv bridge)
    (isClosing : bridge.close = .closing left taken) (isLeft : conn ∈ left) :
    BridgeInv { bridge.cut conn with close := .closing (left.filter (· ≠ conn)) taken } := by
  have noStreams : bridge.streams = [] := inv.emptied (by simp [isClosing])
  have wasLeft (other : Nat) (isLeft : other ∈ left) : other ∈ bridge.close.left := by
    rwa [isClosing]
  obtain ⟨isSmall, notDropping⟩ := inv.left conn (wasLeft conn isLeft)
  constructor
  case distinct => exact inv.distinct
  case listed => simp [BackendBridge.cut, noStreams]
  case pumped => simp
  case emptied => exact fun _ => noStreams
  case isOpen =>
    intro other
    by_cases isConn : other = conn
    · -- Its pump has not taken it too, and no other pump takes it.
      have notTaken (pump : Nat) (key : StreamKey) : bridge.pumps pump ≠ .dropping key conn := by
        intro takes
        obtain rfl := inv.own pump key conn takes
        exact notDropping key takes
      simp [isConn, BackendBridge.cut, BackendBridge.BeingClosed, BridgeClose.left, noStreams,
        notTaken]
    · simpa [isConn, BackendBridge.cut, BackendBridge.BeingClosed, BridgeClose.left, noStreams,
        isClosing] using inv.isOpen other
  case own => exact inv.own
  case left =>
    intro other stays
    exact inv.left other (wasLeft other (List.mem_filter.mp stays).1)
  case fresh =>
    intro other isFresh
    have notConn : other ≠ conn := Nat.ne_of_gt (Nat.lt_of_lt_of_le isSmall isFresh)
    simpa [BackendBridge.cut, notConn] using inv.fresh other isFresh
  case quiet => simp

theorem BridgeInv.closeReturns {taken : List Nat} (inv : BridgeInv bridge)
    (isClosing : bridge.close = .closing [] taken)
    (noneDrops : ∀ pump key conn, bridge.pumps pump ≠ .dropping key conn) :
    BridgeInv { bridge with close := .returned } where
  distinct := inv.distinct
  listed := inv.listed
  pumped := nofun
  emptied _ := inv.emptied (by simp [isClosing])
  isOpen conn := by
    simpa [BackendBridge.BeingClosed, BridgeClose.left, isClosing] using inv.isOpen conn
  own := inv.own
  left := nofun
  fresh := inv.fresh
  quiet _ := noneDrops

theorem BridgeInv.readEnds (inv : BridgeInv bridge) (isReading : bridge.pumps conn = .reading key) :
    BridgeInv (bridge.setPump conn (if bridge.cancelled conn then .ended else .failed key)) := by
  refine inv.setPump (.inl isReading) ?_
  by_cases isCancelled : bridge.cancelled conn = true
  · rw [if_pos isCancelled]
    refine .inr ⟨rfl, fun otherKey member => ?_⟩
    simp [(inv.listed otherKey conn member).2] at isCancelled
  · rw [if_neg isCancelled]
    exact .inl rfl

theorem BridgeInv.step {label : BridgeLabel} (inv : BridgeInv bridge)
    (notLate : bridge.NothingLate connectAddr label)
    (stepped : bridge.step connectAddr label = some next) : BridgeInv next := by
  cases label with
  | receive key =>
    cases stepped
    exact inv.inFlight _
  | handleFrame key dialed =>
    simp only [BackendBridge.step, Option.ite_none_right_eq_some, Option.some.injEq] at stepped
    obtain ⟨_, rfl⟩ := stepped
    exact (inv.inFlight _).handleFrame notLate
  | readEnds conn =>
    simp only [BackendBridge.step] at stepped
    split at stepped
    case h_1 key isReading =>
      cases stepped
      exact inv.readEnds isReading
    case h_2 => cases stepped
  | drop conn =>
    simp only [BackendBridge.step] at stepped
    split at stepped
    case h_1 key isFailed =>
      cases stepped
      exact inv.drop isFailed
    case h_2 => cases stepped
  | dropCloses conn =>
    simp only [BackendBridge.step] at stepped
    split at stepped
    case h_1 key listed isDropping =>
      cases stepped
      exact inv.dropCloses isDropping
    case h_2 => cases stepped
  | takeAll =>
    simp only [BackendBridge.step] at stepped
    split at stepped
    case h_1 notClosed =>
      cases stepped
      exact inv.takeAll notClosed
    case h_2 => cases stepped
  | closeConn conn =>
    simp only [BackendBridge.step] at stepped
    split at stepped
    case h_1 left taken isClosing =>
      simp only [Option.ite_none_right_eq_some, Option.some.injEq] at stepped
      obtain ⟨isLeft, rfl⟩ := stepped
      exact inv.closeConn isClosing isLeft
    case h_2 => cases stepped
  | closeReturns =>
    simp only [BackendBridge.step] at stepped
    split at stepped
    case h_1 taken isClosing =>
      simp only [Option.ite_none_right_eq_some, Option.some.injEq] at stepped
      obtain ⟨_, rfl⟩ := stepped
      exact inv.closeReturns isClosing notLate
    case h_2 => cases stepped

theorem BridgeInv.new : BridgeInv {} where
  distinct := List.nodup_nil
  listed := nofun
  pumped _ _ _ pumps := by simp [BackendBridge.Pumps] at pumps
  emptied _ := rfl
  isOpen _ := by simp [BackendBridge.BeingClosed, BridgeClose.left]
  own := nofun
  left := nofun
  fresh _ _ := ⟨rfl, rfl⟩
  quiet := nofun

end Steps

/-! ## The bridges of a pool -/

def AllBridges (state : BridgePool) : Prop := ∀ call, BridgeInv (state.bridges call)

variable {connectAddr : String} {state next : BridgePool}

theorem AllBridges.step {label : BridgePoolLabel} (inv : AllBridges state)
    (notLate : BridgesNotLate connectAddr state label)
    (stepped : state.step connectAddr label = some next) : AllBridges next := by
  cases label with
  | pool label =>
    -- The pool has no hand in its bridges.
    simp only [BridgePool.step, Option.ite_none_right_eq_some, Option.map_eq_some_iff] at stepped
    obtain ⟨_, _, _, rfl⟩ := stepped
    exact inv
  | bridge call label =>
    simp only [BridgePool.step, Option.ite_none_right_eq_some, Option.map_eq_some_iff] at stepped
    obtain ⟨_, bridge, bridgeStepped, rfl⟩ := stepped
    intro other
    by_cases isCall : other = call
    · simpa [isCall] using (inv call).step notLate bridgeStepped
    · simpa [isCall] using inv other

/-- In runs in which nothing is late, the open connections of every bridge are those in its map and
    those about to be closed; a pump takes its own connection only; and none is open when `Close`
    has returned. -/
theorem bridges_keep (reached : (bridgePool connectAddr).ReachableWhile
      (BridgesNotLate connectAddr) NewBridgePool state) (call : Nat) :
    BridgeKeeps (state.bridges call) := by
  have inv : AllBridges state := reached.invariant
    (fun state isNew => by
      rw [show state = {} from isNew]
      exact fun _ => BridgeInv.new)
    (fun _ _ _ inv notLate stepped => AllBridges.step inv notLate stepped)
  exact (inv call).keeps

def someStream : StreamKey := ⟨Vector.replicate _ 0, 1⟩

/-- A room is joined, and a frame is handed over. -/
def receiveFrame : List BridgePoolLabel :=
  [.pool (.preJoin 0 "" false), .pool (.acquire 0 "room"), .pool (.connect 0), .pool (.register 0),
    .bridge 0 (.receive someStream)]

/-- The frame opens a connection; its reads fail, and its pump takes it out of the map. -/
theorem bridges_keep_dropped : ∃ state, (bridgePool "127.0.0.1:51820").run {} (receiveFrame ++
      [.bridge 0 (.handleFrame someStream true), .bridge 0 (.readEnds 0), .bridge 0 (.drop 0)]) =
        some state ∧
    BridgeKeeps (state.bridges 0) ∧ (state.bridges 0).isOpen 0 = true := by
  obtain ⟨state, ran, isOpen⟩ : ∃ state, (bridgePool "127.0.0.1:51820").run {} (receiveFrame ++
      [.bridge 0 (.handleFrame someStream true), .bridge 0 (.readEnds 0), .bridge 0 (.drop 0)]) =
        some state ∧ (state.bridges 0).isOpen 0 = true := ⟨_, rfl, rfl⟩
  have started : (bridgePool "127.0.0.1:51820").ReachableWhile
    (BridgesNotLate "127.0.0.1:51820") NewBridgePool {} := .start rfl
  have begun := started.step
    (show BridgesNotLate _ _ (.pool (.preJoin 0 "" false)) from trivial) rfl
  have acquired := begun.step
    (show BridgesNotLate _ _ (.pool (.acquire 0 "room")) from trivial) rfl
  have connected := acquired.step (show BridgesNotLate _ _ (.pool (.connect 0)) from trivial) rfl
  have registered := connected.step (show BridgesNotLate _ _ (.pool (.register 0)) from trivial) rfl
  have received := registered.step
    (show BridgesNotLate _ _ (.bridge 0 (.receive someStream)) from trivial) rfl
  have handled := received.step
    (show BridgesNotLate _ _ (.bridge 0 (.handleFrame someStream true)) from fun _ _ => rfl) rfl
  have failed := handled.step (show BridgesNotLate _ _ (.bridge 0 (.readEnds 0)) from trivial) rfl
  have dropped := failed.step (show BridgesNotLate _ _ (.bridge 0 (.drop 0)) from trivial) rfl
  cases ran
  exact ⟨_, rfl, bridges_keep dropped 0, isOpen⟩

/-- `Close` has taken the empty map, and then the frame opens a connection. -/
theorem late_frame_leaks : ¬ ∀ connectAddr state,
    (bridgePool connectAddr).Reachable NewBridgePool state →
      ∀ call, BridgeKeeps (state.bridges call) := by
  intro always
  obtain ⟨state, ran, isReturned, isOpen⟩ : ∃ state, (bridgePool "127.0.0.1:51820").run {}
      (receiveFrame ++ [.pool (.close 0), .pool (.cancel 0), .bridge 0 .takeAll,
        .bridge 0 .closeReturns, .bridge 0 (.handleFrame someStream true)]) = some state ∧
      (state.bridges 0).close = .returned ∧ (state.bridges 0).isOpen 0 = true := ⟨_, rfl, rfl, rfl⟩
  have started : (bridgePool "127.0.0.1:51820").Reachable NewBridgePool {} := .start rfl
  have isClosed := (always _ state (started.run ran) 0).afterClose isReturned 0
  simp [isOpen] at isClosed

end VkTurn.WbStream
