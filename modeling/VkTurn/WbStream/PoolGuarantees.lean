import VkTurn.WbStream.SessionPool

/-! # What the pool guarantees

The check of an exchange sees the rooms that are joined, by the ids that they turned out to have.
It does not see a join that is under way, nor the room that was created for an exchange that asked
for any room; and `Close` does not wait for a join that is under way.
-/

namespace VkTurn.WbStream

open VkTurn.SessionProto VkTurn.Transition

namespace SessionPool

structure Guarantees (pool : SessionPool) : Prop where
  /-- At most one connected peer for each requested room. -/
  single : ∀ first second one other, pool.joins first = some one → pool.joins second = some other →
    one.phase.connected → other.phase.connected → one.roomID = other.roomID → first = second
  /-- An exchange is served by the peer that the pool has for its requested room. -/
  reuses : ∀ call join, pool.joins call = some join → join.preJoin = false →
    ∀ peer ∈ join.existing, join.phase = .ended (some peer)
  /-- When `Close` has returned no peer is connected. -/
  closed : ∀ caller, pool.closers caller = some .returned →
    ∀ call join, pool.joins call = some join → join.phase.connected = false

/-- No other call for the room is under way or has joined. -/
def Alone (pool : SessionPool) (roomID : String) : Prop :=
  ∀ call join, pool.joins call = some join → join.roomID = roomID → join.phase.active = false

/-- No join is under way. -/
def Quiet (pool : SessionPool) : Prop :=
  ∀ call join, pool.joins call = some join → join.phase.underWay = false

end SessionPool

/-- A join starts only when no other one for the same requested room is under way or has joined,
    and an exchange for which the pool has a peer finds it by the requested id; `Close` returns
    only when no join is under way, and a second `Close` comes only after all peers are closed. -/
def SerialJoins (pool : SessionPool) : PoolLabel → Prop
  | .handleExchange _ exchange initFails =>
    exchange.provider = roomProviderWbStream → exchange.roomId ≠ "" →
      (pool.checkExchange exchange.roomId initFails = .acquiring false →
        pool.Alone exchange.roomId) ∧
      (pool.peersFor exchange.roomId ≠ [] → pool.rooms.lookup exchange.roomId ≠ none)
  | .preJoin _ roomID initFails => pool.startJoin initFails = .acquiring false → pool.Alone roomID
  | .close _ => pool.closed = true → pool.cancelled = true ∧
      ∀ call join, pool.joins call = some join → join.phase.active = false
  | .closeReturns _ => pool.Quiet
  | _ => True

/-! ## The invariant -/

namespace SessionPool

/-- What holds of one call, whatever the others do. -/
structure JoinOk (pool : SessionPool) (call : Nat) (join : Join) : Prop where
  named : ∀ room, join.phase.room? = some room → asksNewRoom room = false ∧
    (asksNewRoom join.roomID = false → room = join.roomID)
  reuses : join.preJoin = false → ∀ peer ∈ join.existing, join.phase = .ended (some peer)
  watched : pool.closed = false → ∀ room, join.phase = .watched room → (room, call) ∈ pool.rooms
  entries : ∀ caller entries, pool.closers caller = some (.cancelling entries) ∨
    pool.closers caller = some (.waiting entries) →
      ∀ room, join.phase = .watched room → call ∈ entries
  returned : ∀ caller, pool.closers caller = some .returned → join.phase.active = false

structure PoolInv (pool : SessionPool) : Prop where
  joins : ∀ call join, pool.joins call = some join → JoinOk pool call join
  alone : ∀ first second one other, pool.joins first = some one → pool.joins second = some other →
    one.phase.active → other.phase.active → one.roomID = other.roomID → first = second
  keys : ∀ room call, (room, call) ∈ pool.rooms → pool.rooms.lookup room = some call
  registered : ∀ room call, (room, call) ∈ pool.rooms →
    ∃ join, pool.joins call = some join ∧ join.phase = .watched room
  emptied : pool.closed = true → pool.rooms = []
  cancelledClosed : pool.cancelled = true → pool.closed = true
  closers : ∀ caller closing, pool.closers caller = some closing → pool.closed = true
  cancelled : ∀ caller closing, pool.closers caller = some closing →
    (∃ entries, closing = .cancelling entries) ∨ pool.cancelled = true

theorem connected_active {phase : JoinPhase} (connected : phase.connected = true) :
    phase.active = true := by
  cases phase <;> simp_all [JoinPhase.connected, JoinPhase.active, JoinPhase.underWay]

theorem PoolInv.guarantees {pool : SessionPool} (inv : PoolInv pool) : Guarantees pool where
  single first second one other isOne isOther oneConnected otherConnected :=
    inv.alone first second one other isOne isOther (connected_active oneConnected)
      (connected_active otherConnected)
  reuses call join isJoin := (inv.joins call join isJoin).reuses
  closed caller hasReturned call join isJoin := by
    have inactive := (inv.joins call join isJoin).returned caller hasReturned
    cases connected : join.phase.connected with
    | false => rfl
    | true => cases inactive.symm.trans (connected_active connected)

theorem empty_inv : PoolInv {} := by
  constructor
  case joins => exact fun _ _ isJoin => nomatch isJoin
  case alone => exact fun _ _ _ _ isJoin => nomatch isJoin
  case keys => exact fun _ _ isRoom => nomatch isRoom
  case registered => exact fun _ _ isRoom => nomatch isRoom
  case emptied => exact fun isClosed => nomatch isClosed
  case cancelledClosed => exact fun isCancelled => nomatch isCancelled
  case closers => exact fun _ _ isCloser => nomatch isCloser
  case cancelled => exact fun _ _ isCloser => nomatch isCloser

/-! ## Steps -/

section Steps

variable {pool next : SessionPool} {call : Nat} {join : Join}

/-- One call changes, and the rooms stay as they are. -/
theorem PoolInv.setJoin (inv : PoolInv pool) (ok : JoinOk pool call join)
    (alone : join.phase.active → ∀ other isOther, other ≠ call → pool.joins other = some isOther →
      isOther.phase.active → isOther.roomID ≠ join.roomID)
    (registered : ∀ room, (room, call) ∈ pool.rooms → join.phase = .watched room) :
    PoolInv (pool.setJoin call join) := by
  have update (other : Nat) (present : Join) (isPresent : (pool.setJoin call join).joins other =
      some present) : (other = call ∧ present = join) ∨
        (other ≠ call ∧ pool.joins other = some present) := by
    simp only [SessionPool.setJoin, Function.update_apply] at isPresent
    split at isPresent
    · rename_i same
      exact .inl ⟨same, (Option.some.inj isPresent).symm⟩
    · rename_i different
      exact .inr ⟨different, isPresent⟩
  refine ⟨?_, ?_, inv.keys, ?_, inv.emptied, inv.cancelledClosed, inv.closers, inv.cancelled⟩
  · intro other present isPresent
    obtain ⟨rfl, rfl⟩ | ⟨_, isOld⟩ := update other present isPresent
    · exact ⟨ok.named, ok.reuses, ok.watched, ok.entries, ok.returned⟩
    · have old := inv.joins other present isOld
      exact ⟨old.named, old.reuses, old.watched, old.entries, old.returned⟩
  · intro first second one other isOne isOther oneActive otherActive sameRoom
    obtain ⟨rfl, rfl⟩ | ⟨firstOther, oneOld⟩ := update first one isOne
    · obtain ⟨rfl, rfl⟩ | ⟨secondOther, otherOld⟩ := update second other isOther
      · rfl
      · exact absurd sameRoom.symm (alone oneActive second other secondOther otherOld otherActive)
    · obtain ⟨rfl, rfl⟩ | ⟨_, otherOld⟩ := update second other isOther
      · exact absurd sameRoom (alone otherActive first one firstOther oneOld oneActive)
      · exact inv.alone first second one other oneOld otherOld oneActive otherActive sameRoom
  · intro room other isRoom
    by_cases same : other = call
    · subst same
      exact ⟨join, Function.update_self .., registered room isRoom⟩
    · obtain ⟨present, isPresent, isWatched⟩ := inv.registered room other isRoom
      exact ⟨present, (Function.update_of_ne same ..).trans isPresent, isWatched⟩

/-- A call goes on without entering the pool. -/
theorem PoolInv.goesOn (inv : PoolInv pool) (isJoin : pool.joins call = some join)
    {phase : JoinPhase} (before : ∀ room, (room, call) ∉ pool.rooms)
    (after : ∀ room, phase ≠ .watched room) (wasActive : phase.active → join.phase.active)
    (notEnded : ∀ peer, join.phase ≠ .ended peer)
    (named : ∀ room, phase.room? = some room → asksNewRoom room = false ∧
      (asksNewRoom join.roomID = false → room = join.roomID)) :
    PoolInv (pool.setPhase call join phase) := by
  have old := inv.joins call join isJoin
  apply inv.setJoin
  · refine ⟨named, ?_, ?_, ?_, ?_⟩
    · intro isExchange peer isExisting
      exact absurd (old.reuses isExchange peer isExisting) (notEnded _)
    · exact fun _ room isWatched => absurd isWatched (after room)
    · exact fun _ _ _ room isWatched => absurd isWatched (after room)
    · intro caller hasReturned
      have inactive := old.returned caller hasReturned
      cases active : phase.active with
      | false => rfl
      | true => cases inactive.symm.trans (wasActive active)
  · intro active other isOther different isPresent otherActive same
    exact different (inv.alone other call isOther join isPresent isJoin otherActive
      (wasActive active) same)
  · exact fun room isRoom => absurd isRoom (before room)

theorem PoolInv.notWatched (inv : PoolInv pool) (isJoin : pool.joins call = some join)
    (before : ∀ room, join.phase ≠ .watched room) (room : String) : (room, call) ∉ pool.rooms := by
  intro isRoom
  obtain ⟨present, isPresent, isWatched⟩ := inv.registered room call isRoom
  obtain rfl := Option.some.inj (isJoin.symm.trans isPresent)
  exact before room isWatched

theorem acquire_inv (inv : PoolInv pool) {room : String}
    (acquired : pool.acquire call room = some next) : PoolInv next := by
  unfold acquire at acquired
  split at acquired
  · rename_i join isJoin
    split at acquired
    · rename_i condition
      obtain ⟨isAcquiring, isNamed, sameRoom⟩ := condition
      obtain rfl := Option.some.inj acquired
      refine inv.goesOn isJoin (inv.notWatched isJoin ?_) nofun ?_ ?_ ?_
      · simp [isAcquiring]
      · simp [isAcquiring, JoinPhase.active, JoinPhase.underWay]
      · simp [isAcquiring]
      · intro other isRoom
        obtain rfl := Option.some.inj isRoom
        exact ⟨isNamed, sameRoom⟩
    · cases acquired
  · cases acquired

theorem connect_inv (inv : PoolInv pool) (connected : pool.connect call = some next) :
    PoolInv next := by
  unfold connect at connected
  split at connected
  · rename_i join isJoin
    split at connected
    · rename_i room isConnecting
      obtain rfl := Option.some.inj connected
      refine inv.goesOn isJoin (inv.notWatched isJoin ?_) nofun ?_ ?_ ?_
      · simp [isConnecting]
      · simp [isConnecting, JoinPhase.active, JoinPhase.underWay]
      · simp [isConnecting]
      · intro other isRoom
        exact (inv.joins call join isJoin).named other (by rw [isConnecting]; exact isRoom)
    · cases connected
  · cases connected

theorem fail_inv (inv : PoolInv pool) (failed : pool.fail call = some next) : PoolInv next := by
  unfold fail at failed
  split at failed
  · rename_i join isJoin
    split at failed
    · rename_i cancelled isAcquiring
      obtain rfl := Option.some.inj failed
      refine inv.goesOn isJoin (inv.notWatched isJoin ?_) nofun nofun ?_ nofun
      · simp [isAcquiring]
      · simp [isAcquiring]
    · rename_i room isConnecting
      obtain rfl := Option.some.inj failed
      refine inv.goesOn isJoin (inv.notWatched isJoin ?_) nofun nofun ?_ nofun
      · simp [isConnecting]
      · simp [isConnecting]
    · cases failed
  · cases failed

theorem discard_inv (inv : PoolInv pool) (discarded : pool.discard call = some next) :
    PoolInv next := by
  unfold discard at discarded
  split at discarded
  · rename_i join isJoin
    split at discarded
    · rename_i peer isDiscarding
      obtain rfl := Option.some.inj discarded
      refine inv.goesOn isJoin (inv.notWatched isJoin ?_) nofun nofun ?_ nofun
      · simp [isDiscarding]
      · simp [isDiscarding]
    · cases discarded
  · cases discarded

/-- A peer that enters the pool is the only one for its room. -/
theorem register_watched (inv : PoolInv pool) (isJoin : pool.joins call = some join)
    {room : String} (isRegistering : join.phase = .registering room) (isOpen : pool.closed = false)
    (isNew : pool.rooms.lookup room = none) :
    PoolInv { pool.setPhase call join (.watched room) with rooms := (room, call) :: pool.rooms } := by
  have noCloser (caller : Nat) (closing : Closing) : pool.closers caller ≠ some closing := by
    intro isCloser
    cases isOpen.symm.trans (inv.closers caller closing isCloser)
  have notWatched : ∀ room, (room, call) ∉ pool.rooms :=
    inv.notWatched isJoin (by simp [isRegistering])
  have old := inv.joins call join isJoin
  have ok : JoinOk { pool with rooms := (room, call) :: pool.rooms } call
      { join with phase := .watched room } := by
    refine ⟨?_, ?_, ?_, ?_, ?_⟩
    · exact fun other isRoom => old.named other (by rw [isRegistering]; exact isRoom)
    · intro isExchange peer isExisting
      cases isRegistering.symm.trans (old.reuses isExchange peer isExisting)
    · rintro _ _ ⟨⟩
      exact List.mem_cons_self
    · exact fun caller entries isCloser => isCloser.elim
        (fun isCancelling => absurd isCancelling (noCloser caller _))
        (fun isWaiting => absurd isWaiting (noCloser caller _))
    · exact fun caller hasReturned => absurd hasReturned (noCloser caller _)
  have update (other : Nat) : (pool.setPhase call join (.watched room)).joins other =
      if other = call then some { join with phase := .watched room } else pool.joins other := by
    simp only [setPhase, SessionPool.setJoin, Function.update_apply]
  refine ⟨?_, ?_, ?_, ?_, ?_, inv.cancelledClosed, inv.closers, inv.cancelled⟩
  · intro other present isPresent
    simp only [update] at isPresent
    split at isPresent
    · rename_i same
      obtain rfl := Option.some.inj isPresent
      subst same
      exact ⟨ok.named, ok.reuses, ok.watched, ok.entries, ok.returned⟩
    · have ok := inv.joins other present isPresent
      exact ⟨ok.named, ok.reuses,
        fun isOpen room isWatched => List.mem_cons_of_mem _ (ok.watched isOpen room isWatched),
        ok.entries, ok.returned⟩
  · have wasActive : join.phase.active := by
      rw [isRegistering]
      rfl
    have before (other : Nat) (present : Join) (isPresent :
        (pool.setPhase call join (.watched room)).joins other = some present)
        (isActive : present.phase.active) :
        ∃ was, pool.joins other = some was ∧ was.phase.active ∧ was.roomID = present.roomID := by
      simp only [update] at isPresent
      split at isPresent
      · rename_i same
        obtain rfl := Option.some.inj isPresent
        exact ⟨join, same ▸ isJoin, wasActive, rfl⟩
      · exact ⟨present, isPresent, isActive, rfl⟩
    intro first second one other isOne isOther oneActive otherActive same
    obtain ⟨wasOne, isWasOne, wasOneActive, oneRoom⟩ := before first one isOne oneActive
    obtain ⟨wasOther, isWasOther, wasOtherActive, otherRoom⟩ :=
      before second other isOther otherActive
    exact inv.alone first second wasOne wasOther isWasOne isWasOther wasOneActive wasOtherActive
      (oneRoom.trans (same.trans otherRoom.symm))
  · intro other peer isRoom
    obtain isHead | isOld := List.mem_cons.mp isRoom
    · obtain ⟨rfl, rfl⟩ := Prod.mk.inj isHead
      exact List.lookup_cons_self
    · have isKey := inv.keys other peer isOld
      have different : other ≠ room := by
        rintro rfl
        cases isNew.symm.trans isKey
      simpa [List.lookup_cons, beq_false_of_ne different] using isKey
  · intro other peer isRoom
    simp only [update]
    obtain isHead | isOld := List.mem_cons.mp isRoom
    · obtain ⟨rfl, rfl⟩ := Prod.mk.inj isHead
      exact ⟨_, if_pos rfl, rfl⟩
    · have different : peer ≠ call := by
        rintro rfl
        exact notWatched other isOld
      rw [if_neg different]
      exact inv.registered other peer isOld
  · intro isClosed
    cases isOpen.symm.trans isClosed

theorem register_inv (inv : PoolInv pool) (registered : pool.register call = some next) :
    PoolInv next := by
  unfold register at registered
  split at registered
  · rename_i join isJoin
    split at registered
    · rename_i room isRegistering
      have discards (peer : Option Nat) : PoolInv (pool.setPhase call join (.discarding peer)) := by
        refine inv.goesOn isJoin (inv.notWatched isJoin ?_) nofun ?_ ?_ nofun
        · simp [isRegistering]
        · simp [isRegistering, JoinPhase.active, JoinPhase.underWay]
        · simp [isRegistering]
      split at registered
      · obtain rfl := Option.some.inj registered
        exact discards none
      · rename_i isOpen
        split at registered
        · obtain rfl := Option.some.inj registered
          exact discards _
        · rename_i isNew
          obtain rfl := Option.some.inj registered
          exact register_watched inv isJoin isRegistering (by simpa using isOpen) isNew
    · cases registered
  · cases registered

/-- The rooms are gone before a watcher ends. -/
theorem watchEnds_inv (inv : PoolInv pool) (ended : pool.watchEnds call = some next) :
    PoolInv next := by
  unfold watchEnds at ended
  split at ended
  · rename_i join isJoin
    split at ended
    · rename_i room isWatched
      split at ended
      · rename_i isCancelled
        obtain rfl := Option.some.inj ended
        have noRooms := inv.emptied (inv.cancelledClosed isCancelled)
        have same : { pool.setPhase call join (.ended (some call)) with
            rooms := pool.rooms.filter (· ≠ (room, call)) } =
              pool.setPhase call join (.ended (some call)) := by
          simp [setPhase, SessionPool.setJoin, noRooms]
        rw [same]
        refine inv.goesOn isJoin ?_ nofun nofun ?_ nofun
        · simp [noRooms]
        · simp [isWatched]
      · cases ended
    · cases ended
  · cases ended

/-- A call begins. -/
theorem begin_inv (inv : PoolInv pool) {roomID : String} {preJoin : Bool} {phase : JoinPhase}
    (begun : pool.begin call roomID preJoin phase = some next)
    (starts : phase = .acquiring pool.cancelled ∨ ∃ peer, phase = .ended peer)
    (alone : phase = .acquiring false → pool.Alone roomID)
    (reuses : preJoin = false → ∀ peer ∈ pool.peersFor roomID, phase = .ended (some peer)) :
    PoolInv next := by
  unfold begin at begun
  split at begun
  · cases begun
  · rename_i isFresh
    have isFresh : pool.joins call = none := by simpa using isFresh
    obtain rfl := Option.some.inj begun
    have isActive (active : phase.active) : phase = .acquiring false := by
      obtain rfl | ⟨peer, rfl⟩ := starts
      · cases cancelled : pool.cancelled with
        | false => rfl
        | true =>
          rw [cancelled] at active
          cases active
      · cases active
    have notWatched (room : String) : phase ≠ .watched room := by
      obtain rfl | ⟨peer, rfl⟩ := starts
      · exact nofun
      · exact nofun
    have noRoom : phase.room? = none := by
      obtain rfl | ⟨peer, rfl⟩ := starts
      · rfl
      · rfl
    apply inv.setJoin
    · refine ⟨?_, reuses, ?_, ?_, ?_⟩
      · intro room isRoom
        cases noRoom.symm.trans isRoom
      · exact fun _ room isWatched => absurd isWatched (notWatched room)
      · exact fun _ _ _ room isWatched => absurd isWatched (notWatched room)
      · intro caller hasReturned
        have isCancelled := (inv.cancelled caller .returned hasReturned).resolve_left nofun
        obtain rfl | ⟨peer, rfl⟩ := starts
        · simp [isCancelled, JoinPhase.active, JoinPhase.underWay]
        · rfl
    · intro active other isOther _ isPresent otherActive same
      have inactive := alone (isActive active) other isOther isPresent same
      cases inactive.symm.trans otherActive
    · intro room isRoom
      obtain ⟨present, isPresent, _⟩ := inv.registered room call isRoom
      cases isFresh.symm.trans isPresent

theorem mem_peersFor {roomID : String} {peer : Nat} (isPeer : peer ∈ pool.peersFor roomID) :
    ∃ room join, (room, peer) ∈ pool.rooms ∧ pool.joins peer = some join ∧
      join.roomID = roomID := by
  simp only [peersFor, List.mem_filter, List.mem_map, decide_eq_true_eq,
    Option.map_eq_some_iff] at isPeer
  obtain ⟨⟨⟨room, _⟩, isRoom, rfl⟩, join, isJoin, isAsked⟩ := isPeer
  exact ⟨room, join, isRoom, isJoin, isAsked⟩

/-- The pool files a peer under the id that was asked for, unless a new room was. -/
theorem PoolInv.lookup_peersFor (inv : PoolInv pool) {roomID : String} {peer found : Nat}
    (isPeer : peer ∈ pool.peersFor roomID) (isFound : pool.rooms.lookup roomID = some found) :
    peer = found := by
  obtain ⟨room, join, isRoom, isJoin, isAsked⟩ := mem_peersFor isPeer
  obtain ⟨present, isPresent, isWatched⟩ := inv.registered room peer isRoom
  obtain rfl := Option.some.inj (isJoin.symm.trans isPresent)
  have isKey : (roomID, found) ∈ pool.rooms := by
    obtain ⟨before, after, isSplit, _⟩ := List.lookup_eq_some_iff.mp isFound
    simp [isSplit]
  obtain ⟨holder, isHolder, holderWatched⟩ := inv.registered roomID found isKey
  have isName : asksNewRoom roomID = false :=
    ((inv.joins found holder isHolder).named roomID (by rw [holderWatched]; rfl)).1
  obtain rfl : room = roomID := by
    have named := ((inv.joins peer join isJoin).named room (by rw [isWatched]; rfl)).2
    rw [isAsked] at named
    exact named isName
  exact Option.some.inj ((inv.keys room peer isRoom).symm.trans isFound)

theorem startJoin_cases (initFails : Bool) :
    pool.startJoin initFails = .acquiring pool.cancelled ∨
      ∃ peer, pool.startJoin initFails = .ended peer := by
  unfold startJoin
  split
  · exact .inr ⟨none, rfl⟩
  · exact .inl rfl

theorem handleExchange_inv (inv : PoolInv pool) {exchange : RoomDataExchange} {initFails : Bool}
    (serial : SerialJoins pool (.handleExchange call exchange initFails))
    (handled : pool.handleExchange call exchange initFails = some next) : PoolInv next := by
  unfold handleExchange at handled
  split at handled
  · obtain rfl := Option.some.inj handled
    exact inv
  · rename_i isWbStream
    simp only [not_or, not_not] at isWbStream
    obtain ⟨alone, filed⟩ := serial isWbStream.1 isWbStream.2
    refine begin_inv inv handled ?_ alone ?_
    · unfold checkExchange
      split
      · exact .inr ⟨none, rfl⟩
      · split
        · exact .inr ⟨_, rfl⟩
        · exact startJoin_cases initFails
    · intro _ peer isPeer
      have isOpen : pool.closed = false := by
        cases isClosed : pool.closed with
        | false => rfl
        | true =>
          obtain ⟨room, _, isRoom, _⟩ := mem_peersFor isPeer
          rw [inv.emptied isClosed] at isRoom
          cases isRoom
      obtain ⟨found, isFound⟩ :=
        Option.ne_none_iff_exists'.mp (filed (List.ne_nil_of_mem isPeer))
      obtain rfl := inv.lookup_peersFor isPeer isFound
      simp [checkExchange, isOpen, isFound]

theorem preJoin_inv (inv : PoolInv pool) {roomID : String} {initFails : Bool}
    (serial : SerialJoins pool (.preJoin call roomID initFails))
    (joined : pool.begin call roomID true (pool.startJoin initFails) = some next) :
    PoolInv next :=
  begin_inv inv joined (startJoin_cases initFails) serial nofun

/-- A change of the closers that leaves the calls and the rooms alone. -/
theorem PoolInv.setCloser (inv : PoolInv pool) {caller : Nat} {closing : Closing}
    (isClosed : pool.closed = true)
    (entries : ∀ entries, closing = .cancelling entries ∨ closing = .waiting entries →
      ∀ call join room, pool.joins call = some join → join.phase = .watched room → call ∈ entries)
    (cancelled : (∃ entries, closing = .cancelling entries) ∨ pool.cancelled = true)
    (returned : closing = .returned →
      ∀ call join, pool.joins call = some join → join.phase.active = false) :
    PoolInv (pool.setCloser caller closing) := by
  have update (other : Nat) (present : Closing)
      (isPresent : (pool.setCloser caller closing).closers other = some present) :
      present = closing ∨ pool.closers other = some present := by
    simp only [SessionPool.setCloser, Function.update_apply] at isPresent
    split at isPresent
    · exact .inl (Option.some.inj isPresent).symm
    · exact .inr isPresent
  refine ⟨?_, inv.alone, inv.keys, inv.registered, inv.emptied, inv.cancelledClosed,
    fun _ _ _ => isClosed, ?_⟩
  · intro call join isJoin
    have ok := inv.joins call join isJoin
    refine ⟨ok.named, ok.reuses, ok.watched, ?_, ?_⟩
    · intro other isEntries isCloser room isWatched
      obtain isCancelling | isWaiting := isCloser
      · obtain same | isOld := update other _ isCancelling
        · exact entries isEntries (.inl same.symm) call join room isJoin isWatched
        · exact ok.entries other isEntries (.inl isOld) room isWatched
      · obtain same | isOld := update other _ isWaiting
        · exact entries isEntries (.inr same.symm) call join room isJoin isWatched
        · exact ok.entries other isEntries (.inr isOld) room isWatched
    · intro other hasReturned
      obtain same | isOld := update other _ hasReturned
      · exact returned same.symm call join isJoin
      · exact ok.returned other isOld
  · intro other present isPresent
    obtain rfl | isOld := update other present isPresent
    · exact cancelled
    · exact inv.cancelled other present isOld

theorem close_inv (inv : PoolInv pool) {caller : Nat}
    (after : pool.closed = true → pool.cancelled = true ∧
      ∀ call join, pool.joins call = some join → join.phase.active = false)
    (closed : pool.close caller = some next) : PoolInv next := by
  unfold close at closed
  split at closed
  · cases closed
  · split at closed
    · rename_i isClosed
      obtain rfl := Option.some.inj closed
      obtain ⟨isCancelled, inactive⟩ := after isClosed
      exact inv.setCloser isClosed (by simp) (.inr isCancelled) fun _ => inactive
    · rename_i isOpen
      have isOpen : pool.closed = false := by simpa using isOpen
      obtain rfl := Option.some.inj closed
      have noCloser (other : Nat) (closing : Closing) : pool.closers other ≠ some closing := by
        intro isCloser
        cases isOpen.symm.trans (inv.closers other closing isCloser)
      -- the pool without its rooms, before the caller is noted
      have emptied : PoolInv { pool with closed := true, rooms := [] } := by
        refine ⟨?_, inv.alone, fun _ _ => nofun, fun _ _ => nofun, fun _ => rfl, fun _ => rfl,
          fun other closing isCloser => absurd isCloser (noCloser other closing), inv.cancelled⟩
        intro call join isJoin
        have ok := inv.joins call join isJoin
        exact ⟨ok.named, ok.reuses, nofun, ok.entries, ok.returned⟩
      refine emptied.setCloser rfl ?_ (.inl ⟨_, rfl⟩) nofun
      intro entries isEntries call join room isJoin isWatched
      have isRoom := (inv.joins call join isJoin).watched isOpen room isWatched
      obtain same | same := isEntries
      · obtain rfl := Closing.cancelling.inj same
        exact List.mem_map.mpr ⟨_, isRoom, rfl⟩
      · cases same

theorem cancel_inv (inv : PoolInv pool) {caller : Nat}
    (cancelled : pool.cancel caller = some next) : PoolInv next := by
  unfold cancel at cancelled
  split at cancelled
  · rename_i entries isCancelling
    obtain rfl := Option.some.inj cancelled
    have isClosed := inv.closers caller _ isCancelling
    have ended : PoolInv { pool with cancelled := true } := by
      refine ⟨?_, inv.alone, inv.keys, inv.registered, inv.emptied, fun _ => isClosed, inv.closers,
        fun _ _ _ => .inr rfl⟩
      intro call join isJoin
      have ok := inv.joins call join isJoin
      exact ⟨ok.named, ok.reuses, ok.watched, ok.entries, ok.returned⟩
    refine ended.setCloser isClosed ?_ (.inr rfl) nofun
    intro others isEntries call join room isJoin isWatched
    obtain same | same := isEntries
    · cases same
    · obtain rfl := Closing.waiting.inj same
      exact (inv.joins call join isJoin).entries caller entries (.inl isCancelling) room isWatched
  · cases cancelled

/-- `Close` has seen the ends of the peers in the pool, and no other join is under way. -/
theorem closeReturns_inv (inv : PoolInv pool) {caller : Nat} (quiet : pool.Quiet)
    (returns : pool.closeReturns caller = some next) : PoolInv next := by
  unfold closeReturns at returns
  split at returns
  · rename_i entries isWaiting
    split at returns
    · rename_i allEnded
      obtain rfl := Option.some.inj returns
      have isCancelled := (inv.cancelled caller _ isWaiting).resolve_left nofun
      refine inv.setCloser (inv.closers caller _ isWaiting) (by simp) (.inr isCancelled) ?_
      intro _ call join isJoin
      have ok := inv.joins call join isJoin
      have calm := quiet call join isJoin
      cases isPhase : join.phase with
      | watched room =>
        have isEntry := ok.entries caller entries (.inr isWaiting) room isPhase
        have isEnded := List.all_eq_true.mp allEnded call isEntry
        simp [isJoin, isPhase, JoinPhase.active] at isEnded
      | acquiring cancelled =>
        rw [isPhase] at calm
        exact calm
      | connecting room =>
        rw [isPhase] at calm
        exact calm
      | registering room =>
        rw [isPhase] at calm
        exact calm
      | discarding peer =>
        rw [isPhase] at calm
        exact calm
      | ended peer => rfl
    · cases returns
  · cases returns

theorem step_inv (inv : PoolInv pool) {label : PoolLabel} (serial : SerialJoins pool label)
    (stepped : pool.step label = some next) : PoolInv next := by
  cases label with
  | handleExchange call exchange initFails => exact handleExchange_inv inv serial stepped
  | preJoin call roomID initFails => exact preJoin_inv inv serial stepped
  | acquire call room => exact acquire_inv inv stepped
  | connect call => exact connect_inv inv stepped
  | fail call => exact fail_inv inv stepped
  | register call => exact register_inv inv stepped
  | discard call => exact discard_inv inv stepped
  | watchEnds call => exact watchEnds_inv inv stepped
  | close caller => exact close_inv inv serial stepped
  | cancel caller => exact cancel_inv inv stepped
  | closeReturns caller => exact closeReturns_inv inv serial stepped

end Steps

end SessionPool

def anyRoom : RoomDataExchange := { provider := roomProviderWbStream, roomId := "any" }

/-- One exchange joins a new room. -/
def joinsNewRoom : List PoolLabel :=
  [.handleExchange 0 anyRoom false, .acquire 0 "a", .connect 0, .register 0]

end VkTurn.WbStream
