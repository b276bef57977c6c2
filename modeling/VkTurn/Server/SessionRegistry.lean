import Mathlib.Tactic.Common
import VkTurn.Server.SessionManager

/-! # When the registry keeps the connections of a session together

A connection is live from its `AddConn` until its own handler removes it or a later
`AddConn` takes its stream id over.  The registry keeps every live connection in the session
that is registered under its session id, as long as no `AddConn` joins a session that a
`RemoveConn` has already found empty (`Doomed`).  Nothing in the code prevents such a late
join: the locks are released between `GetOrCreate` and `AddConn`.
-/

namespace VkTurn.Server

open VkTurn.Transition

/-- The session a call is cleaning up, inside `cleanupOnce.Do`. -/
def Phase.cleans? : Phase → Option SessionRef
  | .unregistering session | .closing session => some session
  | _ => none

/-- The call has added its connection to a session. -/
def Phase.joined : Phase → Bool
  | .start | .fetched _ | .dialed _ => false
  | _ => true

attribute [local grind] Phase.session? Phase.cleans? Phase.joined

/-- A `RemoveConn` has found the list of the session empty. -/
def Doomed (state : Registry) (session : SessionRef) : Prop :=
  (state.heap session).cleanupOnce ≠ .fresh ∨ ∃ call, state.phase call = .leaving session

/-- Added to the session, not replaced and not removed by its own handler. -/
def Live (state : Registry) (call : CallId) (session : SessionRef) : Prop :=
  state.phase call = .serving session ∧ ∀ other, (call, .replacedBy other) ∉ state.closed

section Law

variable (request : CallId → MuRequest)

/-- Every live connection is an entry of the session registered under its session id, and no
    cleanup has closed it. -/
def KeepsLiveConns (state : Registry) : Prop :=
  ∀ call session, Live state call session →
    state.sessions (request call).sessionID = some session ∧
      (request call).entry call ∈ (state.heap session).conns ∧
      ∀ other, (call, .cleanupBy other) ∉ state.closed

/-- No `AddConn` joins a session whose list a `RemoveConn` has found empty. -/
def JoinsInTime (state : Registry) (label : Label) : Prop :=
  label.action = .addConn →
    ∀ session, state.phase label.call = .dialed session → ¬ Doomed state session

/-! ## The invariant -/

structure RegistryInv (state : Registry) : Prop where
  holder : ∀ call session, (state.phase call).session? = some session →
    session < state.allocated ∧ (state.heap session).id = (request call).sessionID
  registered : ∀ id session, state.sessions id = some session →
    session < state.allocated ∧ (state.heap session).id = id
  fresh : ∀ session, session < state.allocated → (state.heap session).cleanupOnce = .fresh →
    state.sessions (state.heap session).id = some session
  cleaner : ∀ call session, (state.phase call).cleans? = some session →
    (state.heap session).cleanupOnce = .running
  unregistering : ∀ call session, state.phase call = .unregistering session →
    state.sessions (state.heap session).id = some session
  cleaner_unique : ∀ call other session, (state.phase call).cleans? = some session →
    (state.phase other).cleans? = some session → call = other
  entries : ∀ session, ∀ entry ∈ (state.heap session).conns,
    state.phase entry.conn = .serving session ∧ entry = (request entry.conn).entry entry.conn
  distinct : ∀ session, DistinctStreams (state.heap session).conns
  closed : ∀ call cause, (call, cause) ∈ state.closed → (state.phase call).joined
  live : ∀ call session, Live state call session →
    ¬ Doomed state session ∧ (request call).entry call ∈ (state.heap session).conns ∧
      ∀ other, (call, .cleanupBy other) ∉ state.closed

variable {request} {state next : Registry} {call : CallId} {session : SessionRef}

/-! ## One lemma for each step -/

theorem Phase.session?_of_cleans? {phase : Phase} (cleans : phase.cleans? = some session) :
    phase.session? = some session := by
  cases phase <;> simp_all [Phase.cleans?, Phase.session?]

theorem RegistryInv.serving_allocated (inv : RegistryInv request state)
    (serves : state.phase call = .serving session) : session < state.allocated :=
  (inv.holder call session (by rw [serves]; rfl)).1

theorem RegistryInv.cleans_allocated (inv : RegistryInv request state)
    (cleans : (state.phase call).cleans? = some session) : session < state.allocated :=
  (inv.holder call session (Phase.session?_of_cleans? cleans)).1

theorem empty_inv : RegistryInv request Registry.empty := by
  constructor <;> simp [Registry.empty, Phase.session?, Phase.cleans?, DistinctStreams, Live]

/-- A step that only moves a call that has not joined keeps everything. -/
theorem moved_inv {phase : Phase} (inv : RegistryInv request state)
    (notServing : ∀ session, state.phase call ≠ .serving session)
    (keeps : phase.session? = none ∨ phase.session? = (state.phase call).session?)
    (cleansNone : phase.cleans? = none)
    (notLeaving : ∀ session, phase ≠ .serving session ∧ phase ≠ .leaving session)
    (joins : (state.phase call).joined → phase.joined) :
    RegistryInv request (state.setPhase call phase) := by
  obtain ⟨holder, registered, fresh, cleaner, unregistering, unique, entries, distinct, closed,
    live⟩ := inv
  constructor <;>
    simp only [Registry.setPhase, Function.update_apply, Doomed, Live] at * <;> grind

theorem dialed_inv (inv : RegistryInv request state)
    (fetched : state.phase call = .fetched session) :
    RegistryInv request (state.setPhase call (.dialed session)) := by
  apply moved_inv inv <;> simp [fetched, Phase.session?, Phase.cleans?, Phase.joined]

theorem dialFailed_inv (inv : RegistryInv request state)
    (fetched : state.phase call = .fetched session) :
    RegistryInv request (state.setPhase call .finished) := by
  apply moved_inv inv <;> simp [fetched, Phase.session?, Phase.cleans?, Phase.joined]

theorem cleanupDone_inv (inv : RegistryInv request state)
    (leaves : state.phase call = .leaving session) :
    RegistryInv request (state.setPhase call .finished) := by
  apply moved_inv inv <;> simp [leaves, Phase.session?, Phase.cleans?, Phase.joined]

theorem getOrCreate_inv (inv : RegistryInv request state) (starts : state.phase call = .start) :
    RegistryInv request (getOrCreate request state call) := by
  have servingAllocated : ∀ other session, state.phase other = .serving session →
      session < state.allocated := fun _ _ => inv.serving_allocated
  have cleansAllocated : ∀ other session, (state.phase other).cleans? = some session →
      session < state.allocated := fun _ _ => inv.cleans_allocated
  obtain ⟨holder, registered, fresh, cleaner, unregistering, unique, entries, distinct, closed,
    live⟩ := inv
  unfold getOrCreate
  cases found : state.sessions (request call).sessionID with
  | some session =>
    constructor <;>
      simp only [Registry.setPhase, Function.update_apply, Doomed, Live] at * <;> grind
  | none =>
    -- the new session is not on the heap of any call, so no list and no flag of theirs changes
    constructor <;>
      simp only [Registry.setPhase, Function.update_apply, Doomed, Live] at * <;>
      grind [DistinctStreams]

theorem addConn_inv (inv : RegistryInv request state)
    (held : state.phase call = .dialed session) (notDoomed : ¬ Doomed state session) :
    RegistryInv request (addConnStep request state call session) := by
  obtain ⟨holder, registered, fresh, cleaner, unregistering, unique, entries, distinct, closed,
    live⟩ := inv
  have joins := mem_addConn (distinct session) ((request call).entry call)
  have others : ∀ entry ∈ (state.heap session).conns, entry.conn ≠ call := by
    intro entry member same
    have serves := (entries session entry member).1
    rw [same, held] at serves
    cases serves
  -- a live connection whose stream id is taken over is recorded as replaced
  have replaces : ∀ existing ∈ (state.heap session).conns,
      existing.id = (request call).streamID →
      (existing.conn, CloseCause.replacedBy call) ∈
        (addConnStep request state call session).closed := by
    intro existing member same
    have replaced := addConn_replaces (distinct session) member ((request call).entry call) same
    simp [addConnStep, replaced]
  have closedBefore : ∀ other cause,
      (other, cause) ∈ (addConnStep request state call session).closed →
      (other, cause) ∈ state.closed ∨ (cause = .replacedBy call ∧
        ∃ existing ∈ (state.heap session).conns, existing.conn = other) := by
    intro other cause member
    simp only [addConnStep, List.mem_append, Option.mem_toList, Option.map_eq_some_iff] at member
    rcases member with old | ⟨conn, taken, eq⟩
    · exact .inl old
    · obtain ⟨existing, present, _, own⟩ := addConn_closed _ taken
      cases eq
      exact .inr ⟨rfl, existing, present, own⟩
  have grows : ∀ pair ∈ state.closed, pair ∈ (addConnStep request state call session).closed :=
    fun pair member => List.mem_append_left _ member
  constructor
  case entries =>
    simp only [addConnStep, Registry.setPhase, Function.update_apply]
    grind [MuRequest.entry]
  case distinct =>
    simp only [addConnStep, Function.update_apply]
    grind [addConn_distinct]
  case closed =>
    intro other cause member
    have before := closedBefore other cause member
    simp only [addConnStep, Registry.setPhase, Function.update_apply]
    grind
  case live =>
    intro other holding isLive
    obtain ⟨serves, kept⟩ := isLive
    have before := closedBefore other
    simp only [addConnStep, Registry.setPhase, Function.update_apply, Doomed] at *
    by_cases self : other = call
    · grind [MuRequest.entry]
    · have keptBefore := fun cause member => kept cause (grows _ member)
      have wasLive := live other holding ⟨by grind, keptBefore⟩
      grind [MuRequest.entry]
  all_goals
    simp only [addConnStep, Registry.setPhase, Function.update_apply, Doomed, Live] at *
    grind

theorem removeConn_inv (inv : RegistryInv request state)
    (held : state.phase call = .serving session) :
    RegistryInv request (removeConnStep request state call session) := by
  obtain ⟨holder, registered, fresh, cleaner, unregistering, unique, entries, distinct, closed,
    live⟩ := inv
  have leaves := mem_removeConn (distinct session) (request call).streamID call
  have stillDistinct := removeConn_distinct (distinct session) (request call).streamID call
  constructor <;>
    simp only [removeConnStep, Registry.setPhase, Function.update_apply, Doomed, Live] at * <;>
    grind [MuRequest.entry]

theorem cleanup_inv (inv : RegistryInv request state)
    (leaves : state.phase call = .leaving session)
    (once : (state.heap session).cleanupOnce = .fresh)
    (cleaned : cleanup state call session = some next) : RegistryInv request next := by
  simp only [cleanup, once, Option.some.injEq] at cleaned
  subst cleaned
  obtain ⟨holder, registered, fresh, cleaner, unregistering, unique, entries, distinct, closed,
    live⟩ := inv
  constructor <;>
    simp only [Registry.setPhase, Function.update_apply, Doomed, Live] at * <;> grind

theorem unregister_inv (inv : RegistryInv request state)
    (held : state.phase call = .unregistering session) :
    RegistryInv request (unregister state call session) := by
  obtain ⟨holder, registered, fresh, cleaner, unregistering, unique, entries, distinct, closed,
    live⟩ := inv
  constructor <;>
    simp only [unregister, Registry.setPhase, Function.update_apply, Doomed, Live] at * <;> grind

theorem closeConns_inv (inv : RegistryInv request state)
    (held : state.phase call = .closing session) :
    RegistryInv request (closeConns state call session) := by
  obtain ⟨holder, registered, fresh, cleaner, unregistering, unique, entries, distinct, closed,
    live⟩ := inv
  constructor <;>
    simp only [closeConns, Registry.setPhase, Function.update_apply, Doomed, Live] at * <;>
    grind [DistinctStreams]

theorem fires_inv {action : Action} (inv : RegistryInv request state)
    (inTime : JoinsInTime state ⟨call, action⟩) (fired : Fires request state call action next) :
    RegistryInv request next := by
  cases fired with
  | getOrCreate starts => exact getOrCreate_inv inv starts
  | dialed fetched => exact dialed_inv inv fetched
  | dialFailed fetched => exact dialFailed_inv inv fetched
  | addConn held => exact addConn_inv inv held (inTime rfl _ held)
  | removeConn held => exact removeConn_inv inv held
  | cleanupDone leaves => exact cleanupDone_inv inv leaves
  | cleanup leaves once cleaned => exact cleanup_inv inv leaves once cleaned
  | unregister held => exact unregister_inv inv held
  | closeConns held => exact closeConns_inv inv held

/-! ## Every run -/

theorem RegistryInv.keepsLiveConns (inv : RegistryInv request state) :
    KeepsLiveConns request state := by
  intro call session isLive
  obtain ⟨notDoomed, member, notCleaned⟩ := inv.live call session isLive
  obtain ⟨allocated, sameID⟩ := inv.holder call session (by rw [isLive.1]; rfl)
  have once : (state.heap session).cleanupOnce = .fresh := by
    by_contra used
    exact notDoomed (.inl used)
  exact ⟨sameID ▸ inv.fresh session allocated once, member, notCleaned⟩

end Law

/-- Every call serves its own stream of one session id. -/
def sharedSession (call : CallId) : MuRequest :=
  ⟨"ab", UInt8.ofNat call, "", "192.0.2.1"⟩

/-- In every run without a late join, every live connection stays in the registered session. -/
theorem registry_keeps_live_conns (request : CallId → MuRequest) (state : Registry)
    (reached : (registry request).ReachableWhile JoinsInTime (· = Registry.empty) state) :
    KeepsLiveConns request state := by
  have inv : RegistryInv request state := by
    apply reached.invariant
    · intro initial isEmpty
      exact isEmpty ▸ empty_inv
    · intro before next label inv inTime stepped
      exact fires_inv inv inTime (registryStep_fires stepped)
  exact inv.keepsLiveConns

theorem registry_keeps_live_conns_one_join : ∃ state,
    (registry sharedSession).run Registry.empty
      [⟨0, .getOrCreate⟩, ⟨0, .dial true⟩, ⟨0, .addConn⟩] = some state ∧
    Live state 0 0 ∧ KeepsLiveConns sharedSession state := by
  refine ⟨_, rfl, ⟨rfl, fun other member => nomatch member⟩, ?_⟩
  apply registry_keeps_live_conns
  have fetched := Machine.ReachableWhile.step
    (.start rfl : (registry sharedSession).ReachableWhile JoinsInTime (· = Registry.empty) _)
    (show JoinsInTime _ ⟨0, .getOrCreate⟩ from nofun) rfl
  have dialed := fetched.step (show JoinsInTime _ ⟨0, .dial true⟩ from nofun) rfl
  refine dialed.step (show JoinsInTime _ ⟨0, .addConn⟩ from ?_) rfl
  intro _ session held doomed
  cases held
  rcases doomed with used | ⟨call, leaves⟩
  · exact used rfl
  · by_cases first : call = 0 <;>
      simp [getOrCreate, Registry.setPhase, Registry.empty, first] at leaves

/-- The second call fetches the session, the first, its only member, leaves it, and the second
    joins before the first cleans it up. -/
def lateJoin : List Label :=
  [⟨0, .getOrCreate⟩, ⟨0, .dial true⟩, ⟨0, .addConn⟩, ⟨1, .getOrCreate⟩, ⟨1, .dial true⟩,
   ⟨0, .removeConn⟩, ⟨1, .addConn⟩, ⟨0, .cleanup⟩, ⟨0, .unregister⟩, ⟨0, .closeConns⟩]

/-- After the late join a connection that serves is in no registered session and was closed by
    the cleanup of the other stream. -/
theorem late_join_breaks_live_conns :
    ¬ ∀ (request : CallId → MuRequest) (state : Registry),
      (registry request).Reachable (· = Registry.empty) state → KeepsLiveConns request state := by
  intro claimed
  have ran : ∃ state, (registry sharedSession).run Registry.empty lateJoin = some state ∧
      state.phase 1 = .serving 0 ∧ state.closed = [(1, .cleanupBy 0)] ∧
      state.sessions "ab" = none := ⟨_, rfl, rfl, rfl, rfl⟩
  obtain ⟨state, ran, serves, closed, absent⟩ := ran
  have reached : (registry sharedSession).Reachable (· = Registry.empty) state :=
    Machine.Reachable.run (.start rfl) ran
  have isLive : Live state 1 0 := by
    refine ⟨serves, ?_⟩
    simp [closed]
  have registered := (claimed sharedSession state reached 1 0 isLive).1
  rw [show (sharedSession 1).sessionID = "ab" from rfl, absent] at registered
  cases registered

end VkTurn.Server
