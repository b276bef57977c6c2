import Mathlib.Tactic.Common
import VkTurn.Server.SessionManager

/-! # Sessions that nobody will clean up

A session is cleaned up by the `RemoveConn` that finds it empty, and by nothing else.  A call that
fetched a session and could not dial the backend gives it up without looking whether anybody else
holds it, and leaves it registered for good when nobody does.
-/

namespace VkTurn.Server

open VkTurn.Transition

/-- The call has the session from `GetOrCreate` and has neither added its connection nor given
    up. -/
def Pending (state : Registry) (call : CallId) (session : SessionRef) : Prop :=
  state.phase call = .fetched session ∨ state.phase call = .dialed session

/-- The `RemoveConn` of the call has found the session empty, and has not unregistered it. -/
def Retiring (state : Registry) (call : CallId) (session : SessionRef) : Prop :=
  state.phase call = .leaving session ∨ state.phase call = .unregistering session

/-- The session has a connection, or a call that is about to add one. -/
def Held (state : Registry) (session : SessionRef) : Prop :=
  (state.heap session).conns ≠ [] ∨ ∃ call, Pending state call session

/-- Every registered session is held. -/
def AllHeld (state : Registry) : Prop :=
  ∀ id session, state.sessions id = some session → Held state session

/-- Every registered session is held, or is being unregistered. -/
def NoLeak (state : Registry) : Prop :=
  ∀ id session, state.sessions id = some session →
    Held state session ∨ ∃ call, Retiring state call session

/-- No dial fails for the last call that holds its session. -/
def NotLast (state : Registry) (label : Label) : Prop :=
  label.action = .dial false → ∀ session, state.phase label.call = .fetched session →
    (state.heap session).conns ≠ [] ∨
      ∃ call, call ≠ label.call ∧ (Pending state call session ∨ Retiring state call session)

/-! ## The invariant -/

structure LeakInv (state : Registry) : Prop where
  noLeak : NoLeak state
  allocated : ∀ call session, (state.phase call).session? = some session → session < state.allocated
  registered : ∀ id session, state.sessions id = some session →
    session < state.allocated ∧ (state.heap session).id = id
  /-- A cleanup deletes its session before it ends. -/
  cleaned : ∀ id session, state.sessions id = some session → (state.heap session).cleanupOnce ≠ .done
  closing : ∀ call session, state.phase call = .closing session →
    ∀ id, state.sessions id ≠ some session

variable {request : CallId → MuRequest} {state next : Registry} {call : CallId}
  {session : SessionRef}

attribute [local grind] Phase.session?

theorem addConn_ne_nil {Conn : Type} (entry : StreamEntry Conn) (conns : List (StreamEntry Conn)) :
    (addConn entry conns).1 ≠ [] := by
  cases conns with
  | nil => simp [addConn]
  | cons head tail =>
    unfold addConn
    split <;> simp

theorem LeakInv.empty : LeakInv Registry.empty := by
  constructor <;> simp [Registry.empty, NoLeak, Phase.session?]

theorem LeakInv.getOrCreate (inv : LeakInv state) (starts : state.phase call = .start) :
    LeakInv (getOrCreate request state call) := by
  obtain ⟨noLeak, allocated, registered, cleaned, closing⟩ := inv
  unfold Server.getOrCreate
  cases found : state.sessions (request call).sessionID with
  | some session =>
    constructor <;> simp only [Registry.setPhase, Function.update_apply, NoLeak, Held, Pending,
      Retiring] at * <;> grind
  | none =>
    constructor <;> simp only [Registry.setPhase, Function.update_apply, NoLeak, Held, Pending,
      Retiring] at * <;> grind

theorem LeakInv.dialed (inv : LeakInv state) (fetched : state.phase call = .fetched session) :
    LeakInv (state.setPhase call (.dialed session)) := by
  obtain ⟨noLeak, allocated, registered, cleaned, closing⟩ := inv
  constructor <;> simp only [Registry.setPhase, Function.update_apply, NoLeak, Held, Pending,
      Retiring] at * <;> grind

theorem LeakInv.dialFailed (inv : LeakInv state) (fetched : state.phase call = .fetched session)
    (notLast : NotLast state ⟨call, .dial false⟩) : LeakInv (state.setPhase call .finished) := by
  have stays := notLast rfl session fetched
  obtain ⟨noLeak, allocated, registered, cleaned, closing⟩ := inv
  constructor <;> simp only [Registry.setPhase, Function.update_apply, NoLeak, Held, Pending,
      Retiring] at * <;> grind

theorem LeakInv.addConn (inv : LeakInv state) (dialed : state.phase call = .dialed session) :
    LeakInv (addConnStep request state call session) := by
  have joined := addConn_ne_nil ((request call).entry call) (state.heap session).conns
  obtain ⟨noLeak, allocated, registered, cleaned, closing⟩ := inv
  constructor <;> simp only [addConnStep, Registry.setPhase, Function.update_apply, NoLeak, Held, Pending,
      Retiring] at * <;>
    grind

theorem LeakInv.removeConn (inv : LeakInv state) (serves : state.phase call = .serving session) :
    LeakInv (removeConnStep request state call session) := by
  obtain ⟨noLeak, allocated, registered, cleaned, closing⟩ := inv
  constructor <;>
    simp only [removeConnStep, Registry.setPhase, Function.update_apply, NoLeak, Held, Pending,
      Retiring] at * <;> grind

theorem LeakInv.cleanupDone (inv : LeakInv state) (leaves : state.phase call = .leaving session)
    (once : (state.heap session).cleanupOnce = .done) : LeakInv (state.setPhase call .finished) := by
  obtain ⟨noLeak, allocated, registered, cleaned, closing⟩ := inv
  constructor <;> simp only [Registry.setPhase, Function.update_apply, NoLeak, Held, Pending,
      Retiring] at * <;> grind

theorem LeakInv.cleanup (inv : LeakInv state) (leaves : state.phase call = .leaving session)
    (once : (state.heap session).cleanupOnce = .fresh)
    (cleans : cleanup state call session = some next) : LeakInv next := by
  simp only [Server.cleanup, once, Option.some.injEq] at cleans
  subst cleans
  obtain ⟨noLeak, allocated, registered, cleaned, closing⟩ := inv
  constructor <;> simp only [Registry.setPhase, Function.update_apply, NoLeak, Held, Pending,
      Retiring] at * <;> grind

theorem LeakInv.unregister (inv : LeakInv state)
    (unregisters : state.phase call = .unregistering session) :
    LeakInv (unregister state call session) := by
  obtain ⟨noLeak, allocated, registered, cleaned, closing⟩ := inv
  constructor <;>
    simp only [Server.unregister, Registry.setPhase, Function.update_apply, NoLeak, Held, Pending,
      Retiring] at * <;> grind

theorem LeakInv.closeConns (inv : LeakInv state) (closes : state.phase call = .closing session) :
    LeakInv (closeConns state call session) := by
  obtain ⟨noLeak, allocated, registered, cleaned, closing⟩ := inv
  constructor <;>
    simp only [Server.closeConns, Registry.setPhase, Function.update_apply, NoLeak, Held, Pending,
      Retiring] at * <;> grind

theorem LeakInv.step {action : Action} (inv : LeakInv state) (notLast : NotLast state ⟨call, action⟩)
    (fired : Fires request state call action next) : LeakInv next := by
  cases fired with
  | getOrCreate starts => exact inv.getOrCreate starts
  | dialed fetched => exact inv.dialed fetched
  | dialFailed fetched => exact inv.dialFailed fetched notLast
  | addConn dialed => exact inv.addConn dialed
  | removeConn serves => exact inv.removeConn serves
  | cleanupDone leaves once => exact inv.cleanupDone leaves once
  | cleanup leaves once cleans => exact inv.cleanup leaves once cleans
  | unregister unregisters => exact inv.unregister unregisters
  | closeConns closes => exact inv.closeConns closes

/-! ## Every run -/

/-- Every call asks for the same session. -/
def oneSession (call : CallId) : MuRequest := ⟨"ab", UInt8.ofNat call, "", "192.0.2.1"⟩

/-- As long as no dial fails for the last holder of a session, every registered session is held or
    is being unregistered. -/
theorem sessions_not_leaked (request : CallId → MuRequest) (state : Registry)
    (reached : (registry request).ReachableWhile NotLast (· = Registry.empty) state) :
    NoLeak state := by
  have inv : LeakInv state := by
    refine reached.invariant (fun initial isEmpty => isEmpty ▸ LeakInv.empty) ?_
    intro before next label inv notLast stepped
    exact inv.step notLast (registryStep_fires stepped)
  exact inv.noLeak

/-- A dial fails while another call holds the session. -/
theorem sessions_not_leaked_second_holder : ∃ state,
    (registry oneSession).run Registry.empty
      [⟨0, .getOrCreate⟩, ⟨1, .getOrCreate⟩, ⟨0, .dial false⟩] = some state ∧
    state.sessions "ab" = some 0 ∧ NoLeak state := by
  refine ⟨_, rfl, rfl, sessions_not_leaked oneSession _ ?_⟩
  have first := Machine.ReachableWhile.step
    (.start rfl : (registry oneSession).ReachableWhile NotLast (· = Registry.empty) _)
    (show NotLast _ ⟨0, .getOrCreate⟩ from nofun) rfl
  have second := first.step (show NotLast _ ⟨1, .getOrCreate⟩ from nofun) rfl
  refine second.step (show NotLast _ ⟨0, .dial false⟩ from ?_) rfl
  intro _ session fetched
  cases fetched
  exact .inr ⟨1, by decide, .inl (.inl rfl)⟩

/-- The session of the only call, after its `RemoveConn` has released the lock. -/
theorem empty_until_unregistered :
    ∃ state, (registry oneSession).Reachable (· = Registry.empty) state ∧ ¬ AllHeld state := by
  obtain ⟨state, ran, registered, noConns, phases⟩ : ∃ state, (registry oneSession).run Registry.empty
      [⟨0, .getOrCreate⟩, ⟨0, .dial true⟩, ⟨0, .addConn⟩, ⟨0, .removeConn⟩] = some state ∧
        state.sessions "ab" = some 0 ∧ (state.heap 0).conns = [] ∧
        ∀ call, ¬ Pending state call 0 := by
    refine ⟨_, rfl, rfl, rfl, fun call pending => ?_⟩
    match call with
    | 0 => exact pending.elim nofun nofun
    | _ + 1 => exact pending.elim nofun nofun
  refine ⟨state, Machine.Reachable.run (.start rfl) ran, fun held => ?_⟩
  obtain hasConns | ⟨call, pending⟩ := held "ab" 0 registered
  · exact hasConns noConns
  · exact phases call pending

/-- The only call cannot dial: the session stays registered and nobody is left to clean it up. -/
theorem failed_dial_leaks :
    ∃ state, (registry oneSession).Reachable (· = Registry.empty) state ∧ ¬ NoLeak state := by
  obtain ⟨state, ran, registered, noConns, phases⟩ : ∃ state, (registry oneSession).run Registry.empty
      [⟨0, .getOrCreate⟩, ⟨0, .dial false⟩] = some state ∧
        state.sessions "ab" = some 0 ∧ (state.heap 0).conns = [] ∧
        ∀ call, (state.phase call).session? = none := by
    refine ⟨_, rfl, rfl, rfl, fun call => ?_⟩
    match call with
    | 0 => rfl
    | _ + 1 => rfl
  refine ⟨state, Machine.Reachable.run (.start rfl) ran, fun noLeak => ?_⟩
  have nobody (call : CallId) (phase : Phase) (isPhase : state.phase call = phase)
      (holds : phase.session? = some 0) : False := by
    rw [← isPhase, phases call] at holds
    cases holds
  obtain (hasConns | ⟨call, pending⟩) | ⟨call, retiring⟩ := noLeak "ab" 0 registered
  · exact hasConns noConns
  · exact pending.elim (nobody call _ · rfl) (nobody call _ · rfl)
  · exact retiring.elim (nobody call _ · rfl) (nobody call _ · rfl)

end VkTurn.Server
