import Mathlib.Logic.Relation
import Testbed.Session.Startup

namespace Testbed.Session

variable {σ : Type}

def Entry.inPhase (e : Entry) (phase : Binding.Phase) : Entry :=
  { e with binding := { e.binding with phase } }

def Entry.launch (e : Entry) (controller : Endpoint) : Launch :=
  e.binding.launchOf e.dataPlane controller

namespace Wait

/-- The first poll follows the launch at once, and every other one is made when its time has come.
-/
def Due (now : Nat) (w : Wait) : Prop := w.round = 0 ∨ w.wake.any (· ≤ now) = true

def after? (now : Nat) (w : Wait) : Readiness → Option Wait
  | .settled _ => none
  | .never => some { w with round := w.round + 1, wake := none }
  | .again after => some { w with round := w.round + 1, wake := some (now + Agent.pause after) }

end Wait

namespace Lane

inductive Step (a : Agent σ) (now : Nat) : Lane × Shared σ → Lane × Shared σ → Prop
  /-- Another switch holds the port. -/
  | refused {c past e todo r s cause} (unbound : e.binding.phase = .unbound)
      (reserved : r.reserve e.binding.switch e.dataPlane = .error cause) :
      Step a now (⟨c, past, .idle, e :: todo⟩, ⟨r, s⟩)
        (⟨c, past ++ [e.inPhase (.failed none)], .failed cause, todo⟩, ⟨r, s⟩)
  /-- Somebody else on the host holds the port. -/
  | occupied {c past e todo r q s t cause} (unbound : e.binding.phase = .unbound)
      (reserved : r.reserve e.binding.switch e.dataPlane = .ok q)
      (checked : a.checkEndpoint e.dataPlane s = (.error cause, t)) :
      Step a now (⟨c, past, .idle, e :: todo⟩, ⟨r, s⟩)
        (⟨c, past ++ [e.inPhase (.failed none)], .failed (.bindConflict e.binding.switch e.dataPlane
          (Binding.foreignHolder cause)), todo⟩, ⟨q.release e.binding.switch e.dataPlane, t⟩)
  | unlaunched {c past e todo r q s t u cause} (unbound : e.binding.phase = .unbound)
      (reserved : r.reserve e.binding.switch e.dataPlane = .ok q)
      (checked : a.checkEndpoint e.dataPlane s = (.ok (), t))
      (launch : a.launch (e.launch c) t = (.error cause, u)) :
      Step a now (⟨c, past, .idle, e :: todo⟩, ⟨r, s⟩)
        (⟨c, past ++ [e.inPhase (.failed (some (e.dataPlane, c)))], .failed cause, todo⟩, ⟨q, u⟩)
  | launched {c past e todo r q s t u} (unbound : e.binding.phase = .unbound)
      (reserved : r.reserve e.binding.switch e.dataPlane = .ok q)
      (checked : a.checkEndpoint e.dataPlane s = (.ok (), t))
      (launch : a.launch (e.launch c) t = (.ok (), u)) :
      Step a now (⟨c, past, .idle, e :: todo⟩, ⟨r, s⟩)
        (⟨c, past, .waiting (e.inPhase (.attached e.dataPlane c true))
          ⟨e.launch c, 0, none, now + e.binding.startupTimeout.waitTicks⟩, todo⟩, ⟨q, u⟩)
  | ready {c past e w todo r s t} (due : w.Due now)
      (polled : a.poll w.launch w.round s = (.settled (.ok ()), t)) :
      Step a now (⟨c, past, .waiting e w, todo⟩, ⟨r, s⟩)
        (⟨c, past ++ [e.inPhase (.running w.launch.dataPlane w.launch.controller)], .idle, todo⟩,
          ⟨r, t⟩)
  | unready {c past e w todo r s t cause} (due : w.Due now)
      (polled : a.poll w.launch w.round s = (.settled (.error cause), t)) :
      Step a now (⟨c, past, .waiting e w, todo⟩, ⟨r, s⟩)
        (⟨c, past ++ [e.inPhase (.failed (some (w.launch.dataPlane, w.launch.controller)))],
          .failed cause, todo⟩, ⟨r, t⟩)
  | unsettled {c past e w w' todo r s t answer} (due : w.Due now)
      (polled : a.poll w.launch w.round s = (answer, t)) (again : w.after? now answer = some w') :
      Step a now (⟨c, past, .waiting e w, todo⟩, ⟨r, s⟩) (⟨c, past, .waiting e w', todo⟩, ⟨r, t⟩)
  | expired {c past e w todo sh} (polled : 0 < w.round) (asleep : w.wake.any (· ≤ now) = false)
      (late : w.deadline ≤ now) :
      Step a now (⟨c, past, .waiting e w, todo⟩, sh)
        (⟨c, past ++ [e.inPhase (.failed (some (w.launch.dataPlane, w.launch.controller)))],
          .failed (e.binding.timedOut w.launch), todo⟩, sh)

abbrev Steps (a : Agent σ) (now : Nat) : Lane × Shared σ → Lane × Shared σ → Prop :=
  Relation.ReflTransGen (Step a now)

def settle (lane : Lane) : Attempt × Entry → Lane
  | (.running, e) => { lane with past := lane.past ++ [e], progress := .idle }
  | (.waiting w, e) => { lane with progress := .waiting e w }
  | (.failed cause, e) => { lane with past := lane.past ++ [e], progress := .failed cause }

theorem keepWaiting_steps (a : Agent σ) {now : Nat} {w : Wait} (polled : 0 < w.round)
    (asleep : w.wake.any (· ≤ now) = false) (lane : Lane) (e : Entry) (sh : Shared σ) :
    Steps a now ({ lane with progress := .waiting e w }, sh)
      (lane.settle (keepWaiting now w e), sh) := by
  obtain ⟨c, past, progress, todo⟩ := lane
  by_cases late : w.deadline ≤ now
  · simp only [keepWaiting, late, ↓reduceIte]
    exact .single (.expired polled asleep late)
  · simp only [keepWaiting, late, ↓reduceIte]
    exact .refl

theorem asleep_pause (now : Nat) (after : Duration) :
    (some (now + Agent.pause after)).any (· ≤ now) = false := by
  have positive := Agent.pause_pos after
  simp only [Option.any_some, decide_eq_false_iff_not]
  omega

theorem pollEntry_steps (a : Agent σ) {now : Nat} {w : Wait} (due : w.Due now) (lane : Lane)
    (e : Entry) (sh : Shared σ) :
    Steps a now ({ lane with progress := .waiting e w }, sh)
      (lane.settle (pollEntry a now w e sh).1, (pollEntry a now w e sh).2) := by
  obtain ⟨r, s⟩ := sh
  unfold pollEntry
  split
  next result t polled =>
    cases result with
    | ok u => exact .single (.ready due polled)
    | error cause => exact .single (.unready due polled)
  next t polled =>
    exact .head (.unsettled due polled rfl)
      (keepWaiting_steps a (Nat.succ_pos _) rfl lane e ⟨r, t⟩)
  next after t polled =>
    exact .head (.unsettled due polled rfl)
      (keepWaiting_steps a (Nat.succ_pos _) (asleep_pause now after) lane e ⟨r, t⟩)

theorem bind_unbound (a : Agent σ) {b : Binding} (unbound : b.phase = .unbound) (e : Endpoint)
    (r : PortRegistry) (s : σ) :
    b.bind a e r s =
      match r.reserve b.switch e with
      | .error cause => (.error cause, { b with phase := .failed none }, r, s)
      | .ok q =>
        let (checked, t) := a.checkEndpoint e s
        let (result, b, q) := b.endBind e checked q
        (result, b, q, t) := by
  unfold Binding.bind Binding.beginBind
  rw [unbound]
  cases r.reserve b.switch e <;> rfl

theorem startEntry_steps (a : Agent σ) (now : Nat) (lane : Lane) (idle : lane.progress = .idle)
    {e : Entry} (unbound : e.binding.phase = .unbound) (sh : Shared σ) :
    Steps a now ({ lane with todo := e :: lane.todo }, sh)
      (lane.settle (startEntry a now lane.controller e sh).1,
        (startEntry a now lane.controller e sh).2) := by
  obtain ⟨c, past, progress, todo⟩ := lane
  obtain ⟨r, s⟩ := sh
  subst idle
  unfold startEntry
  rw [bind_unbound a unbound]
  cases reserved : r.reserve e.binding.switch e.dataPlane with
  | error cause => exact .single (.refused unbound reserved)
  | ok q =>
    cases checked : a.checkEndpoint e.dataPlane s with
    | mk result t =>
      cases result with
      | error cause => exact .single (.occupied unbound reserved checked)
      | ok u =>
        simp only [Binding.endBind, Binding.attach, launchEntry, Binding.beginStart]
        cases launch : a.launch (e.launch c) t with
        | mk result u =>
          have same : a.launch ((e.inPhase (.attached e.dataPlane c false)).binding.launchOf
              e.dataPlane c) t = (result, u) := launch
          simp only [Entry.inPhase] at same
          simp only [same]
          cases result with
          | error cause => exact .single (.unlaunched unbound reserved checked launch)
          | ok v =>
            exact .head (.launched unbound reserved checked launch)
              (pollEntry_steps a (Or.inl rfl) ⟨c, past, .idle, todo⟩ _ ⟨q, u⟩)

theorem startAll_steps (a : Agent σ) (now : Nat) (c : Endpoint) (past todo : List Entry)
    (sh : Shared σ) (unbound : ∀ e ∈ todo, e.binding.phase = .unbound) :
    Steps a now (⟨c, past, .idle, todo⟩, sh) (startAll a now c past todo sh) := by
  induction todo generalizing past sh with
  | nil => exact .refl
  | cons e rest ih =>
    have first := startEntry_steps a now ⟨c, past, .idle, rest⟩ rfl (unbound e (by simp)) sh
    unfold startAll
    split
    next e' sh' started =>
      simp only [started, settle] at first
      exact first.trans (ih _ _ fun x member => unbound x (by simp [member]))
    next w e' sh' started =>
      simp only [started, settle] at first
      exact first
    next cause e' sh' started =>
      simp only [started, settle] at first
      exact first

theorem resume_steps (a : Agent σ) (now : Nat) (lane : Lane) (step : Attempt × Entry)
    (sh : Shared σ) (unbound : ∀ e ∈ lane.todo, e.binding.phase = .unbound) :
    Steps a now (lane.settle step, sh) (lane.resume a now step sh) := by
  obtain ⟨attempt, e⟩ := step
  cases attempt with
  | running => exact startAll_steps a now _ _ _ sh unbound
  | waiting w => exact .refl
  | failed cause => exact .refl

/-- The switches to come are untouched, and a switch that is waited for has been polled. -/
structure Orderly (lane : Lane) : Prop where
  unbound : ∀ e ∈ lane.todo, e.binding.phase = .unbound
  polled : ∀ e w, lane.progress = .waiting e w → 0 < w.round

theorem advance_steps (a : Agent σ) (now : Nat) {lane : Lane} (orderly : lane.Orderly)
    (sh : Shared σ) : Steps a now (lane, sh) (lane.advance a now sh) := by
  obtain ⟨c, past, progress, todo⟩ := lane
  unfold advance
  cases progress with
  | idle => exact startAll_steps a now c past todo sh orderly.unbound
  | failed cause => exact .refl
  | waiting e w =>
    by_cases due : w.wake.any (· ≤ now) = true
    · simp only [due, ↓reduceIte]
      exact (pollEntry_steps a (Or.inr due) ⟨c, past, .waiting e w, todo⟩ e sh).trans
        (resume_steps a now _ _ _ orderly.unbound)
    · simp only [due, Bool.false_eq_true, ↓reduceIte]
      exact (keepWaiting_steps a (orderly.polled e w rfl) (by simpa using due)
        ⟨c, past, .waiting e w, todo⟩ e sh).trans (resume_steps a now _ _ _ orderly.unbound)

end Lane

end Testbed.Session
