import Testbed.Switch.Flight

namespace Testbed

namespace Binding

/-- The state that an operation needs. A stop needs none. -/
def Operation.required? : Operation → Option BindingState
  | .bind _ => some .unbound
  | .attach _ => some .dataPlaneListening
  | .start => some .controllerAttached
  | .stop => none

def Operation.name : Operation → String
  | .bind _ => "bind_data_plane"
  | .attach _ => "attach_controller"
  | .start => "start"
  | .stop => "stop"

def inPhase (b : Binding) (phase : Phase) : Binding := { b with phase }

section

variable (b : Binding) (phase : Phase)

@[simp]
theorem inPhase_phase : (b.inPhase phase).phase = phase := rfl

@[simp]
theorem inPhase_switch : (b.inPhase phase).switch = b.switch := rfl

@[simp]
theorem inPhase_launchOf (e c : Endpoint) :
    (b.inPhase phase).launchOf e c = b.launchOf e c := rfl

end

theorem inPhase_self {b : Binding} {phase : Phase} (h : b.phase = phase) :
    b.inPhase phase = b := by
  subst h
  rfl

variable {b : Binding}

theorem phase_of_unbound (h : b.state = .unbound) : b.phase = .unbound := by
  unfold state at h
  split at h <;> first | assumption | cases h

theorem phase_of_listening (h : b.state = .dataPlaneListening) :
    ∃ e, b.phase = .listening e := by
  unfold state at h
  split at h <;> first | exact ⟨_, ‹_›⟩ | cases h

theorem phase_of_attached (h : b.state = .controllerAttached) :
    ∃ e c launched, b.phase = .attached e c launched := by
  unfold state at h
  split at h <;> first | exact ⟨_, _, _, ‹_›⟩ | cases h

theorem beginBind_misplaced (other : b.state ≠ .unbound) (e : Endpoint) (r : PortRegistry) :
    b.beginBind e r = (.error (b.invalidState "bind_data_plane"), b, r) := by
  unfold beginBind
  split
  next unbound => exact absurd (by simp [state, unbound]) other
  next => rfl

theorem attach_misplaced (other : b.state ≠ .dataPlaneListening) (c : Endpoint) :
    b.attach c = (.error (b.invalidState "attach_controller"), b) := by
  unfold attach
  split
  next listening => exact absurd (by simp [state, listening]) other
  next => rfl

theorem beginStart_misplaced (other : b.state ≠ .controllerAttached) :
    b.beginStart = .error (b.invalidState "start") := by
  unfold beginStart
  split
  next attached => exact absurd (by simp [state, attached]) other
  next => rfl

theorem up_of_launched (launched : b.launched = true) : b.phase ≠ .stopped := by
  intro stopped
  simp [Binding.launched, stopped] at launched

theorem state_stopped_iff : b.state = .stopped ↔ b.phase = .stopped := by
  unfold state
  split <;> simp_all

end Binding

theorem snoc_eq_append_cons {α : Type} {xs before after : List α} {x y : α} :
    xs ++ [x] = before ++ y :: after ↔
      (before = xs ∧ y = x ∧ after = []) ∨
        ∃ middle, after = middle ++ [x] ∧ xs = before ++ y :: middle := by
  constructor
  · intro same
    rcases List.eq_nil_or_concat after with rfl | ⟨middle, z, rfl⟩
    · obtain ⟨rfl, last⟩ := List.append_inj' same rfl
      cases last
      exact Or.inl ⟨rfl, rfl, rfl⟩
    · rw [List.concat_eq_append, ← List.cons_append, ← List.append_assoc] at same
      obtain ⟨rfl, last⟩ := List.append_inj' same rfl
      cases last
      exact Or.inr ⟨middle, List.concat_eq_append, rfl⟩
  · rintro (⟨rfl, rfl, rfl⟩ | ⟨middle, rfl, rfl⟩)
    · rfl
    · simp

namespace Seat

/-- What is in flight fits the phase of the switch. -/
def Fits (t : Seat Binding) : Prop :=
  ∀ request, t.asked = some request →
    match request with
    | .checkEndpoint _ => t.switch.phase = .unbound
    | .launch l | .awaitReady l =>
      ∃ e c, t.switch.phase = .attached e c true ∧ l = t.switch.launchOf e c
    | .shutdown name => t.switch.launched = true ∧ name = t.switch.switch

section Fits

variable {b : Binding}

theorem Fits.checking {e : Endpoint} (fits : (Seat.mk b (some (.checkEndpoint e))).Fits) :
    b.phase = .unbound := fits _ rfl

theorem Fits.launching {l : Launch} (fits : (Seat.mk b (some (.launch l))).Fits) :
    ∃ e c, b.phase = .attached e c true ∧ l = b.launchOf e c := fits _ rfl

theorem Fits.awaiting {l : Launch} (fits : (Seat.mk b (some (.awaitReady l))).Fits) :
    ∃ e c, b.phase = .attached e c true ∧ l = b.launchOf e c := fits _ rfl

theorem Fits.closing {name : String} (fits : (Seat.mk b (some (.shutdown name))).Fits) :
    b.launched = true ∧ name = b.switch := fits _ rfl

end Fits

open Binding in
/-- All that a step can do. -/
inductive Step :
    Seat Binding → PortRegistry → SwitchEvent → Turn → Seat Binding → PortRegistry → Prop
  | misplaced {b r op state} (required : op.required? = some state) (other : b.state ≠ state) :
      Step (idle b) r (.call op) (.returns (.error (b.invalidState op.name))) (idle b) r
  | conflict {b r e err} (unbound : b.phase = .unbound)
      (taken : r.reserve b.switch e = .error err) :
      Step (idle b) r (.call (.bind e)) (.returns (.error err)) (idle (b.inPhase (.failed none))) r
  | reserved {b r e q} (unbound : b.phase = .unbound) (granted : r.reserve b.switch e = .ok q) :
      Step (idle b) r (.call (.bind e)) (.asks (.checkEndpoint e)) ⟨b, some (.checkEndpoint e)⟩ q
  | listening {b r e} (unbound : b.phase = .unbound) :
      Step ⟨b, some (.checkEndpoint e)⟩ r (.answer (.checked (.ok ()))) (.returns (.ok ()))
        (idle (b.inPhase (.listening e))) r
  | occupied {b r e cause} (unbound : b.phase = .unbound) :
      Step ⟨b, some (.checkEndpoint e)⟩ r (.answer (.checked (.error cause)))
        (.returns (.error (.bindConflict b.switch e (foreignHolder cause))))
        (idle (b.inPhase (.failed none))) (r.release b.switch e)
  | attached {b r e c} (listens : b.phase = .listening e) :
      Step (idle b) r (.call (.attach c)) (.returns (.ok ()))
        (idle (b.inPhase (.attached e c false))) r
  | launching {b r e c launched} (attached : b.phase = .attached e c launched) :
      Step (idle b) r (.call .start) (.asks (.launch (b.launchOf e c)))
        ⟨b.inPhase (.attached e c true), some (.launch (b.launchOf e c))⟩ r
  | launched {b r e c} (attached : b.phase = .attached e c true) :
      Step ⟨b, some (.launch (b.launchOf e c))⟩ r (.answer (.launched (.ok ())))
        (.asks (.awaitReady (b.launchOf e c))) ⟨b, some (.awaitReady (b.launchOf e c))⟩ r
  | unlaunched {b r e c err} (attached : b.phase = .attached e c true) :
      Step ⟨b, some (.launch (b.launchOf e c))⟩ r (.answer (.launched (.error err)))
        (.returns (.error err)) (idle (b.inPhase (.failed (some (e, c))))) r
  | ready {b r e c} (attached : b.phase = .attached e c true) :
      Step ⟨b, some (.awaitReady (b.launchOf e c))⟩ r (.answer (.awaited (some (.ok ()))))
        (.returns (.ok ())) (idle (b.inPhase (.running e c))) r
  | unready {b r e c err} (attached : b.phase = .attached e c true) :
      Step ⟨b, some (.awaitReady (b.launchOf e c))⟩ r (.answer (.awaited (some (.error err))))
        (.returns (.error err)) (idle (b.inPhase (.failed (some (e, c))))) r
  | expired {b r e c} (attached : b.phase = .attached e c true) :
      Step ⟨b, some (.awaitReady (b.launchOf e c))⟩ r (.answer (.awaited none))
        (.returns (.error (b.timedOut (b.launchOf e c))))
        (idle (b.inPhase (.failed (some (e, c))))) r
  | atRest {b r} (stopped : b.phase = .stopped) :
      Step (idle b) r (.call .stop) (.returns (.ok ())) (idle b) r
  | stopped {b r} (up : b.phase ≠ .stopped) (unlaunched : b.launched = false) :
      Step (idle b) r (.call .stop) (.returns (.ok ())) (idle (b.endStop r).1) (b.endStop r).2
  | shuttingDown {b r} (launched : b.launched = true) :
      Step (idle b) r (.call .stop) (.asks (.shutdown b.switch)) ⟨b, some (.shutdown b.switch)⟩ r
  | shutDown {b r result} (launched : b.launched = true) :
      Step ⟨b, some (.shutdown b.switch)⟩ r (.answer (.shutDown result)) (.returns result)
        (idle (b.endStop r).1) (b.endStop r).2
  | givenUp {b r request} :
      Step ⟨b, some request⟩ r .giveUp (.givesUp request) (idle b) r

variable {t t' : Seat Binding} {r r' : PortRegistry} {event : SwitchEvent} {turn : Turn}

theorem step_call {b : Binding} {op : Binding.Operation} {out : Turn × Binding × PortRegistry}
    (begun : b.begin op r = out) :
    Step (idle b) r (.call op) (settle out).1 (settle out).2.1 (settle out).2.2 := by
  cases op with
  | bind e =>
    by_cases free : b.state = .unbound
    · have unbound := Binding.phase_of_unbound free
      simp only [Binding.begin, Binding.beginBind, unbound] at begun
      cases reserved : r.reserve b.switch e with
      | ok q =>
        rw [reserved] at begun
        cases begun
        exact .reserved unbound reserved
      | error err =>
        rw [reserved] at begun
        cases begun
        exact .conflict unbound reserved
    · simp only [Binding.begin, Binding.beginBind_misplaced free] at begun
      cases begun
      have required : (Binding.Operation.bind e).required? = some .unbound := rfl
      exact .misplaced required free
  | attach c =>
    by_cases listens : b.state = .dataPlaneListening
    · obtain ⟨e, listening⟩ := Binding.phase_of_listening listens
      simp only [Binding.begin, Binding.attach, listening] at begun
      cases begun
      exact .attached listening
    · simp only [Binding.begin, Binding.attach_misplaced listens] at begun
      cases begun
      have required : (Binding.Operation.attach c).required? = some .dataPlaneListening := rfl
      exact .misplaced required listens
  | start =>
    by_cases ready : b.state = .controllerAttached
    · obtain ⟨e, c, launched, attached⟩ := Binding.phase_of_attached ready
      simp only [Binding.begin, Binding.beginStart, attached] at begun
      cases begun
      exact .launching attached
    · simp only [Binding.begin, Binding.beginStart_misplaced ready] at begun
      cases begun
      have required : Binding.Operation.start.required? = some .controllerAttached := rfl
      exact .misplaced required ready
  | stop =>
    simp only [Binding.begin] at begun
    split at begun
    next stopped =>
      cases begun
      exact .atRest stopped
    next up =>
      cases launched : b.launched with
      | true =>
        rw [launched] at begun
        cases begun
        exact .shuttingDown launched
      | false =>
        rw [launched] at begun
        cases begun
        exact .stopped up launched

theorem step_answer {b : Binding} {request : Request} {answer : Answer}
    {out : Turn × Binding × PortRegistry} (fits : (Seat.mk b (some request)).Fits)
    (resumed : b.resume request answer r = some out) :
    Step ⟨b, some request⟩ r (.answer answer) (settle out).1 (settle out).2.1 (settle out).2.2 := by
  cases request with
  | checkEndpoint e =>
    have unbound := fits.checking
    cases answer with
    | checked result =>
      cases result with
      | ok =>
        cases resumed
        exact .listening unbound
      | error cause =>
        cases resumed
        exact .occupied unbound
    | _ => cases resumed
  | launch l =>
    obtain ⟨e, c, attached, rfl⟩ := fits.launching
    cases answer with
    | launched result =>
      cases result with
      | ok =>
        cases resumed
        exact .launched attached
      | error err =>
        cases resumed
        exact .unlaunched attached
    | _ => cases resumed
  | awaitReady l =>
    obtain ⟨e, c, attached, rfl⟩ := fits.awaiting
    cases answer with
    | awaited outcome =>
      rcases outcome with _ | (err | _)
      · cases resumed
        exact .expired attached
      · cases resumed
        exact .unready attached
      · cases resumed
        exact .ready attached
    | _ => cases resumed
  | shutdown name =>
    obtain ⟨launched, rfl⟩ := fits.closing
    cases answer with
    | shutDown result =>
      cases resumed
      exact .shutDown launched
    | _ => cases resumed

theorem step_cases (fits : t.Fits) (h : t.step Binding.machine r event = some (turn, t', r')) :
    Step t r event turn t' r' := by
  obtain ⟨b, asked⟩ := t
  cases event with
  | call op =>
    cases asked with
    | some request => cases h
    | none =>
      cases h
      exact step_call rfl
  | answer answer =>
    cases asked with
    | none => cases h
    | some request =>
      obtain ⟨out, resumed, settled⟩ := Option.map_eq_some_iff.mp h
      cases settled
      exact step_answer fits resumed
  | giveUp =>
    cases asked with
    | none => cases h
    | some request =>
      cases h
      exact .givenUp

theorem fits_idle (b : Binding) : (idle b).Fits := nofun

theorem Step.fits (step : Step t r event turn t' r') : t'.Fits := by
  cases step with
  | reserved unbound =>
    intro request asked
    cases asked
    exact unbound
  | launching =>
    intro request asked
    cases asked
    exact ⟨_, _, rfl, rfl⟩
  | launched attached =>
    intro request asked
    cases asked
    exact ⟨_, _, attached, rfl⟩
  | shuttingDown launched =>
    intro request asked
    cases asked
    exact ⟨launched, rfl⟩
  | _ => exact fits_idle _

theorem Step.switch_eq (step : Step t r event turn t' r') : t'.switch.switch = t.switch.switch := by
  cases step <;> rfl

theorem Step.stays_stopped (step : Step t r event turn t' r')
    (stopped : t.switch.phase = .stopped) : t'.switch.phase = .stopped := by
  cases step with
  | stopped | shutDown => rfl
  | misplaced | atRest | shuttingDown | givenUp => exact stopped
  | reserved before | launched before => exact stopped
  | conflict before | listening before | occupied before | attached before | launching before
  | unlaunched before | ready before | unready before | expired before =>
    cases before.symm.trans stopped

theorem Run.induction {others : PortRegistry → PortRegistry → Prop} {first : Seat Binding}
    {start : PortRegistry} {P : List Moment → Seat Binding → PortRegistry → Prop}
    (fits : first.Fits) (begun : P [] first start)
    (step : ∀ {past t r event turn t' r'}, t.Fits → P past t r → Step t r event turn t' r' →
      P (past ++ [⟨event, turn⟩]) t' r')
    (elsewhere : ∀ {past t r r'}, P past t r → others r r' → P past t r')
    {past : List Moment} (run : Run Binding.machine others first start past t r) :
    t.Fits ∧ P past t r := by
  -- `Fits` goes along, since only what fits takes one of the steps above.
  induction run with
  | start => exact ⟨fits, begun⟩
  | step _ next ih =>
    have taken := step_cases ih.1 next
    exact ⟨taken.fits, step ih.1 ih.2 taken⟩
  | elsewhere _ changed ih => exact ⟨ih.1, elsewhere ih.2 changed⟩

theorem Run.fits {others : PortRegistry → PortRegistry → Prop} {first : Seat Binding}
    {start : PortRegistry} {past : List Moment} (fits : first.Fits)
    (run : Run Binding.machine others first start past t r) : t.Fits :=
  (Run.induction (P := fun _ _ _ => True) fits trivial (fun _ _ _ => trivial)
    (fun _ _ => trivial) run).1

theorem Fits.idle_of_stopped (fits : t.Fits) (stopped : t.switch.phase = .stopped) :
    t.asked = none := by
  cases asked : t.asked with
  | none => rfl
  | some request =>
    have fit := fits request asked
    cases request <;> simp [stopped, Binding.launched] at fit

end Seat

end Testbed
