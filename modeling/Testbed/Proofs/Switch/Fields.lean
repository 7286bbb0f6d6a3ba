import Testbed.Proofs.Switch.Step
import Testbed.Switch.Fields

namespace Testbed

open Seat

inductive Activity where
  | binding
  | attaching
  | starting
  | stopping
deriving DecidableEq, Repr

def Binding.Operation.activity : Binding.Operation → Activity
  | .bind _ => .binding
  | .attach _ => .attaching
  | .start => .starting
  | .stop => .stopping

def Request.activity : Request → Activity
  | .checkEndpoint _ => .binding
  | .launch _ | .awaitReady _ => .starting
  | .shutdown _ => .stopping

namespace SwitchEvent

def activity? (asked : Option Request) : SwitchEvent → Option Activity
  | .call op => some op.activity
  | .answer _ | .giveUp => asked.map Request.activity

def Brings (event : SwitchEvent) (e : Error) : Prop :=
  event = .answer (.launched (.error e)) ∨ event = .answer (.awaited (some (.error e))) ∨
    event = .answer (.shutDown (.error e))

end SwitchEvent

inductive BindingState.Change : Activity → BindingState → BindingState → Prop
  | bound : Change .binding .unbound .dataPlaneListening
  | unbindable : Change .binding .unbound .failed
  | attached : Change .attaching .dataPlaneListening .controllerAttached
  | ready : Change .starting .controllerAttached .running
  | unready : Change .starting .controllerAttached .failed
  | stopped {state : BindingState} (up : state ≠ .stopped) : Change .stopping state .stopped

/-- Which endpoints go with which state. -/
def Fields.Consistent (f : Fields) (attempted : Prop) : Prop :=
  match f.state with
  | .unbound | .stopped => f.dataPlane = none ∧ f.controller = none
  | .dataPlaneListening => f.dataPlane.isSome ∧ f.controller = none
  | .controllerAttached | .running => f.dataPlane.isSome ∧ f.controller.isSome
  | .failed => (f.dataPlane.isSome ↔ attempted) ∧ (f.controller.isSome ↔ attempted)

theorem PortRegistry.bindConflict_of_reserve {r : PortRegistry} {switch : String} {e : Endpoint}
    {err : Error} (h : r.reserve switch e = .error err) :
    ∃ holder, err = .bindConflict switch e holder := by
  unfold reserve at h
  split at h
  next => cases h
  next holder _ =>
    split at h
    next => cases h
    next =>
      cases h
      exact ⟨holder, rfl⟩

namespace Binding

theorem fields_begin (op : Operation) (b : Binding) (r : PortRegistry) :
    Fields.begin op b.fields r =
      ((b.begin op r).1, (b.begin op r).2.1.fields, (b.begin op r).2.2) := by
  obtain ⟨switch, deviceId, ports, timeout, phase⟩ := b
  cases op with
  | bind e =>
    cases phase with
    | unbound =>
      have free : (fields ⟨switch, deviceId, ports, timeout, .unbound⟩).require .unbound
          "bind_data_plane" = .ok () := rfl
      have name : (fields ⟨switch, deviceId, ports, timeout, .unbound⟩).switch = switch := rfl
      simp only [Fields.begin, free, name, begin, beginBind]
      cases r.reserve switch e <;> rfl
    | _ => rfl
  | attach c => cases phase <;> rfl
  | start => cases phase <;> rfl
  | stop =>
    cases phase with
    | attached e c launched => cases launched <;> rfl
    | failed endpoints => cases endpoints <;> rfl
    | _ => rfl

theorem fields_resume {request : Request} {b : Binding} (fits : (Seat.mk b (some request)).Fits)
    (answer : Answer) (r : PortRegistry) :
    Fields.resume request answer b.fields r =
      (b.resume request answer r).map fun out => (out.1, out.2.1.fields, out.2.2) := by
  obtain ⟨switch, deviceId, ports, timeout, phase⟩ := b
  cases request with
  | checkEndpoint e =>
    obtain rfl : phase = .unbound := fits.checking
    cases answer with
    | checked result => cases result <;> rfl
    | _ => rfl
  | launch l =>
    obtain ⟨e, c, attached, rfl⟩ := fits.launching
    obtain rfl : phase = .attached e c true := attached
    cases answer with
    | launched result => cases result <;> rfl
    | _ => rfl
  | awaitReady l =>
    obtain ⟨e, c, attached, rfl⟩ := fits.awaiting
    obtain rfl : phase = .attached e c true := attached
    cases answer with
    | awaited outcome => rcases outcome with _ | (err | _) <;> rfl
    | _ => rfl
  | shutdown name => cases answer <;> rfl

end Binding

namespace Seat

def inFields (t : Seat Binding) : Seat Fields := ⟨t.switch.fields, t.asked⟩

variable {t t' : Seat Binding} {r r' : PortRegistry} {event : SwitchEvent} {turn : Turn}
  {past : List Moment}

theorem step_inFields (fits : t.Fits) (r : PortRegistry) (event : SwitchEvent) :
    t.inFields.step Fields.machine r event =
      (t.step Binding.machine r event).map fun out => (out.1, out.2.1.inFields, out.2.2) := by
  obtain ⟨b, asked⟩ := t
  cases event with
  | call op =>
    cases asked with
    | some request => rfl
    | none =>
      have same := Binding.fields_begin op b r
      simp only [inFields, step, Fields.machine, same]
      rfl
  | answer answer =>
    cases asked with
    | none => rfl
    | some request =>
      have same := Binding.fields_resume fits answer r
      simp only [inFields, step, Fields.machine, same, Option.map_map]
      rfl
  | giveUp => cases asked <;> rfl

theorem Run.of_inFields {others : PortRegistry → PortRegistry → Prop} {first : Seat Binding}
    {start : PortRegistry} {u : Seat Fields} (fits : first.Fits)
    (run : Run Fields.machine others first.inFields start past u r) :
    ∃ t : Seat Binding, u = t.inFields ∧ Run Binding.machine others first start past t r := by
  induction run with
  | start => exact ⟨first, rfl, .start⟩
  | step _ taken ih =>
    obtain ⟨t, rfl, run⟩ := ih
    rw [step_inFields (run.fits fits)] at taken
    obtain ⟨out, stepped, same⟩ := Option.map_eq_some_iff.mp taken
    cases same
    exact ⟨out.2.1, rfl, run.step stepped⟩
  | elsewhere _ changed ih =>
    obtain ⟨t, rfl, run⟩ := ih
    exact ⟨t, rfl, run.elsewhere changed⟩

theorem Step.change (step : Step t r event turn t' r')
    (moved : t'.switch.state ≠ t.switch.state) :
    ∃ activity, event.activity? t.asked = some activity ∧
      BindingState.Change activity t.switch.state t'.switch.state := by
  cases step with
  | misplaced | reserved | launched | atRest | shuttingDown | givenUp => exact absurd rfl moved
  | conflict unbound | occupied unbound =>
    refine ⟨.binding, rfl, ?_⟩
    simpa [Binding.state, unbound] using .unbindable
  | listening unbound =>
    refine ⟨.binding, rfl, ?_⟩
    simpa [Binding.state, unbound] using .bound
  | attached listens =>
    refine ⟨.attaching, rfl, ?_⟩
    simpa [Binding.state, listens] using .attached
  | launching attached => simp [Binding.state, attached] at moved
  | unlaunched attached | unready attached | expired attached =>
    refine ⟨.starting, rfl, ?_⟩
    simpa [Binding.state, attached] using .unready
  | ready attached =>
    refine ⟨.starting, rfl, ?_⟩
    simpa [Binding.state, attached] using .ready
  | stopped up => exact ⟨.stopping, rfl, .stopped fun same => moved same.symm⟩
  | shutDown => exact ⟨.stopping, rfl, .stopped fun same => moved same.symm⟩

def Attempted (past : List Moment) : Prop := ∃ m ∈ past, ∃ l, m.turn = .asks (.launch l)

theorem attempted_snoc {m : Moment} :
    Attempted (past ++ [m]) ↔ Attempted past ∨ ∃ l, m.turn = .asks (.launch l) := by
  simp [Attempted, or_and_right, exists_or]

theorem Step.attempted_iff (step : Step t r event turn t' r')
    (known : t.switch.phase ≠ .stopped → (Attempted past ↔ t.switch.launched = true))
    (up : t'.switch.phase ≠ .stopped) :
    Attempted (past ++ [⟨event, turn⟩]) ↔ t'.switch.launched = true := by
  have known := known fun stopped => up (step.stays_stopped stopped)
  rw [attempted_snoc]
  -- Only a start marks the switch; a failed one keeps the mark in the endpoints that it leaves.
  cases step with
  | launching => simp [Binding.launched]
  | stopped | shutDown => exact absurd rfl up
  | misplaced | reserved | launched | atRest | shuttingDown | givenUp => simpa using known
  | conflict before | listening before | occupied before | attached before | unlaunched before
  | ready before | unready before | expired before =>
    simpa [Binding.launched, before] using known

theorem Run.attempted_iff {others : PortRegistry → PortRegistry → Prop} {first : Seat Binding}
    {start : PortRegistry} (fits : first.Fits) (unlaunched : first.switch.launched = false)
    (run : Run Binding.machine others first start past t r) (up : t.switch.phase ≠ .stopped) :
    Attempted past ↔ t.switch.launched = true := by
  refine (Run.induction (P := fun past t _ =>
    t.switch.phase ≠ .stopped → (Attempted past ↔ t.switch.launched = true)) fits ?_
    (fun _ known taken => taken.attempted_iff known) (fun known _ => known) run).2 up
  simp [Attempted, unlaunched]

theorem Step.brings {switch message : String} (step : Step t r event turn t' r')
    (returned : turn = .returns (.error (.agent switch message))) :
    event.Brings (.agent switch message) := by
  cases step with
  | conflict _ taken =>
    obtain ⟨holder, rfl⟩ := PortRegistry.bindConflict_of_reserve taken
    cases returned
  | unlaunched =>
    cases returned
    exact .inl rfl
  | unready =>
    cases returned
    exact .inr (.inl rfl)
  | shutDown =>
    cases returned
    exact .inr (.inr rfl)
  | _ => cases returned

end Seat

theorem Binding.consistent {b : Binding} {attempted : Prop}
    (known : b.phase ≠ .stopped → (attempted ↔ b.launched = true)) :
    b.fields.Consistent attempted := by
  obtain ⟨switch, deviceId, ports, timeout, phase⟩ := b
  cases phase with
  | failed endpoints =>
    have known := known nofun
    cases endpoints <;>
      simpa [Fields.Consistent, fields, state, dataPlane?, controller?, launched] using known
  | _ => simp [Fields.Consistent, fields, state, dataPlane?, controller?]

theorem Fields.begin_misplaced {f : Fields} {op : Binding.Operation} {state : BindingState}
    (required : op.required? = some state) (other : f.state ≠ state) (r : PortRegistry) :
    Fields.begin op f r = (.returns (.error (.invalidState f.switch op.name f.state)), f, r) := by
  cases op <;> cases required <;> simp [Fields.begin, require, other, Binding.Operation.name]

namespace Seat

/-- The fields of a switch are those of a switch that has gone through the same. They go with its
state, which changes only as it should; no start misses an endpoint, and an operation in a wrong
state does nothing but say so. -/
theorem fields_in_step {switch : String} {deviceId : UInt64} {ports : List (UInt32 × String)}
    {timeout : Duration} {start r : PortRegistry} {past : List Moment} {t : Seat Fields}
    (run : Run Fields.machine (fun _ _ => True) (idle (.new switch deviceId ports timeout)) start
      past t r) :
    (∃ b : Binding, t.switch = b.fields ∧
      Run Binding.machine (fun _ _ => True) (idle (.new switch deviceId ports timeout)) start past
        ⟨b, t.asked⟩ r) ∧
    t.switch.Consistent (Attempted past) ∧
    (∀ event turn t' r', t.step Fields.machine r event = some (turn, t', r') →
      (t'.switch.state ≠ t.switch.state → ∃ activity, event.activity? t.asked = some activity ∧
        BindingState.Change activity t.switch.state t'.switch.state) ∧
      (turn = .returns (.error t.switch.noEndpoints) → event.Brings t.switch.noEndpoints)) ∧
    ∀ op state, t.asked = none → op.required? = some state → t.switch.state ≠ state →
      t.step Fields.machine r (.call op) =
        some (.returns (.error (.invalidState t.switch.switch op.name t.switch.state)), t, r) := by
  have first : (idle (Binding.new switch deviceId ports timeout)).Fits := fits_idle _
  obtain ⟨⟨b, asked⟩, rfl, gone⟩ := Run.of_inFields first run
  refine ⟨⟨b, rfl, gone⟩, ?_, fun event turn t' r' taken => ?_,
    fun op state free required other => ?_⟩
  · exact Binding.consistent (gone.attempted_iff first rfl)
  · rw [step_inFields (gone.fits first)] at taken
    obtain ⟨⟨turn, t', r'⟩, stepped, same⟩ := Option.map_eq_some_iff.mp taken
    cases same
    have step := step_cases (gone.fits first) stepped
    exact ⟨step.change, step.brings⟩
  · obtain rfl : asked = none := free
    have refused := Fields.begin_misplaced required other r
    simp only [inFields] at refused
    simp only [inFields, Seat.step, Fields.machine, refused]
    rfl

def restarted (e controller : Endpoint) : List SwitchEvent :=
  [.call .start, .call (.bind e), .answer (.checked (.ok ())), .call (.attach controller),
   .call .start, .giveUp, .call .start,
   .answer (.launched (.error (.agent "s1" "no such program")))]

theorem restarted_in_step : ∃ past t r,
    Run Fields.machine (fun _ _ => True) (idle (.new "s1" 1 [] (.ofSeconds 5))) .empty past t r ∧
      t.switch.state = .failed ∧ Attempted past ∧
      t.switch.dataPlane.isSome ∧ t.switch.controller.isSome ∧
      t.step Fields.machine r (.call .start) =
        some (.returns (.error (.invalidState "s1" "start" .failed)), t, r) := by
  obtain ⟨past, t, r, replayed, state, name, free, attempted⟩ : ∃ past t r,
      replay Fields.machine (restarted (.any 50051) (.any 6653))
        (idle (.new "s1" 1 [] (.ofSeconds 5))) .empty = some (past, t, r) ∧
      t.switch.state = .failed ∧ t.switch.switch = "s1" ∧ t.asked = none ∧
      past[6]?.map Moment.turn = some (.asks (.launch ⟨"s1", 1, .any 50051, .any 6653, []⟩)) :=
    ⟨_, _, _, rfl, rfl, rfl, rfl, rfl⟩
  have run : Run Fields.machine (fun _ _ => True) (idle (.new "s1" 1 [] (.ofSeconds 5))) .empty
      past t r := Run.start.replayed replayed
  obtain ⟨m, found, turn⟩ := Option.map_eq_some_iff.mp attempted
  have attempted : Attempted past := ⟨m, List.mem_of_getElem? found, _, turn⟩
  obtain ⟨_, consistent, _, misplaced⟩ := fields_in_step run
  simp only [Fields.Consistent, state] at consistent
  have refused := misplaced .start .controllerAttached free rfl (by simp [state])
  rw [state, name] at refused
  exact ⟨past, t, r, run, state, attempted, consistent.1.mpr attempted,
    consistent.2.mpr attempted, refused⟩

end Seat

end Testbed
