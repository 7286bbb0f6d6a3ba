import Mathlib.Data.List.Nodup
import Testbed.Proofs.Switch.Reservation

namespace Testbed

theorem PortRegistry.eq_empty {r : PortRegistry} (free : ∀ port, r.holder? port = none) :
    r = .empty := by
  obtain ⟨held⟩ := r
  cases held with
  | nil => rfl
  | cons entry rest =>
    have first := free entry.1
    simp [holder?] at first

def Binding.Up (b : Binding) : Prop :=
  b.state = .dataPlaneListening ∨ b.state = .controllerAttached ∨ b.state = .running

theorem Binding.Up.dataPlane {b : Binding} (up : b.Up) : ∃ e, b.dataPlane? = some e := by
  cases phase : b.phase <;> simp_all [Up, state, dataPlane?]

namespace Floor

open PortRegistry (Spares)

def names (f : Floor) : List String := f.seats.map (·.switch.switch)

structure Fresh (f : Floor) : Prop where
  new : ∀ t ∈ f.seats, ∃ switch deviceId ports timeout,
    t = .idle (.new switch deviceId ports timeout)
  distinct : f.names.Nodup
  empty : f.registry = .empty

/-- A bind that has reserved its port is not given up. -/
def KeepsBinds (turn : Turn) : Prop := ∀ e, turn ≠ .givesUp (.checkEndpoint e)

section Step

variable {f g : Floor} {place : Nat} {event : SwitchEvent} {turn : Turn}

theorem step_cases (h : f.step place event = some (turn, g)) :
    ∃ t t', f.seats[place]? = some t ∧
      t.step Binding.machine f.registry event = some (turn, t', g.registry) ∧
      g.seats = f.seats.set place t' := by
  unfold step at h
  split at h
  next => cases h
  next t here =>
    obtain ⟨out, taken, same⟩ := Option.map_eq_some_iff.mp h
    cases same
    exact ⟨t, _, here, taken, rfl⟩

theorem fits_step (fits : ∀ t ∈ f.seats, t.Fits) (h : f.step place event = some (turn, g)) :
    ∀ t ∈ g.seats, t.Fits := by
  obtain ⟨t, t', here, taken, seats⟩ := step_cases h
  intro u member
  rw [seats] at member
  rcases List.mem_or_eq_of_mem_set member with before | rfl
  · exact fits u before
  · exact (Seat.step_cases (fits t (List.mem_of_getElem? here)) taken).fits

theorem names_step (fits : ∀ t ∈ f.seats, t.Fits) (h : f.step place event = some (turn, g)) :
    g.names = f.names := by
  obtain ⟨t, t', here, taken, seats⟩ := step_cases h
  have name := (Seat.step_cases (fits t (List.mem_of_getElem? here)) taken).switch_eq
  obtain ⟨short, rfl⟩ := List.getElem?_eq_some_iff.mp here
  unfold names
  rw [seats, List.map_set, name]
  refine List.ext_getElem? fun i => ?_
  rw [List.getElem?_set]
  split
  next same =>
    subst same
    simp [short]
  next => rfl

theorem spares_step (fits : ∀ t ∈ f.seats, t.Fits) (h : f.step place event = some (turn, g))
    {t : Seat Binding} (here : f.seats[place]? = some t) {name : String}
    (other : name ≠ t.switch.switch) : Spares name f.registry g.registry := by
  obtain ⟨u, t', there, taken, -⟩ := step_cases h
  obtain rfl : t = u := Option.some.inj (here.symm.trans there)
  exact (Seat.step_cases (fits t (List.mem_of_getElem? here)) taken).spares other

end Step

namespace Fresh

theorem fits {f : Floor} (fresh : f.Fresh) : ∀ t ∈ f.seats, t.Fits := by
  intro t member
  obtain ⟨switch, deviceId, ports, timeout, rfl⟩ := fresh.new t member
  exact Seat.fits_idle _

end Fresh

namespace Reaches

variable {allowed : Turn → Prop} {first last : Floor}

theorem fits (reaches : Reaches allowed first last) (fits : ∀ t ∈ first.seats, t.Fits) :
    ∀ t ∈ last.seats, t.Fits := by
  induction reaches with
  | start => exact fits
  | step _ _ _ next _ ih => exact fits_step ih next

theorem names_eq (reaches : Reaches allowed first last) (fits : ∀ t ∈ first.seats, t.Fits) :
    last.names = first.names := by
  induction reaches with
  | start => rfl
  | step _ _ path next _ ih => exact (names_step (path.fits fits) next).trans ih

theorem run (reaches : Reaches allowed first last) (fits : ∀ t ∈ first.seats, t.Fits)
    (distinct : first.names.Nodup) {place : Nat} {t : Seat Binding}
    (here : last.seats[place]? = some t) :
    ∃ t₀ past, first.seats[place]? = some t₀ ∧ (∀ m ∈ past, allowed m.turn) ∧
      Seat.Run Binding.machine (Spares t₀.switch.switch) t₀ first.registry past t
        last.registry := by
  induction reaches generalizing t with
  | start => exact ⟨t, [], here, fun _ member => absurd member List.not_mem_nil, .start⟩
  | @step f g turn at' event path next fine ih =>
    obtain ⟨u, u', there, taken, seats⟩ := step_cases next
    rw [seats, List.getElem?_set] at here
    -- A step of the switch itself lengthens its run; any other is a change elsewhere.
    by_cases same : at' = place
    · subst same
      rw [if_pos rfl] at here
      obtain ⟨t₀, past, begun, kept, run⟩ := ih there
      obtain rfl : u' = t := by
        split at here
        next => exact Option.some.inj here
        next => cases here
      refine ⟨t₀, past ++ [⟨event, turn⟩], begun, ?_, run.step taken⟩
      exact List.forall_mem_append.mpr ⟨kept, List.forall_mem_singleton.mpr fine⟩
    · rw [if_neg same] at here
      obtain ⟨t₀, past, begun, kept, run⟩ := ih here
      have names := path.names_eq fits
      have name : f.names[place]? = some t₀.switch.switch := by
        rw [names]
        simp [Floor.names, begun]
      have other : t₀.switch.switch ≠ u.switch.switch := by
        have unlike : f.names[at']? = some u.switch.switch := by simp [Floor.names, there]
        intro alike
        rw [alike, ← unlike] at name
        have short : place < f.names.length := by
          rw [Floor.names, List.length_map]
          exact (List.getElem?_eq_some_iff.mp here).1
        exact same ((List.getElem?_inj short (names ▸ distinct)).mp name).symm
      exact ⟨t₀, past, begun, kept, run.elsewhere (spares_step (path.fits fits) next there other)⟩

theorem holds_iff (reaches : Reaches KeepsBinds first last) (fresh : first.Fresh)
    {t : Seat Binding} (member : t ∈ last.seats) (port : UInt16) :
    last.registry.holder? port = some t.switch.switch ↔ t.Claims port := by
  obtain ⟨place, here⟩ := List.mem_iff_getElem?.mp member
  obtain ⟨t₀, past, begun, kept, run⟩ := reaches.run fresh.fits fresh.distinct here
  obtain ⟨switch, deviceId, ports, timeout, rfl⟩ := fresh.new t₀ (List.mem_of_getElem? begun)
  obtain ⟨-, accounted⟩ := run.accounted (Seat.fits_idle _)
    (.new (by simp [fresh.empty]))
  have left : ¬ Seat.Abandoned past port := by
    rintro ⟨before, m, after, rfl, ⟨e, given, -⟩, -⟩
    exact kept m (by simp) e given
  rw [accounted.holds port, or_iff_left left]

theorem holder_named (reaches : Reaches allowed first last) (fresh : first.Fresh) {port : UInt16}
    {name : String} (held : last.registry.holder? port = some name) : name ∈ last.names := by
  induction reaches with
  | start =>
    rw [fresh.empty] at held
    cases held
  | @step f g turn place event path next _ ih =>
    obtain ⟨t, t', here, -, -⟩ := step_cases next
    have fits := path.fits fresh.fits
    rw [names_step fits next]
    by_cases own : name = t.switch.switch
    · rw [own]
      exact List.mem_map_of_mem (List.mem_of_getElem? here)
    · exact ih ((spares_step fits next here own port).mp held)

end Reaches

/-- The registry and the switches agree: a port is held by the switch whose data plane has it or
whose bind on it waits for the check of the host, and by nobody else. So no two switches that are
up have the same port, no step of a switch changes what another holds, and nothing is held once
all are stopped. -/
theorem registry_agrees {first last : Floor} (fresh : first.Fresh)
    (reaches : Reaches KeepsBinds first last) :
    (∀ port name, last.registry.holder? port = some name ↔
      ∃ t ∈ last.seats, t.switch.switch = name ∧ t.Claims port) ∧
    (∀ (i j : Nat) (t u : Seat Binding), i ≠ j → last.seats[i]? = some t →
      last.seats[j]? = some u → t.switch.Up → u.switch.Up →
        ∃ d e : Endpoint, t.switch.dataPlane? = some d ∧ u.switch.dataPlane? = some e ∧
          d.port ≠ e.port) ∧
    (∀ (place : Nat) (event : SwitchEvent) (turn : Turn) (next : Floor) (t : Seat Binding),
      last.step place event = some (turn, next) → last.seats[place]? = some t →
        ∀ name, name ≠ t.switch.switch → Spares name last.registry next.registry) ∧
    ((∀ t ∈ last.seats, t.switch.state = .stopped) → last.registry = .empty) := by
  have fits := reaches.fits fresh.fits
  have distinct : last.names.Nodup := reaches.names_eq fresh.fits ▸ fresh.distinct
  have agrees (port : UInt16) (name : String) : last.registry.holder? port = some name ↔
      ∃ t ∈ last.seats, t.switch.switch = name ∧ t.Claims port := by
    constructor
    · intro held
      obtain ⟨t, member, named⟩ := List.mem_map.mp (reaches.holder_named fresh held)
      exact ⟨t, member, named, (reaches.holds_iff fresh member port).mp (named ▸ held)⟩
    · rintro ⟨t, member, rfl, claimed⟩
      exact (reaches.holds_iff fresh member port).mpr claimed
  refine ⟨agrees, ?_, ?_, ?_⟩
  · intro i j t u apart here there up up'
    obtain ⟨d, plane⟩ := up.dataPlane
    obtain ⟨e, plane'⟩ := up'.dataPlane
    refine ⟨d, e, plane, plane', fun same => ?_⟩
    have mine := (reaches.holds_iff fresh (List.mem_of_getElem? here) d.port).mpr
      (Or.inl ⟨d, plane, rfl⟩)
    have yours := (reaches.holds_iff fresh (List.mem_of_getElem? there) d.port).mpr
      (Or.inl ⟨e, plane', same.symm⟩)
    have alike : t.switch.switch = u.switch.switch := Option.some.inj (mine.symm.trans yours)
    have first_name : last.names[i]? = some t.switch.switch := by simp [names, here]
    have second_name : last.names[j]? = some u.switch.switch := by simp [names, there]
    have short : i < last.names.length := (List.getElem?_eq_some_iff.mp first_name).1
    refine apart ((List.getElem?_inj short distinct).mp ?_)
    rw [first_name, second_name, alike]
  · intro place event turn next t taken here name other
    exact spares_step fits taken here other
  · intro stopped
    refine PortRegistry.eq_empty fun port => ?_
    cases held : last.registry.holder? port with
    | none => rfl
    | some name =>
      obtain ⟨t, member, -, claimed⟩ := (agrees port name).mp held
      have phase := Binding.state_stopped_iff.mp (stopped t member)
      have idle := (fits t member).idle_of_stopped phase
      simp [Seat.Claims, Binding.dataPlane?, phase, idle] at claimed

def trio : Floor :=
  ⟨["s1", "s2", "s3"].map fun switch => .idle (.new switch 1 [] (.ofSeconds 5)), .empty⟩

theorem fresh_trio : trio.Fresh where
  new t member := by
    obtain ⟨switch, _, rfl⟩ := List.mem_map.mp member
    exact ⟨switch, 1, [], .ofSeconds 5, rfl⟩
  distinct := by decide
  empty := rfl

theorem trio_agrees : ∃ last, (trio.Fresh ∧ Reaches KeepsBinds trio last) ∧
    last.registry.holder? 50051 = some "s1" ∧ last.registry.holder? 50052 = some "s2" ∧
    ∀ port name, last.registry.holder? port = some name ↔
      ∃ t ∈ last.seats, t.switch.switch = name ∧ t.Claims port := by
  have reserved : Reaches KeepsBinds trio _ :=
    .step 0 (.call (.bind (.any 50051))) .start rfl nofun
  have waiting := reserved.step 1 (.call (.bind (.any 50052))) rfl nofun
  have bound := waiting.step 0 (.answer (.checked (.ok ()))) rfl nofun
  have refused := bound.step 2 (.call (.bind (.any 50051))) rfl nofun
  exact ⟨_, ⟨fresh_trio, refused⟩, rfl, rfl, (registry_agrees fresh_trio refused).1⟩

end Floor

end Testbed
