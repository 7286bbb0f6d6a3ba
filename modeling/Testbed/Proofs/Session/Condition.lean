import Testbed.Proofs.InMemory.Readiness
import Testbed.Proofs.Session.Success

namespace Testbed.Session

open InMemory

/-- What a session in memory needs, but for the time that its switches take. -/
structure Favourable (setup : Setup) (p : Plan) : Prop where
  whole : p.orphanLinks = []
  nodes : ∀ n ∈ p.nodes, setup.faults.node ≠ some n.name
  links : ∀ l ∈ p.links, setup.faults.linksAt.any l.touches = false
  ports : p.switchPorts.Nodup
  free : ∀ port ∈ p.switchPorts, port ∉ setup.agent.occupied
  willing : ∀ name ∈ p.switchNames,
    setup.agent.behavior name = .ready ∨ setup.agent.behavior name = .failShutdown
  hosts : ∀ h ∈ p.nodes, h.isHost = true → h.interfaces ≠ [] → setup.refusedHost ≠ some h.name

theorem willing_iff {b : Behavior} :
    b = .ready ∨ b = .failShutdown ↔ b ≠ .failLaunch ∧ b ≠ .unresponsive := by
  cases b <;> simp

theorem startUp_ok_iff (setup : Setup) (timeout : Duration) {p : Plan} (built : p.Built)
    (controller : Endpoint) :
    (startUp setup timeout controller ⟨p.nodes, p.links, false⟩ .fresh).result = .ok () ↔
      (p.switchPorts.Nodup ∧ (∀ port ∈ p.switchPorts, port ∉ setup.agent.occupied) ∧
        ∀ name ∈ p.switchNames,
          setup.agent.behavior name = .ready ∨ setup.agent.behavior name = .failShutdown) ∧
        (setup.agent.readyDelay.waitTicks ≤ timeout.waitTicks ∨ p.switchNames = []) := by
  have ports : ((entriesOf timeout controller ⟨p.nodes, p.links, false⟩).map
      (·.2.dataPlane.port)) = p.switchPorts :=
    entriesOf_map _ (fun _ spec => spec.dataPlane.port) (fun _ _ _ => rfl) _
  rw [startLanes_ok_iff (entriesOf_unbound timeout controller _)
    (entriesOf_names timeout controller built), ports, and_assoc, and_congr_right_iff]
  intro _
  rw [forall_entriesOf (Q := fun n spec => spec.dataPlane.port ∉ setup.agent.occupied ∧
    (setup.agent.behavior n.name = .ready ∨ setup.agent.behavior n.name = .failShutdown) ∧
    setup.agent.readyDelay.waitTicks ≤ timeout.waitTicks)]
  · constructor
    · intro all
      refine ⟨⟨fun port listed => ?_, fun name listed => ?_⟩, ?_⟩
      · obtain ⟨n, member, spec, found, rfl⟩ := Plan.mem_switchPorts.mp listed
        exact (all n member spec found).1
      · obtain ⟨n, member, spec, found, rfl⟩ := Plan.mem_switchNames.mp listed
        exact (all n member spec found).2.1
      · refine or_iff_not_imp_right.mpr fun some_switch => ?_
        obtain ⟨name, listed⟩ := List.exists_mem_of_ne_nil _ some_switch
        obtain ⟨n, member, spec, found, _⟩ := Plan.mem_switchNames.mp listed
        exact (all n member spec found).2.2
    · rintro ⟨⟨free, willing⟩, inTime⟩ n member spec found
      have listed : n.name ∈ p.switchNames :=
        Plan.mem_switchNames.mpr ⟨n, member, spec, found, rfl⟩
      refine ⟨free _ (Plan.mem_switchPorts.mpr ⟨n, member, spec, found, rfl⟩),
        willing _ listed, inTime.resolve_right (List.ne_nil_of_mem listed)⟩
  · intro place n spec
    constructor
    · rintro ⟨⟨free, launches⟩, responsive, inTime⟩
      exact ⟨free, willing_iff.mpr ⟨launches, responsive⟩, inTime⟩
    · rintro ⟨free, willing, inTime⟩
      obtain ⟨launches, responsive⟩ := willing_iff.mp willing
      exact ⟨⟨free, launches⟩, responsive, inTime⟩

theorem tuneUp_ok_iff (refused : Option String) (p : Plan) (u : TunerState) :
    (tuneUp (tuner refused) ⟨p.nodes, p.links, false⟩ u).2.1 = none ↔
      ∀ h ∈ p.nodes, h.isHost = true → h.interfaces ≠ [] → refused ≠ some h.name := by
  rw [tuneUp_none_iff]
  simp only [tuningTargets, Topology.hosts, List.mem_flatMap, List.mem_filter, List.mem_map]
  constructor
  · intro all h member host tuned
    obtain ⟨i, first⟩ := List.exists_mem_of_ne_nil _ tuned
    exact all (h.name, i.name) ⟨h, ⟨member, host⟩, i, first, rfl⟩
  · rintro all x ⟨h, ⟨member, host⟩, i, listed, rfl⟩
    exact all h member host (List.ne_nil_of_mem listed)

theorem buildAndStart_ok_steps (setup : Setup) (timeout : Duration) (p : Plan)
    (controller : Endpoint) :
    (∃ running time w,
        buildAndStart (backends setup) timeout p controller .fresh = (.ok running, time, w)) ↔
      (∃ t, (p.materialize (fabric setup.faults) .fresh).1 = .ok t) ∧
        (startUp setup timeout controller ⟨p.nodes, p.links, false⟩ .fresh).result = .ok () ∧
        (tuneUp (tuner setup.refusedHost) ⟨p.nodes, p.links, false⟩ []).2.1 = none := by
  have set_up (w : World) := materialize_world setup (tuner setup.refusedHost) p w
  have brought (w : World) := bringUp_none_iff setup (tuner setup.refusedHost) timeout controller
    ⟨p.nodes, p.links, false⟩ w
  have fresh : World.fresh.fabric = .fresh := rfl
  constructor
  · rintro ⟨running, time, w, ok⟩
    obtain ⟨topology, u, created, up⟩ := buildAndStart_ok_cases ok
    rw [backends_eq, set_up, Prod.mk.injEq] at created
    obtain ⟨ok, rfl⟩ := created
    obtain ⟨rfl, -⟩ := materialize_ok setup.faults (Prod.ext ok rfl)
    exact ⟨⟨_, ok⟩, (brought _).mp (by rw [← backends_eq, up])⟩
  · rintro ⟨⟨topology, ok⟩, smooth⟩
    obtain ⟨rfl, -⟩ := materialize_ok setup.faults (Prod.ext ok rfl)
    have up := (brought { World.fresh with
      fabric := (p.materialize (fabric setup.faults) .fresh).2 }).mpr smooth
    rw [buildAndStart, backends_eq, set_up, fresh, ok]
    dsimp only
    split
    next => exact ⟨_, _, _, rfl⟩
    next failed =>
      rw [failed] at up
      cases up

theorem buildAndStart_ok_iff_waits (setup : Setup) (timeout : Duration) {p : Plan}
    (built : p.Built) (controller : Endpoint) :
    (∃ running time w,
        buildAndStart (backends setup) timeout p controller .fresh = (.ok running, time, w)) ↔
      Favourable setup p ∧
        (setup.agent.readyDelay.waitTicks ≤ timeout.waitTicks ∨ p.switchNames = []) := by
  rw [buildAndStart_ok_steps, materialize_ok_iff, startUp_ok_iff setup timeout built,
    tuneUp_ok_iff]
  constructor
  · rintro ⟨⟨whole, nodes, links⟩, ⟨⟨ports, free, willing⟩, inTime⟩, hosts⟩
    exact ⟨⟨whole, nodes, links, ports, free, willing, hosts⟩, inTime⟩
  · rintro ⟨⟨whole, nodes, links, ports, free, willing, hosts⟩, inTime⟩
    exact ⟨⟨whole, nodes, links⟩, ⟨⟨ports, free, willing⟩, inTime⟩, hosts⟩

/-- A session in memory succeeds just if it is favourable and the switches, if there are any, get
ready in time. A timeout of thirty years or more is enough for every delay. -/
theorem buildAndStart_ok_iff (setup : Setup) {d : Nat}
    (delay : setup.agent.readyDelay = .ofMillis d) (t : Nat) {p : Plan} (built : p.Built)
    (controller : Endpoint) :
    (∃ running time w, buildAndStart (backends setup) (.ofMillis t) p controller .fresh =
        (.ok running, time, w)) ↔
      Favourable setup p ∧
        (d ≤ t ∨ Duration.longestWait.ticks ≤ t ∨ p.switchNames = []) := by
  have inTime : min d Duration.longestWait.ticks ≤ min t Duration.longestWait.ticks ↔
      d ≤ t ∨ Duration.longestWait.ticks ≤ t := by omega
  rw [buildAndStart_ok_iff_waits setup _ built, delay, Duration.waitTicks_ofMillis,
    Duration.waitTicks_ofMillis, inTime, or_assoc]

theorem pair_ok_iff :
    (Setup.smooth.agent.readyDelay = .ofMillis 0 ∧ Plan.pair.Built) ∧
    ((∃ running time w, buildAndStart (backends .smooth) (.ofMillis 20) Plan.pair (.any 9559)
        .fresh = (.ok running, time, w)) ↔
      Favourable .smooth Plan.pair ∧
        (0 ≤ 20 ∨ Duration.longestWait.ticks ≤ 20 ∨ Plan.pair.switchNames = [])) :=
  ⟨⟨rfl, Plan.built_pair⟩, buildAndStart_ok_iff .smooth rfl 20 Plan.built_pair (.any 9559)⟩

def slowest : Setup := { Setup.smooth with agent := ⟨[], .ofMillis 946080000001, []⟩ }

theorem favourable_slowest : Favourable slowest Plan.pair where
  whole := by decide
  nodes _ _ := nofun
  links _ _ := rfl
  ports := by decide
  free _ _ := nofun
  willing _ _ := Or.inl rfl
  hosts _ _ _ _ := nofun

/-- The delay is a millisecond more than the timeout, but the switches are waited for no longer than
the timeout. -/
theorem delay_le_timeout_unnecessary :
    ¬ ∀ (setup : Setup) (d t : Nat) (p : Plan) (controller : Endpoint), p.Built →
      setup.agent.readyDelay = .ofMillis d →
      ((∃ running time w,
          buildAndStart (backends setup) (.ofMillis t) p controller .fresh =
            (.ok running, time, w)) ↔
        Favourable setup p ∧ (d ≤ t ∨ p.switchNames = [])) := by
  intro claimed
  have started := (buildAndStart_ok_iff_waits slowest (.ofMillis 946080000000) Plan.built_pair
    (.any 9559)).mpr ⟨favourable_slowest, Or.inl (by decide)⟩
  have inTime := ((claimed slowest 946080000001 946080000000 Plan.pair (.any 9559) Plan.built_pair
    rfl).mp started).2
  exact absurd inTime (by decide)

end Testbed.Session
