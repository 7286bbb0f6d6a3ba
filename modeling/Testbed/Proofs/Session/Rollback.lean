import Testbed.Proofs.InMemory.Agent
import Testbed.Proofs.InMemory.Fabric
import Testbed.Proofs.InMemory.World

namespace Testbed.Session

open InMemory

theorem release_topology_bare (faults : FabricFaults) {p : Plan} {topology : Topology}
    {s : FabricState} (created : p.materialize (fabric faults) .fresh = (.ok topology, s)) :
    (topology.release (fabric faults) s).2.2.Bare := by
  obtain ⟨rfl, -, nodes, links⟩ := materialize_ok faults created
  exact release_bare faults p.nodes p.nodes p.links (fun name => (nodes name).mp)
    fun key => (links key).mp

theorem running_after_stop (setup : AgentSetup) {entries : List (Endpoint × Entry)}
    (unbound : ∀ x ∈ entries, x.2.binding.phase = .unbound) (r : PortRegistry) :
    let o := startLanes (agent setup) (lanesOf entries) ⟨.empty, .fresh⟩
    (stopAll (agent setup) (bindingsOf o.lanes) r o.shared.world).2.2.running = [] := by
  intro o
  refine List.eq_nil_iff_forall_not_mem.mpr fun name member => ?_
  obtain ⟨runs, spared⟩ := (running_stopAll setup _ r _ name).mp member
  obtain ⟨b, listed, launched, named⟩ := running_startLanes setup unbound name runs
  exact spared b listed launched named

theorem taken_down_empty (setup : Setup) (t : Tuner TunerState) (timeout : Duration) {p : Plan}
    (controller : Endpoint) {topology : Topology} {s : FabricState}
    (created : p.materialize (fabric setup.faults) .fresh = (.ok topology, s))
    {failure : Option Error} {time : Nat} {running : Running} {u : World}
    (up : bringUp (backendsWith setup t) timeout controller topology
      { World.fresh with fabric := s } = (failure, time, running, u)) :
    (running.teardown (backendsWith setup t) u).2.2.fabric.Bare ∧
      (running.teardown (backendsWith setup t) u).2.2.agent.running = [] := by
  have brought := bringUp_world setup t timeout controller topology
    { World.fresh with fabric := s }
  rw [up] at brought
  obtain ⟨same, bindings, held, agent⟩ := brought
  dsimp only at same bindings held agent
  rw [teardown_world, same, bindings, held, agent]
  exact ⟨release_topology_bare setup.faults created,
    running_after_stop setup.agent (entriesOf_unbound timeout controller topology) _⟩

theorem failed_world_empty (setup : Setup) (t : Tuner TunerState) (timeout : Duration) (p : Plan)
    (controller : Endpoint) {e : Error} {time : Nat} {w : World}
    (failed : buildAndStart (backendsWith setup t) timeout p controller .fresh =
      (.error e, time, w)) :
    w.fabric.Bare ∧ w.agent.running = [] := by
  unfold buildAndStart at failed
  rw [materialize_world] at failed
  cases created : p.materialize (fabric setup.faults) World.fresh.fabric with
  | mk result s =>
    rw [created] at failed
    cases result with
    | error cause =>
      cases failed
      exact ⟨materialize_error setup.faults created, rfl⟩
    | ok topology =>
      dsimp only at failed
      cases up : bringUp (backendsWith setup t) timeout controller topology
          { World.fresh with fabric := s } with
      | mk failure rest =>
        obtain ⟨time', running, u⟩ := rest
        rw [up] at failed
        cases failure with
        | none => cases failed
        | some cause =>
          cases failed
          exact taken_down_empty setup t timeout controller created up

/-- A session that fails once its plan was set up reports the failure of the start or of the tuning,
and before that it stops every binding, shuts down the switches whose launch was attempted and gives
back all links and nodes. In memory nothing is left. -/
theorem buildAndStart_failure_releases :
    (∀ {σ : Type} (bk : Backends σ) (timeout : Duration) (p : Plan) (controller : Endpoint)
        (s s' t : σ) (topology : Topology) (cause : Error) (time : Nat) (running : Running),
      p.Built → p.materialize bk.fabric s = (.ok topology, s') →
      bringUp bk timeout controller topology s' = (some cause, time, running, t) →
      buildAndStart bk timeout p controller s =
          (.error cause, time, (running.teardown bk t).2.2) ∧
        ((running.teardown bk t).2.1.bindings.map fun b => (b.switch, b.state)) =
          (p.switchNames.map fun name => (name, .stopped)) ∧
        ∃ calls, RolledBack p calls ∧
          buildAndStart (Journaled.backends bk) timeout p controller ⟨[], s⟩ =
            (.error cause, time, ⟨calls, (running.teardown bk t).2.2⟩)) ∧
    ∀ (setup : Setup) (t : Tuner TunerState) (timeout : Duration) (p : Plan)
        (controller : Endpoint) (e : Error) (time : Nat) (w : World),
      buildAndStart (backendsWith setup t) timeout p controller .fresh = (.error e, time, w) →
      w.fabric.liveNodes = [] ∧ w.fabric.liveLinks = [] ∧ w.agent.runningSwitches = [] := by
  refine ⟨?_, ?_⟩
  · intro σ bk timeout p controller s s' t topology cause time running built created failed
    have journal := bringUp_rolledBack built created failed
    have stopped := teardown_bindings bk running t
    have switches := bringUp_switches bk timeout controller topology s'
    obtain ⟨rfl, -⟩ := materialize_journal created
    simp only [failed] at switches
    refine ⟨by simp only [buildAndStart, created, failed], ?_, journal⟩
    have named : p.switchNames = running.bindings.map Binding.switch := switches.symm
    rw [stopped, named, List.map_map, List.map_map]
    rfl
  · intro setup t timeout p controller e time w failed
    obtain ⟨⟨nodes, links⟩, running⟩ := failed_world_empty setup t timeout p controller failed
    simp only [FabricState.liveNodes, FabricState.liveLinks, AgentState.runningSwitches, nodes,
      links, running]
    exact ⟨rfl, rfl, rfl⟩

def hangingPair : Setup := ⟨⟨none, none⟩, ⟨[("s2", .unresponsive)], .ofMillis 0, []⟩, none⟩

theorem hanging_pair_released :
    ∃ topology s' cause time running t,
      (Plan.pair.Built ∧
        Plan.pair.materialize (backends hangingPair).fabric .fresh = (.ok topology, s') ∧
        bringUp (backends hangingPair) (.ofMillis 20) (.any 9559) topology s' =
          (some cause, time, running, t)) ∧
      buildAndStart (backends hangingPair) (.ofMillis 20) Plan.pair (.any 9559) .fresh =
        (.error cause, time, (running.teardown (backends hangingPair) t).2.2) ∧
      (running.teardown (backends hangingPair) t).2.2.agent.runningSwitches = [] := by
  have built : Plan.pair.Built := Plan.built_pair
  obtain ⟨topology, s', created⟩ : ∃ topology s',
      Plan.pair.materialize (backends hangingPair).fabric .fresh = (.ok topology, s') :=
    ⟨_, _, rfl⟩
  obtain ⟨cause, time, running, t, failed⟩ : ∃ cause time running t,
      bringUp (backends hangingPair) (.ofMillis 20) (.any 9559) topology s' =
        (some cause, time, running, t) := by
    cases created
    exact ⟨_, _, _, _, rfl⟩
  obtain ⟨released, -⟩ :=
    buildAndStart_failure_releases.1 _ _ _ _ _ _ _ _ _ _ _ built created failed
  have empty := buildAndStart_failure_releases.2 hangingPair _ _ _ _ _ _ _ released
  exact ⟨topology, s', cause, time, running, t, ⟨built, created, failed⟩, released, empty.2.2⟩

end Testbed.Session
