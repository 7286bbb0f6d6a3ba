import Testbed.Proofs.Session.Simulation
import Testbed.Session.InMemory

namespace Testbed.InMemory

open Session

def backendsWith (setup : Setup) (t : Tuner TunerState) : Backends World :=
  { backends setup with tuner := t.within World.tunerPart }

theorem backends_eq (setup : Setup) :
    backends setup = backendsWith setup (tuner setup.refusedHost) := rfl

variable (setup : Setup) (t : Tuner TunerState)

theorem materialize_world (p : Plan) (w : World) :
    p.materialize (backendsWith setup t).fabric w =
      ((p.materialize (fabric setup.faults) w.fabric).1,
        { w with fabric := (p.materialize (fabric setup.faults) w.fabric).2 }) :=
  materialize_maps (Fabric.within_maps World.fabricPart w (fabric setup.faults)) p w.fabric

theorem startLanes_world (lanes : List Lane) (w : World) :
    startLanes (backendsWith setup t).agent lanes ⟨.empty, w⟩ =
      (startLanes (agent setup.agent) lanes ⟨.empty, w.agent⟩).map fun a => { w with agent := a } :=
  startLanes_maps (Agent.within_maps World.agentPart w (agent setup.agent)) lanes ⟨.empty, w.agent⟩

theorem tune_world (xs : List (String × String)) (w : World) :
    Action.untilFailure (fun x => (backendsWith setup t).tuner.disableOffloads x.1 x.2) xs w =
      let (done, failure, tuner) :=
        Action.untilFailure (fun x => t.disableOffloads x.1 x.2) xs w.tuner
      (done, failure, { w with tuner }) :=
  Action.untilFailure_maps (f := fun u => { w with tuner := u })
    (fun x : String × String => Tuner.within_maps World.tunerPart w t x.1 x.2) xs w.tuner

section BringUp

variable (timeout : Duration) (controller : Endpoint) (topology : Topology) (w : World)

abbrev startUp (a : AgentState) : Outcome AgentState :=
  startLanes (agent setup.agent) (lanesOf (entriesOf timeout controller topology)) ⟨.empty, a⟩

abbrev tuneUp (u : TunerState) : List (String × String) × Option Error × TunerState :=
  Action.untilFailure (fun x => t.disableOffloads x.1 x.2) (tuningTargets topology) u

theorem bringUp_world :
    let out := bringUp (backendsWith setup t) timeout controller topology w
    out.2.2.1.topology = topology ∧
      out.2.2.1.bindings = bindingsOf (startUp setup timeout controller topology w.agent).lanes ∧
      out.2.2.2.fabric = w.fabric ∧
      out.2.2.2.agent = (startUp setup timeout controller topology w.agent).shared.world := by
  have started := startLanes_world setup t (lanesOf (entriesOf timeout controller topology)) w
  simp only [bringUp, started, Outcome.map, Shared.map]
  split
  next => exact ⟨rfl, rfl, rfl, rfl⟩
  next =>
    rw [tune_world]
    exact ⟨rfl, rfl, rfl, rfl⟩

theorem bringUp_none_iff :
    (bringUp (backendsWith setup t) timeout controller topology w).1 = none ↔
      (startUp setup timeout controller topology w.agent).result = .ok () ∧
        (tuneUp t topology w.tuner).2.1 = none := by
  have started := startLanes_world setup t (lanesOf (entriesOf timeout controller topology)) w
  simp only [bringUp, started, Outcome.map, Shared.map, startUp]
  split
  next e failed => simp [failed]
  next ok =>
    rw [tune_world]
    simp [ok]

theorem bringUp_tuned
    (ok : (startUp setup timeout controller topology w.agent).result = .ok ()) :
    let out := bringUp (backendsWith setup t) timeout controller topology w
    out.2.2.1.tuned = (tuneUp t topology w.tuner).1.map Prod.snd ∧
      out.2.2.2.tuner = (tuneUp t topology w.tuner).2.2 := by
  have started := startLanes_world setup t (lanesOf (entriesOf timeout controller topology)) w
  simp only [bringUp, started, Outcome.map, Shared.map]
  rw [ok]
  dsimp only
  rw [tune_world]
  exact ⟨rfl, rfl⟩

theorem tuneUp_all (u : TunerState) (untroubled : (tuneUp t topology u).2.1 = none) :
    (tuneUp t topology u).1 = tuningTargets topology :=
  (Action.untilFailure_items (fun x : String × String => t.disableOffloads x.1 x.2)
    (tuningTargets topology) u).2 untroubled

structure BroughtUp (running : Running) (u : World) : Prop where
  started : (startUp setup timeout controller topology w.agent).result = .ok ()
  untroubled : (tuneUp t topology w.tuner).2.1 = none
  whole : running.topology = topology
  bindings : running.bindings =
    bindingsOf (startUp setup timeout controller topology w.agent).lanes
  tuned : running.tuned = (tuningTargets topology).map Prod.snd
  fabric : u.fabric = w.fabric
  agent : u.agent = (startUp setup timeout controller topology w.agent).shared.world
  tuner : u.tuner = (tuneUp t topology w.tuner).2.2

theorem bringUp_broughtUp {time : Nat} {running : Running} {u : World}
    (up : bringUp (backendsWith setup t) timeout controller topology w =
      (none, time, running, u)) :
    BroughtUp setup t timeout controller topology w running u := by
  have smooth := bringUp_none_iff setup t timeout controller topology w
  have left := bringUp_world setup t timeout controller topology w
  rw [up] at smooth left
  obtain ⟨started, untroubled⟩ := smooth.mp rfl
  obtain ⟨same, bindings, held, agent⟩ := left
  have tuning := bringUp_tuned setup t timeout controller topology w started
  rw [up] at tuning
  obtain ⟨tuned, tuner⟩ := tuning
  rw [tuneUp_all t topology w.tuner untroubled] at tuned
  exact ⟨started, untroubled, same, bindings, tuned, held, agent, tuner⟩

end BringUp

theorem tuneUp_none_iff (refused : Option String) (topology : Topology) (u : TunerState) :
    (tuneUp (tuner refused) topology u).2.1 = none ↔
      ∀ x ∈ tuningTargets topology, refused ≠ some x.1 := by
  refine Action.untilFailure_none_iff (fun x u => ?_) _ u
  by_cases refuses : refused = some x.1 <;> simp [tuner, refuses]

theorem tuner_state (refused : Option String) (xs : List (String × String)) (u : TunerState) :
    (Action.untilFailure (fun x => (tuner refused).disableOffloads x.1 x.2) xs u).2.2 =
      u ++ (Action.untilFailure (fun x => (tuner refused).disableOffloads x.1 x.2) xs u).1 := by
  induction xs generalizing u with
  | nil => simp [Action.untilFailure]
  | cons x rest ih =>
    by_cases refuses : refused = some x.1
    · simp [Action.untilFailure, tuner, refuses]
    · have later := ih (u ++ [x])
      simp only [Action.untilFailure, tuner, refuses, ↓reduceIte] at later ⊢
      rw [later, List.append_assoc]
      rfl

theorem teardown_world (running : Running) (w : World) :
    (running.teardown (backendsWith setup t) w).2.2 =
      ⟨(running.topology.release (fabric setup.faults) w.fabric).2.2,
        (stopAll (agent setup.agent) running.bindings running.registry w.agent).2.2, w.tuner⟩ := by
  have stopped := stopAll_maps (Agent.within_maps World.agentPart w (agent setup.agent))
    running.bindings running.registry w.agent
  have released := topology_release_maps (Fabric.within_maps World.fabricPart
    { w with agent := (stopAll (agent setup.agent) running.bindings running.registry w.agent).2.2 }
    (fabric setup.faults)) running.topology w.fabric
  simp only [World.agentPart] at stopped
  simp only [World.fabricPart] at released
  simp only [Running.teardown, backendsWith, backends, World.agentPart, World.fabricPart, stopped,
    released]

end Testbed.InMemory
