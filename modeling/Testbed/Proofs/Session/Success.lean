import Testbed.Proofs.InMemory.Fabric
import Testbed.Proofs.InMemory.Startup
import Testbed.Proofs.InMemory.World
import Testbed.Proofs.Session.Release

namespace Testbed

namespace Plan

def launches (p : Plan) (controller : Endpoint) : List Launch :=
  p.nodes.filterMap fun n => n.spec?.map fun spec =>
    ⟨n.name, spec.deviceId, spec.dataPlane, spec.controller.getD controller, n.ports⟩

def hostInterfaces (p : Plan) : List (String × String) :=
  (p.nodes.filter Node.isHost).flatMap fun h => h.interfaces.map fun i => (h.name, i.name)

end Plan

namespace Session

open InMemory

theorem buildAndStart_ok_cases {σ : Type} {bk : Backends σ} {timeout : Duration} {p : Plan}
    {controller : Endpoint} {s u : σ} {running : Running} {time : Nat}
    (ok : buildAndStart bk timeout p controller s = (.ok running, time, u)) :
    ∃ topology s', p.materialize bk.fabric s = (.ok topology, s') ∧
      bringUp bk timeout controller topology s' = (none, time, running, u) := by
  unfold buildAndStart at ok
  split at ok
  next => cases ok
  next topology s' created =>
    refine ⟨topology, s', created, ?_⟩
    split at ok
    next brought =>
      cases ok
      exact brought
    next => cases ok

theorem entriesOf_launches (timeout : Duration) (controller : Endpoint) (p : Plan) :
    ((entriesOf timeout controller ⟨p.nodes, p.links, false⟩).map fun x => x.2.launch x.1) =
      p.launches controller :=
  entriesOf_map _ _ (fun _ _ _ => rfl) _

theorem buildAndStart_ok_parts {setup : Setup} {timeout : Duration} {p : Plan}
    {controller : Endpoint} {running : Running} {time : Nat} {w : World}
    (ok : buildAndStart (backends setup) timeout p controller .fresh = (.ok running, time, w)) :
    ∃ s, p.materialize (fabric setup.faults) .fresh = (.ok ⟨p.nodes, p.links, false⟩, s) ∧
      BroughtUp setup (tuner setup.refusedHost) timeout controller ⟨p.nodes, p.links, false⟩
        { World.fresh with fabric := s } running w := by
  obtain ⟨topology, u, created, brought⟩ := buildAndStart_ok_cases ok
  rw [backends_eq] at created brought
  rw [materialize_world, Prod.mk.injEq] at created
  obtain ⟨set_up, rfl⟩ := created
  obtain ⟨s, materialized⟩ : ∃ s, p.materialize (fabric setup.faults) .fresh = (.ok topology, s) :=
    ⟨_, Prod.ext set_up rfl⟩
  obtain ⟨rfl, -⟩ := materialize_ok setup.faults materialized
  have fresh : World.fresh.fabric = .fresh := rfl
  rw [fresh, materialized] at brought
  exact ⟨s, materialized, bringUp_broughtUp _ _ _ _ _ _ brought⟩

section BroughtUp

variable {setup : Setup} {timeout : Duration} {p : Plan} {controller : Endpoint}
  {t : Tuner TunerState} {s : FabricState} {running : Running} {w : World}
  (up : BroughtUp setup t timeout controller ⟨p.nodes, p.links, false⟩
    { World.fresh with fabric := s } running w)

include up

theorem broughtUp_states : (running.bindings.map fun b => (b.switch, b.state)) =
    p.switchNames.map fun name => (name, .running) := by
  have unbound := entriesOf_unbound timeout controller ⟨p.nodes, p.links, false⟩
  have states := running_of_ok unbound up.started
  have named : running.bindings.map Binding.switch = p.switchNames := by
    rw [up.bindings]
    exact startLanes_switches (agent setup.agent) timeout controller ⟨p.nodes, p.links, false⟩ _
  rw [← up.bindings] at states
  rw [← named, List.map_map]
  exact List.map_congr_left fun b member => by rw [states b member]; rfl

theorem broughtUp_launches (built : p.Built) (c : Endpoint) :
    (w.agent.launches.filter fun l => l.controller == c) =
      (p.launches controller).filter fun l => l.controller == c := by
  have unbound := entriesOf_unbound timeout controller ⟨p.nodes, p.links, false⟩
  have names := entriesOf_names timeout controller built
  have launched := launches_of_ok unbound names up.started c
  rw [entriesOf_launches] at launched
  rw [up.agent]
  exact launched

end BroughtUp

/-- In memory a session that reports success has set up the plan, started every switch and tuned
every host. -/
theorem buildAndStart_ok_complete {setup : Setup} {timeout : Duration} {p : Plan}
    {controller : Endpoint} {running : Running} {time : Nat} {w : World} (built : p.Built)
    (ok : buildAndStart (backends setup) timeout p controller .fresh = (.ok running, time, w)) :
    (running.bindings.map fun b => (b.switch, b.state)) =
        (p.switchNames.map fun name => (name, .running)) ∧
      w.agent.launches.Perm (p.launches controller) ∧
      (∀ c, (w.agent.launches.filter fun l => l.controller == c) =
        (p.launches controller).filter fun l => l.controller == c) ∧
      w.tuner = p.hostInterfaces ∧ running.tuned = p.hostInterfaces.map Prod.snd ∧
      running.topology = ⟨p.nodes, p.links, false⟩ ∧
      w.fabric.liveNodes.Perm p.names ∧
      w.fabric.liveLinks.Nodup ∧
      ∀ key, key ∈ w.fabric.liveLinks ↔ ∃ l ∈ p.links, linkKey l = key := by
  obtain ⟨s, materialized, up⟩ := buildAndStart_ok_parts ok
  obtain ⟨-, single, nodes, links⟩ := materialize_ok setup.faults materialized
  have launches := broughtUp_launches up built
  have tuned : w.tuner = p.hostInterfaces := by
    have all := tuneUp_all _ _ _ up.untroubled
    exact up.tuner.trans ((tuner_state setup.refusedHost _ []).trans all)
  have live : w.fabric = s := up.fabric
  refine ⟨broughtUp_states up, perm_of_filter_eq Launch.controller launches, launches, tuned,
    up.tuned, up.whole, ?_, ?_, fun key => ?_⟩
  · rw [live]
    refine (sortBy_perm _ _).trans ?_
    refine (List.perm_ext_iff_of_nodup single.nodes built.nodup_names).mpr fun name => ?_
    rw [nodes, Plan.names, List.mem_map]
  · rw [live]
    exact single.links.perm (sortBy_perm _ _).symm
  · rw [live]
    exact mem_sortBy.trans (links key)

theorem pair_complete : ∃ running time w,
    (Plan.pair.Built ∧ buildAndStart (backends .smooth) (.ofSeconds 5) Plan.pair (.any 9559)
      .fresh = (.ok running, time, w)) ∧
    w.agent.launches.Perm (Plan.pair.launches (.any 9559)) ∧ w.tuner = [("h1", "h1-eth0")] := by
  obtain ⟨running, time, w, ok⟩ : ∃ running time w, buildAndStart (backends .smooth)
      (.ofSeconds 5) Plan.pair (.any 9559) .fresh = (.ok running, time, w) := ⟨_, _, _, rfl⟩
  obtain ⟨_, launches, _, tuned, _⟩ := buildAndStart_ok_complete Plan.built_pair ok
  exact ⟨running, time, w, ⟨Plan.built_pair, ok⟩, launches, tuned⟩

end Session

end Testbed
