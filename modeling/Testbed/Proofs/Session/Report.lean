import Testbed.Proofs.Session.Keeping
import Testbed.Proofs.Session.Success
import Testbed.Proofs.Session.Takedown

namespace Testbed.Session

variable {σ α : Type}

namespace Takedown

/-- What a report says of the steps of a takedown. -/
structure Reported (d : Takedown) (r : Report) : Prop where
  stopped : r.stopped = d.stops.map Prod.fst
  released : r.releasedLinks =
    (d.unlinks.filter fun step => step.2.isOk).map fun step => step.1.text
  errors : r.errors = complaints id d.stops ++ complaints Link.text d.unlinks ++
    complaints Node.name d.removals
  links : (r.releasedLinks ++ (complaints Link.text d.unlinks).map ReleaseError.node).Perm
    (d.unlinks.map fun step => step.1.text)
  clean : r.isClean = true ↔ ∀ result ∈ d.results, result = .ok ()

end Takedown

theorem complaints_eq_nil {name : α → String} {steps : List (α × Except Error Unit)} :
    complaints name steps = [] ↔ ∀ result ∈ steps.map Prod.snd, result = .ok () := by
  simp only [complaints, List.filterMap_eq_nil_iff, Option.map_eq_none_iff, failureOf_eq_none,
    List.forall_mem_map]

theorem released_or_complained (name : α → String) (steps : List (α × Except Error Unit)) :
    (((steps.filter fun step => step.2.isOk).map fun step => name step.1) ++
      (complaints name steps).map ReleaseError.node).Perm (steps.map fun step => name step.1) := by
  induction steps with
  | nil => exact .refl _
  | cons step rest ih =>
    rcases step with ⟨x, e | _⟩
    · simpa [complaints, failureOf, Except.isOk, Except.toBool] using
        List.perm_middle.trans (ih.cons (name x))
    · simpa [complaints, failureOf, Except.isOk, Except.toBool] using ih.cons (name x)

theorem Binding.launched_of_running {b : Binding} (running : b.state = .running) :
    b.launched = true := by
  obtain ⟨switch, deviceId, ports, timeout, phase⟩ := b
  cases phase with
  | running => rfl
  | _ => cases running

theorem teardown_stopped (bk : Backends σ) (running : Running) (s : σ) :
    (running.teardown bk s).1.stopped = running.bindings.map Binding.switch := by
  have all : ∀ b ∈ running.bindings.map fun b => { b with phase := .stopped },
      decide (b.state = .stopped) = true := by
    simp [Binding.state]
  simp only [Running.teardown, stopAll_bindings]
  rw [List.filter_eq_self.mpr all, List.map_map]
  rfl

theorem Takedown.reported {d : Takedown} {r : Report} (stopped : r.stopped = d.stops.map Prod.fst)
    (released : r.releasedLinks =
      (d.unlinks.filter fun step => step.2.isOk).map fun step => step.1.text)
    (errors : r.errors = complaints id d.stops ++ complaints Link.text d.unlinks ++
      complaints Node.name d.removals) : d.Reported r where
  stopped := stopped
  released := released
  errors := errors
  links := by
    rw [released]
    exact released_or_complained Link.text d.unlinks
  clean := by
    rw [Report.isClean, errors, List.isEmpty_iff, List.append_eq_nil_iff, List.append_eq_nil_iff]
    simp only [complaints_eq_nil, results, List.forall_mem_append]

theorem teardown_reported (bk : Backends σ) {running : Running}
    (held : running.topology.released = false)
    (launched : ∀ b ∈ running.bindings, b.launched = true) (s : σ) :
    ∃ d : Takedown, d.stops.map Prod.fst = running.bindings.map Binding.switch ∧
      d.unlinks.map Prod.fst = running.topology.links.reverse ∧
      d.removals.map Prod.fst = running.topology.nodes.reverse ∧
      (running.teardown (Journaled.backends bk) ⟨[], s⟩).2.2 =
        ⟨d.calls running.topology.nodes, (running.teardown bk s).2.2⟩ ∧
      d.Reported (running.teardown bk s).1 := by
  obtain ⟨d, switches, links, nodes, written, released, errors⟩ :=
    teardown_journal bk running held [] s
  have all : running.bindings.filter Binding.launched = running.bindings :=
    List.filter_eq_self.mpr launched
  rw [all] at switches
  rw [Takedown.release, ← List.append_assoc] at errors
  exact ⟨d, switches, links, nodes, written,
    Takedown.reported ((teardown_stopped bk running s).trans switches.symm) released errors⟩

/-- The report on a session that came up: every switch, link and node is tried once, the switches
as they were declared and then links and nodes in reverse order, and the report tells of each what
came of it. -/
theorem stop_reported {bk : Backends σ} {timeout : Duration} {p : Plan} {controller : Endpoint}
    {s t : σ} {running : Running} {time : Nat}
    (ok : buildAndStart bk timeout p controller s = (.ok running, time, t)) (u : σ) :
    ∃ d : Takedown, d.stops.map Prod.fst = p.switchNames ∧
      d.unlinks.map Prod.fst = p.links.reverse ∧ d.removals.map Prod.fst = p.nodes.reverse ∧
      (running.teardown (Journaled.backends bk) ⟨[], u⟩).2.2 =
        ⟨d.calls p.nodes, (running.teardown bk u).2.2⟩ ∧
      d.Reported (running.teardown bk u).1 := by
  obtain ⟨topology, s', created, brought⟩ := buildAndStart_ok_cases ok
  obtain ⟨rfl, -⟩ := materialize_journal created
  have whole := bringUp_topology bk timeout controller ⟨p.nodes, p.links, false⟩ s'
  have switches := bringUp_switches bk timeout controller ⟨p.nodes, p.links, false⟩ s'
  have bindings := bringUp_bindings bk timeout controller ⟨p.nodes, p.links, false⟩ s'
  simp only [brought] at whole switches bindings
  have launched : ∀ b ∈ running.bindings, b.launched = true := fun b member =>
    Binding.launched_of_running
      (running_of_ok (entriesOf_unbound timeout controller _) (bringUp_started brought) b
        (bindings ▸ member))
  have reported := teardown_reported bk (by rw [whole]) launched u
  rw [whole, switches] at reported
  exact reported

section Smooth

theorem onEach_smooth {act : α → Action σ} (smooth : ∀ x s, (act x s).1 = .ok ()) (xs : List α)
    (s : σ) : ∀ step ∈ (Action.onEach act xs s).1, step.2 = none := by
  induction xs generalizing s with
  | nil => exact nofun
  | cons x rest ih =>
    rw [Action.onEach, List.forall_mem_cons]
    exact ⟨failureOf_eq_none.mpr (smooth x s), ih (act x s).2⟩

theorem stopAll_smooth {a : Agent σ} (smooth : ∀ switch s, (a.shutdown switch s).1 = .ok ())
    (bs : List Binding) (r : PortRegistry) (s : σ) :
    ∀ step ∈ (stopAll a bs r s).1, step.2 = none := by
  induction bs generalizing r s with
  | nil => exact nofun
  | cons b rest ih =>
    have stopped : (b.stop a r s).1 = .ok () := by
      rw [Binding.stop_result, smooth, ite_self]
    rw [stopAll, List.forall_mem_cons]
    exact ⟨failureOf_eq_none.mpr stopped, ih (b.stop a r s).2.2.1 (b.stop a r s).2.2.2⟩

theorem complaints_of_smooth (name : α → String) {steps : List (α × Option Error)}
    (smooth : ∀ step ∈ steps, step.2 = none) :
    (steps.filterMap fun (x, failure) => failure.map fun e =>
      (⟨name x, e.message⟩ : ReleaseError)) = [] := by
  apply List.filterMap_eq_nil_iff.mpr
  intro step member
  simp [smooth step member]

theorem teardown_clean {bk : Backends σ}
    (shutdown : ∀ switch s, (bk.agent.shutdown switch s).1 = .ok ())
    (unlink : ∀ l space s, (bk.fabric.teardownLink l space s).1 = .ok ())
    (remove : ∀ n s, (bk.fabric.destroyNode n s).1 = .ok ()) (running : Running) (s : σ) :
    (running.teardown bk s).1.isClean = true := by
  have stops := complaints_of_smooth Binding.switch
    (stopAll_smooth shutdown running.bindings running.registry s)
  have rest (t : σ) : (running.topology.release bk.fabric t).1.errors = [] := by
    unfold Topology.release
    split
    next => rfl
    next =>
      have unlinks := complaints_of_smooth Link.text (onEach_smooth
        (fun l => unlink l (namespaceAt running.topology.nodes l.a)) running.topology.links.reverse
        t)
      have removals := complaints_of_smooth Node.name (onEach_smooth remove
        running.topology.nodes.reverse
        (Action.onEach (bk.fabric.disconnect running.topology.nodes)
          running.topology.links.reverse t).2)
      exact List.append_eq_nil_iff.mpr ⟨unlinks, removals⟩
  exact List.isEmpty_iff.mpr (List.append_eq_nil_iff.mpr ⟨stops, rest _⟩)

end Smooth

open InMemory in
def stubborn : Backends World :=
  let bk := backends ⟨⟨none, none⟩, ⟨[("s1", .failShutdown)], .ofMillis 0, []⟩, none⟩
  { bk with fabric := { bk.fabric with
      teardownLink := fun l _ w => (.error (.fabric "teardown_link" l.text), w) } }

theorem stubborn_reported : ∃ running time w, ∃ d : Takedown,
    buildAndStart stubborn (.ofSeconds 5) Plan.pair (.any 9559) .fresh = (.ok running, time, w) ∧
      d.unlinks.map Prod.fst = Plan.pair.links.reverse ∧
        d.Reported (running.teardown stubborn w).1 ∧
      (running.teardown stubborn w).1.stopped = ["s1", "s2"] ∧
      (running.teardown stubborn w).1.errors.map ReleaseError.node =
        ["s1", "h1-eth0 <-> s1-eth1"] := by
  obtain ⟨running, time, w, ok, stopped, errors⟩ : ∃ running time w,
      buildAndStart stubborn (.ofSeconds 5) Plan.pair (.any 9559) .fresh = (.ok running, time, w) ∧
      (running.teardown stubborn w).1.stopped = ["s1", "s2"] ∧
      (running.teardown stubborn w).1.errors.map ReleaseError.node =
        ["s1", "h1-eth0 <-> s1-eth1"] :=
    ⟨_, _, _, rfl, rfl, rfl⟩
  obtain ⟨d, _, unlinks, _, _, reported⟩ := stop_reported ok w
  exact ⟨running, time, w, d, ok, unlinks, reported, stopped, errors⟩

end Testbed.Session
