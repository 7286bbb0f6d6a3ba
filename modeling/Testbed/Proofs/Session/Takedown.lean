import Testbed.Proofs.Session.Calls

namespace Testbed.Session

variable {σ α : Type}

/-- The steps of a takedown, each with its result. -/
structure Takedown where
  stops : List (String × Except Error Unit)
  unlinks : List (Link × Except Error Unit)
  removals : List (Node × Except Error Unit)

def complaints (name : α → String) (steps : List (α × Except Error Unit)) : List ReleaseError :=
  steps.filterMap fun (x, result) => (failureOf result).map fun e => ⟨name x, e.message⟩

namespace Takedown

def results (d : Takedown) : List (Except Error Unit) :=
  d.stops.map Prod.snd ++ d.unlinks.map Prod.snd ++ d.removals.map Prod.snd

def calls (nodes : List Node) (d : Takedown) : List Call :=
  (d.stops.map fun (switch, result) => .shutdown switch result) ++
    (d.unlinks.map fun (l, result) => .teardownLink l (namespaceAt nodes l.a) result) ++
    d.removals.map fun (n, result) => .destroyNode n result

def release (d : Takedown) : Release where
  links := (d.unlinks.filter fun step => step.2.isOk).map fun step => step.1.text
  errors := complaints Link.text d.unlinks ++ complaints Node.name d.removals

theorem map_stops (d : Takedown) :
    (d.stops.map fun (switch, result) => Call.shutdown switch result).map Call.shutdown? =
      (d.stops.map Prod.fst).map some := by
  rw [List.map_map, List.map_map]
  rfl

theorem map_unlinks (nodes : List Node) (d : Takedown) :
    (d.unlinks.map fun (l, result) => Call.teardownLink l (namespaceAt nodes l.a) result).map
      Call.teardownLink? = (d.unlinks.map Prod.fst).map some := by
  rw [List.map_map, List.map_map]
  rfl

theorem map_removals (d : Takedown) :
    (d.removals.map fun (n, result) => Call.destroyNode n result).map Call.destroyNode? =
      (d.removals.map Prod.fst).map some := by
  rw [List.map_map, List.map_map]
  rfl

theorem launch?_of_mem_calls {nodes : List Node} {d : Takedown} :
    ∀ call ∈ d.calls nodes, call.launch? = none := by
  simp only [calls, List.forall_mem_append, List.forall_mem_map]
  exact ⟨⟨fun _ _ => rfl, fun _ _ => rfl⟩, fun _ _ => rfl⟩

end Takedown

theorem filterMap_complaints (name : α → String) (steps : List (α × Except Error Unit)) :
    ((steps.map fun (x, result) => (x, failureOf result)).filterMap fun (x, failure) =>
      failure.map fun e => (⟨name x, e.message⟩ : ReleaseError)) = complaints name steps := by
  rw [List.filterMap_map]
  rfl

theorem Takedown.ofSteps_release (d : Takedown) :
    Release.ofSteps (d.unlinks.map fun (l, result) => (l, failureOf result))
        (d.removals.map fun (n, result) => (n, failureOf result)) = d.release := by
  refine congrArg₂ Release.mk ?_ (congrArg₂ (· ++ ·) (filterMap_complaints Link.text d.unlinks)
    (filterMap_complaints Node.name d.removals))
  rw [List.filterMap_map, ← List.filterMap_eq_map, List.filterMap_filter]
  refine List.filterMap_congr fun step _ => ?_
  rcases step with ⟨l, _ | _⟩ <;> rfl

section Stop

variable (a : Agent σ)

theorem Binding.stop_result (b : Binding) (r : PortRegistry) (s : σ) :
    (b.stop a r s).1 = if b.launched then (a.shutdown b.switch s).1 else .ok () := by
  unfold Binding.stop
  split
  next past => simp [Binding.launched, past]
  next => by_cases launched : b.launched = true <;> simp [launched]

theorem Binding.stop_binding (b : Binding) (r : PortRegistry) (s : σ) :
    (b.stop a r s).2.1 = { b with phase := .stopped } := by
  obtain ⟨switch, deviceId, ports, timeout, phase⟩ := b
  cases phase <;> rfl

theorem Binding.stop_world (b : Binding) (r : PortRegistry) (s : σ) :
    (b.stop a r s).2.2.2 = if b.launched then (a.shutdown b.switch s).2 else s := by
  unfold Binding.stop
  split
  next past => simp [Binding.launched, past]
  next => by_cases launched : b.launched = true <;> simp [launched]

theorem stopAll_bindings (bs : List Binding) (r : PortRegistry) (s : σ) :
    (stopAll a bs r s).1.map Prod.fst = bs.map fun b => { b with phase := .stopped } := by
  induction bs generalizing r s with
  | nil => rfl
  | cons b rest ih => simp [stopAll, ih, Binding.stop_binding]

end Stop

theorem teardown_bindings (bk : Backends σ) (running : Running) (s : σ) :
    (running.teardown bk s).2.1.bindings =
      running.bindings.map fun b => { b with phase := .stopped } :=
  stopAll_bindings bk.agent running.bindings running.registry s

theorem release_of_held (f : Fabric σ) {t : Topology} (held : t.released = false) (s : σ) :
    t.release f s = ((f.release t.nodes t.nodes t.links s).1, { t with released := true },
      (f.release t.nodes t.nodes t.links s).2) := by
  simp only [Topology.release, held, Bool.false_eq_true, ↓reduceIte]

namespace Journaled

theorem eq_mk {j : Journaled σ} {calls : List Call} {s : σ} (written : j.calls = calls)
    (done : j.inner = s) : j = ⟨calls, s⟩ := by
  rw [← written, ← done]

theorem onEach_steps (call : α → Except Error Unit → Call) (act : α → Action σ) (xs : List α)
    (j : Journaled σ) :
    ∃ steps : List (α × Except Error Unit), steps.map Prod.fst = xs ∧
      (Action.onEach (fun x => record (call x) (act x)) xs j).1 =
        (steps.map fun (x, result) => (x, failureOf result)) ∧
      (Action.onEach (fun x => record (call x) (act x)) xs j).2.calls =
        j.calls ++ steps.map fun (x, result) => call x result := by
  induction xs generalizing j with
  | nil => exact ⟨[], by simp [Action.onEach]⟩
  | cons x rest ih =>
    obtain ⟨steps, items, failures, calls⟩ :=
      ih ⟨j.calls ++ [call x (act x j.inner).1], (act x j.inner).2⟩
    refine ⟨(x, (act x j.inner).1) :: steps, by simp [items], ?_, ?_⟩
    · simp only [Action.onEach, record_eq, failures, List.map_cons]
    · simp only [Action.onEach, record_eq, calls, List.map_cons, List.append_assoc,
        List.singleton_append]

theorem stopAll_steps (a : Agent σ) (bs : List Binding) (r : PortRegistry) (j : Journaled σ) :
    ∃ steps : List (String × Except Error Unit),
      steps.map Prod.fst = (bs.filter Binding.launched).map Binding.switch ∧
      ((stopAll (agent a) bs r j).1.filterMap fun (b, failure) =>
        failure.map fun e => (⟨b.switch, e.message⟩ : ReleaseError)) = complaints id steps ∧
      (stopAll (agent a) bs r j).2.2.calls =
        j.calls ++ steps.map fun (switch, result) => .shutdown switch result := by
  induction bs generalizing r j with
  | nil => exact ⟨[], by simp [stopAll, complaints]⟩
  | cons b rest ih =>
    obtain ⟨steps, items, failures, calls⟩ :=
      ih (b.stop (agent a) r j).2.2.1 (b.stop (agent a) r j).2.2.2
    have result := Binding.stop_result (agent a) b r j
    have world := Binding.stop_world (agent a) b r j
    have same := Binding.stop_binding (agent a) b r j
    simp only [stopAll, List.filterMap_cons, failures, calls, result, same]
    by_cases launched : b.launched = true
    · rw [if_pos launched] at world ⊢
      refine ⟨(b.switch, (a.shutdown b.switch j.inner).1) :: steps, ?_, ?_, ?_⟩
      · simp [launched, items]
      · simp only [complaints, List.filterMap_cons, id_eq]
        rfl
      · rw [world]
        exact List.append_assoc j.calls [_] _
    · rw [if_neg launched] at world ⊢
      exact ⟨steps, by simp [launched, items], rfl, by rw [world]⟩

theorem release_steps (fab : Fabric σ) (nodes created : List Node) (links : List Link)
    (stops : List (String × Except Error Unit)) (j : Journaled σ) :
    ∃ d : Takedown, d.stops = stops ∧ d.unlinks.map Prod.fst = links.reverse ∧
      d.removals.map Prod.fst = created.reverse ∧
      ((fabric fab).release nodes created links j).1 = d.release ∧
      ((fabric fab).release nodes created links j).2.calls = j.calls ++
        (d.unlinks.map fun (l, result) => .teardownLink l (namespaceAt nodes l.a) result) ++
        d.removals.map fun (n, result) => .destroyNode n result := by
  obtain ⟨unlinks, unlinked, linkFailures, linkCalls⟩ := onEach_steps
    (fun l => Call.teardownLink l (namespaceAt nodes l.a)) (fab.disconnect nodes) links.reverse j
  obtain ⟨removals, removed, nodeFailures, nodeCalls⟩ := onEach_steps Call.destroyNode
    fab.destroyNode created.reverse
    (Action.onEach ((fabric fab).disconnect nodes) links.reverse j).2
  refine ⟨⟨stops, unlinks, removals⟩, rfl, unlinked, removed, ?_, ?_⟩
  · rw [← Takedown.ofSteps_release, ← linkFailures, ← nodeFailures]
    rfl
  · rw [← linkCalls]
    exact nodeCalls

end Journaled

theorem teardown_journal (bk : Backends σ) (running : Running)
    (held : running.topology.released = false) (calls : List Call) (s : σ) :
    ∃ d : Takedown, d.stops.map Prod.fst =
        (running.bindings.filter Binding.launched).map Binding.switch ∧
      d.unlinks.map Prod.fst = running.topology.links.reverse ∧
      d.removals.map Prod.fst = running.topology.nodes.reverse ∧
      (running.teardown (Journaled.backends bk) ⟨calls, s⟩).2.2 =
        ⟨calls ++ d.calls running.topology.nodes, (running.teardown bk s).2.2⟩ ∧
      (running.teardown bk s).1.releasedLinks = d.release.links ∧
      (running.teardown bk s).1.errors = complaints id d.stops ++ d.release.errors := by
  obtain ⟨stops, switches, failures, stopCalls⟩ :=
    Journaled.stopAll_steps bk.agent running.bindings running.registry ⟨calls, s⟩
  obtain ⟨d, rfl, links, nodes, released, releaseCalls⟩ := Journaled.release_steps bk.fabric
    running.topology.nodes running.topology.nodes running.topology.links stops
    (stopAll (Journaled.agent bk.agent) running.bindings running.registry ⟨calls, s⟩).2.2
  have whole := release_of_held (Journaled.fabric bk.fabric) held
    (stopAll (Journaled.agent bk.agent) running.bindings running.registry ⟨calls, s⟩).2.2
  have same := teardown_maps (Journaled.backends_maps bk) running ⟨calls, s⟩
  dsimp only at same
  rw [same]
  have report := (congrArg Prod.fst whole).trans released
  have written := (congrArg (fun out => out.2.2.calls) whole).trans releaseCalls
  refine ⟨d, switches, links, nodes, Journaled.eq_mk (written.trans ?_) rfl, ?_, ?_⟩
  · rw [stopCalls]
    simp only [Takedown.calls, List.append_assoc]
  · exact congrArg Release.links report
  · exact congrArg₂ (fun first (release : Release) => first ++ release.errors) failures report

end Testbed.Session
