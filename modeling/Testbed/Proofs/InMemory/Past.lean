import Testbed.Proofs.InMemory.Agent
import Testbed.Proofs.InMemory.Fabric
import Testbed.Proofs.InMemory.World

namespace Testbed

variable {σ τ : Type} {part : Part σ τ} {F : σ → σ} {f : τ → τ}

section Within

variable (get : ∀ s, part.get (F s) = f (part.get s))
  (set : ∀ t s, F (part.set t s) = part.set (f t) (F s))

include get set

theorem Action.Maps.within {act view : Action τ} (maps : act.Maps f view) :
    (act.within part).Maps F (view.within part) := by
  intro s
  simp only [Action.within, get, set, maps (part.get s)]

theorem Agent.Maps.within {a view : Agent τ} (maps : a.Maps f view) :
    (a.within part).Maps F (view.within part) where
  checkEndpoint e s := by simp only [Agent.within, get, set, maps.checkEndpoint]
  launch l := (maps.launch l).within get set
  poll l round s := by simp only [Agent.within, get, set, maps.poll]
  shutdown switch := (maps.shutdown switch).within get set

theorem Fabric.Maps.within {fab view : Fabric τ} (maps : fab.Maps f view) :
    (fab.within part).Maps F (view.within part) where
  createNode n := (maps.createNode n).within get set
  createLink l nsA nsB := (maps.createLink l nsA nsB).within get set
  teardownLink l nsA := (maps.teardownLink l nsA).within get set
  destroyNode n := (maps.destroyNode n).within get set

theorem Tuner.Maps.within {t view : Tuner τ} (maps : t.Maps f view) :
    (t.within part).Maps F (view.within part) :=
  fun host interface => (maps host interface).within get set

end Within

namespace InMemory

open Session

def countOf (counts : List (Endpoint × Nat)) (c : Endpoint) : Nat :=
  ((counts.find? (·.1 == c)).map (·.2)).getD 0

/-- The higher count of each controller; a controller that is counted only once keeps its count. -/
def mergeCounts (past counts : List (Endpoint × Nat)) : List (Endpoint × Nat) :=
  (counts.map fun (c, n) => (c, max (countOf past c) n)) ++
    past.filter fun x => !counts.any (·.1 == x.1)

theorem countOf_mergeCounts (past counts : List (Endpoint × Nat)) (c : Endpoint) :
    countOf (mergeCounts past counts) c = max (countOf past c) (countOf counts c) := by
  have known (x : Endpoint × Nat) :
      ((fun x : Endpoint × Nat => x.1 == c) ∘ fun (c, n) => (c, max (countOf past c) n)) x =
        (x.1 == c) := rfl
  rw [mergeCounts, countOf, List.find?_append, List.find?_map, funext known]
  cases found : counts.find? (·.1 == c) with
  | some x =>
    have here : x.1 = c := by simpa using List.find?_some found
    simp [countOf, found, here]
  | none =>
    have absent : counts.any (·.1 == c) = false := by
      simpa [List.find?_eq_none] using found
    have skipped : (past.filter fun x => !counts.any (·.1 == x.1)).find? (·.1 == c) =
        past.find? (·.1 == c) := by
      rw [List.find?_filter]
      congr 1
      funext x
      by_cases here : x.1 = c <;> simp [here, absent]
    simp [countOf, found, skipped]

theorem mergeCounts_cons (past counts : List (Endpoint × Nat)) (c : Endpoint) (n : Nat) :
    mergeCounts past ((c, n) :: counts.filter (·.1 != c)) =
      (c, max (countOf past c) n) :: (mergeCounts past counts).filter (·.1 != c) := by
  simp only [mergeCounts, List.map_cons, List.cons_append, List.filter_append, List.filter_map,
    List.filter_filter]
  congr 2
  refine List.filter_congr fun x _ => ?_
  by_cases here : x.1 = c
  · simp [here]
  · have others : (counts.filter (·.1 != c)).any (·.1 == x.1) = counts.any (·.1 == x.1) := by
      rw [List.any_filter]
      congr 1
      funext y
      by_cases same : y.1 = x.1 <;> simp [same, here]
    have apart : (c == x.1) = false := by simpa using Ne.symm here
    simp [others, apart, here]

theorem mergeCounts_nil (past : List (Endpoint × Nat)) : mergeCounts past [] = past := by
  simp [mergeCounts]

namespace AgentState

def after (past s : AgentState) : AgentState where
  launches := past.launches ++ s.launches
  shutdowns := past.shutdowns ++ s.shutdowns
  running := s.running
  starting := s.starting
  maxStarting := max past.maxStarting s.maxStarting
  maxStartingFor := mergeCounts past.maxStartingFor s.maxStartingFor

variable (past s : AgentState)

theorem count_after (c : Endpoint) : (past.after s).count c = past.after (s.count c) := by
  have most : (past.after s).maxStartsFor c = max (past.maxStartsFor c) (s.maxStartsFor c) :=
    countOf_mergeCounts past.maxStartingFor s.maxStartingFor c
  have same : (past.after s).startingFor c = s.startingFor c := rfl
  have counts := mergeCounts_cons past.maxStartingFor s.maxStartingFor c
    (max (s.maxStartsFor c) (s.startingFor c))
  simp only [count, most, same, Nat.max_assoc]
  simp only [after, counts, Nat.max_assoc]
  rfl

theorem after_fresh {s : AgentState} (running : s.running = []) (starting : s.starting = []) :
    s.after .fresh = s := by
  obtain ⟨launches, shutdowns, _, _, most, mostFor⟩ := s
  subst running starting
  simp [after, fresh, mergeCounts_nil]

theorem endStarting_after (switch : String) :
    (past.after s).endStarting switch = past.after (s.endStarting switch) := rfl

theorem begin_after (l : Launch) : (past.after s).begin l = past.after (s.begin l) := by
  unfold begin
  rw [← count_after, endStarting_after]
  congr 1
  simp only [after, List.append_assoc]

end AgentState

@[simp]
theorem AgentState.running_after (past s : AgentState) : (past.after s).running = s.running := rfl

theorem agent_after (setup : AgentSetup) (past : AgentState) :
    (agent setup).Maps past.after (agent setup) where
  checkEndpoint e s := rfl
  launch l s := by
    simp only [agent, launch, AgentState.running_after, AgentState.begin_after]
    split
    next => rfl
    next => split <;> rfl
  poll l round s := by
    simp only [agent, poll, AgentState.endStarting_after]
    split
    next => rfl
    next => split <;> rfl
  shutdown switch s := by
    simp only [agent, shutdown, AgentState.endStarting_after, AgentState.running_after,
      AgentState.running_endStarting]
    by_cases runs : s.running.contains switch = true
    · by_cases refuses : setup.behavior switch = .failShutdown <;>
        simp only [runs, refuses, ↓reduceIte, AgentState.after, List.append_assoc]
    · simp only [runs, Bool.false_eq_true, ↓reduceIte]

def FabricState.after (past s : FabricState) : FabricState where
  events := past.events ++ s.events
  nodes := s.nodes
  links := s.links

theorem FabricState.after_fresh {s : FabricState} (bare : s.Bare) : s.after .fresh = s := by
  obtain ⟨events, _, _⟩ := s
  obtain ⟨rfl, rfl⟩ := bare
  simp [after, fresh]

theorem fabric_after (faults : FabricFaults) (past : FabricState) :
    (fabric faults).Maps past.after (fabric faults) where
  createNode n s := by
    simp only [fabric, createNode]
    split
    next => rfl
    next => simp only [FabricState.after, FabricState.record, List.append_assoc]
  createLink l nsA nsB s := by
    simp only [fabric, createLink]
    split
    next => rfl
    next => simp only [FabricState.after, FabricState.record, List.append_assoc]
  teardownLink l nsA s := by
    simp only [fabric, teardownLink, FabricState.after, FabricState.record, List.append_assoc]
  destroyNode n s := by
    simp only [fabric, destroyNode, FabricState.after, FabricState.record, List.append_assoc]

theorem tuner_after (refused : Option String) (past : TunerState) :
    (tuner refused).Maps (past ++ ·) (tuner refused) := by
  intro host interface s
  simp only [tuner]
  split
  next => rfl
  next => rw [List.append_assoc]

def World.after (past w : World) : World where
  fabric := past.fabric.after w.fabric
  agent := past.agent.after w.agent
  tuner := past.tuner ++ w.tuner

theorem backends_after (setup : Setup) (past : World) :
    (backends setup).Maps past.after (backends setup) where
  fabric := Fabric.Maps.within (F := past.after) (fun _ => rfl) (fun _ _ => rfl)
    (fabric_after setup.faults past.fabric)
  agent := Agent.Maps.within (F := past.after) (fun _ => rfl) (fun _ _ => rfl)
    (agent_after setup.agent past.agent)
  tuner := Tuner.Maps.within (F := past.after) (fun _ => rfl) (fun _ _ => rfl)
    (tuner_after setup.refusedHost past.tuner)

end InMemory

end Testbed
