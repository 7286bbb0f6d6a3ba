import Mathlib.Data.List.Nodup
import Testbed.Fabric.InMemory
import Testbed.Proofs.Fabric.Setup

namespace Testbed.InMemory

variable (faults : FabricFaults) (nodes : List Node)

theorem create_nodes (xs : List Node) (s : FabricState) :
    (∀ name, name ∈ (Action.untilFailure (fabric faults).createNode xs s).2.2.nodes ↔
      name ∈ s.nodes ∨
        ∃ n ∈ (Action.untilFailure (fabric faults).createNode xs s).1, n.name = name) ∧
    (Action.untilFailure (fabric faults).createNode xs s).2.2.links = s.links := by
  induction xs generalizing s with
  | nil => simp [Action.untilFailure]
  | cons n rest ih =>
    by_cases refused : faults.node = some n.name
    · simp [Action.untilFailure, fabric, createNode, refused]
    · obtain ⟨held, same⟩ := ih
        ({ s with nodes := addName n.name s.nodes }.record (.nodeCreated n.name))
      simp only [Action.untilFailure, fabric, createNode, refused, ↓reduceIte] at held same ⊢
      refine ⟨fun name => ?_, same⟩
      rw [held name]
      simp only [FabricState.record, mem_addName, List.mem_cons, exists_eq_or_imp]
      rw [eq_comm, or_assoc, or_left_comm]

theorem create_links (xs : List Link) (s : FabricState) :
    (∀ key, key ∈ (Action.untilFailure ((fabric faults).connect nodes) xs s).2.2.links ↔
      key ∈ s.links ∨
        ∃ l ∈ (Action.untilFailure ((fabric faults).connect nodes) xs s).1, linkKey l = key) ∧
    (Action.untilFailure ((fabric faults).connect nodes) xs s).2.2.nodes = s.nodes := by
  induction xs generalizing s with
  | nil => simp [Action.untilFailure]
  | cons l rest ih =>
    by_cases refused : faults.linksAt.any l.touches = true
    · simp [Action.untilFailure, Fabric.connect, fabric, createLink, refused]
    · obtain ⟨held, same⟩ := ih
        ({ s with links := addName (linkKey l) s.links }.record (.linkCreated (linkKey l)))
      simp only [Action.untilFailure, Fabric.connect, fabric, createLink, refused,
        Bool.false_eq_true, ↓reduceIte] at held same ⊢
      refine ⟨fun key => ?_, same⟩
      rw [held key]
      simp only [FabricState.record, mem_addName, List.mem_cons, exists_eq_or_imp]
      rw [eq_comm, or_assoc, or_left_comm]

structure FabricState.Single (s : FabricState) : Prop where
  nodes : s.nodes.Nodup
  links : s.links.Nodup

theorem nodup_addName {name : String} {names : List String} (nodup : names.Nodup) :
    (addName name names).Nodup := by
  unfold addName
  split
  next => exact nodup
  next absent =>
    rw [← List.concat_eq_append]
    exact nodup.concat (by simpa using absent)

theorem create_nodes_single (xs : List Node) (s : FabricState) (single : s.Single) :
    (Action.untilFailure (fabric faults).createNode xs s).2.2.Single := by
  induction xs generalizing s with
  | nil => exact single
  | cons n rest ih =>
    by_cases refused : faults.node = some n.name
    · simpa [Action.untilFailure, fabric, createNode, refused] using single
    · have later := ih ({ s with nodes := addName n.name s.nodes }.record (.nodeCreated n.name))
        ⟨nodup_addName single.nodes, single.links⟩
      simpa [Action.untilFailure, fabric, createNode, refused] using later

theorem create_links_single (xs : List Link) (s : FabricState) (single : s.Single) :
    (Action.untilFailure ((fabric faults).connect nodes) xs s).2.2.Single := by
  induction xs generalizing s with
  | nil => exact single
  | cons l rest ih =>
    by_cases refused : faults.linksAt.any l.touches = true
    · simpa [Action.untilFailure, Fabric.connect, fabric, createLink, refused] using single
    · have later := ih
        ({ s with links := addName (linkKey l) s.links }.record (.linkCreated (linkKey l)))
        ⟨single.nodes, nodup_addName single.links⟩
      simpa [Action.untilFailure, Fabric.connect, fabric, createLink, refused] using later

theorem teardown_links (xs : List Link) (s : FabricState) :
    (∀ key, key ∈ (Action.onEach ((fabric faults).disconnect nodes) xs s).2.links ↔
      key ∈ s.links ∧ ∀ l ∈ xs, linkKey l ≠ key) ∧
    (Action.onEach ((fabric faults).disconnect nodes) xs s).2.nodes = s.nodes := by
  induction xs generalizing s with
  | nil => simp [Action.onEach]
  | cons l rest ih =>
    obtain ⟨held, same⟩ := ih
      ({ s with links := dropName (linkKey l) s.links }.record (.linkRemoved (linkKey l)))
    simp only [Action.onEach, Fabric.disconnect, fabric, teardownLink] at held same ⊢
    refine ⟨fun key => ?_, same⟩
    rw [held key]
    simp only [FabricState.record, mem_dropName, List.forall_mem_cons, and_assoc]
    rw [ne_comm]

theorem destroy_nodes (xs : List Node) (s : FabricState) :
    (∀ name, name ∈ (Action.onEach (fabric faults).destroyNode xs s).2.nodes ↔
      name ∈ s.nodes ∧ ∀ n ∈ xs, n.name ≠ name) ∧
    (Action.onEach (fabric faults).destroyNode xs s).2.links = s.links := by
  induction xs generalizing s with
  | nil => simp [Action.onEach]
  | cons n rest ih =>
    obtain ⟨held, same⟩ := ih
      ({ s with nodes := dropName n.name s.nodes }.record (.nodeDestroyed n.name))
    simp only [Action.onEach, fabric, destroyNode] at held same ⊢
    refine ⟨fun name => ?_, same⟩
    rw [held name]
    simp only [FabricState.record, mem_dropName, List.forall_mem_cons, and_assoc]
    rw [ne_comm]

def FabricState.Bare (s : FabricState) : Prop := s.nodes = [] ∧ s.links = []

theorem release_bare (created : List Node) (links : List Link) {s : FabricState}
    (only_nodes : ∀ name ∈ s.nodes, ∃ n ∈ created, n.name = name)
    (only_links : ∀ key ∈ s.links, ∃ l ∈ links, linkKey l = key) :
    ((fabric faults).release nodes created links s).2.Bare := by
  obtain ⟨links_left, nodes_same⟩ := teardown_links faults nodes links.reverse s
  obtain ⟨nodes_left, links_same⟩ := destroy_nodes faults created.reverse
    (Action.onEach ((fabric faults).disconnect nodes) links.reverse s).2
  refine ⟨List.eq_nil_iff_forall_not_mem.mpr fun name member => ?_,
    List.eq_nil_iff_forall_not_mem.mpr fun key member => ?_⟩
  · obtain ⟨there, kept⟩ := (nodes_left name).mp member
    rw [nodes_same] at there
    obtain ⟨n, listed, same⟩ := only_nodes name there
    exact kept n (List.mem_reverse.mpr listed) same
  · have there :
      key ∈ (Action.onEach ((fabric faults).disconnect nodes) links.reverse s).2.links := by
      rw [← links_same]
      exact member
    obtain ⟨there, kept⟩ := (links_left key).mp there
    obtain ⟨l, listed, same⟩ := only_links key there
    exact kept l (List.mem_reverse.mpr listed) same

theorem materialize_ok {p : Plan} {t : Topology} {s : FabricState}
    (built : p.materialize (fabric faults) .fresh = (.ok t, s)) :
    t = ⟨p.nodes, p.links, false⟩ ∧ s.Single ∧
      (∀ name, name ∈ s.nodes ↔ ∃ n ∈ p.nodes, n.name = name) ∧
      ∀ key, key ∈ s.links ↔ ∃ l ∈ p.links, linkKey l = key := by
  have set_up : p.SetUp (fabric faults) .fresh (.ok t, s) := built ▸ Plan.materialize_setUp
  obtain ⟨rfl, u, made, linked⟩ := set_up.ok
  obtain ⟨nodes_held, no_links⟩ := create_nodes faults p.nodes .fresh
  obtain ⟨links_held, nodes_same⟩ := create_links faults p.nodes p.links u
  have single := create_nodes_single faults p.nodes .fresh ⟨.nil, .nil⟩
  rw [made] at nodes_held no_links single
  have single' := create_links_single faults p.nodes p.links u single
  rw [linked] at links_held nodes_same single'
  refine ⟨rfl, single', fun name => ?_, fun key => ?_⟩
  · rw [nodes_same, nodes_held name]
    simp [FabricState.fresh]
  · rw [links_held key, no_links]
    simp [FabricState.fresh]

theorem materialize_error {p : Plan} {e : Error} {s : FabricState}
    (failed : p.materialize (fabric faults) .fresh = (.error e, s)) : s.Bare := by
  have set_up : p.SetUp (fabric faults) .fresh (.error e, s) := failed ▸ Plan.materialize_setUp
  obtain ⟨nodes_held, no_links⟩ := create_nodes faults p.nodes .fresh
  cases set_up with
  | invalid refused => exact ⟨rfl, rfl⟩
  | unmade valid refused =>
    rw [refused] at nodes_held no_links
    refine release_bare faults p.nodes _ [] (fun name member => ?_) fun key member => ?_
    · simpa [FabricState.fresh] using (nodes_held name).mp member
    · rw [no_links] at member
      cases member
  | @unlinked linked e t u valid made refused =>
    obtain ⟨links_held, nodes_same⟩ := create_links faults p.nodes p.links t
    simp only [made] at nodes_held no_links
    simp only [refused] at links_held nodes_same
    refine release_bare faults p.nodes p.nodes linked (fun name member => ?_) fun key member => ?_
    · rw [nodes_same] at member
      simpa [FabricState.fresh] using (nodes_held name).mp member
    · simpa [no_links, FabricState.fresh] using (links_held key).mp member

theorem materialize_ok_iff {p : Plan} (s : FabricState) :
    (∃ t, (p.materialize (fabric faults) s).1 = .ok t) ↔
      p.orphanLinks = [] ∧ (∀ n ∈ p.nodes, faults.node ≠ some n.name) ∧
        ∀ l ∈ p.links, faults.linksAt.any l.touches = false := by
  rw [Plan.materialize_ok_steps]
  refine and_congr_right fun _ => and_congr ?_ ?_
  · refine Action.untilFailure_none_iff (fun n u => ?_) p.nodes s
    by_cases refused : faults.node = some n.name <;> simp [fabric, createNode, refused]
  · refine Action.untilFailure_none_iff (fun l u => ?_) p.links _
    by_cases refused : faults.linksAt.any l.touches = true <;>
      simp [Fabric.connect, fabric, createLink, refused]

end Testbed.InMemory
