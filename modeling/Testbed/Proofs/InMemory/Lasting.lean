import Testbed.Proofs.InMemory.Fabric
import Testbed.Proofs.InMemory.LinkKey
import Testbed.Proofs.Plan.Lasting

namespace Testbed

theorem InMemory.nodup_linkKeys {links : List Link} (proper : ∀ l ∈ links, l.Proper)
    (named : ∀ l ∈ links, ∀ i ∈ l.ends, i.node ≠ "") (nodup : (links.flatMap Link.ends).Nodup) :
    (links.map linkKey).Nodup := by
  have disjoint := (List.nodup_flatMap.mp nodup).2
  refine List.pairwise_map.mpr (disjoint.imp_of_mem fun {l m} listed listed' apart keys => ?_)
  have same := same_of_linkKey (proper l listed).short (proper m listed').short (named l listed)
    (named m listed') keys
  have first : l.a ∈ l.ends := by simp [Link.ends]
  have shared : l.a ∈ m.ends := by
    simp only [Link.same, Bool.or_eq_true, Bool.and_eq_true, beq_iff_eq] at same
    rcases same with ⟨here, _⟩ | ⟨here, _⟩ <;> simp [Link.ends, here]
  exact apart first shared

namespace Plan

open InMemory

variable {past : List Event} {p : Plan}

theorem Rooted.named (rooted : Rooted past p) (whole : p.orphanLinks = [])
    (named : ∀ n ∈ p.nodes, n.name ≠ "") : ∀ l ∈ p.links, ∀ i ∈ l.ends, i.node ≠ "" := by
  intro l listed i isEnd
  rcases rooted.owners i (mem_ends.mpr ⟨l, listed, isEnd⟩) with present | removed
  · obtain ⟨n, there, same⟩ := List.mem_map.mp present
    exact same ▸ named n there
  · have orphan : l ∈ p.orphanLinks := by
      rw [rooted.orphanLinks_eq]
      refine List.mem_filter.mpr ⟨listed, List.any_eq_true.mpr ⟨i.node, removed, ?_⟩⟩
      exact Link.touches_iff.mpr ⟨i, isEnd, rfl⟩
    rw [whole] at orphan
    cases orphan

theorem materialize_faultless_ok_iff :
    (∃ t, (p.materialize (fabric ⟨none, none⟩) .fresh).1 = .ok t) ↔ p.orphanLinks = [] := by
  rw [materialize_ok_iff]
  simp

theorem materialize_faultless_error {e : Error} {s : FabricState}
    (failed : p.materialize (fabric ⟨none, none⟩) .fresh = (.error e, s)) :
    e = .incompleteTopology (p.orphanLinks.map Link.text) ∧ s = .fresh := by
  have some_orphan : p.orphanLinks ≠ [] := fun whole => by
    obtain ⟨t, built⟩ := materialize_faultless_ok_iff.mpr whole
    rw [failed] at built
    cases built
  rw [materialize_of_orphans some_orphan] at failed
  cases failed
  exact ⟨rfl, rfl⟩

theorem Rooted.whole_iff (rooted : Rooted past p) : p.orphanLinks = [] ↔
    ∀ l ∈ p.links, ∀ name ∈ Event.removals past, l.touches name = false := by
  rw [rooted.orphanLinks_eq, List.filter_eq_nil_iff]
  simp

theorem Built.live_nodes (built : p.Built) {t : Topology} {s : FabricState}
    (set_up : p.materialize (fabric ⟨none, none⟩) .fresh = (.ok t, s)) :
    s.liveNodes.Perm p.names := by
  obtain ⟨_, single, nodes, _⟩ := materialize_ok _ set_up
  apply (sortBy_perm _ _).trans
  refine (List.perm_ext_iff_of_nodup single.nodes built.nodup_names).mpr fun name => ?_
  rw [nodes, Plan.names, List.mem_map]

theorem live_links {t : Topology} {s : FabricState}
    (set_up : p.materialize (fabric ⟨none, none⟩) .fresh = (.ok t, s))
    (keys : (p.links.map linkKey).Nodup) : s.liveLinks.Perm (p.links.map linkKey) := by
  obtain ⟨_, single, _, links⟩ := materialize_ok _ set_up
  apply (sortBy_perm _ _).trans
  refine (List.perm_ext_iff_of_nodup single.links keys).mpr fun key => ?_
  rw [links, List.mem_map]

/-- Where no name is declared again after it was removed, the orphans are the links of the removed
nodes, no interface has two links, and the plan is set up just if there is no orphan, with each node
and each link there once. -/
theorem Came.materialize_lasting (came : p.Came past) (lasting : Event.Lasting past)
    (few : ∀ name, (p.links.filter (·.touches name)).length < 4294967295) :
    p.links = Event.links past ∧
    p.orphanLinks = p.links.filter (fun l => (Event.removals past).any l.touches) ∧
    p.ends.Nodup ∧
    ((∀ n ∈ p.nodes, n.name ≠ "") →
      ((∃ t, (p.materialize (fabric ⟨none, none⟩) .fresh).1 = .ok t) ↔
        ∀ l ∈ p.links, ∀ name ∈ Event.removals past, l.touches name = false) ∧
      (∀ t s, p.materialize (fabric ⟨none, none⟩) .fresh = (.ok t, s) →
        s.liveLinks.Perm (p.links.map linkKey) ∧ (p.links.map linkKey).Nodup ∧
        s.liveNodes.Perm p.names ∧ p.names.Nodup) ∧
      ∀ e s, p.materialize (fabric ⟨none, none⟩) .fresh = (.error e, s) →
        e = .incompleteTopology (p.orphanLinks.map Link.text) ∧ s = .fresh) := by
  have rooted := came.rooted lasting
  have nodup : p.ends.Nodup :=
    rooted.nodup_ends came.built fun name => Nat.le_of_lt (Nat.lt_succ_of_lt (few name))
  refine ⟨came.links, rooted.orphanLinks_eq, nodup, fun named => ⟨?_, fun t s set_up => ?_,
    fun e s => materialize_faultless_error⟩⟩
  · rw [materialize_faultless_ok_iff, rooted.whole_iff]
  · have whole := materialize_faultless_ok_iff.mp ⟨t, by rw [set_up]⟩
    have keys := nodup_linkKeys came.built.proper (rooted.named whole named) nodup
    exact ⟨live_links set_up keys, keys, came.built.live_nodes set_up, came.built.nodup_names⟩

def thinned : List Operation :=
  [.addHost "h1", .addHost "h2", .addSwitch "s1" (.any 50051), .addLink "h1" "s1",
    .addLink "h2" "s1", .removeNode "h2"]

theorem thinned_refused : Event.Lasting (Plan.empty.history thinned) ∧
    (∀ name, ((Plan.empty.performAll thinned).links.filter (·.touches name)).length < 4294967295) ∧
    (∀ n ∈ (Plan.empty.performAll thinned).nodes, n.name ≠ "") ∧
    (Plan.empty.performAll thinned).ends.Nodup ∧
    (Plan.empty.performAll thinned).materialize (fabric ⟨none, none⟩) .fresh =
      (.error (.incompleteTopology ["h2-eth0 <-> s1-eth2"]), .fresh) := by
  have lasting : Event.Lasting (Plan.empty.history thinned) := by decide
  have few (name : String) :
      ((Plan.empty.performAll thinned).links.filter (·.touches name)).length < 4294967295 :=
    Nat.lt_of_le_of_lt (List.length_filter_le _ _) (by decide)
  have named : ∀ n ∈ (Plan.empty.performAll thinned).nodes, n.name ≠ "" := by decide
  obtain ⟨_, _, nodup, outcome⟩ := (Came.empty.performAll thinned).materialize_lasting lasting few
  obtain ⟨ok_iff, _, failure⟩ := outcome named
  refine ⟨lasting, few, named, nodup, ?_⟩
  have text : (Plan.empty.performAll thinned).orphanLinks.map Link.text =
      ["h2-eth0 <-> s1-eth2"] := by decide
  cases made : (Plan.empty.performAll thinned).materialize (fabric ⟨none, none⟩) .fresh with
  | mk result s =>
    cases result with
    | ok t => exact absurd (ok_iff.mp ⟨t, by rw [made]⟩) (by decide)
    | error e =>
      obtain ⟨rfl, rfl⟩ := failure e s made
      rw [text]

end Plan

end Testbed
