import Testbed.Proofs.Fabric.Setup
import Testbed.Proofs.Plan.Built

namespace Testbed.Plan

/-- The node that now has the interface's name has handed out the interface's number. -/
def HandsOut (p : Plan) (i : Interface) : Prop :=
  ∃ n, p.node? i.node = some n ∧
    ∃ k < n.interfaces.length, i.ordinal = n.kind.firstOrdinal + UInt32.ofNat k

theorem owned_iff {p : Plan} (built : p.Built) {i : Interface} :
    p.owned i = true ↔ p.HandsOut i := by
  unfold owned HandsOut
  cases found : p.node? i.node with
  | none => simp
  | some n =>
    obtain ⟨member, same⟩ := mem_of_node? found
    simp only [(built.numbered n member).owns_iff, Node.interfaceAt, same, Option.some.injEq,
      exists_eq_left']
    exact exists_congr fun k => and_congr_right fun _ =>
      ⟨congrArg Interface.ordinal, fun number => by rw [← number]⟩

theorem mem_orphanLinks {p : Plan} (built : p.Built) {l : Link} :
    l ∈ p.orphanLinks ↔ l ∈ p.links ∧ ∃ i ∈ l.ends, ¬ p.HandsOut i := by
  simp only [orphanLinks, List.mem_filter, List.any_eq_true, Bool.not_eq_true', ← owned_iff built,
    Bool.not_eq_true]

theorem not_mem_orphanLinks {p : Plan} {l : Link} (member : l ∈ p.links)
    (sound : l ∉ p.orphanLinks) : ∀ i ∈ l.ends, p.owned i = true := by
  intro i listed
  by_contra unowned
  refine sound (List.mem_filter.mpr ⟨member, List.any_eq_true.mpr ⟨i, listed, ?_⟩⟩)
  simpa using unowned

theorem refused_of_orphan {p : Plan} {l : Link} (orphan : l ∈ p.orphanLinks) :
    ∃ orphans, l.text ∈ orphans ∧ p.validate = .error (.incompleteTopology orphans) ∧
      ∀ {σ : Type} (f : Fabric σ) (s : σ),
        p.materialize f s = (.error (.incompleteTopology orphans), s) := by
  have some_orphan := List.ne_nil_of_mem orphan
  exact ⟨p.orphanLinks.map Link.text, List.mem_map_of_mem orphan, validate_of_orphans some_orphan,
    fun _ _ => materialize_of_orphans some_orphan⟩

/-- All that a node of the name has handed out belongs to one of the newer links. -/
structure Renewed (name : String) (newer : List Link) (p : Plan) : Prop where
  interfaces : ∀ n, p.node? name = some n → ∀ i ∈ n.interfaces, ∃ l ∈ newer, i ∈ l.ends

theorem node?_linked (p : Plan) (a b name : String) (apart : a ≠ b) :
    (p.linked a b).node? name =
      (p.node? name).map fun n => if n.name = a ∨ n.name = b then n.allocate else n := by
  have kept (n : Node) :
      (if n.name = a ∨ n.name = b then n.allocate else n).name = n.name := by
    split <;> rfl
  simp only [node?, linked_nodes p apart, List.find?_map, Function.comp_def, kept]

theorem Renewed.change {name : String} {newer : List Link} {p q : Plan} {op : Operation}
    (changed : p.Change op q) (renewed : p.Renewed name newer) :
    ∃ more, q.links = p.links ++ more ∧ q.Renewed name (newer ++ more) := by
  cases changed with
  | declared n bare absent =>
    refine ⟨[], by simp, ⟨fun m found i handed => ?_⟩⟩
    unfold node? at found
    rw [List.find?_append] at found
    rcases Option.or_eq_some_iff.mp found with there | ⟨_, here⟩
    · simpa using renewed.interfaces m there i handed
    · have same : m = n := List.mem_singleton.mp (List.mem_of_find?_eq_some here)
      rw [same, bare] at handed
      cases handed
  | @linked a b apart =>
    let l : Link := ⟨p.nextInterface a, p.nextInterface b⟩
    refine ⟨[l], rfl, ⟨fun m found i handed => ?_⟩⟩
    rw [node?_linked p a b name apart] at found
    obtain ⟨n, there, rfl⟩ := Option.map_eq_some_iff.mp found
    have older (old : i ∈ n.interfaces) : ∃ l' ∈ newer ++ [l], i ∈ l'.ends := by
      obtain ⟨l', listed, isEnd⟩ := renewed.interfaces n there i old
      exact ⟨l', List.mem_append_left _ listed, isEnd⟩
    split at handed
    next mine =>
      rcases List.mem_append.mp handed with old | new
      · exact older old
      · -- what is handed out now is an end of the link that is added
        have named := (mem_of_node? there).2
        have next := nextInterface_of_node? there
        refine ⟨l, List.mem_append_right _ (List.mem_singleton_self l), ?_⟩
        rw [List.mem_singleton.mp new, ← next]
        rcases mine with rfl | rfl <;> simp [l, Link.ends, named]
    next => exact older handed
  | @removed other n present =>
    refine ⟨[], by simp, ⟨fun m found i handed => ?_⟩⟩
    have out : p.removeNode other =
        .ok (n, { p with nodes := p.nodes.filter (·.name != other) }) := by
      simp [removeNode, present]
    rw [node?_removeNode out name] at found
    split at found
    next => cases found
    next => simpa using renewed.interfaces m found i handed

theorem renewed_after_removal {p q : Plan} {name : String} {n : Node}
    (removed : p.removeNode name = .ok (n, q)) (ops : List Operation) :
    ∃ newer, (q.performAll ops).links = q.links ++ newer ∧
      (q.performAll ops).Renewed name newer := by
  have absent : q.node? name = none := by
    rw [node?_removeNode removed, if_pos rfl]
  refine performAll_induction
    (P := fun r => ∃ newer, r.links = q.links ++ newer ∧ r.Renewed name newer) ?_ ops ?_
  · exact ⟨[], by simp, ⟨fun m found => by rw [absent] at found; cases found⟩⟩
  · rintro r op r' _ changed ⟨newer, links, renewed⟩
    obtain ⟨more, grown, renewed'⟩ := renewed.change changed
    exact ⟨newer ++ more, by rw [grown, links, List.append_assoc], renewed'⟩

theorem Built.removeNode {p q : Plan} {name : String} {n : Node} (built : p.Built)
    (removed : p.removeNode name = .ok (n, q)) : q.Built ∧ q.links = p.links := by
  have performed : p.perform (.removeNode name) = q := by
    simp [perform, attempt, removed, Except.map]
  refine ⟨performed ▸ built.performed (.removeNode name), ?_⟩
  unfold Plan.removeNode at removed
  split at removed
  next => cases removed
  next =>
    cases removed
    rfl

/-- A link of a node that was taken out is an orphan just as long as the nodes that now have the
names of its ends have not handed out both their numbers. It ceases to be one only by a newer link
that has its interface at the node, and as long as it is one, the plan is refused with its name.
-/
theorem removed_link_orphaned_iff {p q : Plan} {name : String} {n : Node} {l : Link}
    (built : p.Built) (removed : p.removeNode name = .ok (n, q)) (old : l ∈ p.links)
    (touched : l.touches name = true) (ops : List Operation) :
    (l ∈ (q.performAll ops).orphanLinks ↔
      ∃ i ∈ l.ends, ¬ (q.performAll ops).HandsOut i) ∧
    (l ∉ (q.performAll ops).orphanLinks → ∃ newer,
      (q.performAll ops).links = q.links ++ newer ∧
        ∃ m ∈ newer, ∃ i ∈ l.ends, i.node = name ∧ i ∈ m.ends) ∧
    (l ∈ (q.performAll ops).orphanLinks → ∃ orphans, l.text ∈ orphans ∧
      (q.performAll ops).validate = .error (.incompleteTopology orphans) ∧
      ∀ {σ : Type} (f : Fabric σ) (s : σ),
        (q.performAll ops).materialize f s = (.error (.incompleteTopology orphans), s)) := by
  obtain ⟨built_q, kept⟩ := built.removeNode removed
  obtain ⟨newer, links, renewed⟩ := renewed_after_removal removed ops
  have still : l ∈ (q.performAll ops).links := by
    rw [links, kept]
    exact List.mem_append_left _ old
  refine ⟨?_, fun sound => ?_, refused_of_orphan⟩
  · rw [mem_orphanLinks (built_q.performAll ops), and_iff_right still]
  · obtain ⟨i, isEnd, here⟩ := Link.touches_iff.mp touched
    have owned := not_mem_orphanLinks still sound i isEnd
    unfold Plan.owned at owned
    rw [here] at owned
    cases found : (q.performAll ops).node? name with
    | none => simp [found] at owned
    | some m =>
      simp only [found, Node.owns, Bool.and_eq_true, List.contains_iff_mem] at owned
      obtain ⟨l', listed, shared⟩ := renewed.interfaces m found i owned.2
      exact ⟨newer, links, l', listed, i, isEnd, here, shared⟩

def single : Plan := Plan.empty.performAll
  [.addHost "h1", .addSwitch "s1" (.any 50051), .addLink "h1" "s1"]

theorem built_single : single.Built := Built.empty.performAll _

def singleLink : Link := ⟨⟨"h1", 0⟩, ⟨"s1", 1⟩⟩

theorem redeclared_host_leaves_orphan : ∃ n q,
    (single.Built ∧ single.removeNode "h1" = .ok (n, q) ∧ singleLink ∈ single.links ∧
      singleLink.touches "h1" = true) ∧
    singleLink ∈ (q.performAll [.addHost "h1"]).orphanLinks := by
  obtain ⟨n, q, removed⟩ : ∃ n q, single.removeNode "h1" = .ok (n, q) := ⟨_, _, rfl⟩
  have old : singleLink ∈ single.links := by decide
  have touched : singleLink.touches "h1" = true := by decide
  have orphaned := removed_link_orphaned_iff built_single removed old touched [.addHost "h1"]
  refine ⟨n, q, ⟨built_single, removed, old, touched⟩, orphaned.1.mpr ⟨⟨"h1", 0⟩, by decide, ?_⟩⟩
  cases removed
  rintro ⟨m, found, k, less, _⟩
  have bare : m = .host "h1" := Option.some.inj (found.symm.trans rfl)
  rw [bare] at less
  exact absurd less (Nat.not_lt_zero k)

/-- Once the host is declared and linked again, the old link is no orphan any more. -/
theorem relinked_host_hides_orphan :
    ¬ ∀ (p q : Plan) (name : String) (n : Node) (l : Link) (ops : List Operation), p.Built →
      p.removeNode name = .ok (n, q) → l ∈ p.links → l.touches name = true →
      l ∈ (q.performAll ops).orphanLinks := by
  intro claimed
  have orphan := claimed single _ "h1" _ singleLink [.addHost "h1", .addLink "h1" "s1"] built_single
    rfl (by decide) (by decide)
  exact absurd orphan (by decide)

end Testbed.Plan
