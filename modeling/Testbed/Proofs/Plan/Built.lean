import Mathlib.Data.List.Nodup
import Testbed.Proofs.Plan.Change

namespace Testbed.Plan

inductive Built : Plan → Prop
  | empty : Built .empty
  | limited {p : Plan} (built : Built p) (limit : Nat) : Built (p.withInterfaceLimit limit)
  | performed {p : Plan} (built : Built p) (op : Operation) : Built (p.perform op)

theorem Built.performAll {p : Plan} (built : Built p) (ops : List Operation) :
    Built (p.performAll ops) := by
  induction ops generalizing p with
  | nil => exact built
  | cons op rest ih => exact ih (built.performed op)

def names (p : Plan) : List String := p.nodes.map Node.name

def switchNames (p : Plan) : List String := (p.nodes.filter fun n => !n.isHost).map Node.name

def switchPorts (p : Plan) : List UInt16 :=
  p.nodes.filterMap fun n => n.spec?.map fun spec => spec.dataPlane.port

theorem mem_switchPorts {p : Plan} {port : UInt16} : port ∈ p.switchPorts ↔
    ∃ n ∈ p.nodes, ∃ spec, n.spec? = some spec ∧ spec.dataPlane.port = port := by
  simp [switchPorts, List.mem_filterMap]

theorem mem_switchNames {p : Plan} {name : String} : name ∈ p.switchNames ↔
    ∃ n ∈ p.nodes, ∃ spec, n.spec? = some spec ∧ n.name = name := by
  simp only [switchNames, List.mem_map, List.mem_filter, and_assoc]
  refine exists_congr fun n => and_congr_right fun _ => ?_
  cases kind : n.kind <;> simp [Node.isHost, Node.spec?, kind]

theorem has_iff {p : Plan} {name : String} : p.has name = true ↔ name ∈ p.names := by
  simp [has, node?, names]

theorem not_mem_names {p : Plan} {name : String} (absent : p.node? name = none) :
    name ∉ p.names := fun listed => by
  have declared := has_iff.mpr listed
  rw [has, absent] at declared
  cases declared

theorem names_linked (p : Plan) {a b : String} (apart : a ≠ b) :
    (p.linked a b).names = p.names := by
  rw [names, names, linked_nodes p apart, List.map_map]
  refine List.map_congr_left fun n _ => ?_
  simp only [Function.comp_apply]
  split <;> rfl

theorem Built.change_induction {P : Plan → Prop} {p : Plan} (built : p.Built) (empty : P .empty)
    (limited : ∀ q limit, P q → P (q.withInterfaceLimit limit))
    (change : ∀ q op r, q.Built → Change q op r → P q → P r) : P p := by
  induction built with
  | empty => exact empty
  | limited _ limit ih => exact limited _ limit ih
  | performed built op ih =>
    unfold perform
    split
    next done => exact change _ _ _ built (attempt_change done) ih
    next => exact ih

theorem Built.nodup_names {p : Plan} (built : p.Built) : p.names.Nodup := by
  refine built.change_induction (P := fun p => p.names.Nodup) .nil (fun _ _ nodup => nodup)
    fun q op r _ changed nodup => ?_
  cases changed with
  | declared n bare absent =>
    rw [names, List.map_append, List.map_singleton, ← List.concat_eq_append]
    exact nodup.concat (not_mem_names absent)
  | linked apart =>
    rw [names_linked q apart]
    exact nodup
  | removed => exact nodup.sublist (List.filter_sublist.map Node.name)

theorem Built.nodup_switchNames {p : Plan} (built : p.Built) : p.switchNames.Nodup :=
  built.nodup_names.sublist (List.filter_sublist.map Node.name)

theorem Built.node?_of_mem {p : Plan} (built : p.Built) {n : Node} (member : n ∈ p.nodes) :
    p.node? n.name = some n := by
  cases found : p.node? n.name with
  | none =>
    have absent := List.find?_eq_none.mp found n member
    simp at absent
  | some m =>
    obtain ⟨there, same⟩ := mem_of_node? found
    rw [List.inj_on_of_nodup_map built.nodup_names there member same]

theorem Built.numbered {p : Plan} (built : p.Built) : ∀ n ∈ p.nodes, n.Numbered := by
  refine built.change_induction (P := fun p => ∀ n ∈ p.nodes, n.Numbered) nofun
    (fun _ _ numbered => numbered) fun q op r _ changed numbered => ?_
  cases changed with
  | declared n bare =>
    refine List.forall_mem_append.mpr ⟨numbered, List.forall_mem_singleton.mpr ?_⟩
    exact Node.numbered_of_bare bare
  | linked apart =>
    rw [linked_nodes q apart]
    refine List.forall_mem_map.mpr fun n member => ?_
    split
    next => exact (numbered n member).allocate
    next => exact numbered n member
  | removed => exact fun n member => numbered n (List.mem_of_mem_filter member)

def pair : Plan := Plan.empty.performAll
  [.addSwitch "s1" (.any 9001), .addSwitchSpec "s2" ⟨.any 9002, 7, some (.any 6653)⟩,
    .addHost "h1", .addLink "h1" "s1"]

theorem built_pair : pair.Built := Built.empty.performAll _

end Testbed.Plan
