import Testbed.Proofs.Plan.Built
import Testbed.Proofs.Plan.Refusal

namespace Testbed

theorem Node.interfaceAt_injective {n : Node} {j k : Nat} (less : j < 4294967296)
    (less' : k < 4294967296) (same : n.interfaceAt j = n.interfaceAt k) : j = k := by
  have ordinals : UInt32.ofNat j = UInt32.ofNat k :=
    UInt32.add_right_inj _ |>.mp (congrArg Interface.ordinal same)
  have values := congrArg UInt32.toNat ordinals
  rw [UInt32.toNat_ofNat', UInt32.toNat_ofNat'] at values
  omega

namespace Node

theorem firstOrdinal_le (n : Node) : n.kind.firstOrdinal.toNat ≤ 1 := by
  unfold NodeKind.firstOrdinal
  split <;> decide

theorem toNat_interfaceAt (n : Node) {k : Nat} (few : k < 4294967295) :
    (n.interfaceAt k).ordinal.toNat = n.kind.firstOrdinal.toNat + k := by
  have start := n.firstOrdinal_le
  rw [interfaceAt, UInt32.toNat_add, UInt32.toNat_ofNat']
  omega

end Node

namespace Link

structure Proper (l : Link) : Prop where
  apart : l.a.node ≠ l.b.node
  short : ∀ i ∈ l.ends, i.name.utf8ByteSize ≤ maxInterfaceNameLength

theorem length_ends_at {links : List Link} (proper : ∀ l ∈ links, l.Proper) (name : String) :
    ((links.flatMap Link.ends).filter (·.node == name)).length =
      (links.filter (·.touches name)).length := by
  induction links with
  | nil => rfl
  | cons l rest ih =>
    have others := ih fun l' member => proper l' (List.mem_cons_of_mem _ member)
    have differ := (proper l List.mem_cons_self).apart
    rw [List.flatMap_cons, List.filter_append, List.length_append, others]
    by_cases first : l.a.node = name
    · have second : l.b.node ≠ name := fun same => differ (first.trans same.symm)
      simp [Link.ends, Link.touches, first, second]
      omega
    · by_cases second : l.b.node = name
      · simp [Link.ends, Link.touches, first, second]
        omega
      · simp [Link.ends, Link.touches, first, second]

end Link

namespace Plan

def ends (p : Plan) : List Interface := p.links.flatMap Link.ends

theorem mem_ends {p : Plan} {i : Interface} : i ∈ p.ends ↔ ∃ l ∈ p.links, i ∈ l.ends :=
  List.mem_flatMap

def joint (p : Plan) (a b : String) : Link := ⟨p.nextInterface a, p.nextInterface b⟩

@[simp]
theorem links_linked (p : Plan) (a b : String) :
    (p.linked a b).links = p.links ++ [p.joint a b] := rfl

theorem ends_linked (p : Plan) (a b : String) :
    (p.linked a b).ends = p.ends ++ (p.joint a b).ends := by
  simp [ends]

theorem nextInterface_node (p : Plan) (name : String) : (p.nextInterface name).node = name := by
  unfold nextInterface
  cases found : p.node? name with
  | none => rfl
  | some n => exact (mem_of_node? found).2

theorem mem_ends_joint {p : Plan} {a b : String} {i : Interface} (member : i ∈ (p.joint a b).ends) :
    i.node = a ∨ i.node = b := by
  simp only [joint, Link.ends, List.mem_cons, List.not_mem_nil, or_false] at member
  rcases member with rfl | rfl
  · exact .inl (p.nextInterface_node a)
  · exact .inr (p.nextInterface_node b)

theorem Built.nextInterface_of_mem {p : Plan} (built : p.Built) {n : Node} (member : n ∈ p.nodes) :
    p.nextInterface n.name = n.nextInterface :=
  nextInterface_of_node? (built.node?_of_mem member)

theorem mem_nodes_linked {p : Plan} (built : p.Built) {a b : String} (apart : a ≠ b) {n : Node}
    (member : n ∈ (p.linked a b).nodes) : ∃ m ∈ p.nodes, n.name = m.name ∧
      n.interfaces = m.interfaces ++ (p.joint a b).ends.filter (·.node == m.name) := by
  rw [linked_nodes p apart] at member
  obtain ⟨m, listed, rfl⟩ := List.mem_map.mp member
  have next := built.nextInterface_of_mem listed
  have ends : (p.joint a b).ends.filter (·.node == m.name) =
      if m.name = a ∨ m.name = b then [m.nextInterface] else [] := by
    simp only [joint, Link.ends, List.filter_cons, nextInterface_node, beq_iff_eq, List.filter_nil]
    by_cases first : a = m.name
    · have second : b ≠ m.name := fun same => apart (first.trans same.symm)
      simp [first, second, next]
    · by_cases second : b = m.name
      · simp [Ne.symm first, first, second, next]
      · simp [Ne.symm first, first, Ne.symm second, second]
  refine ⟨m, listed, ?_, ?_⟩
  · split <;> rfl
  · rw [ends]
    split
    next => rfl
    next => exact (List.append_nil _).symm

theorem mem_of_checkEnd {p : Plan} {a b name : String} (checked : p.checkEnd a b name = .ok ()) :
    name ∈ p.names ∧ (p.nextInterface name).name.utf8ByteSize ≤ maxInterfaceNameLength := by
  obtain ⟨n, found, -, short⟩ := checkEnd_ok_iff.mp checked
  obtain ⟨listed, rfl⟩ := mem_of_node? found
  rw [nextInterface_of_node? found]
  exact ⟨List.mem_map_of_mem listed, short⟩

theorem Built.proper {p : Plan} (built : p.Built) : ∀ l ∈ p.links, l.Proper := by
  refine built.change_induction (P := fun p => ∀ l ∈ p.links, l.Proper) nofun
    (fun _ _ proper => proper) fun q op r _ changed proper => ?_
  cases changed with
  | declared => exact proper
  | @linked a b apart first second =>
    refine List.forall_mem_append.mpr ⟨proper, List.forall_mem_singleton.mpr ⟨?_, ?_⟩⟩
    · rw [nextInterface_node, nextInterface_node]
      exact apart
    · simpa [Link.ends] using ⟨(mem_of_checkEnd first).2, (mem_of_checkEnd second).2⟩
  | removed => exact proper

end Plan

/-- Some link was given the interface when it was added. -/
def Interface.Allocated (i : Interface) : Prop :=
  ∃ p a b l q, Plan.addLink p a b = .ok (l, q) ∧ i ∈ l.ends

theorem Interface.Allocated.short {i : Interface} (allocated : i.Allocated) :
    i.name.utf8ByteSize ≤ maxInterfaceNameLength := by
  obtain ⟨p, a, b, l, q, added, isEnd⟩ := allocated
  obtain ⟨-, first, second, rfl, -⟩ := Plan.addLink_cases added
  simp only [Link.ends, List.mem_cons, List.not_mem_nil, or_false] at isEnd
  rcases isEnd with rfl | rfl
  · exact (Plan.mem_of_checkEnd first).2
  · exact (Plan.mem_of_checkEnd second).2

theorem Node.Numbered.nodup {n : Node} (numbered : n.Numbered)
    (few : n.interfaces.length ≤ 4294967296) : n.interfaces.Nodup := by
  rw [numbered]
  refine List.Nodup.map_on (fun j less k less' same => ?_) List.nodup_range
  have bound := List.mem_range.mp less
  have bound' := List.mem_range.mp less'
  exact Node.interfaceAt_injective (by omega) (by omega) same

end Testbed
