import Testbed.Proofs.Plan.History
import Testbed.Proofs.Plan.InterfaceName

namespace Testbed

theorem Interface.utf8ByteSize_name (i : Interface) :
    i.name.utf8ByteSize = i.node.utf8ByteSize + 4 + (Nat.toDigits 10 i.ordinal.toNat).length := by
  rw [Interface.name, interfaceName, String.utf8ByteSize_append, String.utf8ByteSize_append,
    utf8ByteSize_toString]
  rfl

namespace Node

theorem Numbered.length_le {n : Node} (numbered : n.Numbered) {bound : Nat}
    (room : n.kind.firstOrdinal.toNat ≤ bound) (few : bound < 4294967295)
    (below : ∀ i ∈ n.interfaces, i.ordinal.toNat < bound) :
    n.kind.firstOrdinal.toNat + n.interfaces.length ≤ bound := by
  by_cases more : bound < n.kind.firstOrdinal.toNat + n.interfaces.length
  · -- Then the bound itself was handed out.
    have index : bound - n.kind.firstOrdinal.toNat < n.interfaces.length := by omega
    have member : n.interfaceAt (bound - n.kind.firstOrdinal.toNat) ∈ n.interfaces := by
      rw [numbered]
      exact List.mem_map_of_mem (List.mem_range.mpr index)
    have less := below _ member
    rw [toNat_interfaceAt n (by omega)] at less
    omega
  · omega

theorem toNat_nextOrdinal {n : Node} (few : n.interfaces.length < 4294967295) :
    n.nextOrdinal.toNat = n.kind.firstOrdinal.toNat + n.interfaces.length :=
  n.toNat_interfaceAt few

end Node

namespace Plan

variable {past : List Event} {p : Plan} {n : Node} {i : Interface}

theorem Came.mem_interfaces (came : p.Came past) (member : n ∈ p.nodes)
    (handed : i ∈ n.interfaces) : i ∈ p.ends ∧ i.node = n.name := by
  rw [came.interfaces n member] at handed
  obtain ⟨isEnd, own⟩ := List.mem_filter.mp handed
  obtain ⟨l, since, at_link⟩ := List.mem_flatMap.mp isEnd
  refine ⟨mem_ends.mpr ⟨l, ?_, at_link⟩, by simpa using own⟩
  rw [came.links]
  exact (Event.linksSince_sublist past n.name).subset since

theorem Came.digits_le (came : p.Came past) (member : n ∈ p.nodes) (handed : i ∈ n.interfaces) :
    n.name.utf8ByteSize + (Nat.toDigits 10 i.ordinal.toNat).length ≤ 11 := by
  obtain ⟨isEnd, own⟩ := came.mem_interfaces member handed
  obtain ⟨l, listed, at_link⟩ := mem_ends.mp isEnd
  have short := (came.built.proper l listed).short i at_link
  rw [i.utf8ByteSize_name, own, maxInterfaceNameLength] at short
  omega

theorem Came.size_le (came : p.Came past) (member : n ∈ p.nodes) (handed : i ∈ n.interfaces) :
    n.name.utf8ByteSize ≤ 10 := by
  have digits := came.digits_le member handed
  have positive : 0 < (Nat.toDigits 10 i.ordinal.toNat).length := Nat.length_toDigits_pos
  omega

theorem Came.ordinal_lt (came : p.Came past) (member : n ∈ p.nodes) (handed : i ∈ n.interfaces) :
    i.ordinal.toNat < 10 ^ (11 - n.name.utf8ByteSize) := by
  have digits := came.digits_le member handed
  have size := came.size_le member handed
  exact (Nat.length_toDigits_le_iff (by decide) (by omega)).mp (by omega)

theorem room_le {size : Nat} (long : 2 ≤ size) : 10 ^ (11 - size) ≤ 1000000000 := by
  have most : 11 - size ≤ 9 := by omega
  exact Nat.pow_le_pow_right (by decide) most

theorem Came.counted (came : p.Came past) (member : n ∈ p.nodes) (long : 2 ≤ n.name.utf8ByteSize) :
    n.kind.firstOrdinal.toNat + n.interfaces.length ≤ 10 ^ (11 - n.name.utf8ByteSize) := by
  have start := n.firstOrdinal_le
  have positive : 0 < 10 ^ (11 - n.name.utf8ByteSize) := Nat.pow_pos (by decide)
  have bound := room_le long
  apply (came.built.numbered n member).length_le (by omega) (by omega)
  intro i handed
  exact came.ordinal_lt member handed

/-- The numbers of interfaces are counted on without ever coming round to one that was there, if the
name of the node has two bytes or more. -/
theorem Came.ordinals_fit (came : p.Came past) (member : n ∈ p.nodes)
    (long : 2 ≤ n.name.utf8ByteSize) :
    let size := n.name.utf8ByteSize
    let given := ((Event.linksSince n.name past).flatMap Link.ends).filter (·.node == n.name)
    (∀ i ∈ n.interfaces, size + (Nat.toDigits 10 i.ordinal.toNat).length ≤ 11) ∧
    (10 < size → n.interfaces = []) ∧
    (n.kind = .host → n.interfaces.length ≤ 10 ^ (11 - size)) ∧
    (∀ spec, n.kind = .switch spec → n.interfaces.length ≤ 10 ^ (11 - size) - 1) ∧
    n.kind.firstOrdinal.toNat + n.interfaces.length < 2 ^ 32 ∧
    (UInt32.ofNat n.interfaces.length).toNat = n.interfaces.length ∧
    n.nextOrdinal.toNat = n.kind.firstOrdinal.toNat + n.interfaces.length ∧
    n.interfaces = given ∧ (given.map Interface.name).Nodup := by
  intro size given
  have counted := came.counted member long
  have bound := room_le long
  have few : n.interfaces.length < 4294967295 := by omega
  have total : n.interfaces.length ≤ 10 ^ (11 - size) := by
    apply Nat.le_trans _ counted
    omega
  have same : n.interfaces = given := came.interfaces n member
  refine ⟨fun i handed => came.digits_le member handed, fun longer => ?_, fun _ => total,
    fun spec switch => ?_, by omega, ?_, Node.toNat_nextOrdinal few, same, ?_⟩
  · refine List.eq_nil_iff_forall_not_mem.mpr fun i handed => ?_
    have size := came.size_le member handed
    omega
  · rw [switch] at counted
    apply Nat.le_sub_of_add_le'
    exact counted
  · rw [UInt32.toNat_ofNat']
    omega
  · rw [← same]
    apply ((came.built.numbered n member).nodup (by omega)).map_on
    exact fun i _ j _ => Interface.name_injective

def spine : List Operation :=
  [.addSwitch "backbone-1" (.any 50051), .addHost "h1", .addHost "h2", .addLink "h1" "backbone-1",
    .addLink "h2" "backbone-1"]

theorem spine_ordinals_fit : ∃ n ∈ (Plan.empty.performAll spine).nodes,
    n.name.utf8ByteSize = 10 ∧ n.interfaces.length = 2 ∧ n.interfaces.length ≤ 9 ∧
      n.nextOrdinal.toNat = 3 := by
  have came := Came.empty.performAll spine
  have member : Node.mk "backbone-1" (.switch ⟨.any 50051, 1, none⟩)
      [⟨"backbone-1", 1⟩, ⟨"backbone-1", 2⟩] ∈ (Plan.empty.performAll spine).nodes := by decide
  have long : 2 ≤ "backbone-1".utf8ByteSize := by decide
  obtain ⟨_, _, _, few, _, _, next, _⟩ := came.ordinals_fit member long
  exact ⟨_, member, rfl, rfl, few _ rfl, next⟩

end Plan

end Testbed
