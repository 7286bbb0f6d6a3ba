import Testbed.Plan.Node
import Testbed.Proofs.Numeral

namespace Testbed

theorem split_at_last {c : Char} {l l' r r' : List Char} (last : c ∉ r) (last' : c ∉ r')
    (same : l ++ c :: r = l' ++ c :: r') : l = l' ∧ r = r' := by
  rcases List.append_eq_append_iff.mp same with ⟨x, rfl, rest⟩ | ⟨x, rfl, rest⟩
  · cases x with
    | nil => simpa using rest
    | cons d x =>
      rw [List.cons_append, List.cons.injEq] at rest
      exact absurd (rest.2 ▸ List.mem_append_right x List.mem_cons_self) last
  · cases x with
    | nil => simpa [eq_comm] using rest
    | cons d x =>
      rw [List.cons_append, List.cons.injEq] at rest
      exact absurd (rest.2 ▸ List.mem_append_right x List.mem_cons_self) last'

theorem toList_interfaceName (node : String) (ordinal : UInt32) :
    (interfaceName node ordinal).toList =
      node.toList ++ '-' :: ("eth".toList ++ (toString ordinal.toNat).toList) := by
  simp [interfaceName]

theorem interfaceName_injective {a b : String} {i j : UInt32}
    (same : interfaceName a i = interfaceName b j) : a = b ∧ i = j := by
  have no_dash (k : UInt32) : '-' ∉ "eth".toList ++ (toString k.toNat).toList := by
    intro member
    rcases List.mem_append.mp member with fixed | digit
    · exact absurd fixed (by decide)
    · exact absurd (isDigit_of_mem_toString digit) (by decide)
  have chars := congrArg String.toList same
  rw [toList_interfaceName, toList_interfaceName] at chars
  obtain ⟨nodes, tails⟩ := split_at_last (no_dash i) (no_dash j) chars
  have numbers : (toString i.toNat).toList = (toString j.toNat).toList :=
    List.append_cancel_left tails
  exact ⟨String.toList_inj.mp nodes, UInt32.toNat_inj.mp (toString_injective numbers)⟩

theorem Interface.name_injective {i j : Interface} (same : i.name = j.name) : i = j := by
  obtain ⟨node, ordinal⟩ := interfaceName_injective same
  cases i
  cases j
  cases node
  cases ordinal
  rfl

theorem utf8ByteSize_interfaceName_le {node : String} {i j : UInt32} (le : i ≤ j) :
    (interfaceName node i).utf8ByteSize ≤ (interfaceName node j).utf8ByteSize := by
  rw [interfaceName, interfaceName, String.utf8ByteSize_append,
    String.utf8ByteSize_append (s := node ++ "-eth")]
  exact Nat.add_le_add_left (utf8ByteSize_toString_le (UInt32.le_iff_toNat_le.mp le)) _

theorem mem_interfaceName {c : Char} {i : Interface} (member : c ∈ i.name.toList) :
    c ∈ i.node.toList ∨ c ∈ "-eth".toList ∨ c.isDigit = true := by
  rw [Interface.name, toList_interfaceName] at member
  rcases List.mem_append.mp member with node | rest
  · exact .inl node
  · rcases List.mem_cons.mp rest with rfl | rest
    · exact .inr (.inl (by decide))
    · rcases List.mem_append.mp rest with fixed | digit
      · exact .inr (.inl (List.mem_cons_of_mem '-' fixed))
      · exact .inr (.inr (isDigit_of_mem_toString digit))

end Testbed
