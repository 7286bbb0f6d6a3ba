import Mathlib.Data.String.Basic

namespace Testbed

theorem toList_toString (n : Nat) : (toString n).toList = Nat.toDigits 10 n := Nat.toList_repr

theorem isDigit_of_mem_toString {c : Char} {n : Nat} (member : c ∈ (toString n).toList) :
    c.isDigit = true := by
  rw [toList_toString] at member
  exact Nat.isDigit_of_mem_toDigits (by decide) (by decide) member

theorem toString_ne_nil (n : Nat) : (toString n).toList ≠ [] := by
  rw [toList_toString]
  exact Nat.toDigits_ne_nil

theorem ofDigitChars_toString (n : Nat) : Nat.ofDigitChars 10 (toString n).toList 0 = n := by
  rw [toList_toString]
  exact Nat.ofDigitChars_ten_toDigits

theorem toString_injective {m n : Nat} (same : (toString m).toList = (toString n).toList) :
    m = n := by
  rw [← ofDigitChars_toString m, same, ofDigitChars_toString]

theorem utf8ByteSize_toString (n : Nat) :
    (toString n).utf8ByteSize = (Nat.toDigits 10 n).length := by
  have digits (c : Char) (member : c ∈ (toString n).toList) : c.utf8Size = 1 := by
    have digit := isDigit_of_mem_toString member
    simp only [Char.isDigit, Bool.and_eq_true, decide_eq_true_eq] at digit
    exact Char.utf8Size_eq_one_iff.mpr (UInt32.le_trans digit.2 (by decide))
  rw [← toList_toString, ← String.utf8Len_toList]
  generalize (toString n).toList = chars at digits
  induction chars with
  | nil => rfl
  | cons c rest ih =>
    obtain ⟨first, others⟩ := List.forall_mem_cons.mp digits
    rw [String.utf8Len_cons, first, ih others, List.length_cons]

theorem utf8ByteSize_toString_le {m n : Nat} (le : m ≤ n) :
    (toString m).utf8ByteSize ≤ (toString n).utf8ByteSize := by
  have base : 1 < 10 := by decide
  have below := (Nat.length_toDigits_le_iff base Nat.length_toDigits_pos).mp (Nat.le_refl
    (Nat.toDigits 10 n).length)
  rw [utf8ByteSize_toString, utf8ByteSize_toString]
  exact (Nat.length_toDigits_le_iff base Nat.length_toDigits_pos).mpr (Nat.lt_of_le_of_lt le below)

end Testbed
