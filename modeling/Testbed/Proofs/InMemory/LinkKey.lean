import Mathlib.Data.String.Basic
import Testbed.Fabric.InMemory
import Testbed.Proofs.Plan.Ends
import Testbed.Proofs.Plan.InterfaceName

namespace Testbed

theorem length_le_utf8ByteSize (s : String) : s.toList.length ≤ s.utf8ByteSize := by
  rw [← String.utf8Len_toList]
  generalize s.toList = chars
  induction chars with
  | nil => exact Nat.zero_le _
  | cons c rest ih =>
    have one := Char.utf8Size_pos c
    rw [List.length_cons, String.utf8Len_cons]
    omega

namespace InMemory

def arrow : List Char := " <-> ".toList

theorem no_digit {c : Char} (member : c ∈ arrow) : c.isDigit = false := by
  have letters : arrow = [' ', '<', '-', '>', ' '] := rfl
  simp only [letters, List.mem_cons, List.not_mem_nil, or_false] at member
  rcases member with rfl | rfl | rfl | rfl | rfl <;> rfl

/-- The letters of an interface's name. -/
structure Labels (label node number : List Char) : Prop where
  parts : label = node ++ ("-eth".toList ++ number)
  some_node : node ≠ []
  some_digit : number ≠ []
  digits : ∀ c ∈ number, c.isDigit = true
  short : label.length ≤ maxInterfaceNameLength

variable {x y x' y' node node' number number' : List Char}

theorem labels_name {i : Interface} (named : i.node ≠ "")
    (short : i.name.utf8ByteSize ≤ maxInterfaceNameLength) :
    Labels i.name.toList i.node.toList (toString i.ordinal.toNat).toList where
  parts := toList_interfaceName i.node i.ordinal
  some_node := fun none => named (String.toList_eq_nil_iff.mp none)
  some_digit := toString_ne_nil _
  digits := fun _ member => isDigit_of_mem_toString member
  short := (length_le_utf8ByteSize _).trans short

theorem Labels.length (labels : Labels x node number) : 6 ≤ x.length := by
  have one := List.length_pos_iff.mpr labels.some_node
  have one' := List.length_pos_iff.mpr labels.some_digit
  rw [labels.parts, List.length_append, List.length_append]
  have four : "-eth".toList.length = 4 := rfl
  omega

theorem Labels.last (labels : Labels x node number) {front : List Char} {c : Char}
    (last : x = front ++ [c]) : c.isDigit = true := by
  rcases List.eq_nil_or_concat number with none | ⟨digits, k, rfl⟩
  · exact absurd none labels.some_digit
  · have same : node ++ ("-eth".toList ++ digits) ++ [k] = front ++ [c] := by
      rw [← last, labels.parts, List.append_assoc, List.append_assoc, List.concat_eq_append]
    have final : [k] = [c] := (List.append_inj' same rfl).2
    rw [← List.singleton_inj.mp final]
    exact labels.digits k (by simp)

theorem Labels.no_blank (labels : Labels x node number) : ' ' ∉ "-eth".toList ++ number := by
  intro member
  rcases List.mem_append.mp member with fixed | digit
  · exact absurd fixed (by decide)
  · exact absurd (labels.digits _ digit) (by decide)

theorem Labels.no_longer {u rest : List Char} (labels : Labels x node number)
    (longer : Labels (x ++ u) node' number') (same : arrow ++ y = u ++ rest) : u = [] := by
  rcases List.append_eq_append_iff.mp same with ⟨z, rfl, _⟩ | ⟨z, inside, _⟩
  · -- after the arrow there is no room for a number with the letters before it
    have parts : x ++ arrow ++ z = node' ++ ("-eth".toList ++ number') := by
      rw [List.append_assoc, longer.parts]
    have six := labels.length
    have five : arrow.length = 5 := rfl
    have short := longer.short
    have digit := List.length_pos_iff.mpr longer.some_digit
    have lengths := congrArg List.length parts
    have four : "-eth".toList.length = 4 := rfl
    simp only [List.length_append, maxInterfaceNameLength] at short lengths
    rcases List.append_eq_append_iff.mp parts with ⟨v, _, tail⟩ | ⟨v, front, tail⟩
    · have lengths' := congrArg List.length tail
      simp only [List.length_append] at lengths'
      omega
    · rcases List.eq_nil_or_concat v with rfl | ⟨v, c, rfl⟩
      · have lengths' := congrArg List.length tail
        simp only [List.length_append, List.length_nil] at lengths'
        omega
      · rw [List.concat_eq_append] at front tail
        have ends : x ++ " <->".toList ++ [' '] = node' ++ v ++ [c] := by
          rw [List.append_assoc, List.append_assoc, ← front]
          rfl
        have final : [' '] = [c] := (List.append_inj' ends rfl).2
        refine absurd ?_ longer.no_blank
        rw [tail, List.singleton_inj.mp final]
        simp
  · rcases List.eq_nil_or_concat u with none | ⟨u, c, rfl⟩
    · exact none
    · have last : x ++ u.concat c = x ++ u ++ [c] := by simp
      have digit := longer.last last
      have member : c ∈ arrow := by simp [inside]
      rw [no_digit member] at digit
      cases digit

theorem Labels.split_arrow (labels : Labels x node number) (labels' : Labels x' node' number')
    (same : x ++ (arrow ++ y) = x' ++ (arrow ++ y')) : x = x' ∧ y = y' := by
  have first : x = x' := by
    rcases List.append_eq_append_iff.mp same with ⟨u, rfl, rest⟩ | ⟨u, rfl, rest⟩
    · rw [labels.no_longer labels' rest, List.append_nil]
    · rw [labels'.no_longer labels rest, List.append_nil]
  rw [first] at same
  exact ⟨first, List.append_cancel_left (List.append_cancel_left same)⟩

theorem linkKey_cases (l : Link) :
    linkKey l = l.a.name ++ " <-> " ++ l.b.name ∨ linkKey l = l.b.name ++ " <-> " ++ l.a.name := by
  simp only [linkKey, sortNames, sortBy, List.foldr, insertSorted]
  split
  · exact .inr rfl
  · exact .inl rfl

theorem same_of_linkKey {l m : Link}
    (short : ∀ i ∈ l.ends, i.name.utf8ByteSize ≤ maxInterfaceNameLength)
    (short' : ∀ i ∈ m.ends, i.name.utf8ByteSize ≤ maxInterfaceNameLength)
    (named : ∀ i ∈ l.ends, i.node ≠ "") (named' : ∀ i ∈ m.ends, i.node ≠ "")
    (keys : linkKey l = linkKey m) : l.same m = true := by
  have apart {i j i' j' : Interface} (first : i ∈ l.ends) (first' : i' ∈ m.ends)
      (same : i.name ++ " <-> " ++ j.name = i'.name ++ " <-> " ++ j'.name) : i = i' ∧ j = j' := by
    have chars := congrArg String.toList same
    simp only [String.toList_append, List.append_assoc] at chars
    obtain ⟨one, two⟩ := (labels_name (named i first) (short i first)).split_arrow
      (labels_name (named' i' first') (short' i' first')) chars
    exact ⟨Interface.name_injective (String.toList_inj.mp one),
      Interface.name_injective (String.toList_inj.mp two)⟩
  have a : l.a ∈ l.ends := by simp [Link.ends]
  have b : l.b ∈ l.ends := by simp [Link.ends]
  have a' : m.a ∈ m.ends := by simp [Link.ends]
  have b' : m.b ∈ m.ends := by simp [Link.ends]
  unfold Link.same
  rcases linkKey_cases l with key | key <;> rcases linkKey_cases m with key' | key'
  · obtain ⟨one, two⟩ := apart a a' (key.symm.trans (keys.trans key'))
    simp [one, two]
  · obtain ⟨one, two⟩ := apart a b' (key.symm.trans (keys.trans key'))
    simp [one, two]
  · obtain ⟨one, two⟩ := apart b a' (key.symm.trans (keys.trans key'))
    simp [one, two]
  · obtain ⟨one, two⟩ := apart b b' (key.symm.trans (keys.trans key'))
    simp [one, two]

theorem linkKey_swap (l : Link) : linkKey ⟨l.b, l.a⟩ = linkKey l := by
  simp only [linkKey, sortNames, sortBy, List.foldr, insertSorted, decide_eq_true_eq]
  split
  · next less =>
    rw [if_neg (String.lt_asymm less)]
  · next more =>
    split
    · rfl
    · next more' =>
      rw [String.le_antisymm more more']

theorem linkKey_of_same {l m : Link} (same : l.same m = true) : linkKey l = linkKey m := by
  simp only [Link.same, Bool.or_eq_true, Bool.and_eq_true, beq_iff_eq] at same
  obtain ⟨a, b⟩ := l
  rcases same with ⟨rfl, rfl⟩ | ⟨rfl, rfl⟩
  · rfl
  · exact linkKey_swap m

/-- The name of an interface says which one it is, and the key of a link which two it joins, as
long as no node has an empty name. -/
theorem derived_names_identify :
    (∀ m n i j, interfaceName m i = interfaceName n j ↔ m = n ∧ i = j) ∧
    ∀ l m : Link, (∀ i ∈ l.ends ++ m.ends, i.Allocated ∧ i.node ≠ "") →
      (∀ i ∈ l.ends ++ m.ends, i.name.utf8ByteSize ≤ 15) ∧
      (linkKey l = linkKey m ↔ l.same m = true) := by
  refine ⟨fun m n i j => ⟨interfaceName_injective, ?_⟩, fun l m ends => ?_⟩
  · rintro ⟨rfl, rfl⟩
    rfl
  · have short (i : Interface) (isEnd : i ∈ l.ends ++ m.ends) :
        i.name.utf8ByteSize ≤ maxInterfaceNameLength := (ends i isEnd).1.short
    obtain ⟨first, second⟩ := List.forall_mem_append.mp ends
    obtain ⟨shortFirst, shortSecond⟩ := List.forall_mem_append.mp short
    refine ⟨short, fun keys => ?_, linkKey_of_same⟩
    exact same_of_linkKey shortFirst shortSecond (fun i isEnd => (first i isEnd).2)
      (fun i isEnd => (second i isEnd).2) keys

-- With an empty name the first arrow of a key can be the one of a name.
example :
    let l : Link := ⟨⟨"", 0⟩, ⟨"-eth1 <-> ", 2⟩⟩
    let m : Link := ⟨⟨"-eth0 <-> ", 1⟩, ⟨"", 2⟩⟩
    linkKey l = linkKey m ∧ l.same m = false := by decide

theorem arrows_told_apart :
    let l : Link := ⟨⟨"a <-> b", 0⟩, ⟨"c", 0⟩⟩
    let m : Link := ⟨⟨"a", 0⟩, ⟨"b <-> c", 0⟩⟩
    linkKey l ≠ linkKey m ∧ linkKey l = linkKey ⟨l.b, l.a⟩ := by
  intro l m
  let nodes : Plan := Plan.empty.performAll
    [.addHost "a <-> b", .addHost "c", .addHost "a", .addHost "b <-> c"]
  have added : nodes.addLink "a <-> b" "c" = .ok (l, nodes.linked "a <-> b" "c") := rfl
  have added' : nodes.addLink "a" "b <-> c" = .ok (m, nodes.linked "a" "b <-> c") := rfl
  have swapped : nodes.addLink "c" "a <-> b" = .ok (⟨l.b, l.a⟩, nodes.linked "c" "a <-> b") := rfl
  have usable {x : Link} {a b : String} {q : Plan} (added : nodes.addLink a b = .ok (x, q))
      (named : ∀ i ∈ x.ends, i.node ≠ "") : ∀ i ∈ x.ends, i.Allocated ∧ i.node ≠ "" :=
    fun i isEnd => ⟨⟨nodes, a, b, x, q, added, isEnd⟩, named i isEnd⟩
  have first := usable added (by decide)
  have second := usable added' (by decide)
  have turned := usable swapped (by decide)
  have keys := derived_names_identify.2 l m (List.forall_mem_append.mpr ⟨first, second⟩)
  have same := derived_names_identify.2 l ⟨l.b, l.a⟩ (List.forall_mem_append.mpr ⟨first, turned⟩)
  refine ⟨fun equal => ?_, same.2.mpr rfl⟩
  cases keys.2.mp equal

end InMemory

end Testbed
