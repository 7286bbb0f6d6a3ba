import Testbed.Fabric.Namespaces
import Testbed.Proofs.Host.Network
import Testbed.Proofs.Host.Reading

namespace Testbed.Namespaces

open Host

def laying (a b : String) (nsA nsB : Option String) : List Command :=
  .addPair a b :: placement a nsA ++ placement b nsB

theorem heard_placement (interface : String) (ns : Option String) :
    (placement interface ns).map Command.heard = placement (bare interface) (ns.map bare) := by
  cases ns <;> rfl

theorem heard_laying (a b : String) (nsA nsB : Option String) :
    (laying a b nsA nsB).map Command.heard =
      laying (bare a) (bare b) (nsA.map bare) (nsB.map bare) := by
  simp only [laying, List.map_append, List.map_cons, heard_placement]
  rfl

def settled (ns : Option String) (e : PairEnd) : PairEnd := { e with place := ns, isUp := true }

def moved (ns : String) (e : PairEnd) : PairEnd := { e with place := some ns, isUp := false }

/-- An interface can be placed if it is in the root namespace, and if the one where it belongs is
there and has none of its name. -/
def placeable (n : Network) (interface : String) (ns : Option String) : Bool :=
  n.holds none interface &&
    ns.all fun ns => n.namespaces.contains ns && !n.holds (some ns) interface

theorem moved_arrives {interface ns : String} {e : PairEnd}
    (there : Network.isAt none interface e = true) :
    Network.isAt (some ns) interface (moved ns e) = true := by
  have named : e.name = interface := congrArg Prod.snd (Network.isAt_iff.mp there)
  exact Network.isAt_iff.mpr (by rw [PairEnd.key, moved, named])

theorem raise_moved {n : Network} {interface ns : String} (proper : interface ≠ Network.loopback)
    (there : n.holds none interface = true) (known : n.namespaces.contains ns = true)
    (free : n.holds (some ns) interface = false) :
    (n.change none interface (moved ns)).raise (some ns) interface =
      some (n.change none interface (settled (some ns))) := by
  have known' : (n.change none interface (moved ns)).hasPlace (some ns) = true := known
  have here : (n.change none interface (moved ns)).holds (some ns) interface = true := by
    obtain ⟨e, member, key⟩ := Network.holds_iff.mp there
    have isAt := Network.isAt_iff.mpr key
    refine Network.holds_iff.mpr ⟨moved ns e, ?_, Network.isAt_iff.mp (moved_arrives isAt)⟩
    rw [Network.ends_change]
    exact List.mem_map.mpr ⟨e, member, if_pos isAt⟩
  unfold Network.raise
  rw [known', here, Network.change_change (fun _ => moved_arrives) free]
  simp only [Bool.not_true, Bool.false_eq_true, if_false, beq_iff_eq, if_neg proper, if_true]
  rfl

theorem applyAll_placement {n : Network} {interface : String} {ns : Option String}
    (proper : interface ≠ Network.loopback) :
    n.applyAll (placement interface ns) =
      if placeable n interface ns then some (n.change none interface (settled ns)) else none := by
  cases ns with
  | none =>
    have raised : n.change none interface (fun e => { e with isUp := true }) =
        n.change none interface (settled none) := by
      refine Network.change_congr fun e here => ?_
      have place : e.place = none := congrArg Prod.fst (Network.isAt_iff.mp here)
      rw [settled, ← place]
    simp [placement, placeable, Network.apply, Network.raise, Network.hasPlace, proper, raised]
  | some ns =>
    have step : n.applyAll (placement interface (some ns)) =
        (n.moveToNamespace interface ns).bind fun m => (m.raise (some ns) interface).bind some :=
          rfl
    rw [step, Network.moveToNamespace, placeable, Option.all_some, ← Bool.and_assoc]
    split
    next allowed =>
      simp only [Bool.and_eq_true, Bool.not_eq_true'] at allowed
      obtain ⟨⟨there, known⟩, free⟩ := allowed
      simp only [Option.bind_some]
      exact congrArg (Option.bind · some) (raise_moved proper there known free)
    next => rfl

theorem placement_begun {n n' : Network} {interface : String} {ns : Option String}
    {begun rest : List Command} {c : Command} (split : placement interface ns = begun ++ c :: rest)
    (applied : n.applyAll begun = some n') :
    (begun = [] ∧ n' = n) ∨
    ∃ s, ns = some s ∧ begun = [.moveToNamespace interface s] ∧
      n' = n.change none interface (moved s) := by
  cases begun with
  | nil =>
    cases applied
    exact .inl ⟨rfl, rfl⟩
  | cons d more =>
    cases ns with
    | none => simp [placement] at split
    | some s =>
      simp only [placement, Option.toList_some, List.map_cons, List.map_nil,
        List.cons_append, List.cons.injEq] at split
      obtain ⟨rfl, others⟩ := split
      have none_more : more = [] := by
        cases more with
        | nil => rfl
        | cons => simp at others
      subst none_more
      have moving : n.moveToNamespace interface s = some n' := by
        simpa [Network.apply] using applied
      unfold Network.moveToNamespace at moving
      obtain ⟨_, ⟨⟩⟩ := Option.ite_none_right_eq_some.mp moving
      exact .inr ⟨s, rfl, rfl, rfl⟩

def withPair (n : Network) (a b : PairEnd) : Network := n.plus ⟨[], [(a, b)]⟩

theorem change_withPair {n : Network} {place : Option String} {name : String}
    (absent : n.holds place name = false) (a b : PairEnd) (f : PairEnd → PairEnd) :
    (withPair n a b).change place name f =
      withPair n (Network.changeEnd place name f a) (Network.changeEnd place name f b) := by
  rw [withPair, Network.change_plus, Network.change_of_not_holds absent]
  rfl

theorem ends_withPair (n : Network) (a b : PairEnd) : (withPair n a b).ends = n.ends ++ [a, b] :=
  Network.ends_plus n ⟨[], [(a, b)]⟩

theorem holds_withPair (n : Network) (a b : PairEnd) (place : Option String) (name : String) :
    (withPair n a b).holds place name =
      (n.holds place name || (Network.isAt place name a || Network.isAt place name b)) := by
  simp [Network.holds, ends_withPair]

@[simp]
theorem namespaces_withPair (n : Network) (a b : PairEnd) :
    (withPair n a b).namespaces = n.namespaces :=
  List.append_nil _

theorem addPair_cases {n n' : Network} {a b : String} (added : n.addPair a b = some n') :
    a ≠ b ∧ n.holds none a = false ∧ n.holds none b = false ∧
      n' = withPair n ⟨a, none, false⟩ ⟨b, none, false⟩ := by
  unfold Network.addPair at added
  obtain ⟨allowed, ⟨⟩⟩ := Option.ite_none_left_eq_some.mp added
  simp only [Bool.or_eq_true, beq_iff_eq, not_or, Bool.not_eq_true] at allowed
  exact ⟨allowed.1.1, allowed.1.2, allowed.2, by simp [withPair, Network.plus]⟩

section Laying

variable {n n' : Network} {a b : String} {nsA nsB : Option String}

theorem settle_first (other : a ≠ b) (absent : n.holds none a = false) :
    (withPair n ⟨a, none, false⟩ ⟨b, none, false⟩).change none a (settled nsA) =
      withPair n ⟨a, nsA, true⟩ ⟨b, none, false⟩ := by
  rw [change_withPair absent]
  simp [Network.changeEnd, Network.isAt, settled, other.symm]

theorem settle_second (other : a ≠ b) (absent : n.holds none b = false) :
    (withPair n ⟨a, nsA, true⟩ ⟨b, none, false⟩).change none b (settled nsB) =
      withPair n ⟨a, nsA, true⟩ ⟨b, nsB, true⟩ := by
  rw [change_withPair absent]
  simp [Network.changeEnd, Network.isAt, settled, other]

theorem applyAll_laying (properA : a ≠ Network.loopback) (properB : b ≠ Network.loopback)
    (applied : n.applyAll (laying a b nsA nsB) = some n') :
    n' = withPair n ⟨a, nsA, true⟩ ⟨b, nsB, true⟩ := by
  rw [laying, List.cons_append, Network.applyAll_cons] at applied
  obtain ⟨m, added, placed⟩ := Option.bind_eq_some_iff.mp applied
  obtain ⟨other, freeA, freeB, rfl⟩ := addPair_cases added
  rw [Network.applyAll_append, applyAll_placement properA] at placed
  obtain ⟨m, first, second⟩ := Option.bind_eq_some_iff.mp placed
  obtain ⟨_, ⟨⟩⟩ := Option.ite_none_right_eq_some.mp first
  rw [settle_first other freeA, applyAll_placement properB] at second
  obtain ⟨_, ⟨⟩⟩ := Option.ite_none_right_eq_some.mp second
  exact settle_second other freeB

def isMove : Command → Bool
  | .moveToNamespace .. => true
  | _ => false

/-- What the commands before the one that fails have come to. -/
inductive Begun (n : Network) (a b : String) (nsA nsB : Option String) (begun : List Command) :
    Network → Prop
  | nothing (unlaid : begun = []) : Begun n a b nsA nsB begun n
  | unmoved {up} (laid : begun ≠ []) (still : begun.any isMove = false) :
      Begun n a b nsA nsB begun (withPair n ⟨a, none, up⟩ ⟨b, none, false⟩)
  | moved {ea eb s} (away : begun.any isMove = true) (belongs : s ∈ nsA.toList ++ nsB.toList)
      (there : ea.place = some s ∨ eb.place = some s) :
      Begun n a b nsA nsB begun (withPair n ea eb)

theorem begun_half (begun : List Command) (same : begun = .addPair a b :: placement a nsA) :
    Begun n a b nsA nsB begun (withPair n ⟨a, nsA, true⟩ ⟨b, none, false⟩) := by
  subst same
  cases nsA with
  | none => exact .unmoved (by simp) (by simp [placement, isMove])
  | some s => exact .moved (s := s) (by simp [placement, isMove]) (by simp) (.inl rfl)

theorem laying_begun {begun rest : List Command} {c : Command}
    (properA : a ≠ Network.loopback) (split : laying a b nsA nsB = begun ++ c :: rest)
    (applied : n.applyAll begun = some n') : Begun n a b nsA nsB begun n' := by
  cases begun with
  | nil =>
    cases applied
    exact .nothing rfl
  | cons d more =>
    rw [laying, List.cons_append, List.cons_append, List.cons.injEq] at split
    obtain ⟨rfl, split⟩ := split
    rw [Network.applyAll_cons] at applied
    obtain ⟨m, added, placed⟩ := Option.bind_eq_some_iff.mp applied
    obtain ⟨other, freeA, freeB, rfl⟩ := addPair_cases added
    -- the failure is in the placement of the second end or in that of the first
    have halves : (∃ x, more = placement a nsA ++ x ∧ placement b nsB = x ++ c :: rest) ∨
        ∃ x, placement a nsA = more ++ c :: x := by
      rcases List.append_eq_append_iff.mp split with second | ⟨x, first, tail⟩
      · exact .inl second
      · cases x with
        | nil => exact .inl ⟨[], by simpa using first.symm, tail.symm⟩
        | cons d x =>
          rw [List.cons_append, List.cons.injEq] at tail
          exact .inr ⟨x, tail.1 ▸ first⟩
    rcases halves with ⟨x, rfl, tail⟩ | ⟨x, first⟩
    · rw [Network.applyAll_append, applyAll_placement properA] at placed
      obtain ⟨m, first, second⟩ := Option.bind_eq_some_iff.mp placed
      obtain ⟨_, ⟨⟩⟩ := Option.ite_none_right_eq_some.mp first
      rw [settle_first other freeA] at second
      rcases placement_begun tail second with ⟨rfl, rfl⟩ | ⟨s, rfl, rfl, rfl⟩
      · exact begun_half _ (by rw [List.append_nil])
      · rw [change_withPair freeB]
        refine .moved (s := s) (by simp [isMove]) (by simp) (.inr ?_)
        simp [Network.changeEnd, Network.isAt, moved]
    · rcases placement_begun first placed with ⟨rfl, rfl⟩ | ⟨s, rfl, rfl, rfl⟩
      · exact .unmoved (by simp) (by simp [isMove])
      · rw [change_withPair freeA]
        refine .moved (s := s) (by simp [isMove]) (by simp) (.inl ?_)
        simp [Network.changeEnd, Network.isAt, moved]

theorem applyAll_laying_some (properA : a ≠ Network.loopback) (properB : b ≠ Network.loopback)
    (other : a ≠ b) (free : ∀ e ∈ n.ends, e.name ≠ a ∧ e.name ≠ b)
    (known : ∀ ns ∈ nsA.toList ++ nsB.toList, ns ∈ n.namespaces) :
    n.applyAll (laying a b nsA nsB) = some (withPair n ⟨a, nsA, true⟩ ⟨b, nsB, true⟩) := by
  have freeA (place : Option String) : n.holds place a = false :=
    Network.not_holds_iff.mpr fun e member key => (free e member).1 (congrArg Prod.snd key)
  have freeB (place : Option String) : n.holds place b = false :=
    Network.not_holds_iff.mpr fun e member key => (free e member).2 (congrArg Prod.snd key)
  have added : n.addPair a b = some (withPair n ⟨a, none, false⟩ ⟨b, none, false⟩) := by
    simp [Network.addPair, freeA, freeB, other, withPair, Network.plus]
  have placeA : placeable (withPair n ⟨a, none, false⟩ ⟨b, none, false⟩) a nsA = true := by
    cases nsA with
    | none => simp [placeable, holds_withPair, Network.isAt]
    | some ns =>
      have there : ns ∈ n.namespaces := known ns (by simp)
      simp [placeable, holds_withPair, Network.isAt, freeA, namespaces_withPair, there]
  have placeB : placeable (withPair n ⟨a, nsA, true⟩ ⟨b, none, false⟩) b nsB = true := by
    cases nsB with
    | none => simp [placeable, holds_withPair, Network.isAt]
    | some ns =>
      have there : ns ∈ n.namespaces := known ns (by simp)
      simp [placeable, holds_withPair, Network.isAt, freeB, namespaces_withPair, there, other]
  calc n.applyAll (laying a b nsA nsB)
      = (withPair n ⟨a, none, false⟩ ⟨b, none, false⟩).applyAll
          (placement a nsA ++ placement b nsB) := by
        rw [laying, List.cons_append, Network.applyAll_cons, Network.apply, added, Option.bind_some]
    _ = (withPair n ⟨a, nsA, true⟩ ⟨b, none, false⟩).applyAll (placement b nsB) := by
        rw [Network.applyAll_append, applyAll_placement properA, placeA, if_pos rfl,
          settle_first other (freeA none), Option.bind_some]
    _ = some (withPair n ⟨a, nsA, true⟩ ⟨b, nsB, true⟩) := by
        rw [applyAll_placement properB, placeB, if_pos rfl, settle_second other (freeB none)]

end Laying

end Testbed.Namespaces
