import Testbed.Proofs.Plan.Store

namespace Testbed

theorem Node.Numbered.numbers {n : Node} (numbered : n.Numbered)
    (few : n.interfaces.length < 4294967295) : n.interfaces.map (·.ordinal.toNat) =
      List.range' n.kind.firstOrdinal.toNat n.interfaces.length := by
  have number (k : Nat) (less : k ∈ List.range n.interfaces.length) :
      (n.interfaceAt k).ordinal.toNat = n.kind.firstOrdinal.toNat + k := by
    have bound := List.mem_range.mp less
    exact n.toNat_interfaceAt (by omega)
  calc n.interfaces.map (·.ordinal.toNat)
      = ((List.range n.interfaces.length).map n.interfaceAt).map (·.ordinal.toNat) := by
        rw [← numbered]
    _ = (List.range n.interfaces.length).map (n.kind.firstOrdinal.toNat + ·) := by
        rw [List.map_map]
        exact List.map_congr_left number
    _ = List.range' n.kind.firstOrdinal.toNat n.interfaces.length :=
        List.range'_eq_map_range.symm

namespace Store

open Plan

variable {past : List Event} {s : Store} {p : Plan}

theorem Represents.performed (held : s.Represents p) (op : Operation) :
    s.events op = p.events op ∧ (s.perform op).Represents (p.perform op) := by
  have agrees := held.attempt op
  unfold Store.events Plan.events Store.perform Plan.perform
  generalize s.attempt op = out, p.event op = event, p.attempt op = tried at agrees
  cases agrees with
  | done held' => exact ⟨rfl, held'⟩
  | failed => exact ⟨rfl, held⟩

theorem represents_empty : empty.Represents .empty :=
  ⟨rfl, fun _ => Std.TreeMap.getElem?_emptyc, rfl, rfl, rfl⟩

theorem Came.represents (came : s.Came past) : ∃ p, p.Came past ∧ s.Represents p := by
  induction came with
  | empty => exact ⟨.empty, .empty, represents_empty⟩
  | limited _ limit ih =>
    obtain ⟨p, came, held⟩ := ih
    exact ⟨_, came.limited limit, held.order, held.stored, held.links, rfl, held.count⟩
  | performed _ op ih =>
    obtain ⟨p, came, held⟩ := ih
    obtain ⟨same, held'⟩ := held.performed op
    exact ⟨_, same ▸ came.performed op, held'⟩

theorem Represents.mem_nodes (held : s.Represents p) {name : String} :
    name ∈ s.nodes ↔ name ∈ p.names := by
  rw [← has_iff, ← held.contains, Std.TreeMap.mem_iff_contains]

theorem Represents.listed (held : s.Represents p) (built : p.Built) : s.listed = p.nodes := by
  have found : ∀ n ∈ p.nodes, (p.node? ∘ Node.name) n = some n := fun _ => built.node?_of_mem
  simp only [Store.listed, held.order, held.stored, Plan.names, List.filterMap_map]
  exact (List.filterMap_congr found).trans List.filterMap_some

/-- How the collections fit together, and what they hold after a history. -/
structure Consistent (past : List Event) (s : Store) : Prop where
  once : s.order.Nodup
  stored : ∀ name, name ∈ s.order ↔ name ∈ s.nodes
  own_name : ∀ (name : String) (n : Node), s.nodes[name]? = some n → n.name = name
  listed : ∀ n : Node, n ∈ s.listed ↔ s.nodes[n.name]? = some n
  in_order : s.listed.map Node.name = s.order
  /-- Of the declarations of a name the last one counts. -/
  latest : s.order = (Event.declarations past).dedup.filter s.nodes.contains
  links : s.links = Event.links past
  interfaces : ∀ n ∈ s.listed, n.interfaces =
    ((Event.linksSince n.name past).flatMap Link.ends).filter (·.node == n.name)
  numbers : ∀ n ∈ s.listed, n.interfaces.map (·.ordinal.toNat) =
    List.range' n.kind.firstOrdinal.toNat n.interfaces.length
  names : ∀ n ∈ s.listed, ∀ i ∈ n.interfaces, i.name = interfaceName n.name i.ordinal ∧
    i.name.utf8ByteSize ≤ maxInterfaceNameLength
  apart : ∀ l ∈ s.links, l.a.node ≠ l.b.node

theorem Represents.consistent (held : s.Represents p) (came : p.Came past)
    (few : ∀ n ∈ s.listed, n.interfaces.length < 4294967295) : s.Consistent past := by
  have built := came.built
  have listed := held.listed built
  have own := came.interfaces
  rw [listed] at few
  constructor
  case once => exact held.order ▸ built.nodup_names
  case stored => exact fun name => by rw [held.order, held.mem_nodes]
  case own_name =>
    intro name n found
    rw [held.stored] at found
    exact (mem_of_node? found).2
  case listed =>
    intro n
    rw [listed, held.stored]
    exact ⟨built.node?_of_mem, fun found => (mem_of_node? found).1⟩
  case in_order => rw [listed, held.order, Plan.names]
  case latest =>
    have same : p.names.contains = s.nodes.contains := funext fun name => by
      rw [held.contains, Bool.eq_iff_iff, has_iff, List.contains_iff_mem]
    rw [held.order, ← same]
    exact came.order
  case links => exact held.links.trans came.links
  case interfaces => exact listed ▸ own
  case numbers => exact listed ▸ fun n member => (built.numbered n member).numbers (few n member)
  case names =>
    rw [listed]
    intro n member i handed
    rw [own n member] at handed
    obtain ⟨isEnd, at_node⟩ := List.mem_filter.mp handed
    obtain ⟨l, since, isEnd⟩ := List.mem_flatMap.mp isEnd
    have named : i.node = n.name := by simpa using at_node
    have link : l ∈ p.links := came.links ▸ (Event.linksSince_sublist _ _).subset since
    exact ⟨by rw [Interface.name, named], (built.proper l link).short i isEnd⟩
  case apart => exact held.links ▸ fun l member => (built.proper l member).apart

/-- Whatever operations were tried, the collections fit together, and they hold the plan that has
the same history, with which the next operation agrees. -/
theorem Came.consistent_with_plan (came : s.Came past)
    (few : ∀ n ∈ s.listed, n.interfaces.length < 4294967295) : s.Consistent past ∧
      ∃ p, p.Came past ∧ s.Represents p ∧ ∀ op,
        Agrees s (s.attempt op) (p.event op) (p.attempt op) := by
  obtain ⟨p, came', held⟩ := came.represents
  exact ⟨held.consistent came' few, p, came', held, held.attempt⟩

def redeclared : List Operation :=
  [.addHost "h1", .addSwitch "s1" (.any 50051), .addLink "h1" "s1", .addHost "h1",
    .removeNode "h1", .addLink "h1" "s1", .addHost "h1", .addLink "s1" "h1"]

theorem redeclared_consistent :
    (∀ n ∈ (Store.empty.performAll redeclared).listed, n.interfaces.length < 4294967295) ∧
    (Store.empty.performAll redeclared).order = ["s1", "h1"] ∧
    (Store.empty.performAll redeclared).Consistent (Store.empty.history redeclared) := by
  have few : ∀ n ∈ (Store.empty.performAll redeclared).listed,
    n.interfaces.length < 4294967295 := by
    decide
  exact ⟨few, by decide, ((Came.empty.performAll redeclared).consistent_with_plan few).1⟩

section Alike

variable {out : Except Error Event × Store} {event : Except Error Event}
  {tried : Except Error Plan} {err : Error}

theorem Agrees.error_iff (agrees : Agrees s out event tried) :
    out.1 = .error err ↔ tried = .error err := by
  cases agrees <;> simp

theorem Agrees.ok_iff (agrees : Agrees s out event tried) :
    (∃ e, out.1 = .ok e) ↔ ∃ q, tried = .ok q := by
  cases agrees <;> simp

theorem Agrees.unchanged (agrees : Agrees s out event tried) (failed : out.1 = .error err) :
    out.2 = s := by
  cases agrees with
  | done => cases failed
  | failed => rfl

end Alike

/-- Whatever was tried before, an operation that fails leaves the store as it was, and fails on
the plan too. A link is added just if it joins two nodes that accept it, and refused for the first
reason that there is. -/
theorem Came.failed_unchanged (came : s.Came past) :
    (∀ op err, (s.attempt op).1 = .error err → (s.attempt op).2 = s) ∧
    ∃ p, p.Came past ∧ s.Represents p ∧
      (∀ op err, (s.attempt op).1 = .error err ↔ p.attempt op = .error err) ∧
      ∀ a b, ((∃ l, (s.addLink a b).1 = .ok l) ↔ a ≠ b ∧ p.Accepts a ∧ p.Accepts b) ∧
        ∀ err, (s.addLink a b).1 = .error err ↔ p.LinkRefused a b err := by
  obtain ⟨p, came', held⟩ := came.represents
  have alike (op : Operation) := held.attempt op
  refine ⟨fun op err => (alike op).unchanged, p, came', held, fun op err => (alike op).error_iff,
    fun a b => ?_⟩
  have linked := held.addLink a b
  constructor
  · calc (∃ l, (s.addLink a b).1 = .ok l)
        ↔ ∃ e, (noting .joined (s.addLink a b)).1 = .ok e := map_ok_iff.symm
      _ ↔ ∃ q, (p.addLink a b).map (·.2) = .ok q := linked.ok_iff
      _ ↔ a ≠ b ∧ p.Accepts a ∧ p.Accepts b := map_ok_iff.trans Plan.addLink_ok_iff
  · intro err
    calc (s.addLink a b).1 = .error err
        ↔ (noting .joined (s.addLink a b)).1 = .error err := map_error_iff.symm
      _ ↔ (p.addLink a b).map (·.2) = .error err := linked.error_iff
      _ ↔ p.LinkRefused a b err := map_error_iff.trans Plan.addLink_error_iff

def crowded : List Operation :=
  [.addHost "h1", .addHost "h2", .addSwitch "s1" (.any 50051), .addLink "h1" "s1"]

theorem crowded_unchanged : ∃ s past, s.Came past ∧
    s = (empty.withInterfaceLimit 1).performAll crowded ∧
    (s.attempt (.addLink "h2" "s1")).1 = .error (.interfaceExhaustion "s1" 1) ∧
    (s.attempt (.addLink "h2" "s1")).2 = s := by
  have came := (Came.empty.limited 1).performAll crowded
  have refused : (((empty.withInterfaceLimit 1).performAll crowded).attempt
      (.addLink "h2" "s1")).1 = .error (.interfaceExhaustion "s1" 1) := by
    decide
  exact ⟨_, _, came, rfl, refused, came.failed_unchanged.1 _ _ refused⟩

end Store

end Testbed
