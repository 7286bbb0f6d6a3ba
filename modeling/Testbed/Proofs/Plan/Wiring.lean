import Mathlib.Data.List.Induction
import Testbed.Proofs.Plan.Ends
import Testbed.Proofs.Plan.InterfaceName

namespace Testbed

def timesIn (name : String) (pairs : List (String × String)) : Nat :=
  pairs.countP fun pair => name = pair.1 ∨ name = pair.2

theorem timesIn_concat (name : String) (pairs : List (String × String)) (a b : String) :
    timesIn name (pairs ++ [(a, b)]) =
      timesIn name pairs + if name = a ∨ name = b then 1 else 0 := by
  simp only [timesIn, List.countP_append, List.countP_singleton, decide_eq_true_eq]

theorem timesIn_le_length (name : String) (pairs : List (String × String)) :
    timesIn name pairs ≤ pairs.length := List.countP_le_length

namespace Node

def wired (n : Node) (k : Nat) : Node := { n with interfaces := (List.range k).map n.interfaceAt }

theorem wired_zero {n : Node} (bare : n.interfaces = []) : n.wired 0 = n := by
  cases n
  cases bare
  rfl

theorem nextInterface_wired (n : Node) (k : Nat) : (n.wired k).nextInterface = n.interfaceAt k := by
  simp [wired, nextInterface, nextOrdinal, interfaceAt]

theorem allocate_wired (n : Node) (k : Nat) : (n.wired k).allocate = n.wired (k + 1) := by
  rw [allocate, nextInterface_wired, wired, wired, List.range_succ, List.map_append,
    List.map_singleton]

theorem interfaceAt_name_le (n : Node) {j k : Nat} (le : j ≤ k) (few : k < 4294967295) :
    (n.interfaceAt j).name.utf8ByteSize ≤ (n.interfaceAt k).name.utf8ByteSize := by
  apply utf8ByteSize_interfaceName_le
  -- Beyond that number it starts again at 0, and the names get shorter.
  rw [UInt32.le_iff_toNat_le, toNat_interfaceAt n (by omega), toNat_interfaceAt n few]
  omega

end Node

namespace Plan

variable {p q : Plan} {pairs : List (String × String)}

section Declaring

structure Operation.Declares (op : Operation) (n : Node) : Prop where
  bare : n.interfaces = []
  declared : ∀ p : Plan, p.node? n.name = none → ∃ q, p.attempt op = .ok q ∧
    q.nodes = p.nodes ++ [n] ∧ q.links = p.links ∧ q.interfaceLimit = p.interfaceLimit

theorem declare_of_absent {n : Node} (absent : p.node? n.name = none) :
    p.declare n = .ok { p with nodes := p.nodes ++ [n] } := by
  simp [declare, has, absent]

theorem declares_addHost (name : String) : (Operation.addHost name).Declares (.host name) where
  bare := rfl
  declared _ absent := ⟨_, declare_of_absent absent, rfl, rfl, rfl⟩

theorem declares_addSwitchSpec (name : String) (spec : SwitchSpec) :
    (Operation.addSwitchSpec name spec).Declares (.switch name spec) where
  bare := rfl
  declared p absent := by
    refine ⟨{ p with
      nodes := p.nodes ++ [.switch name spec]
      switchesDeclared := p.switchesDeclared + 1 }, ?_, rfl, rfl, rfl⟩
    rw [attempt, addSwitchSpec, declare_of_absent absent]
    rfl

theorem node?_of_not_mem {name : String} (absent : name ∉ p.names) : p.node? name = none := by
  cases found : p.node? name with
  | none => rfl
  | some n =>
    obtain ⟨member, rfl⟩ := mem_of_node? found
    exact absurd (List.mem_map_of_mem member) absent

theorem declare_all {declarations : List (Operation × Node)}
    (declare : ∀ x ∈ declarations, x.1.Declares x.2)
    (fresh : (p.names ++ declarations.map fun x => x.2.name).Nodup) :
    ∃ q, (declarations.map Prod.fst).foldlM attempt p = .ok q ∧
      q.nodes = p.nodes ++ declarations.map Prod.snd ∧ q.links = p.links ∧
      q.interfaceLimit = p.interfaceLimit := by
  induction declarations generalizing p with
  | nil => exact ⟨p, rfl, (List.append_nil _).symm, rfl, rfl⟩
  | cons x rest ih =>
    obtain ⟨first, others⟩ := List.forall_mem_cons.mp declare
    rw [List.map_cons, List.append_cons] at fresh
    have absent : x.2.name ∉ p.names := by
      have once := fresh.sublist (List.sublist_append_left _ _)
      rw [← List.concat_eq_append, List.nodup_concat] at once
      exact once.1
    obtain ⟨r, tried, nodes, links, limit⟩ := first.declared p (node?_of_not_mem absent)
    have names : r.names = p.names ++ [x.2.name] := by
      rw [Plan.names, nodes, List.map_append]
      rfl
    obtain ⟨q, done, nodes', links', limit'⟩ := ih others (names ▸ fresh)
    refine ⟨q, ?_, ?_, links'.trans links, limit'.trans limit⟩
    · rw [List.map_cons, List.foldlM_cons, tried]
      exact done
    · rw [nodes', nodes, List.map_cons, List.append_assoc, List.singleton_append]

end Declaring

/-- The interface that the node hands out after it has been in the earlier pairs. -/
def endAfter (p : Plan) (earlier : List (String × String)) (name : String) : Interface :=
  ((p.node? name).getD (.host name)).interfaceAt (timesIn name earlier)

def linksOf (p : Plan) (pairs : List (String × String)) : List Link :=
  pairs.mapIdx fun i pair => ⟨p.endAfter (pairs.take i) pair.1, p.endAfter (pairs.take i) pair.2⟩

def wired (p : Plan) (pairs : List (String × String)) : Plan :=
  { p with
    nodes := p.nodes.map fun n => n.wired (timesIn n.name pairs)
    links := p.linksOf pairs }

def Holds (p : Plan) (n : Node) (k : Nat) : Prop :=
  0 < k → (∀ limit, p.interfaceLimit = some limit → k ≤ limit) ∧
    (n.interfaceAt (k - 1)).name.utf8ByteSize ≤ maxInterfaceNameLength

structure Linkable (p : Plan) (pairs : List (String × String)) : Prop where
  joined : ∀ pair ∈ pairs, pair.1 ≠ pair.2 ∧ pair.1 ∈ p.names ∧ pair.2 ∈ p.names
  held : ∀ n ∈ p.nodes, p.Holds n (timesIn n.name pairs)

theorem wired_nil (bare : ∀ n ∈ p.nodes, n.interfaces = []) (unlinked : p.links = []) :
    p.wired [] = p := by
  have same : (p.nodes.map fun n => n.wired (timesIn n.name [])) = p.nodes :=
    (List.map_congr_left fun n member => Node.wired_zero (bare n member)).trans
      (List.map_id p.nodes)
  rw [wired, same, linksOf, List.mapIdx_nil, ← unlinked]

theorem linksOf_concat (p : Plan) (pairs : List (String × String)) (a b : String) :
    p.linksOf (pairs ++ [(a, b)]) =
      p.linksOf pairs ++ [⟨p.endAfter pairs a, p.endAfter pairs b⟩] := by
  rw [linksOf, List.mapIdx_concat, List.take_left]
  congr 1
  apply List.mapIdx_eq_mapIdx_iff.mpr
  intro i less
  rw [List.take_append_of_le_length (Nat.le_of_lt less)]

theorem node?_wired (p : Plan) (pairs : List (String × String)) (name : String) :
    (p.wired pairs).node? name = (p.node? name).map fun n => n.wired (timesIn n.name pairs) := by
  rw [node?, wired, List.find?_map]
  rfl

theorem names_wired (p : Plan) (pairs : List (String × String)) :
    (p.wired pairs).names = p.names := by
  rw [names, wired, List.map_map]
  rfl

theorem Holds.fewer {n : Node} {k : Nat} (held : p.Holds n (k + 1)) (few : k < 4294967295) :
    p.Holds n k := by
  intro some_pair
  obtain ⟨room, short⟩ := held (Nat.succ_pos k)
  constructor
  · intro limit limited
    have := room limit limited
    omega
  · exact (n.interfaceAt_name_le (Nat.sub_le_sub_right (Nat.le_succ k) 1) few).trans short

theorem accepts_wired_iff {name : String} :
    (p.wired pairs).Accepts name ↔
      ∃ n, p.node? name = some n ∧ p.Holds n (timesIn name pairs + 1) := by
  have counted (n : Node) : (n.wired (timesIn n.name pairs)).interfaces.length =
      timesIn n.name pairs := by
    simp [Node.wired]
  rw [Accepts, node?_wired]
  constructor
  · rintro ⟨m, found, room, short⟩
    obtain ⟨n, declared, rfl⟩ := Option.map_eq_some_iff.mp found
    rw [HasRoom, counted] at room
    rw [Node.nextInterface_wired] at short
    obtain rfl := (mem_of_node? declared).2
    exact ⟨n, declared, fun _ => ⟨room, short⟩⟩
  · rintro ⟨n, found, held⟩
    obtain rfl := (mem_of_node? found).2
    obtain ⟨room, short⟩ := held (Nat.succ_pos _)
    refine ⟨_, by rw [found]; rfl, ?_, ?_⟩
    · rw [HasRoom, counted]
      exact room
    · rw [Node.nextInterface_wired]
      exact short

theorem nextInterface_wired {name : String} {n : Node} (found : p.node? name = some n) :
    (p.wired pairs).nextInterface name = p.endAfter pairs name := by
  obtain rfl := (mem_of_node? found).2
  rw [nextInterface, node?_wired, endAfter, found, Option.map_some, Option.getD_some,
    Option.getD_some, Node.nextInterface_wired]

theorem linked_wired {a b : String} (apart : a ≠ b) (first : (p.wired pairs).Accepts a)
    (second : (p.wired pairs).Accepts b) :
    (p.wired pairs).linked a b = p.wired (pairs ++ [(a, b)]) := by
  have nodes : ((p.wired pairs).linked a b).nodes = (p.wired (pairs ++ [(a, b)])).nodes := by
    rw [linked_nodes _ apart, wired, wired, List.map_map]
    refine List.map_congr_left fun n _ => ?_
    rw [Function.comp_apply, timesIn_concat, show (n.wired _).name = n.name from rfl]
    split
    next => exact n.allocate_wired _
    next => rfl
  have links : ((p.wired pairs).linked a b).links = (p.wired (pairs ++ [(a, b)])).links := by
    obtain ⟨n, found, -⟩ := accepts_wired_iff.mp first
    obtain ⟨m, found', -⟩ := accepts_wired_iff.mp second
    rw [links_linked, joint, nextInterface_wired found, nextInterface_wired found', wired, wired,
      linksOf_concat]
  exact congrArg₂ (fun nodes links => ({ p with nodes, links } : Plan)) nodes links

theorem Linkable.accepts {a b name : String} (linkable : p.Linkable (pairs ++ [(a, b)]))
    (built : p.Built) (listed : name ∈ p.names) (touched : name = a ∨ name = b) :
    (p.wired pairs).Accepts name := by
  obtain ⟨n, member, rfl⟩ := List.mem_map.mp listed
  have held := linkable.held n member
  rw [timesIn_concat, if_pos touched] at held
  exact accepts_wired_iff.mpr ⟨n, built.node?_of_mem member, held⟩

theorem Linkable.fewer {a b : String} (linkable : p.Linkable (pairs ++ [(a, b)]))
    (few : pairs.length < 4294967295) : p.Linkable pairs := by
  constructor
  case joined =>
    intro pair member
    exact linkable.joined pair (List.mem_append_left _ member)
  case held =>
    intro n member
    have held := linkable.held n member
    rw [timesIn_concat] at held
    split at held
    next => exact held.fewer (Nat.lt_of_le_of_lt (timesIn_le_length n.name pairs) few)
    next => exact held

theorem Linkable.more {a b : String} (linkable : p.Linkable pairs) (built : p.Built) (apart : a ≠ b)
    (first : (p.wired pairs).Accepts a) (second : (p.wired pairs).Accepts b) :
    p.Linkable (pairs ++ [(a, b)]) := by
  have listed {name : String} (accepted : (p.wired pairs).Accepts name) : name ∈ p.names := by
    obtain ⟨n, found, -⟩ := accepts_wired_iff.mp accepted
    obtain ⟨member, rfl⟩ := mem_of_node? found
    exact List.mem_map_of_mem member
  constructor
  case joined =>
    exact List.forall_mem_append.mpr ⟨linkable.joined, List.forall_mem_singleton.mpr
      ⟨apart, listed first, listed second⟩⟩
  case held =>
    intro n member
    have one_more (accepted : (p.wired pairs).Accepts n.name) :
        p.Holds n (timesIn n.name pairs + 1) := by
      obtain ⟨m, found, held⟩ := accepts_wired_iff.mp accepted
      cases (built.node?_of_mem member).symm.trans found
      exact held
    rw [timesIn_concat]
    split
    next touched =>
      rcases touched with at_a | at_b
      · exact one_more (at_a ▸ first)
      · exact one_more (at_b ▸ second)
    next => exact linkable.held n member

theorem concat_linkable_iff (built : p.Built) {a b : String} (few : pairs.length < 4294967295) :
    p.Linkable (pairs ++ [(a, b)]) ↔ p.Linkable pairs ∧ a ≠ b ∧
      (p.wired pairs).Accepts a ∧ (p.wired pairs).Accepts b := by
  constructor
  · intro linkable
    obtain ⟨apart, listed, listed'⟩ := linkable.joined (a, b) (by simp)
    exact ⟨linkable.fewer few, apart, linkable.accepts built listed (.inl rfl),
      linkable.accepts built listed' (.inr rfl)⟩
  · rintro ⟨linkable, apart, first, second⟩
    exact linkable.more built apart first second

theorem endAfter_node (p : Plan) (earlier : List (String × String)) (name : String) :
    (p.endAfter earlier name).node = name := by
  unfold endAfter
  cases found : p.node? name with
  | none => rfl
  | some n => exact (mem_of_node? found).2

theorem linksOf_pairs (p : Plan) (pairs : List (String × String)) :
    (p.linksOf pairs).map (fun l => (l.a.node, l.b.node)) = pairs := by
  apply List.ext_getElem
  · rw [List.length_map, linksOf, List.length_mapIdx]
  · intro i less less'
    simp only [linksOf, List.getElem_map, List.getElem_mapIdx, endAfter_node]

theorem mem_ends_linksOf {i : Nat} {l : Link} {e : Interface}
    (listed : (p.linksOf pairs)[i]? = some l) (isEnd : e ∈ l.ends) :
    e = p.endAfter (pairs.take i) e.node := by
  rw [linksOf, List.getElem?_mapIdx] at listed
  obtain ⟨pair, _, rfl⟩ := Option.map_eq_some_iff.mp listed
  simp only [Link.ends, List.mem_cons, List.not_mem_nil, or_false] at isEnd
  rcases isEnd with rfl | rfl
  · rw [endAfter_node]
  · rw [endAfter_node]

theorem addLinks_ok_iff (built : p.Built) (bare : ∀ n ∈ p.nodes, n.interfaces = [])
    (unlinked : p.links = []) (few : pairs.length < 4294967295) :
    (pairs.map fun pair => Operation.addLink pair.1 pair.2).foldlM attempt p = .ok q ↔
      p.Linkable pairs ∧ q = p.wired pairs := by
  -- By the last pair: it is tried on the plan that has all the others.
  induction pairs using List.reverseRecOn generalizing q with
  | nil =>
    have start : p.Linkable [] := ⟨nofun, fun n _ some_pair => by cases some_pair⟩
    rw [wired_nil bare unlinked]
    constructor
    · intro done
      cases done
      exact ⟨start, rfl⟩
    · rintro ⟨-, rfl⟩
      rfl
  | append_singleton pairs pair ih =>
    obtain ⟨a, b⟩ := pair
    have fewer : pairs.length < 4294967295 := by
      rw [List.length_append] at few
      omega
    rw [List.map_append, List.map_singleton, foldlM_concat_ok_iff, concat_linkable_iff built fewer]
    constructor
    · rintro ⟨r, done, last⟩
      obtain ⟨linkable, rfl⟩ := (ih fewer).mp done
      obtain ⟨apart, first, second, rfl⟩ := attempt_addLink_cases last
      rw [checkEnd_ok_iff] at first second
      exact ⟨⟨linkable, apart, first, second⟩, linked_wired apart first second⟩
    · rintro ⟨⟨linkable, apart, first, second⟩, rfl⟩
      refine ⟨p.wired pairs, (ih fewer).mpr ⟨linkable, rfl⟩, ?_⟩
      rw [attempt, addLink_of_accepts apart first second, ← linked_wired apart first second]
      rfl

end Plan

end Testbed
