import Testbed.Proofs.Description.Plan
import Testbed.Proofs.Plan.Wiring

namespace Testbed.Description

open Plan

def declarations (d : Description) : List (Operation × Node) :=
  d.hosts.map (fun name => (.addHost name, .host name)) ++
    d.switches.zipIdx.map fun x =>
      (.addSwitchSpec x.1.name (specOf x.2 x.1), .switch x.1.name (specOf x.2 x.1))

def firstOrdinal (d : Description) (name : String) : Nat := if name ∈ d.hosts then 0 else 1

/-- No link joins a name to itself or to one that is not declared, no node has more links than it
may, and the name of the last interface of each is short enough. -/
structure Linkable (d : Description) : Prop where
  joined : ∀ pair ∈ d.links, pair.1 ≠ pair.2 ∧ pair.1 ∈ d.names ∧ pair.2 ∈ d.names
  room : ∀ name ∈ d.names, 0 < timesIn name d.links →
    ∀ limit, d.settings.maxInterfacesPerNode = some limit → timesIn name d.links ≤ limit
  short : ∀ name ∈ d.names, 0 < timesIn name d.links →
    (name ++ "-eth" ++ toString (d.firstOrdinal name + timesIn name d.links - 1)).utf8ByteSize ≤
      maxInterfaceNameLength

structure Declared (d : Description) (p : Plan) : Prop where
  built : p.Built
  nodes : p.nodes = d.declarations.map Prod.snd
  unlinked : p.links = []
  limit : p.interfaceLimit = d.settings.maxInterfacesPerNode
  toPlan : d.toPlan =
    (d.links.map fun pair => Operation.addLink pair.1 pair.2).foldlM Plan.attempt p

variable {d : Description} {p : Plan}

theorem operations_eq (d : Description) : d.operations =
    d.declarations.map Prod.fst ++ d.links.map fun pair => .addLink pair.1 pair.2 := by
  rw [operations, declarations, List.map_append, List.map_map, List.map_map,
    List.mapIdx_eq_zipIdx_map]
  rfl

theorem declarations_declare (d : Description) : ∀ x ∈ d.declarations, x.1.Declares x.2 := by
  simp only [declarations, List.forall_mem_append, List.forall_mem_map]
  exact ⟨fun name _ => declares_addHost name, fun x _ => declares_addSwitchSpec _ _⟩

theorem declarations_names (d : Description) :
    (d.declarations.map fun x => x.2.name) = d.names := by
  have switches : (d.switches.zipIdx.map fun x => x.1.name) = d.switches.map SwitchEntry.name := by
    rw [← List.zipIdx_map_fst 0 d.switches, List.map_map]
    simp
  rw [declarations, List.map_append, List.map_map, List.map_map, names, ← switches]
  exact congrArg (· ++ _) (List.map_id d.hosts)

theorem startingPlan_eq (d : Description) :
    d.startingPlan = ⟨[], [], d.settings.maxInterfacesPerNode, 0⟩ := by
  unfold startingPlan
  split
  next none_set => rw [none_set]; rfl
  next limit set => rw [set]; rfl

theorem exists_declared (d : Description) (distinct : d.names.Nodup) : ∃ p, d.Declared p := by
  have start := d.startingPlan_eq
  have fresh : (d.startingPlan.names ++ d.declarations.map fun x => x.2.name).Nodup := by
    rw [start, declarations_names]
    exact distinct
  obtain ⟨p, done, nodes, links, limit⟩ := declare_all d.declarations_declare fresh
  rw [start] at nodes links limit
  refine ⟨p, ?_, nodes, links, limit, ?_⟩
  · rw [← performAll_of_ok done]
    exact d.startingPlan_grown.built.performAll _
  · rw [toPlan_eq, operations_eq, List.foldlM_append, done]
    rfl

namespace Declared

theorem bare (declared : d.Declared p) : ∀ n ∈ p.nodes, n.interfaces = [] := by
  rw [declared.nodes]
  exact List.forall_mem_map.mpr fun x member => (d.declarations_declare x member).bare

theorem names (declared : d.Declared p) : p.names = d.names := by
  rw [Plan.names, declared.nodes, List.map_map, ← declarations_names]
  rfl

theorem firstOrdinal (declared : d.Declared p) (distinct : d.names.Nodup) :
    ∀ n ∈ p.nodes, n.kind.firstOrdinal.toNat = d.firstOrdinal n.name := by
  rw [declared.nodes]
  simp only [List.forall_mem_map, declarations, List.forall_mem_append]
  constructor
  · intro name listed
    exact (if_pos listed).symm
  · intro x member
    have no_host : x.1.name ∉ d.hosts := fun listed =>
      List.disjoint_of_nodup_append distinct listed
        (List.mem_map_of_mem (List.fst_mem_of_mem_zipIdx member))
    exact (if_neg no_host).symm

theorem last_name (declared : d.Declared p) (distinct : d.names.Nodup) {n : Node}
    (member : n ∈ p.nodes) {k : Nat} (some_pair : 0 < k) (few : k < 4294967295) :
    (n.interfaceAt (k - 1)).name =
      n.name ++ "-eth" ++ toString (d.firstOrdinal n.name + k - 1) := by
  rw [Interface.name, interfaceName, n.toNat_interfaceAt (by omega),
    declared.firstOrdinal distinct n member, Nat.add_sub_assoc some_pair]
  rfl

theorem linkable_iff (declared : d.Declared p) (distinct : d.names.Nodup)
    (few : d.links.length < 4294967295) : p.Linkable d.links ↔ d.Linkable := by
  have fewer (name : String) : timesIn name d.links < 4294967295 :=
    Nat.lt_of_le_of_lt (timesIn_le_length name d.links) few
  constructor
  · rintro ⟨joined, held⟩
    have at_name (name : String) (listed : name ∈ d.names) (some_pair : 0 < timesIn name d.links) :
        (∀ limit, d.settings.maxInterfacesPerNode = some limit → timesIn name d.links ≤ limit) ∧
          (name ++ "-eth" ++
            toString (d.firstOrdinal name + timesIn name d.links - 1)).utf8ByteSize ≤
            maxInterfaceNameLength := by
      rw [← declared.names] at listed
      obtain ⟨n, member, rfl⟩ := List.mem_map.mp listed
      have room := held n member some_pair
      rwa [declared.limit, declared.last_name distinct member some_pair (fewer n.name)] at room
    exact ⟨declared.names ▸ joined, fun name listed some_pair => (at_name name listed some_pair).1,
      fun name listed some_pair => (at_name name listed some_pair).2⟩
  · rintro ⟨joined, room, short⟩
    refine ⟨declared.names ▸ joined, fun n member some_pair => ?_⟩
    have listed : n.name ∈ d.names := declared.names ▸ List.mem_map_of_mem member
    rw [declared.limit, declared.last_name distinct member some_pair (fewer n.name)]
    exact ⟨room n.name listed some_pair, short n.name listed some_pair⟩

theorem kinds (declared : d.Declared p) (pairs : List (String × String)) :
    (p.wired pairs).nodes.map (fun n => (n.name, n.kind)) =
      d.hosts.map (fun name => (name, .host)) ++
        d.switches.mapIdx fun place s => (s.name, .switch (specOf place s)) := by
  rw [wired, List.map_map, List.mapIdx_eq_zipIdx_map]
  show p.nodes.map (fun n => (n.name, n.kind)) = _
  rw [declared.nodes, declarations, List.map_append, List.map_append, List.map_map, List.map_map,
    List.map_map, List.map_map]
  rfl

theorem numbered (declared : d.Declared p) (distinct : d.names.Nodup) {n : Node}
    (member : n ∈ p.nodes) {pairs : List (String × String)} (few : pairs.length < 4294967295)
    {e : Interface} (counted : e = p.endAfter pairs n.name) :
    e.ordinal.toNat = d.firstOrdinal n.name + timesIn n.name pairs := by
  have fewer := Nat.lt_of_le_of_lt (timesIn_le_length n.name pairs) few
  rw [counted, endAfter, declared.built.node?_of_mem member, Option.getD_some,
    n.toNat_interfaceAt fewer, declared.firstOrdinal distinct n member]

end Declared

/-- A description that passed its checks has a plan just if its links can be added, and no name is
ever declared twice. The plan has the hosts, then the switches and the pairs of the links in the
order of the file, the ends of a link are numbered by the links before it at the same node, and no
link is an orphan. -/
theorem toPlan_closed (sound : d.validate = .ok ()) (few : d.links.length < 4294967295) :
    (∀ name, d.toPlan ≠ .error (.duplicateName name)) ∧
    ((∃ p, d.toPlan = .ok p) ↔ d.Linkable) ∧
    ∀ p, d.toPlan = .ok p →
      p.nodes.map (fun n => (n.name, n.kind)) = d.hosts.map (fun name => (name, .host)) ++
        d.switches.mapIdx (fun place s => (s.name, .switch (specOf place s))) ∧
      p.links.map (fun l => (l.a.node, l.b.node)) = d.links ∧
      (∀ i l, p.links[i]? = some l → ∀ e ∈ l.ends,
        e.ordinal.toNat = d.firstOrdinal e.node + timesIn e.node (d.links.take i)) ∧
      p.orphanLinks = [] := by
  have distinct := (defect?_eq_none.mp (validate_ok_iff.mp sound)).names.2
  obtain ⟨start, declared⟩ := d.exists_declared distinct
  have ok_iff {p : Plan} :=
    addLinks_ok_iff (q := p) declared.built declared.bare declared.unlinked few
  rw [declared.toPlan]
  refine ⟨fun name failed => ?_, ?_, fun p planned => ?_⟩
  · obtain ⟨op, member, q, refused⟩ := attempt_of_foldlM_error failed
    obtain ⟨pair, -, rfl⟩ := List.mem_map.mp member
    rcases addLink_error_iff.mp (map_error_iff.mp refused) with _ | ⟨_, ⟨⟩⟩ | ⟨_, _, ⟨⟩⟩
  · rw [← declared.linkable_iff distinct few]
    constructor
    · rintro ⟨p, planned⟩
      exact (ok_iff.mp planned).1
    · intro linkable
      exact ⟨_, ok_iff.mpr ⟨linkable, rfl⟩⟩
  · obtain ⟨linkable, rfl⟩ := ok_iff.mp planned
    rw [← declared.toPlan] at planned
    have grown := toPlan_grown planned
    refine ⟨declared.kinds d.links, start.linksOf_pairs d.links, fun i l listed e isEnd => ?_,
      grown.orphanLinks_eq_nil⟩
    have owned := grown.wired.owners e (mem_ends.mpr ⟨l, List.mem_of_getElem? listed, isEnd⟩)
    rw [names_wired] at owned
    obtain ⟨n, member, named⟩ := List.mem_map.mp owned
    have earlier : (d.links.take i).length < 4294967295 :=
      Nat.lt_of_le_of_lt (List.length_take_le' i d.links) few
    have counted := mem_ends_linksOf listed isEnd
    rw [← named] at counted ⊢
    exact declared.numbered distinct member earlier counted

def hub : Description where
  controller := default.controller
  settings := { Settings.default with maxInterfacesPerNode := some 2 }
  agent := .default
  hosts := ["h1", "h2"]
  switches := [⟨"s1", .any 50051, none, none⟩]
  links := [("s1", "h1"), ("h2", "s1")]

theorem hub_closed : hub.validate = .ok () ∧ hub.links.length < 4294967295 ∧ hub.Linkable ∧
    ∃ p, hub.toPlan = .ok p ∧ p.links.map (fun l => (l.a.node, l.b.node)) = hub.links ∧
      ∀ i l, p.links[i]? = some l → ∀ e ∈ l.ends,
        e.ordinal.toNat = hub.firstOrdinal e.node + timesIn e.node (hub.links.take i) := by
  have sound : hub.validate = .ok () := by decide
  have few : hub.links.length < 4294967295 := by decide
  have planned : ∃ p, hub.toPlan = .ok p := ⟨_, rfl⟩
  obtain ⟨-, linkable, closed⟩ := toPlan_closed sound few
  refine ⟨sound, few, linkable.mp planned, ?_⟩
  obtain ⟨p, planned⟩ := planned
  obtain ⟨-, pairs, numbers, -⟩ := closed p planned
  exact ⟨p, planned, pairs, numbers⟩

end Testbed.Description
