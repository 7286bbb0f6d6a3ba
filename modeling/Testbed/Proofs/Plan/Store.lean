import Mathlib.Data.List.Dedup
import Testbed.Proofs.Plan.History

namespace Testbed

structure Store where
  nodes : Std.TreeMap String Node
  order : List String
  links : List Link
  interfaceLimit : Option Nat
  switchesDeclared : UInt64

namespace Store

open Plan

def empty : Store := ⟨∅, [], [], none, 0⟩

def withInterfaceLimit (s : Store) (limit : Nat) : Store := { s with interfaceLimit := some limit }

def listed (s : Store) : List Node := s.order.filterMap fun name => s.nodes[name]?

def insert (s : Store) (n : Node) : Except Error Node × Store :=
  if s.nodes.contains n.name then (.error (.duplicateName n.name), s)
  else
    let nodes := s.nodes.insertIfNew n.name n
    (.ok (nodes.getD n.name n), { s with order := s.order ++ [n.name], nodes })

def addSwitchSpec (s : Store) (name : String) (spec : SwitchSpec) : Except Error Node × Store :=
  if s.nodes.contains name then (.error (.duplicateName name), s)
  else { s with switchesDeclared := s.switchesDeclared + 1 }.insert (.switch name spec)

def addSwitchWithId (s : Store) (name : String) (dataPlane : Endpoint) (deviceId : UInt64) :
    Except Error Node × Store :=
  s.addSwitchSpec name ⟨dataPlane, deviceId, none⟩

def exhausted? (s : Store) (n : Node) : Option Nat :=
  s.interfaceLimit.filter fun limit => limit ≤ n.interfaces.length

def checkEnd (s : Store) (a b name : String) : Except Error Unit :=
  match s.nodes[name]? with
  | none => .error (.unknownNode name)
  | some n =>
    match s.exhausted? n with
    | some limit => .error (.interfaceExhaustion name limit)
    | none =>
      if hasLongName n then
        .error (.invalidLink a b (LinkDefect.longName n.nextInterface.name).message)
      else .ok ()

def allocate (s : Store) (name : String) : Except Error (Interface × Store) :=
  match s.nodes[name]? with
  | none => .error (.unknownNode name)
  | some n => .ok (n.nextInterface, { s with nodes := s.nodes.insert name n.allocate })

/-- The node `a` has handed out its interface already when `b` is asked for one. -/
def addLink (s : Store) (a b : String) : Except Error Link × Store :=
  if a = b then (.error (.invalidLink a b LinkDefect.selfLink.message), s)
  else
    match s.checkEnd a b a with
    | .error err => (.error err, s)
    | .ok () =>
      match s.checkEnd a b b with
      | .error err => (.error err, s)
      | .ok () =>
        match s.allocate a with
        | .error err => (.error err, s)
        | .ok (i, s) =>
          match s.allocate b with
          | .error err => (.error err, s)
          | .ok (j, s) => (.ok ⟨i, j⟩, { s with links := s.links ++ [⟨i, j⟩] })

def removeNode (s : Store) (name : String) : Except Error Node × Store :=
  match s.nodes[name]? with
  | none => (.error (.unknownNode name), s)
  | some n =>
    (.ok n, { s with nodes := s.nodes.erase name, order := s.order.filter (· != name) })

def noting {α : Type} (event : α → Event) (out : Except Error α × Store) :
    Except Error Event × Store :=
  (out.1.map event, out.2)

def attempt (s : Store) : Operation → Except Error Event × Store
  | .addHost name => noting (fun _ => .declared name) (s.insert (.host name))
  | .addSwitch name dataPlane =>
    noting (fun _ => .declared name)
      (s.addSwitchWithId name dataPlane (s.switchesDeclared + 1))
  | .addSwitchWithId name dataPlane deviceId =>
    noting (fun _ => .declared name) (s.addSwitchWithId name dataPlane deviceId)
  | .addSwitchSpec name spec => noting (fun _ => .declared name) (s.addSwitchSpec name spec)
  | .addLink a b => noting .joined (s.addLink a b)
  | .removeNode name => noting (fun _ => .removed name) (s.removeNode name)

def perform (s : Store) (op : Operation) : Store := (s.attempt op).2

def events (s : Store) (op : Operation) : List Event := (s.attempt op).1.toOption.toList

def performAll (s : Store) (ops : List Operation) : Store := ops.foldl perform s

def history (s : Store) : List Operation → List Event
  | [] => []
  | op :: rest => s.events op ++ (s.perform op).history rest

/-- The store came about from the empty one, by operations that succeeded in these events and by
others that failed. -/
inductive Came : List Event → Store → Prop
  | empty : Came [] .empty
  | limited {past s} (came : Came past s) (limit : Nat) : Came past (s.withInterfaceLimit limit)
  | performed {past s} (came : Came past s) (op : Operation) :
      Came (past ++ s.events op) (s.perform op)

theorem Came.performAll {past : List Event} {s : Store} (came : s.Came past)
    (ops : List Operation) : (s.performAll ops).Came (past ++ s.history ops) := by
  induction ops generalizing past s with
  | nil => simpa [history, Store.performAll] using came
  | cons op rest ih => simpa [history, Store.performAll] using ih (came.performed op)

structure Represents (s : Store) (p : Plan) : Prop where
  order : s.order = p.names
  stored : ∀ name, s.nodes[name]? = p.node? name
  links : s.links = p.links
  limit : s.interfaceLimit = p.interfaceLimit
  count : s.switchesDeclared = p.switchesDeclared

variable {s : Store} {p : Plan}

theorem Represents.contains (held : s.Represents p) (name : String) :
    s.nodes.contains name = p.has name := by
  rw [Std.TreeMap.contains_eq_isSome_getElem?, held.stored, Plan.has]

theorem Represents.checkEnd (held : s.Represents p) (a b name : String) :
    s.checkEnd a b name = p.checkEnd a b name := by
  cases found : p.node? name with
  | none => simp only [Store.checkEnd, Plan.checkEnd, held.stored, found]
  | some n =>
    have full : s.exhausted? n = p.exhausted? n := by
      rw [Store.exhausted?, held.limit, Plan.exhausted?]
    cases limit : p.exhausted? n <;>
      simp only [Store.checkEnd, Plan.checkEnd, held.stored, found, full, limit]

/-- An operation on a store goes as the one on the plan: both succeed in the same event, and then
the new store holds the new plan, or both fail alike, and the store is as it was. -/
inductive Agrees (s : Store) :
    Except Error Event × Store → Except Error Event → Except Error Plan → Prop
  | done {e t q} (held : t.Represents q) : Agrees s (.ok e, t) (.ok e) (.ok q)
  | failed {err} : Agrees s (.error err, s) (.error err) (.error err)

theorem Represents.inserted (held : s.Represents p) {n : Node} (absent : p.node? n.name = none) :
    Represents { s with order := s.order ++ [n.name], nodes := s.nodes.insertIfNew n.name n }
      { p with nodes := p.nodes ++ [n] } where
  order := by rw [held.order, Plan.names, Plan.names, List.map_append, List.map_singleton]
  stored name := by
    have declared : p.declare n = .ok { p with nodes := p.nodes ++ [n] } := by
      simp [Plan.declare, Plan.has, absent]
    have new : n.name ∉ s.nodes := by
      rw [Std.TreeMap.mem_iff_isSome_getElem?, held.stored, absent]
      exact Bool.false_ne_true
    rw [node?_declare declared, Std.TreeMap.getElem?_insertIfNew, held.stored]
    simp only [Std.LawfulEqCmp.compare_eq_iff_eq, new, not_false_eq_true, and_true,
      eq_comm (a := name)]
  links := held.links
  limit := held.limit
  count := held.count

theorem Represents.insert (held : s.Represents p) (n : Node) (e : Event) :
    Agrees s (noting (fun _ => e) (s.insert n)) ((p.declare n).map fun _ => e) (p.declare n) := by
  unfold Store.insert Plan.declare
  rw [held.contains]
  split
  next => exact .failed
  next absent => exact .done (held.inserted (by simpa [Plan.has] using absent))

theorem Represents.addSwitchSpec (held : s.Represents p) (name : String) (spec : SwitchSpec)
    (e : Event) : Agrees s (noting (fun _ => e) (s.addSwitchSpec name spec))
      ((p.addSwitchSpec name spec).map fun _ => e) (p.addSwitchSpec name spec) := by
  unfold Store.addSwitchSpec Plan.addSwitchSpec Store.insert Plan.declare
  rw [held.contains, show (Node.switch name spec).name = name from rfl]
  cases present : p.has name with
  | true => exact .failed
  | false =>
    have absent : p.node? name = none := by simpa [Plan.has] using present
    have added := held.inserted (n := .switch name spec) absent
    simp only [Bool.false_eq_true, ↓reduceIte, held.contains, present]
    exact .done ⟨added.order, added.stored, added.links, added.limit, by rw [held.count]⟩

theorem names_allocate (p : Plan) (name : String) : (p.allocate name).names = p.names := by
  rw [Plan.names, Plan.names, Plan.allocate, List.map_map]
  refine List.map_congr_left fun n _ => ?_
  simp only [Function.comp_apply]
  split <;> rfl

theorem Represents.allocate (held : s.Represents p) {name : String} {n : Node}
    (found : p.node? name = some n) : ∃ t, s.allocate name = .ok (n.nextInterface, t) ∧
      t.Represents (p.allocate name) := by
  refine ⟨{ s with nodes := s.nodes.insert name n.allocate }, ?_, ?_, fun other => ?_, held.links,
    held.limit, held.count⟩
  · rw [Store.allocate, held.stored, found]
  · rw [names_allocate]
    exact held.order
  · rw [node?_allocate, Std.TreeMap.getElem?_insert, held.stored]
    simp only [Std.LawfulEqCmp.compare_eq_iff_eq]
    split
    next same => simp [← same, found, (mem_of_node? found).2]
    next different =>
      cases there : p.node? other with
      | none => rfl
      | some m => simp [(mem_of_node? there).2, Ne.symm different]

theorem Represents.addLink (held : s.Represents p) (a b : String) :
    Agrees s (noting .joined (s.addLink a b)) ((p.addLink a b).map fun out => .joined out.1)
      ((p.addLink a b).map (·.2)) := by
  unfold Store.addLink Plan.addLink
  rw [held.checkEnd, held.checkEnd]
  by_cases apart : a = b
  · simp only [apart, ↓reduceIte]
    exact .failed
  · simp only [apart, ↓reduceIte]
    cases first : p.checkEnd a b a with
    | error err => exact .failed
    | ok =>
      cases second : p.checkEnd a b b with
      | error err => exact .failed
      | ok =>
        -- both nodes have been found, so that neither of the two can be missing now
        obtain ⟨n, found, -⟩ := checkEnd_ok_iff.mp first
        obtain ⟨m, found', -⟩ := checkEnd_ok_iff.mp second
        obtain ⟨t, handed, held_t⟩ := held.allocate found
        have still : (p.allocate a).node? b = some m := by
          rw [node?_allocate, found']
          simp [(mem_of_node? found').2, Ne.symm apart]
        obtain ⟨u, handed', held_u⟩ := held_t.allocate still
        have link : (⟨n.nextInterface, m.nextInterface⟩ : Link) = p.joint a b := by
          rw [joint, nextInterface_of_node? found, nextInterface_of_node? found']
        simp only [handed, handed', link]
        exact .done ⟨held_u.order, held_u.stored, by rw [held_u.links]; rfl, held_u.limit,
          held_u.count⟩

theorem Represents.removeNode (held : s.Represents p) (name : String) :
    Agrees s (noting (fun _ => .removed name) (s.removeNode name))
      ((p.removeNode name).map fun _ => .removed name) ((p.removeNode name).map (·.2)) := by
  unfold Store.removeNode
  rw [held.stored]
  cases found : p.node? name with
  | none =>
    rw [Plan.removeNode, found]
    exact .failed
  | some n =>
    have out : p.removeNode name =
        .ok (n, { p with nodes := p.nodes.filter (·.name != name) }) := by
      rw [Plan.removeNode, found]
    rw [out]
    refine .done ⟨?_, fun other => ?_, held.links, held.limit, held.count⟩
    · rw [held.order]
      simp only [Plan.names, List.filter_map]
      rfl
    · rw [node?_removeNode out, Std.TreeMap.getElem?_erase, held.stored]
      simp only [Std.LawfulEqCmp.compare_eq_iff_eq, eq_comm (a := name)]

theorem Represents.attempt (held : s.Represents p) (op : Operation) :
    Agrees s (s.attempt op) (p.event op) (p.attempt op) := by
  cases op with
  | addHost name => exact held.insert _ _
  | addSwitch name dataPlane =>
    unfold Store.attempt Plan.event Plan.attempt Plan.addSwitch
    rw [held.count]
    exact held.addSwitchSpec _ _ _
  | addSwitchWithId name dataPlane deviceId => exact held.addSwitchSpec _ _ _
  | addSwitchSpec name spec => exact held.addSwitchSpec _ _ _
  | addLink a b => exact held.addLink a b
  | removeNode name => exact held.removeNode name

end Store

end Testbed
