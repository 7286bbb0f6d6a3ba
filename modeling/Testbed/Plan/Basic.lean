import Testbed.Error
import Testbed.Plan.Link

namespace Testbed

structure Plan where
  nodes : List Node
  links : List Link
  interfaceLimit : Option Nat
  /-- Switches declared so far, also those removed since. -/
  switchesDeclared : UInt64
deriving DecidableEq, Repr

namespace Plan

def empty : Plan := ⟨[], [], none, 0⟩

def withInterfaceLimit (p : Plan) (limit : Nat) : Plan := { p with interfaceLimit := some limit }

def node? (p : Plan) (name : String) : Option Node := p.nodes.find? (·.name == name)

def has (p : Plan) (name : String) : Bool := (p.node? name).isSome

def declare (p : Plan) (n : Node) : Except Error Plan :=
  if p.has n.name then .error (.duplicateName n.name) else .ok { p with nodes := p.nodes ++ [n] }

def addHost (p : Plan) (name : String) : Except Error Plan := p.declare (.host name)

def addSwitchSpec (p : Plan) (name : String) (spec : SwitchSpec) : Except Error Plan :=
  (p.declare (.switch name spec)).map fun q =>
    { q with switchesDeclared := q.switchesDeclared + 1 }

def addSwitchWithId (p : Plan) (name : String) (dataPlane : Endpoint) (deviceId : UInt64) :
    Except Error Plan :=
  p.addSwitchSpec name ⟨dataPlane, deviceId, none⟩

/-- A switch that is given no number gets the next one of the plan. -/
def addSwitch (p : Plan) (name : String) (dataPlane : Endpoint) : Except Error Plan :=
  p.addSwitchWithId name dataPlane (p.switchesDeclared + 1)

theorem node?_declare {p q : Plan} {n : Node} (h : p.declare n = .ok q) (name : String) :
    q.node? name = if name = n.name then some n else p.node? name := by
  unfold declare at h
  split at h
  · cases h
  · rename_i absent
    cases h
    have hnone : p.nodes.find? (·.name == n.name) = none := by
      simpa [has, node?, Option.isSome_iff_ne_none] using absent
    by_cases hn : name = n.name
    · subst hn
      simp [node?, List.find?_append, hnone]
    · have hne : (n.name == name) = false := by simpa using Ne.symm hn
      simp [node?, List.find?_append, hn, hne]

/-- Why two nodes cannot be linked, other than that one of them is missing or full. -/
inductive LinkDefect where
  | selfLink
  | longName (interface : String)

def LinkDefect.message : LinkDefect → String
  | .selfLink => "a node cannot link to itself"
  | .longName interface =>
    s!"interface name '{interface}' is longer than {maxInterfaceNameLength} characters"

def exhausted? (p : Plan) (n : Node) : Option Nat :=
  p.interfaceLimit.filter fun limit => limit ≤ n.interfaces.length

def hasLongName (n : Node) : Bool :=
  maxInterfaceNameLength < n.nextInterface.name.utf8ByteSize

/-- What a link between `a` and `b` asks of its end at `name`. -/
def checkEnd (p : Plan) (a b name : String) : Except Error Unit :=
  match p.node? name with
  | none => .error (.unknownNode name)
  | some n =>
    match p.exhausted? n with
    | some limit => .error (.interfaceExhaustion name limit)
    | none =>
      if hasLongName n then
        .error (.invalidLink a b (LinkDefect.longName n.nextInterface.name).message)
      else .ok ()

def allocate (p : Plan) (name : String) : Plan :=
  { p with nodes := p.nodes.map fun n => if n.name = name then n.allocate else n }

theorem node?_allocate (p : Plan) (a name : String) :
    (p.allocate a).node? name =
      (p.node? name).map fun n => if n.name = a then n.allocate else n := by
  have hname (n : Node) : (if n.name = a then n.allocate else n).name = n.name := by
    split <;> rfl
  simp only [allocate, node?, List.find?_map, Function.comp_def, hname]

def nextInterface (p : Plan) (name : String) : Interface :=
  ((p.node? name).getD (.host name)).nextInterface

/-- Joins two nodes by their next interfaces. Both ends are checked before either hands out one. -/
def addLink (p : Plan) (a b : String) : Except Error (Link × Plan) :=
  if a = b then .error (.invalidLink a b LinkDefect.selfLink.message)
  else do
    p.checkEnd a b a
    p.checkEnd a b b
    let link : Link := ⟨p.nextInterface a, p.nextInterface b⟩
    let q := (p.allocate a).allocate b
    return (link, { q with links := q.links ++ [link] })

/-- Takes a node out and leaves the links to it behind. -/
def removeNode (p : Plan) (name : String) : Except Error (Node × Plan) :=
  match p.node? name with
  | none => .error (.unknownNode name)
  | some n => .ok (n, { p with nodes := p.nodes.filter (·.name != name) })

theorem node?_removeNode {p q : Plan} {removed : String} {n : Node}
    (h : p.removeNode removed = .ok (n, q)) (name : String) :
    q.node? name = if name = removed then none else p.node? name := by
  unfold removeNode at h
  split at h
  · cases h
  · cases h
    by_cases hn : name = removed
    · subst hn
      simp [node?, List.find?_filter]
    · rw [if_neg hn]
      unfold node?
      rw [List.find?_filter]
      congr 1
      funext m
      by_cases hm : m.name = name
      · simp [hm, hn]
      · simp [hm]

def owned (p : Plan) (i : Interface) : Bool :=
  match p.node? i.node with
  | none => false
  | some n => n.owns i

def orphanLinks (p : Plan) : List Link := p.links.filter fun l => l.ends.any fun i => !p.owned i

def validate (p : Plan) : Except Error Unit :=
  let orphans := p.orphanLinks
  if orphans.isEmpty then .ok () else .error (.incompleteTopology (orphans.map Link.text))

end Plan

end Testbed
