import Testbed.Fabric.Basic
import Testbed.Plan.Basic
import Testbed.Text.Literal

namespace Testbed

structure ReleaseError where
  node : String
  message : String
deriving DecidableEq, Repr

structure Release where
  links : List String
  errors : List ReleaseError
deriving DecidableEq, Repr

namespace Release

def empty : Release := ⟨[], []⟩

def ofSteps (links : List (Link × Option Error)) (nodes : List (Node × Option Error)) :
    Release where
  links := links.filterMap fun (l, failure) => if failure.isNone then some l.text else none
  errors :=
    (links.filterMap fun (l, failure) => failure.map fun e => ⟨l.text, e.message⟩) ++
      nodes.filterMap fun (n, failure) => failure.map fun e => ⟨n.name, e.message⟩

end Release

def namespaceAt (nodes : List Node) (i : Interface) : Option String :=
  (nodes.find? (·.name == i.node)).bind Node.namespace?

namespace Fabric

variable {σ : Type}

def connect (f : Fabric σ) (nodes : List Node) (l : Link) : Action σ :=
  f.createLink l (namespaceAt nodes l.a) (namespaceAt nodes l.b)

def disconnect (f : Fabric σ) (nodes : List Node) (l : Link) : Action σ :=
  f.teardownLink l (namespaceAt nodes l.a)

def release (f : Fabric σ) (nodes created : List Node) (links : List Link) (s : σ) : Release × σ :=
  let (linkSteps, s) := Action.onEach (f.disconnect nodes) links.reverse s
  let (nodeSteps, s) := Action.onEach f.destroyNode created.reverse s
  (.ofSteps linkSteps nodeSteps, s)

end Fabric

structure Topology where
  nodes : List Node
  links : List Link
  released : Bool
deriving DecidableEq, Repr

namespace Topology

variable {σ : Type}

def node? (t : Topology) (name : String) : Option Node := t.nodes.find? (·.name == name)

def hosts (t : Topology) : List Node := t.nodes.filter Node.isHost

def switches (t : Topology) : List Node := t.nodes.filter fun n => !n.isHost

def release (f : Fabric σ) (t : Topology) (s : σ) : Release × Topology × σ :=
  if t.released then (.empty, t, s)
  else
    let (outcome, s) := f.release t.nodes t.nodes t.links s
    (outcome, { t with released := true }, s)

def debugText (fabricName : String) (t : Topology) : String :=
  "Topology \x7b nodes: " ++ Text.bracketed (t.nodes.map fun n => Text.literal n.name) ++
    ", links: " ++ toString t.links.length ++ ", fabric: " ++ Text.literal fabricName ++
    ", released: " ++ toString t.released ++ " \x7d"

end Topology

namespace Plan

variable {σ : Type}

/-- Sets up the nodes and then the links, in the order they were declared. -/
def materialize (f : Fabric σ) (p : Plan) (s : σ) : Except Error Topology × σ :=
  match p.validate with
  | .error e => (.error e, s)
  | .ok () =>
    match Action.untilFailure f.createNode p.nodes s with
    | (created, some e, s) => (.error e, (f.release p.nodes created [] s).2)
    | (created, none, s) =>
      match Action.untilFailure (f.connect p.nodes) p.links s with
      | (links, some e, s) => (.error e, (f.release p.nodes created links s).2)
      | (_, none, s) => (.ok ⟨p.nodes, p.links, false⟩, s)

end Plan

end Testbed
