import Testbed.Fabric.Basic
import Testbed.Sorted

namespace Testbed.InMemory

inductive FabricEvent where
  | nodeCreated (name : String)
  | linkCreated (key : String)
  | linkRemoved (key : String)
  | nodeDestroyed (name : String)
deriving DecidableEq, Repr

structure FabricState where
  events : List FabricEvent
  nodes : List String
  links : List String
deriving DecidableEq, Repr

structure FabricFaults where
  node : Option String
  linksAt : Option String
deriving DecidableEq, Repr

/-- A name for the link that does not depend on the order of its ends. -/
def linkKey (l : Link) : String := " <-> ".intercalate (sortNames [l.a.name, l.b.name])

namespace FabricState

def fresh : FabricState := ⟨[], [], []⟩

def liveNodes (s : FabricState) : List String := sortNames s.nodes

def liveLinks (s : FabricState) : List String := sortNames s.links

def record (s : FabricState) (e : FabricEvent) : FabricState := { s with events := s.events ++ [e] }

end FabricState

def createNode (faults : FabricFaults) (n : Node) : Action FabricState := fun s =>
  if faults.node = some n.name then
    (.error (.fabric "create_node" s!"injected failure for {n.name}"), s)
  else (.ok (), { s with nodes := addName n.name s.nodes }.record (.nodeCreated n.name))

def createLink (faults : FabricFaults) (l : Link) : Action FabricState := fun s =>
  if faults.linksAt.any l.touches then
    (.error (.fabric "create_link" s!"injected failure for {l.text}"), s)
  else (.ok (), { s with links := addName (linkKey l) s.links }.record (.linkCreated (linkKey l)))

def teardownLink (l : Link) : Action FabricState := fun s =>
  (.ok (), { s with links := dropName (linkKey l) s.links }.record (.linkRemoved (linkKey l)))

def destroyNode (n : Node) : Action FabricState := fun s =>
  (.ok (), { s with nodes := dropName n.name s.nodes }.record (.nodeDestroyed n.name))

def fabric (faults : FabricFaults) : Fabric FabricState where
  name := "sim"
  createNode := createNode faults
  createLink l _ _ := createLink faults l
  teardownLink l _ := teardownLink l
  destroyNode := destroyNode

end Testbed.InMemory
