import Testbed.Endpoint.Basic

namespace Testbed

structure SwitchSpec where
  dataPlane : Endpoint
  deviceId : UInt64
  controller : Option Endpoint
deriving DecidableEq, Repr

inductive NodeKind where
  | host
  | switch (spec : SwitchSpec)
deriving DecidableEq, Repr

namespace NodeKind

def firstOrdinal : NodeKind → UInt32
  | .host => 0
  | .switch _ => 1

def label : NodeKind → String
  | .host => "host"
  | .switch _ => "switch"

end NodeKind

def interfaceName (node : String) (ordinal : UInt32) : String :=
  node ++ "-eth" ++ toString ordinal.toNat

def maxInterfaceNameLength : Nat := 15

structure Interface where
  node : String
  ordinal : UInt32
deriving DecidableEq, Repr

namespace Interface

def name (i : Interface) : String := interfaceName i.node i.ordinal

def compare (i j : Interface) : Ordering :=
  (Ord.compare i.node j.node).then (Ord.compare i.ordinal j.ordinal)

end Interface

structure Node where
  name : String
  kind : NodeKind
  interfaces : List Interface
deriving DecidableEq, Repr

namespace Node

def host (name : String) : Node := ⟨name, .host, []⟩

def switch (name : String) (spec : SwitchSpec) : Node := ⟨name, .switch spec, []⟩

def isHost (n : Node) : Bool :=
  match n.kind with
  | .host => true
  | .switch _ => false

def spec? (n : Node) : Option SwitchSpec :=
  match n.kind with
  | .host => none
  | .switch spec => some spec

def nextOrdinal (n : Node) : UInt32 := n.kind.firstOrdinal + UInt32.ofNat n.interfaces.length

def nextInterface (n : Node) : Interface := ⟨n.name, n.nextOrdinal⟩

def allocate (n : Node) : Node := { n with interfaces := n.interfaces ++ [n.nextInterface] }

def owns (n : Node) (i : Interface) : Bool := i.node == n.name && n.interfaces.contains i

/-- A host has a network namespace of its own, named after it; switches share the root one. -/
def namespace? (n : Node) : Option String :=
  match n.kind with
  | .host => some n.name
  | .switch _ => none

/-- The interfaces of a switch as its agent counts them: number and name. -/
def ports (n : Node) : List (UInt32 × String) := n.interfaces.map fun i => (i.ordinal, i.name)

end Node

end Testbed
