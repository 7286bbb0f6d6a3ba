import Testbed.Plan.Node

namespace Testbed

structure Link where
  a : Interface
  b : Interface
deriving DecidableEq, Repr

namespace Link

def same (l m : Link) : Bool := (l.a == m.a && l.b == m.b) || (l.a == m.b && l.b == m.a)

def ends (l : Link) : List Interface := [l.a, l.b]

def touches (l : Link) (node : String) : Bool := l.a.node == node || l.b.node == node

def sideOf (l : Link) (node : String) : Option Interface := l.ends.find? (·.node == node)

def text (l : Link) : String := l.a.name ++ " <-> " ++ l.b.name

theorem touches_iff {l : Link} {node : String} :
    l.touches node = true ↔ ∃ i ∈ l.ends, i.node = node := by
  simp [touches, ends]

end Link

end Testbed
