import Testbed.Action
import Testbed.Plan.Link

namespace Testbed

/-- A fabric whose effects are changes of `σ`. For a link it is told the namespaces of the ends. -/
structure Fabric (σ : Type) where
  name : String
  createNode : Node → Action σ
  createLink : Link → Option String → Option String → Action σ
  teardownLink : Link → Option String → Action σ
  destroyNode : Node → Action σ

def Fabric.within {σ τ : Type} (part : Part σ τ) (f : Fabric τ) : Fabric σ where
  name := f.name
  createNode n := (f.createNode n).within part
  createLink l nsA nsB := (f.createLink l nsA nsB).within part
  teardownLink l nsA := (f.teardownLink l nsA).within part
  destroyNode n := (f.destroyNode n).within part

end Testbed
