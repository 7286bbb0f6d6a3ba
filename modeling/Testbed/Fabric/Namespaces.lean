import Testbed.Fabric.Basic
import Testbed.Host.Shell

namespace Testbed.Namespaces

open Host

variable {σ : Type}

def run (sh : Shell σ) (c : Command) : Action σ := fun s =>
  match sh.execChecked c.text s with
  | (.ok _, s) => (.ok (), s)
  | (.error e, s) => (.error (.command e), s)

def attempt (sh : Shell σ) (c : Command) : Action σ := (run sh c).bestEffort

def placement (interface : String) (ns : Option String) : List Command :=
  (ns.toList.map (Command.moveToNamespace interface)) ++ [.raise ns interface]

/-- A namespace that an earlier run left behind is deleted before the new one is added. -/
def createNode (sh : Shell σ) (n : Node) : Action σ :=
  match n.namespace? with
  | none => .done
  | some ns =>
    .sequence [attempt sh (.deleteNamespace ns), run sh (.addNamespace ns),
      run sh (.raiseLoopback ns)]

def createLink (sh : Shell σ) (l : Link) (nsA nsB : Option String) : Action σ :=
  .sequence ((.addPair l.a.name l.b.name :: placement l.a.name nsA ++ placement l.b.name nsB).map
    (run sh))

/-- Deleting one end removes the other with it. -/
def teardownLink (sh : Shell σ) (l : Link) (nsA : Option String) : Action σ :=
  run sh (.deleteInterface nsA l.a.name)

def destroyNode (sh : Shell σ) (n : Node) : Action σ :=
  match n.namespace? with
  | none => .done
  | some ns => run sh (.deleteNamespace ns)

def fabric (sh : Shell σ) : Fabric σ where
  name := "netns"
  createNode := createNode sh
  createLink := createLink sh
  teardownLink := teardownLink sh
  destroyNode := destroyNode sh

def checkHost (sh : Shell σ) : Action σ := fun s =>
  match sh.requireTool ipTool s with
  | (.ok (), s) => (.ok (), s)
  | (.error e, s) => (.error (.command e), s)

end Testbed.Namespaces
