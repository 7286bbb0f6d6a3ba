import Testbed.Fabric.Namespaces
import Testbed.Tuner.Ethtool

namespace Testbed

def Host.Shell.noting {σ : Type} (sh : Host.Shell σ) : Host.Shell (List String × σ) where
  run line s := ((sh.run line s.2).1, (s.1 ++ [line], (sh.run line s.2).2))

inductive HostTask where
  | createNode (n : Node)
  | createLink (l : Link) (nsA nsB : Option String)
  | teardownLink (l : Link) (nsA : Option String)
  | destroyNode (n : Node)
  | disableOffloads (host interface : String)
  | requireTool (tool : String)
deriving DecidableEq, Repr

namespace HostTask

open Host

variable {σ : Type}

def perform (sh : Shell σ) : HostTask → σ → σ
  | createNode n, s => ((Namespaces.fabric sh).createNode n s).2
  | createLink l nsA nsB, s => ((Namespaces.fabric sh).createLink l nsA nsB s).2
  | teardownLink l nsA, s => ((Namespaces.fabric sh).teardownLink l nsA s).2
  | destroyNode n, s => ((Namespaces.fabric sh).destroyNode n s).2
  | disableOffloads host interface, s => ((Ethtool.tuner sh).disableOffloads host interface s).2
  | requireTool tool, s => (sh.requireTool tool s).2

def lines (sh : Shell σ) (task : HostTask) (s : σ) : List String :=
  (task.perform sh.noting ([], s)).1

def names : HostTask → List String
  | createNode n | destroyNode n => n.namespace?.toList
  | createLink l nsA nsB => [l.a.name, l.b.name] ++ nsA.toList ++ nsB.toList
  | teardownLink l nsA => l.a.name :: nsA.toList
  | disableOffloads host interface => [host, interface]
  | requireTool tool => [tool]

def commands : HostTask → List Command
  | createNode n => n.namespace?.toList.flatMap fun ns =>
    [.deleteNamespace ns, .addNamespace ns, .raiseLoopback ns]
  | createLink l nsA nsB =>
    .addPair l.a.name l.b.name :: Namespaces.placement l.a.name nsA ++
      Namespaces.placement l.b.name nsB
  | teardownLink l nsA => [.deleteInterface nsA l.a.name]
  | destroyNode n => n.namespace?.toList.map .deleteNamespace
  | disableOffloads host interface => [.disableOffloads host interface]
  | requireTool tool => [.findTool tool]

end HostTask

end Testbed
