import Testbed.Host.CommandLine
import Testbed.Host.Shell

namespace Testbed.Host

structure PairEnd where
  name : String
  place : Option String
  isUp : Bool
deriving DecidableEq, Repr

structure Network where
  namespaces : List String
  pairs : List (PairEnd × PairEnd)
deriving DecidableEq, Repr

namespace Network

def empty : Network := ⟨[], []⟩

def ends (n : Network) : List PairEnd := n.pairs.flatMap fun p => [p.1, p.2]

def isAt (place : Option String) (name : String) (e : PairEnd) : Bool :=
  e.place == place && e.name == name

def holds (n : Network) (place : Option String) (name : String) : Bool :=
  n.ends.any (isAt place name)

def hasPlace (n : Network) : Option String → Bool
  | none => true
  | some ns => n.namespaces.contains ns

def change (n : Network) (place : Option String) (name : String) (f : PairEnd → PairEnd) :
    Network :=
  let g (e : PairEnd) := if isAt place name e then f e else e
  { n with pairs := n.pairs.map fun p => (g p.1, g p.2) }

def removePairs (n : Network) (gone : PairEnd → Bool) : Network :=
  { n with pairs := n.pairs.filter fun p => !(gone p.1 || gone p.2) }

def addNamespace (n : Network) (ns : String) : Option Network :=
  if n.namespaces.contains ns then none else some { n with namespaces := n.namespaces ++ [ns] }

def deleteNamespace (n : Network) (ns : String) : Option Network :=
  if n.namespaces.contains ns then
    some { n.removePairs (·.place == some ns) with namespaces := n.namespaces.filter (· != ns) }
  else none

def addPair (n : Network) (a b : String) : Option Network :=
  if a == b || n.holds none a || n.holds none b then none
  else some { n with pairs := n.pairs ++ [(⟨a, none, false⟩, ⟨b, none, false⟩)] }

def moveToNamespace (n : Network) (interface ns : String) : Option Network :=
  if n.holds none interface && n.namespaces.contains ns && !n.holds (some ns) interface then
    some (n.change none interface fun e => { e with place := some ns, isUp := false })
  else none

def loopback : String := "lo"

def raise (n : Network) (place : Option String) (interface : String) : Option Network :=
  if !n.hasPlace place then none
  else if interface == loopback then some n
  else if n.holds place interface then
    some (n.change place interface fun e => { e with isUp := true })
  else none

def deleteInterface (n : Network) (place : Option String) (interface : String) : Option Network :=
  if n.hasPlace place && n.holds place interface then some (n.removePairs (isAt place interface))
  else none

def apply (n : Network) : Command → Option Network
  | .addNamespace ns => n.addNamespace ns
  | .deleteNamespace ns => n.deleteNamespace ns
  | .raiseLoopback ns => n.raise (some ns) loopback
  | .addPair a b => n.addPair a b
  | .moveToNamespace interface ns => n.moveToNamespace interface ns
  | .raise place interface => n.raise place interface
  | .deleteInterface place interface => n.deleteInterface place interface
  | .disableOffloads ns interface => if n.holds (some ns) interface then some n else none
  | .findTool _ => some n

end Network

namespace Command

def ofArguments? (place : Option String) : List String → Option Command
  | ["netns", "add", ns] => if place.isNone then some (.addNamespace ns) else none
  | ["netns", "del", ns] => if place.isNone then some (.deleteNamespace ns) else none
  | ["link", "add", a, "type", "veth", "peer", "name", b] =>
    if place.isNone then some (.addPair a b) else none
  | ["link", "set", interface, "netns", ns] =>
    if place.isNone then some (.moveToNamespace interface ns) else none
  | ["link", "set", interface, "up"] => some (.raise place interface)
  | ["link", "del", interface] => some (.deleteInterface place interface)
  | _ => none

def ofWords? : List String → Option Command
  | tool :: "netns" :: "exec" :: ns :: inner :: arguments =>
    if tool == ipTool && inner == ipTool then ofArguments? (some ns) arguments else none
  | tool :: arguments => if tool == ipTool then ofArguments? none arguments else none
  | [] => none

end Command

/-- The answer of a command that does not succeed, and that was not the network's doing. -/
inductive Refusal where
  | notStarted (cause : IoError)
  | failed (code : Nat)
deriving DecidableEq, Repr

structure NetworkHost where
  network : Network
  commands : Nat
deriving DecidableEq, Repr

namespace NetworkHost

def finished (code : Nat) : Finished := ⟨.exited code, [], []⟩

/-- The shell of a host. It refuses the commands that `refused` says, by their numbers. -/
def shell (refused : Nat → Command → Option Refusal) : Shell NetworkHost where
  run line h :=
    let next := { h with commands := h.commands + 1 }
    match (CommandLine.read line).bind Command.ofWords? with
    | none => (.ok (finished 127), next)
    | some c =>
      match refused h.commands c with
      | some (.notStarted cause) => (.error cause, next)
      | some (.failed code) => (.ok (finished (code + 1)), next)
      | none =>
        match h.network.apply c with
        | none => (.ok (finished 1), next)
        | some network => (.ok (finished 0), { next with network })

end NetworkHost

end Testbed.Host
