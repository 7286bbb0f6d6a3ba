import Testbed.Host.Quoting

namespace Testbed.Host

def ipTool : String := "/sbin/ip"

def ethtool : String := "/sbin/ethtool"

inductive Word where
  | plain (text : String)
  | name (text : String)
deriving DecidableEq, Repr

def Word.text : Word → String
  | .plain text => text
  | .name text => quote text

def plainWords (words : List String) : List Word := words.map .plain

def enterNamespace : Option String → List Word
  | some ns => plainWords [ipTool, "netns", "exec"] ++ [.name ns]
  | none => []

def namespaceLead (ns : Option String) : String :=
  String.join ((enterNamespace ns).map fun w => w.text ++ " ")

/-- The features of an interface that compute in the card what a virtual card has to leave to the
sender: receive aggregation and the checksums of both directions. -/
def offloadFeatures : List String := ["gro", "rx", "tx"]

inductive Command where
  | addNamespace (ns : String)
  | deleteNamespace (ns : String)
  | raiseLoopback (ns : String)
  | addPair (a b : String)
  | moveToNamespace (interface ns : String)
  | raise (ns : Option String) (interface : String)
  | deleteInterface (ns : Option String) (interface : String)
  | disableOffloads (ns interface : String)
  | findTool (tool : String)
deriving DecidableEq, Repr

namespace Command

def words : Command → List Word
  | .addNamespace ns => plainWords [ipTool, "netns", "add"] ++ [.name ns]
  | .deleteNamespace ns => plainWords [ipTool, "netns", "del"] ++ [.name ns]
  | .raiseLoopback ns =>
    enterNamespace (some ns) ++ plainWords [ipTool, "link", "set", "lo", "up"]
  | .addPair a b =>
    plainWords [ipTool, "link", "add"] ++ [.name a] ++
      plainWords ["type", "veth", "peer", "name"] ++ [.name b]
  | .moveToNamespace interface ns =>
    plainWords [ipTool, "link", "set"] ++ [.name interface, .plain "netns", .name ns]
  | .raise ns interface =>
    enterNamespace ns ++ plainWords [ipTool, "link", "set"] ++ [.name interface, .plain "up"]
  | .deleteInterface ns interface =>
    enterNamespace ns ++ plainWords [ipTool, "link", "del"] ++ [.name interface]
  | .disableOffloads ns interface =>
    enterNamespace (some ns) ++ plainWords [ethtool, "-K"] ++ [.name interface] ++
      offloadFeatures.flatMap fun feature => plainWords [feature, "off"]
  | .findTool tool => plainWords ["command", "-v"] ++ [.name tool]

def text (c : Command) : String := " ".intercalate (c.words.map Word.text)

end Command

end Testbed.Host
