import Testbed.Host.Command

namespace Testbed.Host

/-- What a command is apart from the names in it. -/
inductive Form where
  | addNamespace
  | deleteNamespace
  | raiseLoopback
  | addPair
  | moveToNamespace
  | raise (inside : Bool)
  | deleteInterface (inside : Bool)
  | disableOffloads
  | findTool
deriving DecidableEq, Repr

namespace Form

def entry (inside : Bool) : List (Option String) :=
  if inside then [some "/sbin/ip", some "netns", some "exec", none] else []

def words : Form → List (Option String)
  | addNamespace => [some "/sbin/ip", some "netns", some "add", none]
  | deleteNamespace => [some "/sbin/ip", some "netns", some "del", none]
  | raiseLoopback =>
    entry true ++ [some "/sbin/ip", some "link", some "set", some "lo", some "up"]
  | addPair =>
    [some "/sbin/ip", some "link", some "add", none, some "type", some "veth", some "peer",
      some "name", none]
  | moveToNamespace => [some "/sbin/ip", some "link", some "set", none, some "netns", none]
  | raise inside =>
    entry inside ++ [some "/sbin/ip", some "link", some "set", none, some "up"]
  | deleteInterface inside => entry inside ++ [some "/sbin/ip", some "link", some "del", none]
  | disableOffloads =>
    entry true ++ [some "/sbin/ethtool", some "-K", none, some "gro", some "off", some "rx",
      some "off", some "tx", some "off"]
  | findTool => [some "command", some "-v", none]

def fill : List (Option String) → List String → List String
  | [], _ => []
  | some word :: rest, names => word :: fill rest names
  | none :: rest, name :: names => name :: fill rest names
  | none :: rest, [] => fill rest []

end Form

def Command.form : Command → Form
  | .addNamespace _ => .addNamespace
  | .deleteNamespace _ => .deleteNamespace
  | .raiseLoopback _ => .raiseLoopback
  | .addPair _ _ => .addPair
  | .moveToNamespace _ _ => .moveToNamespace
  | .raise ns _ => .raise ns.isSome
  | .deleteInterface ns _ => .deleteInterface ns.isSome
  | .disableOffloads _ _ => .disableOffloads
  | .findTool _ => .findTool

end Testbed.Host
