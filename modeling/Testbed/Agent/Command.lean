import Testbed.Agent.Basic
import Testbed.Text.Search

namespace Testbed

inductive Placeholder where
  | name
  | deviceId
  | dataPlanePort
  | dataPlane
  | controller
deriving DecidableEq, Repr

namespace Placeholder

def text : Placeholder → String
  | .name => "\x7bname\x7d"
  | .deviceId => "\x7bdevice_id\x7d"
  | .dataPlanePort => "\x7bdata_plane_port\x7d"
  | .dataPlane => "\x7bdata_plane\x7d"
  | .controller => "\x7bcontroller\x7d"

def value (l : Launch) : Placeholder → String
  | .name => l.switch
  | .deviceId => toString l.deviceId.toNat
  | .dataPlanePort => toString l.dataPlane.port.toNat
  | .dataPlane => l.dataPlane.text
  | .controller => l.controller.text

/-- The order in which they are replaced: a value put in by one can be replaced by a later one. -/
def inOrder : List Placeholder := [.name, .deviceId, .dataPlanePort, .dataPlane, .controller]

end Placeholder

def portsPlaceholder : String := "\x7bports\x7d"

structure AgentCommand where
  binary : String
  args : List String
deriving DecidableEq, Repr

namespace AgentCommand

def default : AgentCommand where
  binary := "simple_switch_grpc"
  args := ["--device-id", Placeholder.deviceId.text, portsPlaceholder, "--no-p4", "--",
    "--grpc-server-addr", Placeholder.dataPlane.text]

def portArguments (ports : List (UInt32 × String)) : List String :=
  ports.flatMap fun (number, interface) => ["-i", toString number.toNat ++ "@" ++ interface]

def fill (l : Launch) (argument : String) : String :=
  Placeholder.inOrder.foldl (fun s p => Text.replace p.text (p.value l) s) argument

def renderArgument (l : Launch) (argument : String) : List String :=
  if argument = portsPlaceholder then portArguments l.ports else [fill l argument]

def render (c : AgentCommand) (l : Launch) : List String := c.args.flatMap (renderArgument l)

end AgentCommand

end Testbed
