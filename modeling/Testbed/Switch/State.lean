namespace Testbed

inductive BindingState where
  | unbound
  | dataPlaneListening
  | controllerAttached
  | running
  | stopped
  | failed
deriving DecidableEq, Repr

namespace BindingState

def name : BindingState → String
  | .unbound => "Unbound"
  | .dataPlaneListening => "DataPlaneListening"
  | .controllerAttached => "ControllerAttached"
  | .running => "Running"
  | .stopped => "Stopped"
  | .failed => "Failed"

/-- The states that only `stopped` can follow. -/
def isTerminal : BindingState → Bool
  | .stopped | .failed => true
  | _ => false

end BindingState

end Testbed
