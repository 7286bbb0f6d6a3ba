import Testbed.Endpoint.Read
import Testbed.Host.CommandError
import Testbed.Switch.State
import Testbed.Time

namespace Testbed

inductive Error where
  | duplicateName (name : String)
  | unknownNode (name : String)
  | invalidLink (a b reason : String)
  | interfaceExhaustion (node : String) (limit : Nat)
  | incompleteTopology (orphans : List String)
  | bindConflict (switch : String) (endpoint : Endpoint) (holder : String)
  | invalidState (switch operation : String) (state : BindingState)
  | startupTimeout (switch : String) (endpoint : Endpoint) (timeout : Duration)
  | agent (switch message : String)
  | fabric (operation message : String)
  | tuning (host interface message : String)
  | config (field message : String)
  | command (cause : CommandError)
  | io (cause : IoError)
deriving DecidableEq, Repr

namespace Error

def message : Error → String
  | .duplicateName name => s!"Node '{name}' already exists"
  | .unknownNode name => s!"Unknown node '{name}'"
  | .invalidLink a b reason => s!"Invalid link {a} <-> {b}: {reason}"
  | .interfaceExhaustion node limit => s!"Node '{node}' has no free interface (limit {limit})"
  | .incompleteTopology orphans =>
    "Incomplete topology, orphan links: " ++ ", ".intercalate orphans
  | .bindConflict switch endpoint holder =>
    s!"Data-plane endpoint {endpoint.text} for '{switch}' conflicts with '{holder}'"
  | .invalidState switch operation state =>
    s!"Switch '{switch}': {operation} not allowed in state {state.name}"
  | .startupTimeout switch endpoint timeout =>
    s!"Switch '{switch}': forwarding agent at {endpoint.text} not ready after {timeout.text}"
  | .agent switch message => s!"Forwarding agent for '{switch}': {message}"
  | .fabric operation message => s!"Link fabric operation '{operation}' failed: {message}"
  | .tuning host interface message => s!"Tuning {interface} on '{host}' failed: {message}"
  | .config field message => s!"Invalid configuration for {field}: {message}"
  | .command cause => cause.message
  | .io cause => "IO error: " ++ cause.text

/-- The message and, where the host was the cause, what the host said once more. -/
def chain : Error → String
  | .io cause => (Error.io cause).message ++ ": " ++ cause.text
  | .command (.notStarted line cause) =>
    (CommandError.notStarted line cause).message ++ ": " ++ cause.text
  | e => e.message

/-- Only a switch that was too slow may do better the next time. -/
def isRetryable : Error → Bool
  | .startupTimeout .. => true
  | _ => false

def ofRejection (r : Endpoint.Rejection) : Error := .config "endpoint" r.message

end Error

end Testbed
