import Testbed.Plan.Basic

namespace Testbed

inductive Plan.Operation where
  | addHost (name : String)
  | addSwitch (name : String) (dataPlane : Endpoint)
  | addSwitchWithId (name : String) (dataPlane : Endpoint) (deviceId : UInt64)
  | addSwitchSpec (name : String) (spec : SwitchSpec)
  | addLink (a b : String)
  | removeNode (name : String)
deriving DecidableEq, Repr

namespace Plan

def attempt (p : Plan) : Operation → Except Error Plan
  | .addHost name => p.addHost name
  | .addSwitch name dataPlane => p.addSwitch name dataPlane
  | .addSwitchWithId name dataPlane deviceId => p.addSwitchWithId name dataPlane deviceId
  | .addSwitchSpec name spec => p.addSwitchSpec name spec
  | .addLink a b => (p.addLink a b).map (·.2)
  | .removeNode name => (p.removeNode name).map (·.2)

def perform (p : Plan) (op : Operation) : Plan :=
  match p.attempt op with
  | .ok q => q
  | .error _ => p

def performAll (p : Plan) (ops : List Operation) : Plan := ops.foldl perform p

theorem performAll_append (p : Plan) (ops more : List Operation) :
    p.performAll (ops ++ more) = (p.performAll ops).performAll more :=
  List.foldl_append

end Plan

end Testbed
