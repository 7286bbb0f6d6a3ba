import Testbed.Agent.Basic
import Testbed.Switch.PortRegistry
import Testbed.Text.Literal

namespace Testbed

/-- Where a switch stands, with the endpoints it has at that point. -/
inductive Binding.Phase where
  | unbound
  | listening (dataPlane : Endpoint)
  /-- `launched` after a start that was given up before its end. -/
  | attached (dataPlane controller : Endpoint) (launched : Bool)
  | running (dataPlane controller : Endpoint)
  /-- The endpoints are still there if it was the start that failed. -/
  | failed (endpoints : Option (Endpoint × Endpoint))
  | stopped
deriving DecidableEq, Repr

structure Binding where
  switch : String
  deviceId : UInt64
  ports : List (UInt32 × String)
  startupTimeout : Duration
  phase : Binding.Phase
deriving DecidableEq, Repr

namespace Binding

def defaultStartupTimeout : Duration := .ofSeconds 5

def new (switch : String) (deviceId : UInt64) (ports : List (UInt32 × String))
    (startupTimeout : Duration) : Binding :=
  ⟨switch, deviceId, ports, startupTimeout, .unbound⟩

def state (b : Binding) : BindingState :=
  match b.phase with
  | .unbound => .unbound
  | .listening _ => .dataPlaneListening
  | .attached .. => .controllerAttached
  | .running .. => .running
  | .failed _ => .failed
  | .stopped => .stopped

def dataPlane? (b : Binding) : Option Endpoint :=
  match b.phase with
  | .unbound | .stopped => none
  | .listening dataPlane | .attached dataPlane _ _ | .running dataPlane _ => some dataPlane
  | .failed endpoints => endpoints.map (·.1)

def controller? (b : Binding) : Option Endpoint :=
  match b.phase with
  | .unbound | .stopped | .listening _ => none
  | .attached _ controller _ | .running _ controller => some controller
  | .failed endpoints => endpoints.map (·.2)

/-- Whether a launch was attempted that no shutdown has followed. -/
def launched (b : Binding) : Bool :=
  match b.phase with
  | .unbound | .stopped | .listening _ => false
  | .attached _ _ launched => launched
  | .running .. => true
  | .failed endpoints => endpoints.isSome

def invalidState (b : Binding) (operation : String) : Error :=
  .invalidState b.switch operation b.state

def foreignHolder (cause : IoError) : String := s!"another process on the host ({cause.text})"

def beginBind (e : Endpoint) (b : Binding) (r : PortRegistry) :
    Except Error Unit × Binding × PortRegistry :=
  match b.phase with
  | .unbound =>
    match r.reserve b.switch e with
    | .ok r => (.ok (), b, r)
    | .error err => (.error err, { b with phase := .failed none }, r)
  | _ => (.error (b.invalidState "bind_data_plane"), b, r)

def endBind (e : Endpoint) (checked : Except IoError Unit) (b : Binding) (r : PortRegistry) :
    Except Error Unit × Binding × PortRegistry :=
  match checked with
  | .ok () => (.ok (), { b with phase := .listening e }, r)
  | .error cause =>
    (.error (.bindConflict b.switch e (foreignHolder cause)), { b with phase := .failed none },
      r.release b.switch e)

def attach (controller : Endpoint) (b : Binding) : Except Error Unit × Binding :=
  match b.phase with
  | .listening dataPlane => (.ok (), { b with phase := .attached dataPlane controller false })
  | _ => (.error (b.invalidState "attach_controller"), b)

def launchOf (b : Binding) (dataPlane controller : Endpoint) : Launch :=
  ⟨b.switch, b.deviceId, dataPlane, controller, b.ports⟩

/-- The beginning of a start: from here on the launch counts as attempted. -/
def beginStart (b : Binding) : Except Error (Launch × Binding) :=
  match b.phase with
  | .attached dataPlane controller _ =>
    .ok (b.launchOf dataPlane controller, { b with phase := .attached dataPlane controller true })
  | _ => .error (b.invalidState "start")

def endStart (l : Launch) (result : Except Error Unit) (b : Binding) :
    Except Error Unit × Binding :=
  match result with
  | .ok () => (.ok (), { b with phase := .running l.dataPlane l.controller })
  | .error e => (.error e, { b with phase := .failed (some (l.dataPlane, l.controller)) })

def timedOut (b : Binding) (l : Launch) : Error :=
  .startupTimeout b.switch l.dataPlane b.startupTimeout

def endStop (b : Binding) (r : PortRegistry) : Binding × PortRegistry :=
  ({ b with phase := .stopped },
    match b.dataPlane? with
    | some e => r.release b.switch e
    | none => r)

section Operations

variable {σ : Type}

def bind (a : Agent σ) (e : Endpoint) (b : Binding) (r : PortRegistry) (s : σ) :
    Except Error Unit × Binding × PortRegistry × σ :=
  match b.beginBind e r with
  | (.error err, b, r) => (.error err, b, r, s)
  | (.ok (), b, r) =>
    let (checked, s) := a.checkEndpoint e s
    let (result, b, r) := b.endBind e checked r
    (result, b, r, s)

/-- Launches the agent and waits until the switch is ready, for the startup timeout at most. With a
`limit` the start is given up at that time, unless it is over by then; the result is then `none`. -/
def start (a : Agent σ) (limit : Option Nat) (now : Nat) (b : Binding) (s : σ) :
    Option (Except Error Unit) × Nat × Binding × σ :=
  match b.beginStart with
  | .error err => (some (.error err), now, b, s)
  | .ok (l, b) =>
    match a.launch l s with
    | (.error err, s) =>
      let (result, b) := b.endStart l (.error err)
      (some result, now, b, s)
    | (.ok (), s) =>
      let deadline := now + b.startupTimeout.waitTicks
      let cut := (limit.map (min deadline)).getD deadline
      match a.awaitReady l cut now s with
      | (some outcome, time, s) =>
        let (result, b) := b.endStart l outcome
        (some result, time, b, s)
      | (none, time, s) =>
        if cut < deadline then (none, time, b, s)
        else
          let (result, b) := b.endStart l (.error (b.timedOut l))
          (some result, time, b, s)

def stop (a : Agent σ) (b : Binding) (r : PortRegistry) (s : σ) :
    Except Error Unit × Binding × PortRegistry × σ :=
  match b.phase with
  | .stopped => (.ok (), b, r, s)
  | _ =>
    let (result, s) := if b.launched then a.shutdown b.switch s else (.ok (), s)
    let (b, r) := b.endStop r
    (result, b, r, s)

end Operations

def debugEndpoint (e : Endpoint) : String :=
  "Endpoint \x7b host: " ++ Text.literal e.host ++ ", port: " ++ toString e.port.toNat ++ " \x7d"

def debugOption : Option Endpoint → String
  | none => "None"
  | some e => "Some(" ++ debugEndpoint e ++ ")"

def debugText (agentName : String) (b : Binding) : String :=
  "ControllerBinding \x7b switch: " ++ Text.literal b.switch ++ ", state: " ++ b.state.name ++
    ", data_plane: " ++ debugOption b.dataPlane? ++ ", controller: " ++
    debugOption b.controller? ++ ", agent: " ++ Text.literal agentName ++ " \x7d"

end Binding

end Testbed
