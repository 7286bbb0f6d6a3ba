import Testbed.Switch.Flight

namespace Testbed

structure Fields where
  switch : String
  deviceId : UInt64
  ports : List (UInt32 × String)
  startupTimeout : Duration
  state : BindingState
  dataPlane : Option Endpoint
  controller : Option Endpoint
  launched : Bool
deriving DecidableEq, Repr

namespace Fields

def new (switch : String) (deviceId : UInt64) (ports : List (UInt32 × String))
    (startupTimeout : Duration) : Fields :=
  ⟨switch, deviceId, ports, startupTimeout, .unbound, none, none, false⟩

def require (expected : BindingState) (operation : String) (f : Fields) : Except Error Unit :=
  if f.state = expected then .ok () else .error (.invalidState f.switch operation f.state)

/-- What a start would fail with that finds the switch attached and an endpoint missing. -/
def noEndpoints (f : Fields) : Error := .agent f.switch "binding has no endpoints"

def conflict (f : Fields) (e : Endpoint) (cause : IoError) : Error :=
  .bindConflict f.switch e (Binding.foreignHolder cause)

def timedOut (f : Fields) (l : Launch) : Error :=
  .startupTimeout f.switch l.dataPlane f.startupTimeout

def endStop (f : Fields) (r : PortRegistry) : Fields × PortRegistry :=
  ({ f with state := .stopped, dataPlane := none, controller := none, launched := false },
    match f.dataPlane with
    | some e => r.release f.switch e
    | none => r)

def begin (op : Binding.Operation) (f : Fields) (r : PortRegistry) :
    Turn × Fields × PortRegistry :=
  match op with
  | .bind e =>
    match f.require .unbound "bind_data_plane" with
    | .error err => (.returns (.error err), f, r)
    | .ok () =>
      match r.reserve f.switch e with
      | .error err => (.returns (.error err), { f with state := .failed }, r)
      | .ok r => (.asks (.checkEndpoint e), f, r)
  | .attach controller =>
    match f.require .dataPlaneListening "attach_controller" with
    | .error err => (.returns (.error err), f, r)
    | .ok () =>
      (.returns (.ok ()), { f with controller := some controller, state := .controllerAttached }, r)
  | .start =>
    match f.require .controllerAttached "start" with
    | .error err => (.returns (.error err), f, r)
    | .ok () =>
      match f.dataPlane, f.controller with
      | some dataPlane, some controller =>
        (.asks (.launch ⟨f.switch, f.deviceId, dataPlane, controller, f.ports⟩),
          { f with launched := true }, r)
      | _, _ => (.returns (.error f.noEndpoints), { f with state := .failed }, r)
  | .stop =>
    if f.state = .stopped then (.returns (.ok ()), f, r)
    else if f.launched then (.asks (.shutdown f.switch), f, r)
    else
      let (f, r) := f.endStop r
      (.returns (.ok ()), f, r)

def resume (request : Request) (answer : Answer) (f : Fields) (r : PortRegistry) :
    Option (Turn × Fields × PortRegistry) :=
  match request, answer with
  | .checkEndpoint e, .checked (.ok ()) =>
    some (.returns (.ok ()), { f with dataPlane := some e, state := .dataPlaneListening }, r)
  | .checkEndpoint e, .checked (.error cause) =>
    some (.returns (.error (f.conflict e cause)), { f with state := .failed },
      r.release f.switch e)
  | .launch l, .launched (.ok ()) => some (.asks (.awaitReady l), f, r)
  | .launch _, .launched (.error err) =>
    some (.returns (.error err), { f with state := .failed }, r)
  | .awaitReady _, .awaited (some (.ok ())) =>
    some (.returns (.ok ()), { f with state := .running }, r)
  | .awaitReady _, .awaited (some (.error err)) =>
    some (.returns (.error err), { f with state := .failed }, r)
  | .awaitReady l, .awaited none =>
    some (.returns (.error (f.timedOut l)), { f with state := .failed }, r)
  | .shutdown _, .shutDown result =>
    let (f, r) := f.endStop r
    some (.returns result, f, r)
  | _, _ => none

def machine : Seat.Machine Fields := ⟨begin, resume⟩

end Fields

def Binding.fields (b : Binding) : Fields :=
  ⟨b.switch, b.deviceId, b.ports, b.startupTimeout, b.state, b.dataPlane?, b.controller?,
    b.launched⟩

end Testbed
