import Testbed.Fabric.Topology
import Testbed.Session.Startup
import Testbed.Tuner.Basic

namespace Testbed.Session

structure Backends (σ : Type) where
  fabric : Fabric σ
  agent : Agent σ
  tuner : Tuner σ

/-- A topology with its switches, by order of declaration, and the interfaces tuned so far. -/
structure Running where
  topology : Topology
  bindings : List Binding
  registry : PortRegistry
  controllers : List (String × Endpoint)
  tuned : List String
  stopped : Bool

structure Report where
  stopped : List String
  releasedLinks : List String
  errors : List ReleaseError
deriving DecidableEq, Repr

namespace Report

def isClean (r : Report) : Bool := r.errors.isEmpty

def text (r : Report) : String :=
  s!"stopped {r.stopped.length} switches, released {r.releasedLinks.length} links, " ++
    s!"{r.errors.length} errors"

end Report

variable {σ : Type}

/-- Stops the bindings one after the other: each with the error of its agent, if there was one. -/
def stopAll (a : Agent σ) : List Binding → PortRegistry → σ →
    List (Binding × Option Error) × PortRegistry × σ
  | [], r, s => ([], r, s)
  | b :: rest, r, s =>
    let (result, b, r, s) := b.stop a r s
    let (others, r, s) := stopAll a rest r s
    ((b, failureOf result) :: others, r, s)

def Running.teardown (bk : Backends σ) (running : Running) (s : σ) : Report × Running × σ :=
  let (steps, registry, s) := stopAll bk.agent running.bindings running.registry s
  let (released, topology, s) := running.topology.release bk.fabric s
  let bindings := steps.map (·.1)
  ({ stopped := (bindings.filter fun b => b.state = .stopped).map Binding.switch
     releasedLinks := released.links
     errors :=
       (steps.filterMap fun (b, failure) => failure.map fun e => ⟨b.switch, e.message⟩) ++
         released.errors },
    { running with topology, bindings, registry, stopped := true }, s)

def entryOf (timeout : Duration) (controller : Endpoint) (place : Nat) (n : Node)
    (spec : SwitchSpec) : Endpoint × Entry :=
  (spec.controller.getD controller,
    ⟨place, .new n.name spec.deviceId n.ports timeout, spec.dataPlane⟩)

def entriesOf (timeout : Duration) (controller : Endpoint) (t : Topology) :
    List (Endpoint × Entry) :=
  (t.nodes.filterMap fun n => n.spec?.map (Prod.mk n)).mapIdx fun place p =>
    entryOf timeout controller place p.1 p.2

def tuningTargets (t : Topology) : List (String × String) :=
  t.hosts.flatMap fun h => h.interfaces.map fun i => (h.name, i.name)

/-- Starts the switches of a topology and then tunes its hosts, up to the first failure: the
failure, if there is one, the time that the start of the switches took, and the session as it then
stands. -/
def bringUp (bk : Backends σ) (timeout : Duration) (controller : Endpoint) (topology : Topology)
    (s : σ) :
    Option Error × Nat × Running × σ :=
  let entries := entriesOf timeout controller topology
  let outcome := startLanes bk.agent (lanesOf entries) ⟨.empty, s⟩
  let running : Running :=
    { topology
      bindings := bindingsOf outcome.lanes
      registry := outcome.shared.registry
      controllers := entries.map fun (c, e) => (e.binding.switch, c)
      tuned := []
      stopped := false }
  match outcome.result with
  | .error e => (some e, outcome.time, running, outcome.shared.world)
  | .ok () =>
    let (done, failure, s) := Action.untilFailure (fun (h, i) => bk.tuner.disableOffloads h i)
      (tuningTargets topology) outcome.shared.world
    (failure, outcome.time, { running with tuned := done.map Prod.snd }, s)

/-- Sets up the plan and brings it up; if that fails, takes everything down again. Besides the
result there is the time that the start of the switches took. -/
def buildAndStart (bk : Backends σ) (timeout : Duration) (p : Plan) (controller : Endpoint)
    (s : σ) :
    Except Error Running × Nat × σ :=
  match p.materialize bk.fabric s with
  | (.error e, s) => (.error e, 0, s)
  | (.ok topology, s) =>
    match bringUp bk timeout controller topology s with
    | (none, time, running, s) => (.ok running, time, s)
    | (some e, time, running, s) => (.error e, time, (running.teardown bk s).2.2)

namespace Running

def controllersByName (running : Running) : List (String × Endpoint) :=
  sortBy (fun a b => decide (a.1 < b.1)) running.controllers

def stateOf? (running : Running) (switch : String) : Option BindingState :=
  (running.bindings.find? (·.switch == switch)).map Binding.state

def debugText (fabricName : String) (running : Running) : String :=
  let controllers := running.controllersByName.map fun (name, e) =>
    Text.literal name ++ ": " ++ Binding.debugEndpoint e
  "RunningTopology \x7b topology: " ++ running.topology.debugText fabricName ++
    ", controllers: \x7b" ++ ", ".intercalate controllers ++ "\x7d, tuned: " ++
    Text.bracketed (running.tuned.map Text.literal) ++ ", stopped: " ++
    toString running.stopped ++ " \x7d"

end Running

end Testbed.Session
