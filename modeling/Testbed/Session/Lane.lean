import Testbed.Switch.Binding

namespace Testbed.Session

structure Entry where
  place : Nat
  binding : Binding
  dataPlane : Endpoint
deriving DecidableEq, Repr

/-- A wait for readiness: the number of the next poll, when it is due, if ever, and when the wait
has taken too long. -/
structure Wait where
  launch : Launch
  round : Nat
  wake : Option Nat
  deadline : Nat
deriving DecidableEq, Repr

structure Shared (σ : Type) where
  registry : PortRegistry
  world : σ

inductive Progress where
  | idle
  | waiting (entry : Entry) (wait : Wait)
  | failed (cause : Error)
deriving DecidableEq, Repr

structure Lane where
  controller : Endpoint
  /-- The switches that are started, and the one that failed, if one did. -/
  past : List Entry
  progress : Progress
  todo : List Entry
deriving DecidableEq, Repr

inductive Attempt where
  | running
  | waiting (wait : Wait)
  | failed (cause : Error)

variable {σ : Type}

def concludeStart (l : Launch) (result : Except Error Unit) (e : Entry) : Attempt × Entry :=
  match e.binding.endStart l result with
  | (.ok (), binding) => (.running, { e with binding })
  | (.error cause, binding) => (.failed cause, { e with binding })

/-- A wait that is not settled is over if its deadline is not ahead. -/
def keepWaiting (now : Nat) (w : Wait) (e : Entry) : Attempt × Entry :=
  if w.deadline ≤ now then concludeStart w.launch (.error (e.binding.timedOut w.launch)) e
  else (.waiting w, e)

def pollEntry (a : Agent σ) (now : Nat) (w : Wait) (e : Entry) (sh : Shared σ) :
    (Attempt × Entry) × Shared σ :=
  match a.poll w.launch w.round sh.world with
  | (.settled result, world) => (concludeStart w.launch result e, { sh with world })
  | (.never, world) =>
    (keepWaiting now { w with round := w.round + 1, wake := none } e, { sh with world })
  | (.again after, world) =>
    (keepWaiting now { w with round := w.round + 1, wake := some (now + Agent.pause after) } e,
      { sh with world })

def launchEntry (a : Agent σ) (now : Nat) (e : Entry) (sh : Shared σ) :
    (Attempt × Entry) × Shared σ :=
  match e.binding.beginStart with
  | .error cause => ((.failed cause, e), sh)
  | .ok (l, binding) =>
    let e := { e with binding }
    match a.launch l sh.world with
    | (.error cause, world) => (concludeStart l (.error cause) e, { sh with world })
    | (.ok (), world) =>
      pollEntry a now ⟨l, 0, none, now + binding.startupTimeout.waitTicks⟩ e { sh with world }

def startEntry (a : Agent σ) (now : Nat) (controller : Endpoint) (e : Entry) (sh : Shared σ) :
    (Attempt × Entry) × Shared σ :=
  match e.binding.bind a e.dataPlane sh.registry sh.world with
  | (.error cause, binding, registry, world) =>
    ((.failed cause, { e with binding }), ⟨registry, world⟩)
  | (.ok (), binding, registry, world) =>
    match binding.attach controller with
    | (.error cause, binding) => ((.failed cause, { e with binding }), ⟨registry, world⟩)
    | (.ok (), binding) => launchEntry a now { e with binding } ⟨registry, world⟩

namespace Lane

def startAll (a : Agent σ) (now : Nat) (controller : Endpoint) :
    List Entry → List Entry → Shared σ → Lane × Shared σ
  | past, [], sh => (⟨controller, past, .idle, []⟩, sh)
  | past, e :: rest, sh =>
    match startEntry a now controller e sh with
    | ((.running, e), sh) => startAll a now controller (past ++ [e]) rest sh
    | ((.waiting w, e), sh) => (⟨controller, past, .waiting e w, rest⟩, sh)
    | ((.failed cause, e), sh) => (⟨controller, past ++ [e], .failed cause, rest⟩, sh)

def resume (a : Agent σ) (now : Nat) (lane : Lane) (step : Attempt × Entry) (sh : Shared σ) :
    Lane × Shared σ :=
  match step with
  | (.running, e) => startAll a now lane.controller (lane.past ++ [e]) lane.todo sh
  | (.waiting w, e) => ({ lane with progress := .waiting e w }, sh)
  | (.failed cause, e) => ({ lane with past := lane.past ++ [e], progress := .failed cause }, sh)

/-- Advances the lane at a point in time. A poll and a deadline that fall on the same tick go in
this order. -/
def advance (a : Agent σ) (now : Nat) (lane : Lane) (sh : Shared σ) : Lane × Shared σ :=
  match lane.progress with
  | .idle => startAll a now lane.controller lane.past lane.todo sh
  | .failed _ => (lane, sh)
  | .waiting e w =>
    if w.wake.any (· ≤ now) then
      let (step, sh) := pollEntry a now w e sh
      lane.resume a now step sh
    else lane.resume a now (keepWaiting now w e) sh

def failure? (lane : Lane) : Option Error :=
  match lane.progress with
  | .failed cause => some cause
  | _ => none

def isFinished (lane : Lane) : Bool :=
  match lane.progress with
  | .idle => lane.todo.isEmpty
  | _ => false

def due? (lane : Lane) : Option Nat :=
  match lane.progress with
  | .waiting _ w => some ((w.wake.map (min w.deadline)).getD w.deadline)
  | _ => none

def entries (lane : Lane) : List Entry :=
  match lane.progress with
  | .waiting e _ => lane.past ++ e :: lane.todo
  | _ => lane.past ++ lane.todo

end Lane

end Testbed.Session
