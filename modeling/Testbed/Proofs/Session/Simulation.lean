import Testbed.Session.Basic

namespace Testbed

variable {σ τ α : Type} {f : σ → τ}

namespace Action

/-- What `act` does is seen as `view`. -/
def Maps (f : σ → τ) (act : Action σ) (view : Action τ) : Prop :=
  ∀ s, view (f s) = ((act s).1, f (act s).2)

theorem untilFailure_maps {act : α → Action σ} {view : α → Action τ}
    (maps : ∀ x, (act x).Maps f (view x)) (xs : List α) (s : σ) :
    untilFailure view xs (f s) = ((untilFailure act xs s).1, (untilFailure act xs s).2.1,
      f (untilFailure act xs s).2.2) := by
  induction xs generalizing s with
  | nil => rfl
  | cons x rest ih =>
    simp only [untilFailure, maps x s]
    cases act x s with
    | mk result t =>
      cases result with
      | ok => simp only [ih t]
      | error e => rfl

theorem onEach_maps {act : α → Action σ} {view : α → Action τ}
    (maps : ∀ x, (act x).Maps f (view x)) (xs : List α) (s : σ) :
    onEach view xs (f s) = ((onEach act xs s).1, f (onEach act xs s).2) := by
  induction xs generalizing s with
  | nil => rfl
  | cons x rest ih => simp only [onEach, maps x s, ih (act x s).2]

end Action

structure Agent.Maps (f : σ → τ) (a : Agent σ) (view : Agent τ) : Prop where
  checkEndpoint : ∀ e s, view.checkEndpoint e (f s) =
    ((a.checkEndpoint e s).1, f (a.checkEndpoint e s).2)
  launch : ∀ l, (a.launch l).Maps f (view.launch l)
  poll : ∀ l round s, view.poll l round (f s) = ((a.poll l round s).1, f (a.poll l round s).2)
  shutdown : ∀ switch, (a.shutdown switch).Maps f (view.shutdown switch)

structure Fabric.Maps (f : σ → τ) (fab : Fabric σ) (view : Fabric τ) : Prop where
  createNode : ∀ n, (fab.createNode n).Maps f (view.createNode n)
  createLink : ∀ l nsA nsB, (fab.createLink l nsA nsB).Maps f (view.createLink l nsA nsB)
  teardownLink : ∀ l nsA, (fab.teardownLink l nsA).Maps f (view.teardownLink l nsA)
  destroyNode : ∀ n, (fab.destroyNode n).Maps f (view.destroyNode n)

def Tuner.Maps (f : σ → τ) (t : Tuner σ) (view : Tuner τ) : Prop :=
  ∀ host interface, (t.disableOffloads host interface).Maps f (view.disableOffloads host interface)

section Within

variable (part : Part σ τ) (s : σ)

theorem Agent.within_maps (a : Agent τ) : a.Maps (part.set · s) (a.within part) where
  checkEndpoint e t := by simp only [Agent.within, part.get_set, part.set_set]
  launch l t := by simp only [Agent.within, Action.within, part.get_set, part.set_set]
  poll l round t := by simp only [Agent.within, part.get_set, part.set_set]
  shutdown switch t := by simp only [Agent.within, Action.within, part.get_set, part.set_set]

theorem Fabric.within_maps (f : Fabric τ) : f.Maps (part.set · s) (f.within part) where
  createNode n t := by simp only [Fabric.within, Action.within, part.get_set, part.set_set]
  createLink l nsA nsB t := by simp only [Fabric.within, Action.within, part.get_set, part.set_set]
  teardownLink l nsA t := by simp only [Fabric.within, Action.within, part.get_set, part.set_set]
  destroyNode n t := by simp only [Fabric.within, Action.within, part.get_set, part.set_set]

theorem Tuner.within_maps (t : Tuner τ) : t.Maps (part.set · s) (t.within part) := by
  intro host interface u
  simp only [Tuner.within, Action.within, part.get_set, part.set_set]

end Within

theorem Binding.bind_maps {a : Agent σ} {view : Agent τ} (maps : a.Maps f view) (e : Endpoint)
    (b : Binding) (r : PortRegistry) (s : σ) :
    b.bind view e r (f s) =
      ((b.bind a e r s).1, (b.bind a e r s).2.1, (b.bind a e r s).2.2.1,
        f (b.bind a e r s).2.2.2) := by
  unfold Binding.bind
  split
  next => rfl
  next => simp only [maps.checkEndpoint]

theorem Binding.stop_maps {a : Agent σ} {view : Agent τ} (maps : a.Maps f view) (b : Binding)
    (r : PortRegistry) (s : σ) :
    b.stop view r (f s) =
      ((b.stop a r s).1, (b.stop a r s).2.1, (b.stop a r s).2.2.1, f (b.stop a r s).2.2.2) := by
  unfold Binding.stop
  split
  next => rfl
  next =>
    by_cases launched : b.launched = true
    · simp only [launched, ↓reduceIte, maps.shutdown b.switch s]
    · simp only [launched, Bool.false_eq_true, ↓reduceIte]

namespace Session

def Shared.map (f : σ → τ) (sh : Shared σ) : Shared τ := ⟨sh.registry, f sh.world⟩

def Outcome.map (f : σ → τ) (o : Outcome σ) : Outcome τ :=
  ⟨o.result, o.time, o.lanes, o.shared.map f⟩

section Startup

variable {a : Agent σ} {view : Agent τ} (maps : a.Maps f view) (now : Nat)

include maps

theorem pollEntry_maps (w : Wait) (e : Entry) (sh : Shared σ) :
    pollEntry view now w e (sh.map f) =
      ((pollEntry a now w e sh).1, (pollEntry a now w e sh).2.map f) := by
  simp only [pollEntry, Shared.map, maps.poll]
  cases a.poll w.launch w.round sh.world with
  | mk answer t => cases answer <;> rfl

theorem launchEntry_maps (e : Entry) (sh : Shared σ) :
    launchEntry view now e (sh.map f) =
      ((launchEntry a now e sh).1, (launchEntry a now e sh).2.map f) := by
  simp only [launchEntry]
  split
  next => rfl
  next l binding _ =>
    simp only [Shared.map, maps.launch l sh.world]
    cases a.launch l sh.world with
    | mk result t =>
      cases result with
      | error => rfl
      | ok => exact pollEntry_maps maps now _ _ ⟨sh.registry, t⟩

theorem startEntry_maps (c : Endpoint) (e : Entry) (sh : Shared σ) :
    startEntry view now c e (sh.map f) =
      ((startEntry a now c e sh).1, (startEntry a now c e sh).2.map f) := by
  simp only [startEntry, Shared.map, Binding.bind_maps maps]
  cases e.binding.bind a e.dataPlane sh.registry sh.world with
  | mk result rest =>
    obtain ⟨b, r, s⟩ := rest
    cases result with
    | error => rfl
    | ok =>
      dsimp only
      split
      next => rfl
      next => exact launchEntry_maps maps now _ ⟨r, s⟩

theorem startAll_maps (c : Endpoint) (past todo : List Entry) (sh : Shared σ) :
    Lane.startAll view now c past todo (sh.map f) =
      ((Lane.startAll a now c past todo sh).1, (Lane.startAll a now c past todo sh).2.map f) := by
  induction todo generalizing past sh with
  | nil => rfl
  | cons e rest ih =>
    simp only [Lane.startAll, startEntry_maps maps]
    cases startEntry a now c e sh with
    | mk step sh' =>
      obtain ⟨attempt, e'⟩ := step
      cases attempt with
      | running => exact ih _ _
      | waiting => rfl
      | failed => rfl

theorem resume_maps (lane : Lane) (step : Attempt × Entry) (sh : Shared σ) :
    lane.resume view now step (sh.map f) =
      ((lane.resume a now step sh).1, (lane.resume a now step sh).2.map f) := by
  obtain ⟨attempt, e⟩ := step
  cases attempt with
  | running => exact startAll_maps maps now _ _ _ _
  | waiting => rfl
  | failed => rfl

theorem advance_maps (lane : Lane) (sh : Shared σ) :
    lane.advance view now (sh.map f) =
      ((lane.advance a now sh).1, (lane.advance a now sh).2.map f) := by
  unfold Lane.advance
  split
  next => exact startAll_maps maps now _ _ _ _
  next => rfl
  next e w _ =>
    split
    next =>
      simp only [pollEntry_maps maps]
      exact resume_maps maps now _ _ _
    next => exact resume_maps maps now _ _ _

theorem sweep_maps (swept rest : List Lane) (sh : Shared σ) :
    sweep view now swept rest (sh.map f) =
      ((sweep a now swept rest sh).1, (sweep a now swept rest sh).2.map f) := by
  induction rest generalizing swept sh with
  | nil => rfl
  | cons lane rest ih =>
    simp only [sweep, advance_maps maps]
    split
    next => rfl
    next => exact ih _ _

theorem runLanes_maps (n : Nat) (lanes : List Lane) (sh : Shared σ) :
    runLanes view n now lanes (sh.map f) = (runLanes a n now lanes sh).map f := by
  induction n generalizing now lanes sh with
  | zero => rfl
  | succ n ih =>
    simp only [runLanes, sweep_maps maps]
    split
    next => rfl
    next =>
      split
      next => rfl
      next => exact ih _ _ _

theorem startLanes_maps (lanes : List Lane) (sh : Shared σ) :
    startLanes view lanes (sh.map f) = (startLanes a lanes sh).map f :=
  runLanes_maps maps 0 _ lanes sh

theorem stopAll_maps (bs : List Binding) (r : PortRegistry) (s : σ) :
    stopAll view bs r (f s) =
      ((stopAll a bs r s).1, (stopAll a bs r s).2.1, f (stopAll a bs r s).2.2) := by
  induction bs generalizing r s with
  | nil => rfl
  | cons b rest ih => simp only [stopAll, Binding.stop_maps maps, ih]

end Startup

theorem connect_maps {fab : Fabric σ} {view : Fabric τ} (maps : fab.Maps f view)
    (nodes : List Node) (l : Link) : (fab.connect nodes l).Maps f (view.connect nodes l) :=
  maps.createLink l _ _

theorem release_maps {fab : Fabric σ} {view : Fabric τ} (maps : fab.Maps f view)
    (nodes created : List Node) (links : List Link) (s : σ) :
    view.release nodes created links (f s) =
      ((fab.release nodes created links s).1, f (fab.release nodes created links s).2) := by
  have disconnect (l : Link) : (fab.disconnect nodes l).Maps f (view.disconnect nodes l) :=
    maps.teardownLink l _
  simp only [Fabric.release, Action.onEach_maps disconnect, Action.onEach_maps maps.destroyNode]

theorem topology_release_maps {fab : Fabric σ} {view : Fabric τ} (maps : fab.Maps f view)
    (t : Topology) (s : σ) :
    t.release view (f s) =
      ((t.release fab s).1, (t.release fab s).2.1, f (t.release fab s).2.2) := by
  unfold Topology.release
  split
  next => rfl
  next => simp only [release_maps maps]

theorem materialize_maps {fab : Fabric σ} {view : Fabric τ} (maps : fab.Maps f view) (p : Plan)
    (s : σ) :
    p.materialize view (f s) = ((p.materialize fab s).1, f (p.materialize fab s).2) := by
  unfold Plan.materialize
  split
  next => rfl
  next =>
    simp only [Action.untilFailure_maps maps.createNode]
    cases Action.untilFailure fab.createNode p.nodes s with
    | mk created rest =>
      obtain ⟨failure, t⟩ := rest
      cases failure with
      | some e => simp only [release_maps maps]
      | none =>
        simp only [Action.untilFailure_maps (connect_maps maps p.nodes)]
        cases Action.untilFailure (fab.connect p.nodes) p.links t with
        | mk links rest =>
          obtain ⟨failure, u⟩ := rest
          cases failure with
          | some e => simp only [release_maps maps]
          | none => rfl

structure Backends.Maps (f : σ → τ) (bk : Backends σ) (view : Backends τ) : Prop where
  fabric : bk.fabric.Maps f view.fabric
  agent : bk.agent.Maps f view.agent
  tuner : bk.tuner.Maps f view.tuner

section Sessions

variable {bk : Backends σ} {view : Backends τ} (maps : bk.Maps f view)

include maps

theorem teardown_maps (running : Running) (s : σ) :
    running.teardown view (f s) = ((running.teardown bk s).1, (running.teardown bk s).2.1,
      f (running.teardown bk s).2.2) := by
  simp only [Running.teardown, stopAll_maps maps.agent, topology_release_maps maps.fabric]

theorem bringUp_maps (timeout : Duration) (controller : Endpoint) (t : Topology) (s : σ) :
    bringUp view timeout controller t (f s) =
      ((bringUp bk timeout controller t s).1, (bringUp bk timeout controller t s).2.1,
        (bringUp bk timeout controller t s).2.2.1,
        f (bringUp bk timeout controller t s).2.2.2) := by
  have started := startLanes_maps maps.agent (lanesOf (entriesOf timeout controller t))
    ⟨.empty, s⟩
  simp only [Shared.map] at started
  simp only [bringUp, started, Outcome.map, Shared.map]
  split
  next => rfl
  next => simp only [Action.untilFailure_maps fun x : String × String => maps.tuner x.1 x.2]

theorem buildAndStart_maps (timeout : Duration) (p : Plan) (controller : Endpoint) (s : σ) :
    buildAndStart view timeout p controller (f s) =
      ((buildAndStart bk timeout p controller s).1, (buildAndStart bk timeout p controller s).2.1,
        f (buildAndStart bk timeout p controller s).2.2) := by
  simp only [buildAndStart, materialize_maps maps.fabric]
  cases p.materialize bk.fabric s with
  | mk result t =>
    cases result with
    | error e => rfl
    | ok topology =>
      simp only [bringUp_maps maps]
      cases bringUp bk timeout controller topology t with
      | mk failure rest =>
        cases failure with
        | none => rfl
        | some e => simp only [teardown_maps maps]

end Sessions

end Session

end Testbed
