import Testbed.Proofs.Fabric.Setup
import Testbed.Session.Basic

namespace Testbed

variable {σ α : Type}

namespace Action

variable (act : α → Action σ) {Q : σ → Prop} (keeps : ∀ x s, Q s → Q (act x s).2)

include keeps

theorem untilFailure_keeps (xs : List α) {s : σ} (start : Q s) : Q (untilFailure act xs s).2.2 := by
  induction xs generalizing s with
  | nil => exact start
  | cons x rest ih =>
    have first := keeps x s start
    unfold untilFailure
    cases acted : act x s with
    | mk result t =>
      rw [acted] at first
      cases result with
      | ok => exact ih first
      | error e => exact first

theorem onEach_keeps (xs : List α) {s : σ} (start : Q s) : Q (onEach act xs s).2 := by
  induction xs generalizing s with
  | nil => exact start
  | cons x rest ih => exact ih (keeps x s start)

end Action

structure Fabric.Keeps (f : Fabric σ) (Q : σ → Prop) : Prop where
  createNode : ∀ n s, Q s → Q (f.createNode n s).2
  createLink : ∀ l nsA nsB s, Q s → Q (f.createLink l nsA nsB s).2
  teardownLink : ∀ l nsA s, Q s → Q (f.teardownLink l nsA s).2
  destroyNode : ∀ n s, Q s → Q (f.destroyNode n s).2

namespace Fabric.Keeps

variable {f : Fabric σ} {Q : σ → Prop} (keeps : f.Keeps Q)

include keeps

theorem release (nodes created : List Node) (links : List Link) {s : σ} (start : Q s) :
    Q (f.release nodes created links s).2 := by
  have unlinked := Action.onEach_keeps (f.disconnect nodes) (fun l => keeps.teardownLink l _)
    links.reverse start
  exact Action.onEach_keeps f.destroyNode keeps.destroyNode created.reverse unlinked

theorem release_topology (t : Topology) {s : σ} (start : Q s) : Q (t.release f s).2.2 := by
  unfold Topology.release
  split
  next => exact start
  next => exact keeps.release t.nodes t.nodes t.links start

theorem materialize (p : Plan) {s : σ} (start : Q s) : Q (p.materialize f s).2 := by
  have set_up : p.SetUp f s (p.materialize f s) := Plan.materialize_setUp
  have made := Action.untilFailure_keeps f.createNode keeps.createNode p.nodes start
  have linked {t : σ} (start : Q t) :=
    Action.untilFailure_keeps (f.connect p.nodes) (fun l => keeps.createLink l _ _) p.links start
  generalize p.materialize f s = out at set_up
  cases set_up with
  | invalid => exact start
  | unmade _ refused =>
    rw [refused] at made
    exact keeps.release p.nodes _ [] made
  | unlinked _ all refused =>
    rw [all] at made
    have stopped := linked made
    rw [refused] at stopped
    exact keeps.release p.nodes p.nodes _ stopped
  | whole _ all connected =>
    rw [all] at made
    have finished := linked made
    rw [connected] at finished
    exact finished

end Fabric.Keeps

namespace Session

/-- What is kept of the world by all calls but those of the start. -/
structure Backends.Keeps (bk : Backends σ) (Q : σ → Prop) : Prop where
  fabric : bk.fabric.Keeps Q
  shutdown : ∀ switch s, Q s → Q (bk.agent.shutdown switch s).2
  disableOffloads : ∀ host interface s, Q s → Q (bk.tuner.disableOffloads host interface s).2

namespace Backends.Keeps

variable {bk : Backends σ} {Q : σ → Prop} (keeps : bk.Keeps Q)

include keeps

theorem stopAll (bs : List Binding) (r : PortRegistry) {s : σ} (start : Q s) :
    Q (stopAll bk.agent bs r s).2.2 := by
  induction bs generalizing r s with
  | nil => exact start
  | cons b rest ih =>
    have stopped : Q (b.stop bk.agent r s).2.2.2 := by
      unfold Binding.stop
      split
      next => exact start
      next =>
        by_cases launched : b.launched = true
        · simp only [launched, ↓reduceIte]
          exact keeps.shutdown b.switch s start
        · simp only [launched, Bool.false_eq_true, ↓reduceIte]
          exact start
    exact ih _ stopped

theorem teardown (running : Running) {s : σ} (start : Q s) : Q (running.teardown bk s).2.2 := by
  have stopped := keeps.stopAll running.bindings running.registry start
  exact keeps.fabric.release_topology running.topology stopped

theorem bringUp (timeout : Duration) (controller : Endpoint) (t : Topology) (s : σ)
    (started : Q (startLanes bk.agent (lanesOf (entriesOf timeout controller t))
      ⟨.empty, s⟩).shared.world) :
    Q (bringUp bk timeout controller t s).2.2.2 := by
  unfold Session.bringUp
  dsimp only
  split
  next => exact started
  next =>
    exact Action.untilFailure_keeps (fun x : String × String => bk.tuner.disableOffloads x.1 x.2)
      (fun x => keeps.disableOffloads x.1 x.2) _ started

theorem buildAndStart {P : σ → Prop} (fabric : bk.fabric.Keeps P) (weaker : ∀ s, P s → Q s)
    (timeout : Duration) (p : Plan) (controller : Endpoint)
    (starts : ∀ s, P s → Q (startLanes bk.agent
      (lanesOf (entriesOf timeout controller ⟨p.nodes, p.links, false⟩)) ⟨.empty, s⟩).shared.world)
    {s : σ} (start : P s) : Q (buildAndStart bk timeout p controller s).2.2 := by
  have set_up := fabric.materialize p start
  unfold Session.buildAndStart
  cases created : p.materialize bk.fabric s with
  | mk result t =>
    rw [created] at set_up
    cases result with
    | error e => exact weaker t set_up
    | ok topology =>
      obtain ⟨rfl, -⟩ := Plan.SetUp.ok (created ▸ Plan.materialize_setUp)
      have up := keeps.bringUp timeout controller ⟨p.nodes, p.links, false⟩ t (starts t set_up)
      dsimp only
      cases brought : Session.bringUp bk timeout controller ⟨p.nodes, p.links, false⟩ t with
      | mk failure rest =>
        obtain ⟨time, running, u⟩ := rest
        rw [brought] at up
        cases failure with
        | none => exact up
        | some e => exact keeps.teardown running up

end Backends.Keeps

theorem bringUp_started {bk : Backends σ} {timeout : Duration} {controller : Endpoint}
    {t : Topology} {s u : σ} {time : Nat} {running : Running}
    (up : bringUp bk timeout controller t s = (none, time, running, u)) :
    (startLanes bk.agent (lanesOf (entriesOf timeout controller t)) ⟨.empty, s⟩).result =
      .ok () := by
  unfold bringUp at up
  dsimp only at up
  split at up
  next => cases up
  next started => exact started

theorem buildAndStart_time (bk : Backends σ) (timeout : Duration) (p : Plan) (controller : Endpoint)
    (s : σ) :
    (∃ e t, p.materialize bk.fabric s = (.error e, t) ∧
      (buildAndStart bk timeout p controller s).2.1 = 0) ∨
    ∃ t, p.materialize bk.fabric s = (.ok ⟨p.nodes, p.links, false⟩, t) ∧
      (buildAndStart bk timeout p controller s).2.1 = (startLanes bk.agent
        (lanesOf (entriesOf timeout controller ⟨p.nodes, p.links, false⟩)) ⟨.empty, t⟩).time := by
  unfold Session.buildAndStart
  cases created : p.materialize bk.fabric s with
  | mk result t =>
    cases result with
    | error e => exact Or.inl ⟨e, t, rfl, rfl⟩
    | ok topology =>
      obtain ⟨rfl, -⟩ := Plan.SetUp.ok (created ▸ Plan.materialize_setUp)
      refine Or.inr ⟨t, rfl, ?_⟩
      have timed : (Session.bringUp bk timeout controller ⟨p.nodes, p.links, false⟩ t).2.1 =
          (startLanes bk.agent (lanesOf (entriesOf timeout controller ⟨p.nodes, p.links, false⟩))
            ⟨.empty, t⟩).time := by
        unfold Session.bringUp
        dsimp only
        split <;> rfl
      dsimp only
      rw [← timed]
      split
      next brought => rw [brought]
      next brought => rw [brought]

end Session

end Testbed
