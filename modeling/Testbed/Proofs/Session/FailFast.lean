import Testbed.Proofs.Session.Release
import Testbed.Proofs.Startup.History

namespace Testbed

/-- The groups of switches that share a controller, by number. -/
def Plan.groups (p : Plan) (controller : Endpoint) : Nat :=
  (p.nodes.filterMap fun n => n.spec?.map fun spec =>
    spec.controller.getD controller).eraseDups.length

namespace Session

variable {σ α β : Type}

/-- The history of a session: the attempts that are made on its switches. -/
def sessionMoments (bk : Backends σ) (timeout : Duration) (p : Plan) (controller : Endpoint)
    (s : σ) : List (Moment σ) :=
  match p.materialize bk.fabric s with
  | (.error _, _) => []
  | (.ok topology, s) =>
    startMoments bk.agent (lanesOf (entriesOf timeout controller topology)) ⟨.empty, s⟩

def Journaled.launches (j : Journaled σ) : List Launch := j.calls.filterMap Call.launch?

/-- The session reports the first failure of its history, and launches nothing after it. -/
def FailsFast (bk : Backends σ) (timeout : Duration) (p : Plan) (controller : Endpoint) (s : σ) :
    Prop :=
  let out := buildAndStart (Journaled.backends bk) timeout p controller ⟨[], s⟩
  ∀ cause j,
    firstFailure? (sessionMoments (Journaled.backends bk) timeout p controller ⟨[], s⟩) =
      some (cause, j) →
    out.1 = .error cause ∧ out.2.2.launches = j.launches

theorem teardown_launches (bk : Backends σ) (running : Running)
    (held : running.topology.released = false) (j : Journaled σ) :
    (running.teardown (Journaled.backends bk) j).2.2.launches = j.launches := by
  obtain ⟨d, _, _, _, down, -, -⟩ := teardown_journal bk running held j.calls j.inner
  have silent : (d.calls running.topology.nodes).filterMap Call.launch? = [] :=
    List.filterMap_eq_nil_iff.mpr Takedown.launch?_of_mem_calls
  rw [show (⟨j.calls, j.inner⟩ : Journaled σ) = j from rfl] at down
  rw [down, Journaled.launches, List.filterMap_append, silent, List.append_nil]
  rfl

theorem lanesOf_length (timeout : Duration) (controller : Endpoint) (p : Plan) :
    (lanesOf (entriesOf timeout controller ⟨p.nodes, p.links, false⟩)).length =
      p.groups controller := by
  have keys : (entriesOf timeout controller ⟨p.nodes, p.links, false⟩).map (·.1) =
      p.nodes.filterMap fun n => n.spec?.map fun spec => spec.controller.getD controller :=
    entriesOf_map _ _ (fun _ _ _ => rfl) _
  rw [lanesOf, List.length_map, (sortBy_perm _ _).length_eq, keys, Plan.groups]

theorem buildAndStart_start_failed {bk : Backends σ} {timeout : Duration} {p : Plan}
    {controller : Endpoint} {j k : Journaled σ} {cause : Error}
    (created : p.materialize (Journaled.backends bk).fabric j = (.ok ⟨p.nodes, p.links, false⟩, k))
    (failed : (startLanes (Journaled.backends bk).agent
      (lanesOf (entriesOf timeout controller ⟨p.nodes, p.links, false⟩)) ⟨.empty, k⟩).result =
        .error cause) :
    (buildAndStart (Journaled.backends bk) timeout p controller j).1 = .error cause ∧
      (buildAndStart (Journaled.backends bk) timeout p controller j).2.2.launches =
        (startLanes (Journaled.backends bk).agent
          (lanesOf (entriesOf timeout controller ⟨p.nodes, p.links, false⟩))
            ⟨.empty, k⟩).shared.world.launches := by
  have up : (bringUp (Journaled.backends bk) timeout controller ⟨p.nodes, p.links, false⟩ k).1 =
      some cause := by
    simp only [bringUp, failed]
  have left : (bringUp (Journaled.backends bk) timeout controller ⟨p.nodes, p.links, false⟩
      k).2.2.2 = (startLanes (Journaled.backends bk).agent
        (lanesOf (entriesOf timeout controller ⟨p.nodes, p.links, false⟩))
          ⟨.empty, k⟩).shared.world := by
    simp only [bringUp, failed]
  have held := bringUp_topology (Journaled.backends bk) timeout controller
    ⟨p.nodes, p.links, false⟩ k
  cases brought :
    bringUp (Journaled.backends bk) timeout controller ⟨p.nodes, p.links, false⟩ k with
  | mk failure rest =>
    obtain ⟨time, running, u⟩ := rest
    simp only [brought] at up left held
    subst up
    have out : buildAndStart (Journaled.backends bk) timeout p controller j =
        (.error cause, time, (running.teardown (Journaled.backends bk) u).2.2) := by
      simp only [buildAndStart, created, brought]
    rw [out]
    exact ⟨rfl, by rw [teardown_launches bk running (by rw [held]), left]⟩

theorem failsFast_of_few (bk : Backends σ) (timeout : Duration) (p : Plan) (controller : Endpoint)
    (s : σ) (few : p.groups controller ≤ eagerLimit) : FailsFast bk timeout p controller s := by
  intro cause j first
  unfold sessionMoments at first
  cases created : p.materialize (Journaled.backends bk).fabric ⟨[], s⟩ with
  | mk result k =>
    rw [created] at first
    cases result with
    | error e => cases first
    | ok topology =>
      obtain ⟨rfl, _⟩ := Journaled.materialize_calls created
      have calm : ∀ lane ∈ lanesOf (entriesOf timeout controller ⟨p.nodes, p.links, false⟩),
          lane.Calm := lanesOf_calm _
      rw [start_firstFailure _ _ _ (by rwa [lanesOf_length timeout controller p]) calm] at first
      obtain ⟨e, failed, same⟩ := Option.map_eq_some_iff.mp first
      obtain ⟨rfl, rfl⟩ := Prod.mk.inj same
      exact buildAndStart_start_failed created (failureOf_eq_some.mp failed)

end Session

end Testbed
