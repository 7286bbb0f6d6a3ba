import Testbed.Proofs.InMemory.Counters
import Testbed.Proofs.InMemory.Past
import Testbed.Proofs.Session.Keeping
import Testbed.Proofs.Session.Rollback
import Testbed.Proofs.Session.Success

namespace Testbed

open Session

namespace InMemory

theorem tidy_startLanes (setup : AgentSetup) {entries : List (Endpoint × Entry)}
    (unbound : ∀ x ∈ entries, x.2.binding.phase = .unbound) {s : AgentState} (tidy : s.Tidy) :
    (startLanes (agent setup) (lanesOf entries) ⟨.empty, s⟩).shared.world.Tidy :=
  (startLanes_reaches (agent setup) unbound ⟨.empty, s⟩).world
    (fun before checked => checkEndpoint_state checked ▸ before)
    (fun before launched => before.launch launched) (fun before polled => before.poll polled) tidy

theorem tidy_kept (setup : Setup) : (backends setup).Keeps fun w => w.agent.Tidy where
  fabric := ⟨fun _ _ tidy => tidy, fun _ _ _ _ tidy => tidy, fun _ _ _ tidy => tidy,
    fun _ _ tidy => tidy⟩
  shutdown switch _ tidy := tidy.shutdown switch
  disableOffloads _ _ _ tidy := tidy

/-- The backends have nothing left of what they did, but for their records. -/
structure World.Resting (w : World) : Prop where
  fabric : w.fabric.Bare
  running : w.agent.running = []
  starting : w.agent.starting = []

namespace World.Resting

theorem of_tidy {w : World} (fabric : w.fabric.Bare) (running : w.agent.running = [])
    (tidy : w.agent.Tidy) : w.Resting := by
  refine ⟨fabric, running, List.eq_nil_iff_forall_not_mem.mpr fun x member => ?_⟩
  have runs := tidy x member
  rw [running] at runs
  cases runs

theorem after {w : World} (resting : w.Resting) (past : World) : (past.after w).Resting :=
  ⟨resting.fabric, resting.running, resting.starting⟩

theorem after_fresh {w : World} (resting : w.Resting) : w.after .fresh = w := by
  have fabric := FabricState.after_fresh resting.fabric
  have agent := AgentState.after_fresh resting.running resting.starting
  obtain ⟨_, _, tuner⟩ := w
  dsimp only at fabric agent
  simp only [World.after, World.fresh, fabric, agent, List.append_nil]

end World.Resting

end InMemory

namespace Session

open InMemory

variable {σ τ : Type} {f : σ → τ}

/-- A session that, if it comes up, is taken down again. -/
def roundTrip (bk : Backends σ) (timeout : Duration) (p : Plan) (controller : Endpoint) (s : σ) :
    σ :=
  match buildAndStart bk timeout p controller s with
  | (.error _, _, s) => s
  | (.ok running, _, s) => (running.teardown bk s).2.2

theorem roundTrip_maps {bk : Backends σ} {view : Backends τ} (maps : bk.Maps f view)
    (timeout : Duration) (p : Plan) (controller : Endpoint) (s : σ) :
    roundTrip view timeout p controller (f s) = f (roundTrip bk timeout p controller s) := by
  simp only [roundTrip, buildAndStart_maps maps]
  cases buildAndStart bk timeout p controller s with
  | mk result rest =>
    cases result with
    | error e => rfl
    | ok running => simp only [teardown_maps maps]

theorem roundTrip_tidy (setup : Setup) (timeout : Duration) (p : Plan) (controller : Endpoint)
    {w : World} (tidy : w.agent.Tidy) :
    (roundTrip (backends setup) timeout p controller w).agent.Tidy := by
  have kept := tidy_kept setup
  have started : (buildAndStart (backends setup) timeout p controller w).2.2.agent.Tidy := by
    refine kept.buildAndStart kept.fabric (fun _ same => same) timeout p controller ?_ tidy
    intro u before
    rw [backends_eq, startLanes_world]
    exact tidy_startLanes setup.agent (entriesOf_unbound timeout controller _) before
  unfold roundTrip
  split
  next failed =>
    rw [failed] at started
    exact started
  next up =>
    rw [up] at started
    exact kept.teardown _ started

theorem roundTrip_fresh (setup : Setup) (timeout : Duration) (p : Plan) (controller : Endpoint) :
    (roundTrip (backends setup) timeout p controller .fresh).Resting := by
  have tidy := roundTrip_tidy setup timeout p controller (w := World.fresh) nofun
  unfold roundTrip at tidy ⊢
  cases ran : buildAndStart (backends setup) timeout p controller .fresh with
  | mk result rest =>
    obtain ⟨time, w⟩ := rest
    rw [ran] at tidy
    cases result with
    | error e =>
      obtain ⟨bare, running⟩ := failed_world_empty setup _ timeout p controller ran
      exact .of_tidy bare running tidy
    | ok running =>
      obtain ⟨topology, u, created, up⟩ := buildAndStart_ok_cases ran
      rw [backends_eq, materialize_world, Prod.mk.injEq] at created
      obtain ⟨set_up, rfl⟩ := created
      obtain ⟨bare, ended⟩ :=
        taken_down_empty setup _ timeout controller (Prod.ext set_up rfl) up
      exact .of_tidy bare ended tidy

theorem roundTrip_resting (setup : Setup) (timeout : Duration) (p : Plan) (controller : Endpoint)
    {w : World} (resting : w.Resting) :
    (roundTrip (backends setup) timeout p controller w).Resting := by
  rw [← resting.after_fresh, roundTrip_maps (backends_after setup w)]
  exact (roundTrip_fresh setup timeout p controller).after w

structure Job where
  plan : Plan
  controller : Endpoint

def roundTrips (bk : Backends σ) (timeout : Duration) (jobs : List Job) (s : σ) : σ :=
  jobs.foldl (fun s job => roundTrip bk timeout job.plan job.controller s) s

theorem roundTrips_resting (setup : Setup) (timeout : Duration) (jobs : List Job) {w : World}
    (resting : w.Resting) : (roundTrips (backends setup) timeout jobs w).Resting := by
  induction jobs generalizing w with
  | nil => exact resting
  | cons job rest ih => exact ih (roundTrip_resting setup timeout job.plan job.controller resting)

/-- After whatever jobs a session in memory comes to the same result, in the same time, as if it
were the first, and adds the same to the records. -/
theorem buildAndStart_again (setup : Setup) (timeout : Duration) (jobs : List Job) (p : Plan)
    (controller : Endpoint) :
    let before := roundTrips (backends setup) timeout jobs .fresh
    let again := buildAndStart (backends setup) timeout p controller before
    let first := buildAndStart (backends setup) timeout p controller .fresh
    again.1 = first.1 ∧ again.2.1 = first.2.1 ∧
      again.2.2.agent.launches = before.agent.launches ++ first.2.2.agent.launches ∧
      again.2.2.agent.shutdowns = before.agent.shutdowns ++ first.2.2.agent.shutdowns ∧
      again.2.2.tuner = before.tuner ++ first.2.2.tuner ∧
      again.2.2.fabric.events = before.fabric.events ++ first.2.2.fabric.events ∧
      again.2.2.agent.running = first.2.2.agent.running ∧
      again.2.2.fabric.nodes = first.2.2.fabric.nodes ∧
      again.2.2.fabric.links = first.2.2.fabric.links := by
  intro before again first
  have resting : before.Resting :=
    roundTrips_resting setup timeout jobs ⟨⟨rfl, rfl⟩, rfl, rfl⟩
  have same : again = (first.1, first.2.1, before.after first.2.2) := by
    have seen := buildAndStart_maps (backends_after setup before) timeout p controller .fresh
    rwa [resting.after_fresh] at seen
  rw [same]
  exact ⟨rfl, rfl, rfl, rfl, rfl, rfl, rfl, rfl, rfl⟩

end Session

end Testbed
