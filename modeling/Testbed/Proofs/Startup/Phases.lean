import Testbed.Proofs.Startup.Clock

namespace Testbed.Session

variable {σ : Type}

namespace Entry

@[simp]
theorem inPhase_launch (e : Entry) (phase : Binding.Phase) (c : Endpoint) :
    (e.inPhase phase).launch c = e.launch c := rfl

@[simp]
theorem inPhase_switch (e : Entry) (phase : Binding.Phase) :
    (e.inPhase phase).binding.switch = e.binding.switch := rfl

@[simp]
theorem inPhase_dataPlane (e : Entry) (phase : Binding.Phase) :
    (e.inPhase phase).dataPlane = e.dataPlane := rfl

def Untouched (e : Entry) : Prop := e.binding.phase = .unbound

def Attached (c : Endpoint) (e : Entry) : Prop := e.binding.phase = .attached e.dataPlane c true

def Runs (c : Endpoint) (e : Entry) : Prop := e.binding.phase = .running e.dataPlane c

/-- The switch has failed, before its launch or with its endpoints. -/
def Failed (c : Endpoint) (e : Entry) : Prop :=
  e.binding.phase = .failed none ∨ e.binding.phase = .failed (some (e.dataPlane, c))

end Entry

theorem Wait.launch_after {now : Nat} {w w' : Wait} {answer : Readiness}
    (h : w.after? now answer = some w') : w'.launch = w.launch := by
  cases answer <;> cases h <;> rfl

namespace Lane

structure Phases (lane : Lane) : Prop where
  todo : ∀ e ∈ lane.todo, e.Untouched
  past : (∀ cause, lane.progress ≠ .failed cause) → ∀ e ∈ lane.past, e.Runs lane.controller
  waiting : ∀ e w, lane.progress = .waiting e w →
    e.Attached lane.controller ∧ w.launch = e.launch lane.controller
  failed : ∀ cause, lane.progress = .failed cause → ∃ before last,
    lane.past = before ++ [last] ∧ (∀ e ∈ before, e.Runs lane.controller) ∧
      last.Failed lane.controller

theorem Phases.fail {c : Endpoint} {past todo : List Entry} {e : Entry} (cause : Error)
    (running : ∀ x ∈ past, x.Runs c) (failed : e.Failed c) (untouched : ∀ x ∈ todo, x.Untouched) :
    (Lane.mk c (past ++ [e]) (.failed cause) todo).Phases where
  todo := untouched
  past h := absurd rfl (h cause)
  waiting := nofun
  failed _ _ := ⟨past, e, rfl, running, failed⟩

theorem Phases.step {a : Agent σ} {now : Nat} {lane lane' : Lane} {sh sh' : Shared σ}
    (step : Step a now (lane, sh) (lane', sh')) (phases : lane.Phases) : lane'.Phases := by
  have failed (c : Endpoint) (e : Entry) (w : Wait) (same : w.launch = e.launch c) :
      (e.inPhase (.failed (some (w.launch.dataPlane, w.launch.controller)))).Failed c :=
    Or.inr (by rw [same]; rfl)
  cases step with
  | refused | occupied | unlaunched =>
    refine Phases.fail _ (phases.past nofun) ?_ fun x member => phases.todo x (by simp [member])
    first | exact Or.inl rfl | exact Or.inr rfl
  | launched =>
    refine ⟨fun x member => phases.todo x (by simp [member]), fun _ => phases.past nofun, ?_, nofun⟩
    intro e w h
    cases h
    exact ⟨rfl, rfl⟩
  | ready =>
    obtain ⟨_, same⟩ := phases.waiting _ _ rfl
    refine ⟨phases.todo, fun _ x member => ?_, nofun, nofun⟩
    rcases List.mem_append.mp member with member | member
    · exact phases.past nofun x member
    · rw [List.mem_singleton.mp member, same]
      rfl
  | unready =>
    exact Phases.fail _ (phases.past nofun) (failed _ _ _ (phases.waiting _ _ rfl).2) phases.todo
  | unsettled _ _ again =>
    refine ⟨phases.todo, fun _ => phases.past nofun, fun e w h => ?_, nofun⟩
    cases h
    rw [Wait.launch_after again]
    exact phases.waiting _ _ rfl
  | expired =>
    exact Phases.fail _ (phases.past nofun) (failed _ _ _ (phases.waiting _ _ rfl).2) phases.todo

end Lane

theorem Stage.Reaches.phases {a : Agent σ} {first last : Stage σ}
    (reaches : Stage.Reaches a first last) (start : ∀ lane ∈ first.lanes, lane.Phases) :
    ∀ lane ∈ last.lanes, lane.Phases :=
  reaches.forall_lanes (P := fun _ => Lane.Phases) (fun _ _ _ _ _ step => Lane.Phases.step step)
    (fun _ _ _ _ _ h => h) start

theorem lanesOf_phases {entries : List (Endpoint × Entry)}
    (unbound : ∀ x ∈ entries, x.2.binding.phase = .unbound) :
    ∀ lane ∈ lanesOf entries, lane.Phases := by
  intro lane member
  have untouched := (lanesOf_orderly unbound lane member).unbound
  simp only [lanesOf, List.mem_map] at member
  obtain ⟨c, _, rfl⟩ := member
  refine ⟨untouched, fun _ _ past => ?_, fun _ _ waits => ?_, fun _ fails => ?_⟩
  · cases past
  · cases waits
  · cases fails

end Testbed.Session
