import Testbed.Proofs.Startup.Entries

namespace Testbed.Session

variable {σ : Type}

def ticksOf : List Entry → Nat
  | [] => 0
  | e :: rest => e.binding.startupTimeout.waitTicks + ticksOf rest

@[simp]
theorem ticksOf_append (es fs : List Entry) : ticksOf (es ++ fs) = ticksOf es + ticksOf fs := by
  induction es with
  | nil => simp [ticksOf]
  | cons e rest ih => simp only [List.cons_append, ticksOf, ih]; omega

theorem ticksOf_origin (es : List Entry) : ticksOf (es.map Entry.origin) = ticksOf es := by
  induction es with
  | nil => rfl
  | cons e rest ih => simp only [List.map_cons, ticksOf, ih]; rfl

@[simp]
theorem inPhase_startupTimeout (e : Entry) (phase : Binding.Phase) :
    (e.inPhase phase).binding.startupTimeout = e.binding.startupTimeout := rfl

theorem Wait.deadline_after {now : Nat} {w w' : Wait} {answer : Readiness}
    (h : w.after? now answer = some w') : w'.deadline = w.deadline := by
  cases answer <;> cases h <;> rfl

namespace Lane

/-- The time the lane is over leaves room for the timeouts of the switches to come. -/
structure OnTime (now : Nat) (lane : Lane) : Prop where
  idle : lane.progress = .idle → lane.todo = [] ∨ now + ticksOf lane.todo ≤ ticksOf lane.entries
  waiting : ∀ e w, lane.progress = .waiting e w →
    now ≤ w.deadline ∧ w.deadline + ticksOf lane.todo ≤ ticksOf lane.entries

theorem OnTime.step {a : Agent σ} {now : Nat} {lane lane' : Lane} {sh sh' : Shared σ}
    (step : Step a now (lane, sh) (lane', sh')) (onTime : lane.OnTime now) :
    lane'.OnTime now := by
  cases step with
  | refused => exact ⟨nofun, nofun⟩
  | occupied => exact ⟨nofun, nofun⟩
  | unlaunched => exact ⟨nofun, nofun⟩
  | unready => exact ⟨nofun, nofun⟩
  | expired => exact ⟨nofun, nofun⟩
  | launched =>
    refine ⟨nofun, fun e w h => ?_⟩
    cases h
    have room := (onTime.idle rfl).resolve_left (List.cons_ne_nil _ _)
    simp only [entries_idle, entries_waiting, ticksOf_append, ticksOf,
      inPhase_startupTimeout] at room ⊢
    omega
  | ready =>
    refine ⟨fun _ => Or.inr ?_, nofun⟩
    have room := onTime.waiting _ _ rfl
    simp only [entries_idle, entries_waiting, ticksOf_append, ticksOf,
      inPhase_startupTimeout] at room ⊢
    omega
  | unsettled _ _ again =>
    refine ⟨nofun, fun e w h => ?_⟩
    cases h
    rw [Wait.deadline_after again]
    exact onTime.waiting _ _ rfl

theorem OnTime.tick {now time : Nat} {lane : Lane} (rest : lane.RestsUntil time)
    (onTime : lane.OnTime now) : lane.OnTime time where
  idle h := Or.inl (rest.idle h)
  waiting e w h := ⟨(rest.waiting e w h).2.1, (onTime.waiting e w h).2⟩

end Lane

theorem Stage.Reaches.onTime {a : Agent σ} {first last : Stage σ}
    (reaches : Stage.Reaches a first last) (start : ∀ lane ∈ first.lanes, lane.OnTime first.now) :
    ∀ lane ∈ last.lanes, lane.OnTime last.now :=
  reaches.forall_lanes (fun _ _ _ _ _ step => Lane.OnTime.step step)
    (fun _ _ _ _ rest => Lane.OnTime.tick rest) start

theorem Stage.Reaches.ticks_le {a : Agent σ} {first last : Stage σ} {bound : Nat}
    (reaches : Stage.Reaches a first last)
    (start : ∀ lane ∈ first.lanes, ticksOf lane.entries ≤ bound) :
    ∀ lane ∈ last.lanes, ticksOf lane.entries ≤ bound := by
  refine reaches.forall_lanes (P := fun _ lane => ticksOf lane.entries ≤ bound) ?_
    (fun _ _ _ _ _ h => h) start
  intro now lane sh lane' sh' step le
  have same := congrArg Prod.snd step.origins
  rw [← ticksOf_origin,
    show lane'.entries.map Entry.origin = lane.entries.map Entry.origin from same,
    ticksOf_origin]
  exact le

def Lane.IsOver (lane : Lane) : Prop :=
  lane.isFinished = true ∨ ∃ cause, lane.progress = .failed cause

theorem finished_of_frontFailure {lanes : List Lane} (silent : frontFailure? lanes = none)
    (ended : ∀ lane ∈ lanes, lane.IsOver) : ∀ lane ∈ lanes, lane.isFinished = true := by
  induction lanes with
  | nil => simp
  | cons lane rest ih =>
    have finished : lane.isFinished = true := by
      refine (ended lane (by simp)).resolve_right fun ⟨cause, failed⟩ => ?_
      simp [frontFailure?, Lane.failure?, failed] at silent
    have unfailed : lane.failure? = none := by
      unfold Lane.isFinished at finished
      unfold Lane.failure?
      split at finished <;> simp_all
    simp only [frontFailure?, unfailed, finished, ↓reduceIte] at silent
    intro x member
    rcases List.mem_cons.mp member with rfl | member
    · exact finished
    · exact ih silent (fun y there => ended y (by simp [there])) x member

theorem finished_of_unnoticed {lanes : List Lane} (unnoticed : noticed? lanes = none)
    (ended : ∀ lane ∈ lanes, lane.IsOver) : ∀ lane ∈ lanes, lane.isFinished = true := by
  unfold noticed? at unnoticed
  split at unnoticed
  next =>
    intro lane member
    refine (ended lane member).resolve_right fun ⟨cause, failed⟩ => ?_
    have silent := List.findSome?_eq_none_iff.mp unnoticed lane member
    simp [Lane.failure?, failed] at silent
  next => exact finished_of_frontFailure unnoticed ended

theorem over_of_no_nextTime {now : Nat} {lanes : List Lane}
    (rests : ∀ lane ∈ lanes, lane.RestsUntil (now + 1)) (none_left : nextTime? now lanes = none) :
    ∀ lane ∈ lanes, lane.IsOver := by
  intro lane member
  have nothing : lanes.filterMap Lane.due? = [] := by
    simpa [nextTime?, List.min?_eq_none_iff] using none_left
  have undue := List.filterMap_eq_nil_iff.mp nothing lane member
  cases progress : lane.progress with
  | idle => exact Or.inl (by simp [Lane.isFinished, progress, (rests lane member).idle progress])
  | waiting e w => simp [Lane.due?, progress] at undue
  | failed cause => exact Or.inr ⟨cause, progress⟩

theorem runLanes_ok {a : Agent σ} {n now : Nat} {lanes : List Lane} {sh : Shared σ}
    (ok : (runLanes a (n + 1) now lanes sh).result = .ok ()) :
    noticed? (sweep a now [] lanes sh).1 = none ∧
      ((nextTime? now (sweep a now [] lanes sh).1 = none ∧
          (runLanes a (n + 1) now lanes sh).lanes = (sweep a now [] lanes sh).1) ∨
        ∃ time, nextTime? now (sweep a now [] lanes sh).1 = some time ∧
          runLanes a (n + 1) now lanes sh =
            runLanes a n time (sweep a now [] lanes sh).1 (sweep a now [] lanes sh).2) := by
  rw [runLanes] at ok ⊢
  dsimp only at ok ⊢
  cases noticed : noticed? (sweep a now [] lanes sh).1 with
  | some cause => simp [noticed] at ok
  | none =>
    refine ⟨rfl, ?_⟩
    cases next : nextTime? now (sweep a now [] lanes sh).1 with
    | none => exact Or.inl ⟨rfl, rfl⟩
    | some time => exact Or.inr ⟨time, rfl, rfl⟩

theorem runLanes_finished (a : Agent σ) (n now : Nat) (lanes : List Lane) (sh : Shared σ)
    (orderly : ∀ lane ∈ lanes, lane.Orderly) (onTime : ∀ lane ∈ lanes, lane.OnTime now)
    (enough : ∀ lane ∈ lanes, ticksOf lane.entries ≤ now + n)
    (ok : (runLanes a (n + 1) now lanes sh).result = .ok ()) :
    ∀ lane ∈ (runLanes a (n + 1) now lanes sh).lanes, lane.isFinished = true := by
  induction n generalizing now lanes sh with
  | zero =>
    obtain ⟨unnoticed, ⟨no_next, same⟩ | ⟨time, next, _⟩⟩ := runLanes_ok ok
    · have rests := sweep_rests a now [] lanes sh (by simp) orderly unnoticed
      rw [same]
      exact finished_of_unnoticed unnoticed (over_of_no_nextTime rests no_next)
    · -- no tick is left, and yet a switch is waited for until a later time
      have swept := sweep_reaches a now [] lanes sh orderly
      have rests := sweep_rests a now [] lanes sh (by simp) orderly unnoticed
      obtain ⟨later, rests, lane, member, e, w, waits⟩ := restsUntil_nextTime rests next
      have bound := ((swept.onTime onTime lane member).tick (rests lane member)).waiting e w waits
      have := swept.ticks_le enough lane member
      omega
  | succ n ih =>
    obtain ⟨unnoticed, ⟨no_next, same⟩ | ⟨time, next, same⟩⟩ := runLanes_ok ok
    · have rests := sweep_rests a now [] lanes sh (by simp) orderly unnoticed
      rw [same]
      exact finished_of_unnoticed unnoticed (over_of_no_nextTime rests no_next)
    · have swept := sweep_reaches a now [] lanes sh orderly
      have rests := sweep_rests a now [] lanes sh (by simp) orderly unnoticed
      obtain ⟨later, rests, _⟩ := restsUntil_nextTime rests next
      rw [same] at ok ⊢
      refine ih time _ _ (sweep_orderly a now [] lanes sh (by simp) orderly)
        (fun lane member => (swept.onTime onTime lane member).tick (rests lane member))
        (fun lane member => ?_) ok
      have := swept.ticks_le enough lane member
      omega

theorem ticksOf_lt_tickBound {lanes : List Lane} :
    ∀ lane ∈ lanes, ticksOf lane.entries < tickBound lanes := by
  have total (es : List Entry) : ticksOf es <
      es.foldr (fun e n => e.binding.startupTimeout.waitTicks + 2 + n) 1 := by
    induction es with
    | nil => exact Nat.one_pos
    | cons e rest ih => simp only [ticksOf, List.foldr_cons]; omega
  intro lane member
  obtain ⟨before, after, rfl⟩ := List.append_of_mem member
  refine Nat.lt_of_le_of_lt ?_ (total _)
  simp only [List.flatMap_append, List.flatMap_cons, ticksOf_append]
  omega

theorem startLanes_finished (a : Agent σ) {lanes : List Lane} (sh : Shared σ)
    (orderly : ∀ lane ∈ lanes, lane.Orderly) (onTime : ∀ lane ∈ lanes, lane.OnTime 0)
    (ok : (startLanes a lanes sh).result = .ok ()) :
    ∀ lane ∈ (startLanes a lanes sh).lanes, lane.isFinished = true := by
  have positive : 0 < tickBound lanes := by
    unfold tickBound
    cases lanes.flatMap Lane.entries with
    | nil => exact Nat.one_pos
    | cons e rest =>
      simp only [List.foldr_cons]
      omega
  obtain ⟨n, bound⟩ := Nat.exists_eq_succ_of_ne_zero (Nat.pos_iff_ne_zero.mp positive)
  unfold startLanes at ok ⊢
  rw [bound] at ok ⊢
  refine runLanes_finished a n 0 lanes sh orderly onTime (fun lane member => ?_) ok
  have := ticksOf_lt_tickBound lane member
  omega

theorem lanesOf_onTime (entries : List (Endpoint × Entry)) :
    ∀ lane ∈ lanesOf entries, lane.OnTime 0 := by
  intro lane member
  simp only [lanesOf, List.mem_map] at member
  obtain ⟨c, _, rfl⟩ := member
  exact ⟨fun _ => Or.inr (by simp), fun _ _ waits => by cases waits⟩

end Testbed.Session
