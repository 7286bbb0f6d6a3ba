import Testbed.Proofs.Startup.Started

namespace Testbed.Session

variable {σ : Type}

namespace Lane

theorem isFinished_iff {lane : Lane} :
    lane.isFinished = true ↔ lane.progress = .idle ∧ lane.todo = [] := by
  unfold isFinished
  split
  next idle => simp [idle]
  next busy => exact ⟨nofun, fun both => absurd both.1 busy⟩

variable {lane : Lane} (finished : lane.isFinished = true)

include finished

theorem calm_of_finished : lane.Calm := by
  intro cause failed
  rw [(isFinished_iff.mp finished).1] at failed
  cases failed

theorem begun_of_finished : lane.begun = lane.entries.map Entry.origin := by
  rw [lane.entries_origin, (isFinished_iff.mp finished).2, List.map_nil, List.append_nil]

theorem runs_of_finished (phases : lane.Phases) : ∀ e ∈ lane.entries, e.Runs lane.controller := by
  obtain ⟨idle, nothing⟩ := isFinished_iff.mp finished
  intro e member
  rw [entries, idle] at member
  simp only [nothing, List.append_nil] at member
  exact phases.past (calm_of_finished finished) e member

end Lane

theorem lanesOf_distinct {entries : List (Endpoint × Entry)}
    (names : (entries.map (·.2.binding.switch)).Nodup) : Distinct (lanesOf entries) where
  switches := by
    have perm := (lanesOf_entries entries).map fun e : Entry => e.binding.switch
    rw [List.map_map] at perm
    exact perm.nodup_iff.mpr names
  controllers := by
    have keys : (lanesOf entries).map Lane.controller =
        sortBy Endpoint.before (entries.map (·.1)).eraseDups := by
      simp [lanesOf, Function.comp_def]
    rw [keys]
    exact (nodup_eraseDups _).perm (sortBy_perm _ _).symm

theorem begunOf_lanesOf (entries : List (Endpoint × Entry)) : begunOf (lanesOf entries) = [] := by
  simp [begunOf, lanesOf, Lane.begun, List.flatMap_map]

theorem held_lanesOf (entries : List (Endpoint × Entry)) : Held (lanesOf entries) .empty := by
  constructor
  · rw [begunOf_lanesOf]
    exact .refl _
  · rw [begunOf_lanesOf]
    exact .nil

theorem failure?_eq_some {lane : Lane} {cause : Error} :
    lane.failure? = some cause ↔ lane.progress = .failed cause := by
  unfold Lane.failure?
  split
  next c failed => simp [failed]
  next other => exact ⟨nofun, fun failed => absurd failed (other cause)⟩

theorem frontFailure?_mem {lanes : List Lane} {cause : Error}
    (front : frontFailure? lanes = some cause) :
    ∃ lane ∈ lanes, lane.progress = .failed cause := by
  induction lanes with
  | nil => cases front
  | cons lane rest ih =>
    unfold frontFailure? at front
    split at front
    next c failed =>
      cases front
      exact ⟨lane, by simp, failure?_eq_some.mp failed⟩
    next =>
      split at front
      next =>
        obtain ⟨x, member, failed⟩ := ih front
        exact ⟨x, List.mem_cons_of_mem _ member, failed⟩
      next => cases front

theorem noticed?_mem {lanes : List Lane} {cause : Error} (noticed : noticed? lanes = some cause) :
    ∃ lane ∈ lanes, lane.progress = .failed cause := by
  unfold noticed? at noticed
  split at noticed
  next =>
    obtain ⟨lane, member, failed⟩ := List.exists_of_findSome?_eq_some noticed
    exact ⟨lane, member, failure?_eq_some.mp failed⟩
  next => exact frontFailure?_mem noticed

theorem runLanes_error {a : Agent σ} {n now : Nat} {lanes : List Lane} {sh : Shared σ}
    {cause : Error} (failed : (runLanes a n now lanes sh).result = .error cause) :
    ∃ lane ∈ (runLanes a n now lanes sh).lanes, lane.progress = .failed cause := by
  induction n generalizing now lanes sh with
  | zero => cases failed
  | succ n ih =>
    rw [runLanes] at failed ⊢
    dsimp only at failed ⊢
    cases noticed : noticed? (sweep a now [] lanes sh).1 with
    | some c =>
      simp only [noticed, Except.error.injEq] at failed ⊢
      exact failed ▸ noticed?_mem noticed
    | none =>
      simp only [noticed] at failed ⊢
      cases next : nextTime? now (sweep a now [] lanes sh).1 with
      | none => simp [next] at failed
      | some time =>
        simp only [next] at failed ⊢
        exact ih failed

theorem ok_of_calm {a : Agent σ} {lanes : List Lane} {sh : Shared σ}
    (calm : ∀ lane ∈ (startLanes a lanes sh).lanes, lane.Calm) :
    (startLanes a lanes sh).result = .ok () := by
  cases result : (startLanes a lanes sh).result with
  | ok => rfl
  | error cause =>
    obtain ⟨lane, member, failed⟩ := runLanes_error result
    exact absurd failed (calm lane member cause)

section Success

variable {a : Agent σ} {entries : List (Endpoint × Entry)} {sh : Shared σ}
  (unbound : ∀ x ∈ entries, x.2.binding.phase = .unbound)
  (ok : (startLanes a (lanesOf entries) sh).result = .ok ())

include unbound ok

theorem finished_of_ok : ∀ lane ∈ (startLanes a (lanesOf entries) sh).lanes,
    lane.isFinished = true :=
  startLanes_finished a sh (lanesOf_orderly unbound) (lanesOf_onTime entries) ok

theorem calm_of_ok : ∀ lane ∈ (startLanes a (lanesOf entries) sh).lanes, lane.Calm :=
  fun lane member => Lane.calm_of_finished (finished_of_ok unbound ok lane member)

theorem begun_of_ok :
    (begunOf (startLanes a (lanesOf entries) sh).lanes).Perm (entries.map (·.2)) := by
  have finished := finished_of_ok unbound ok
  have begun : begunOf (startLanes a (lanesOf entries) sh).lanes =
      ((startLanes a (lanesOf entries) sh).lanes.flatMap Lane.entries).map Entry.origin := by
    rw [begunOf, List.map_flatMap]
    exact List.flatMap_congr fun lane member => Lane.begun_of_finished (finished lane member)
  have same : (entries.map (·.2)).map Entry.origin = entries.map (·.2) := by
    rw [List.map_map]
    exact List.map_congr_left fun x member => Entry.origin_unbound (unbound x member)
  rw [begun, (startLanes_reaches a unbound sh).entries, ← same]
  exact (lanesOf_entries entries).map Entry.origin

theorem running_of_ok : ∀ b ∈ bindingsOf (startLanes a (lanesOf entries) sh).lanes,
    b.state = .running := by
  intro b member
  rw [bindingsOf_eq] at member
  obtain ⟨e, listed, rfl⟩ := List.mem_map.mp member
  obtain ⟨lane, here, there⟩ :=
    List.mem_flatMap.mp ((orderedEntries_perm _).mem_iff.mp listed)
  have phases := (startLanes_reaches a unbound sh).phases (lanesOf_phases unbound) lane here
  have runs := Lane.runs_of_finished (finished_of_ok unbound ok lane here) phases e there
  simp only [Entry.Runs] at runs
  simp [Binding.state, runs]

theorem ports_of_ok (names : (entries.map (·.2.binding.switch)).Nodup)
    (empty : sh.registry = .empty) : (entries.map (·.2.dataPlane.port)).Nodup := by
  have held : Held (startLanes a (lanesOf entries) sh).lanes
      (startLanes a (lanesOf entries) sh).shared.registry :=
    (startLanes_reaches a unbound sh).calm_induction (Q := fun lanes sh => Held lanes sh.registry)
      (lanesOf_distinct names) Held.step (empty ▸ held_lanesOf entries) (calm_of_ok unbound ok)
  have perm := (begun_of_ok unbound ok).map fun e : Entry => e.dataPlane.port
  rw [List.map_map] at perm
  exact perm.nodup_iff.mp held.once

end Success

end Testbed.Session
