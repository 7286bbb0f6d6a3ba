import Testbed.Proofs.InMemory.Counters
import Testbed.Proofs.InMemory.Pace
import Testbed.Proofs.Session.Concurrency
import Testbed.Proofs.Session.Condition

namespace Testbed

namespace Plan

def controllers (p : Plan) (controller : Endpoint) : List Endpoint :=
  p.nodes.filterMap fun n => n.spec?.map fun spec => spec.controller.getD controller

/-- The most switches that share a controller. -/
def largestGroup (p : Plan) (controller : Endpoint) : Nat :=
  ((p.controllers controller).map fun c => (p.controllers controller).count c).foldr max 0

end Plan

namespace Session

open InMemory

theorem Spread.once {n : Nat} {pending : List Launch} (spread : Spread n pending) (c : Endpoint) :
    (pendingFor c pending).length ≤ 1 := by
  have once := List.nodup_iff_count_le_one.mp spread.1 c
  rwa [List.count, List.countP_map, List.countP_eq_length_filter] at once

theorem longest_lanesOf (timeout : Duration) (controller : Endpoint) (p : Plan) :
    longest (lanesOf (entriesOf timeout controller ⟨p.nodes, p.links, false⟩)) =
      p.largestGroup controller := by
  have keys : (entriesOf timeout controller ⟨p.nodes, p.links, false⟩).map (·.1) =
      p.controllers controller := entriesOf_map _ _ (fun _ _ _ => rfl) _
  have size (c : Endpoint) : (((entriesOf timeout controller ⟨p.nodes, p.links, false⟩).filter
      (·.1 == c)).map (·.2)).length = (p.controllers controller).count c := by
    rw [← keys, List.count, List.countP_map, List.countP_eq_length_filter, List.length_map]
    rfl
  refine Nat.le_antisymm ?_ ?_
  · rw [← Nat.mul_one (longest _), longest_mul_le]
    intro lane member
    obtain ⟨c, key, rfl⟩ := List.mem_map.mp member
    rw [Lane.entries_idle, List.nil_append, size]
    have listed : c ∈ p.controllers controller := by
      rw [← keys]
      exact List.mem_eraseDups.mp (mem_sortBy.mp key)
    have bound := foldr_max_mul_le.mp (Nat.le_of_eq (Nat.mul_one (p.largestGroup controller)))
    exact bound _ (List.mem_map_of_mem listed)
  · rw [← Nat.mul_one (p.largestGroup controller), Plan.largestGroup, foldr_max_mul_le]
    intro n member
    obtain ⟨c, listed, rfl⟩ := List.mem_map.mp member
    rw [← keys] at listed
    have lane : (⟨c, [], .idle, ((entriesOf timeout controller ⟨p.nodes, p.links, false⟩).filter
        (·.1 == c)).map (·.2)⟩ : Lane) ∈
        lanesOf (entriesOf timeout controller ⟨p.nodes, p.links, false⟩) :=
      List.mem_map_of_mem (mem_sortBy.mpr (List.mem_eraseDups.mpr listed))
    have bound := longest_mul_le.mp (Nat.le_of_eq (Nat.mul_one (longest _))) _ lane
    rwa [Lane.entries_idle, List.nil_append, size] at bound

theorem buildAndStart_time_le {σ : Type} (bk : Backends σ) (timeout : Duration) (p : Plan)
    (controller : Endpoint) (s : σ) :
    (buildAndStart bk timeout p controller s).2.1 ≤
      timeout.waitTicks * p.largestGroup controller := by
  rcases buildAndStart_time bk timeout p controller s with ⟨_, _, _, none⟩ | ⟨t, _, time⟩
  · rw [none]
    exact Nat.zero_le _
  · have unbound := entriesOf_unbound timeout controller ⟨p.nodes, p.links, false⟩
    have same : ∀ x ∈ entriesOf timeout controller ⟨p.nodes, p.links, false⟩,
        x.2.binding.startupTimeout = timeout := by
      intro x member
      obtain ⟨i, _, rfl⟩ := List.mem_mapIdx.mp member
      rfl
    rw [time, Nat.mul_comm, ← longest_lanesOf timeout]
    exact startLanes_time_le_longest bk.agent ⟨.empty, t⟩ unbound same

variable (setup : Setup) (timeout : Duration) (p : Plan) (controller : Endpoint)

theorem buildAndStart_counted :
    let out := buildAndStart (Journaled.backends (backends setup)) timeout p controller ⟨[], .fresh⟩
    Counted out.2.2.calls out.2.2.inner.agent := by
  have keeps : (Journaled.backends (backends setup)).Keeps
      fun j => Counted j.calls j.inner.agent :=
    { fabric :=
        { createNode := fun _ _ counted => counted.silent rfl
          createLink := fun _ _ _ _ counted => counted.silent rfl
          teardownLink := fun _ _ _ counted => counted.silent rfl
          destroyNode := fun _ _ counted => counted.silent rfl }
      shutdown := fun _ _ counted => counted.shutdown rfl
      disableOffloads := fun _ _ _ counted => counted.silent rfl }
  refine keeps.buildAndStart keeps.fabric (fun _ => id) timeout p controller (fun j counted => ?_)
    counted_fresh
  have unbound := entriesOf_unbound timeout controller ⟨p.nodes, p.links, false⟩
  have reaches := startLanes_reaches (Journaled.backends (backends setup)).agent unbound ⟨.empty, j⟩
  refine reaches.world (Q := fun j => Counted j.calls j.inner.agent) ?_ ?_ ?_ counted
  · intro e s result t counted checked
    cases checked
    exact counted.silent rfl
  · intro l s result t counted launched
    cases launched
    exact counted.launch rfl
  · intro l round s answer t counted polled
    cases polled
    exact counted.poll rfl

variable {setup timeout p controller}

theorem buildAndStart_time_eq (built : p.Built) (delayed : setup.agent.readyDelay.nanos ≠ 0)
    {running : Running} {time : Nat} {w : World}
    (ok : buildAndStart (backends setup) timeout p controller .fresh = (.ok running, time, w)) :
    time = setup.agent.readyDelay.waitTicks * p.largestGroup controller := by
  obtain ⟨s, materialized, up⟩ := buildAndStart_ok_parts ok
  have created := materialize_world setup (tuner setup.refusedHost) p .fresh
  have fresh : World.fresh.fabric = .fresh := rfl
  rw [fresh, materialized, ← backends_eq] at created
  have exact_time := startLanes_time_eq delayed
    (entriesOf_unbound timeout controller ⟨p.nodes, p.links, false⟩)
    (entriesOf_names timeout controller built) up.started
  have timed := buildAndStart_time (backends setup) timeout p controller .fresh
  rw [created, ok] at timed
  rcases timed with ⟨e, t, failed, _⟩ | ⟨t, same, timed⟩
  · cases failed
  · cases same
    have started := startLanes_world setup (tuner setup.refusedHost)
      (lanesOf (entriesOf timeout controller ⟨p.nodes, p.links, false⟩))
      { World.fresh with fabric := s }
    rw [← backends_eq] at started
    rw [started] at timed
    rw [Nat.mul_comm, ← longest_lanesOf timeout]
    exact timed.trans exact_time

theorem buildAndStart_maxStarting (built : p.Built) (delayed : setup.agent.readyDelay.nanos ≠ 0)
    {running : Running} {time : Nat} {w : World}
    (ok : buildAndStart (backends setup) timeout p controller .fresh = (.ok running, time, w)) :
    w.agent.maxStarting = p.groups controller := by
  have same := buildAndStart_maps (Journaled.backends_maps (backends setup)) timeout p controller
    ⟨[], .fresh⟩
  have counted := buildAndStart_counted setup timeout p controller
  have spread := buildAndStart_spread (backends setup) timeout built controller .fresh
  rw [ok] at same
  cases noted : buildAndStart (Journaled.backends (backends setup)) timeout p controller
      ⟨[], .fresh⟩ with
  | mk result rest =>
    obtain ⟨time', j⟩ := rest
    simp only [noted, Prod.mk.injEq] at same counted spread
    obtain ⟨rfl, -, rfl⟩ := same
    have patient : Patient (backends setup).agent setup.agent.readyDelay :=
      (agent_patient delayed).within World.agentPart
    obtain ⟨before, begins, all⟩ := buildAndStart_together (backends setup) timeout built controller
      .fresh patient noted
    refine Nat.le_antisymm ((counted.most _).mpr fun before begins => (spread before begins).2) ?_
    exact Nat.le_trans all ((counted.most _).mp (Nat.le_refl _) before begins)

/-- In memory the switches of a controller are started one after the other, so that at every instant
one of them is pending at most. The controllers are served side by side: if the session succeeds and
the switches take a while to get ready, all of them have had a switch pending at once, and the start
took as long as the largest group, no switch of which takes longer than the longest wait. It never
takes longer than the timeouts of that group. -/
theorem buildAndStart_turns (setup : Setup) (timeout : Duration) {p : Plan} (built : p.Built)
    (controller : Endpoint) :
    let out := buildAndStart (backends setup) timeout p controller .fresh
    let noted :=
      buildAndStart (Journaled.backends (backends setup)) timeout p controller ⟨[], .fresh⟩
    (∀ before, before <+: noted.2.2.calls →
        ∀ c, (pendingFor c (pendingAfter before)).length ≤ 1) ∧
      (∀ c, out.2.2.agent.maxStartsFor c ≤ 1) ∧
      ((∃ running, out.1 = .ok running) → setup.agent.readyDelay.nanos ≠ 0 →
        out.2.2.agent.maxStarting = p.groups controller ∧
          out.2.1 = setup.agent.readyDelay.waitTicks * p.largestGroup controller ∧
          ∀ d, setup.agent.readyDelay = .ofMillis d →
            out.2.1 = min d Duration.longestWait.ticks * p.largestGroup controller) ∧
      ∀ t, timeout = .ofMillis t → out.2.1 ≤ t * p.largestGroup controller := by
  intro out noted
  have spread := buildAndStart_spread (backends setup) timeout built controller .fresh
  have counted := buildAndStart_counted setup timeout p controller
  have same : out.2.2 = noted.2.2.inner := congrArg (fun x => x.2.2)
    (buildAndStart_maps (Journaled.backends_maps (backends setup)) timeout p controller
      ⟨[], .fresh⟩)
  have turns : ∀ before, before <+: noted.2.2.calls →
      ∀ c, (pendingFor c (pendingAfter before)).length ≤ 1 :=
    fun before begins c => (spread before begins).once c
  refine ⟨turns, fun c => ?_, ?_, fun t whole => ?_⟩
  · rw [same]
    exact (counted.mostFor c 1).mpr fun before begins => turns before begins c
  · rintro ⟨running, ok⟩ delayed
    have succeeded : buildAndStart (backends setup) timeout p controller .fresh =
        (.ok running, out.2.1, out.2.2) := Prod.ext ok rfl
    have time := buildAndStart_time_eq built delayed succeeded
    refine ⟨buildAndStart_maxStarting built delayed succeeded, time, fun d whole => ?_⟩
    rw [time, whole, Duration.waitTicks_ofMillis]
  · subst whole
    have bound := buildAndStart_time_le (backends setup) (.ofMillis t) p controller .fresh
    rw [Duration.waitTicks_ofMillis] at bound
    exact Nat.le_trans bound (Nat.mul_le_mul_right _ (Nat.min_le_left ..))

def trio : Plan := Plan.empty.performAll
  [.addSwitch "s1" (.any 9001), .addSwitch "s2" (.any 9002),
    .addSwitchSpec "s3" ⟨.any 9003, 3, some (.any 6654)⟩]

def slow : Setup := { Setup.smooth with agent := ⟨[], .ofMillis 100, []⟩ }

theorem trio_turns : ∃ running time w,
    (trio.Built ∧ buildAndStart (backends slow) (.ofSeconds 5) trio (.any 6653) .fresh =
      (.ok running, time, w)) ∧
    w.agent.maxStartsFor (.any 6653) ≤ 1 ∧ w.agent.maxStarting = 2 ∧ time = 200 := by
  have built : trio.Built := Plan.Built.empty.performAll _
  obtain ⟨running, time, w, ok⟩ : ∃ running time w,
      buildAndStart (backends slow) (.ofSeconds 5) trio (.any 6653) .fresh =
        (.ok running, time, w) := ⟨_, _, _, rfl⟩
  obtain ⟨_, single, paced, _⟩ := buildAndStart_turns slow (.ofSeconds 5) built (.any 6653)
  obtain ⟨most, _, exact_time⟩ := paced ⟨running, congrArg Prod.fst ok⟩ (by decide)
  have alone := single (.any 6653)
  have time_eq := exact_time 100 rfl
  rw [ok] at alone most time_eq
  exact ⟨running, time, w, ⟨built, ok⟩, alone, most, time_eq⟩

/-- A delay of more than thirty years is not waited for in full. -/
theorem delay_cut_short :
    ¬ ∀ (setup : Setup) (d t : Nat) (p : Plan) (controller : Endpoint), p.Built → d ≠ 0 →
      setup.agent.readyDelay = .ofMillis d →
      ∀ running time w, buildAndStart (backends setup) (.ofMillis t) p controller .fresh =
          (.ok running, time, w) →
        time = d * p.largestGroup controller := by
  intro claimed
  obtain ⟨running, time, w, ok⟩ := (buildAndStart_ok_iff_waits slowest
    (.ofMillis 18446744073709551615000) Plan.built_pair (.any 9559)).mpr
      ⟨favourable_slowest, Or.inl (by decide)⟩
  have full := claimed slowest 946080000001 18446744073709551615000 Plan.pair (.any 9559)
    Plan.built_pair (by decide) rfl running time w ok
  have cut := buildAndStart_time_eq Plan.built_pair (by decide) ok
  rw [full] at cut
  exact absurd cut (by decide)

end Session

end Testbed
