import Testbed.Proofs.InMemory.Agent
import Testbed.Proofs.Startup.Success

namespace Testbed.InMemory

open Session

def launchesOf (lane : Lane) : List Launch := lane.begun.map fun e => e.launch lane.controller

/-- What the agent was told while no lane failed. -/
structure Told (lanes : List Lane) (s : AgentState) : Prop where
  running : s.running.Perm ((begunOf lanes).map (·.binding.switch))
  launches : ∀ c, (s.launches.filter fun l => l.controller == c) =
    (lanes.filter fun lane => lane.controller == c).flatMap launchesOf

theorem filter_controller {before after : List Lane} {lane : Lane}
    (distinct : Distinct (before ++ lane :: after)) :
    (before ++ after).filter (fun x => x.controller == lane.controller) = [] := by
  have controllers := distinct.controllers
  rw [List.map_append, List.map_cons, List.nodup_middle, List.nodup_cons,
    ← List.map_append] at controllers
  refine List.filter_eq_nil_iff.mpr fun x member same => controllers.1 ?_
  rw [← eq_of_beq same]
  exact List.mem_map_of_mem member

theorem Told.step {setup : AgentSetup} {now : Nat} {before after : List Lane} {lane lane' : Lane}
    {sh sh' : Shared AgentState}
    (step : Lane.Step (agent setup) now (lane, sh) (lane', sh')) (calm : lane'.Calm)
    (distinct : Distinct (before ++ lane :: after))
    (told : Told (before ++ lane :: after) sh.world) :
    Told (before ++ lane' :: after) sh'.world := by
  have same_lane : lane'.controller = lane.controller := congrArg Prod.fst step.origins
  rcases step.calm_cases calm with
    ⟨e, t, _, begun, _, checked, launched⟩ | ⟨e, w, answer, _, begun, _, polled⟩
  · obtain rfl := checkEndpoint_state checked
    rcases launch_cases launched with ⟨_, failed, _⟩ | ⟨_, same, _⟩
    · cases failed
    · refine ⟨?_, fun c => ?_⟩
      · have grown := (begunOf_replace before after begun).map fun e => e.binding.switch
        rw [List.map_append] at grown
        rw [same, AgentState.running_begin]
        exact (told.running.append_right _).trans grown.symm
      · have alone := filter_controller distinct
        have earlier := told.launches c
        rw [same, AgentState.launches_begin, List.filter_append, earlier]
        have lane_launches : launchesOf lane' = launchesOf lane ++ [e.launch lane.controller] := by
          simp [launchesOf, begun, same_lane]
        by_cases mine : lane.controller = c
        · subst mine
          simp only [List.filter_append, List.append_eq_nil_iff] at alone
          simp [List.filter_append, alone, same_lane, lane_launches, Entry.launch, Binding.launchOf]
        · simp [List.filter_append, mine, same_lane, Entry.launch, Binding.launchOf]
  · refine ⟨?_, fun c => ?_⟩
    · rw [running_poll polled, begunOf_same before after begun]
      exact told.running
    · have lane_launches : launchesOf lane' = launchesOf lane := by
        simp only [launchesOf, begun, same_lane]
      rw [launches_poll polled, told.launches c]
      by_cases mine : lane.controller = c <;>
        simp [List.filter_append, mine, same_lane, lane_launches]

theorem told_lanesOf (entries : List (Endpoint × Entry)) : Told (lanesOf entries) .fresh := by
  refine ⟨?_, fun c => ?_⟩
  · rw [begunOf_lanesOf]
    exact .refl _
  · refine (List.flatMap_eq_nil_iff.mpr fun lane member => ?_).symm
    obtain ⟨c, _, rfl⟩ := List.mem_map.mp (List.mem_of_mem_filter member)
    rfl

theorem declared_launches (entries : List (Endpoint × Entry)) (c : Endpoint) :
    ((((lanesOf entries).map Lane.origins).filter fun x => x.1 == c).flatMap fun x =>
        x.2.map fun e => e.launch x.1) =
      (entries.map fun x => x.2.launch x.1).filter fun l => l.controller == c := by
  have distinct : (sortBy Endpoint.before (entries.map (·.1)).eraseDups).Nodup :=
    (nodup_eraseDups _).perm (sortBy_perm _ _).symm
  have parted : ((((lanesOf entries).map Lane.origins).filter fun x => x.1 == c).flatMap fun x =>
        x.2.map fun e => e.launch x.1) =
      ((sortBy Endpoint.before (entries.map (·.1)).eraseDups).filter (· == c)).flatMap fun k =>
        (entries.filter (·.1 == k)).map fun x => x.2.launch k := by
    simp only [lanesOf, List.map_map, List.filter_map, List.flatMap_map]
    simp [Function.comp_def, Lane.origins, Entry.origin]
  rw [parted, flatMap_filter_key distinct c, List.filter_map]
  · refine List.map_congr_left fun x member => ?_
    rw [eq_of_beq (List.mem_filter.mp member).2]
  · intro missing
    have absent : entries.filter (·.1 == c) = [] := by
      refine List.filter_eq_nil_iff.mpr fun x member same => missing ?_
      rw [← eq_of_beq same]
      exact mem_sortBy.mpr (List.mem_eraseDups.mpr (List.mem_map_of_mem member))
    rw [absent, List.map_nil]

section Success

variable {setup : AgentSetup} {entries : List (Endpoint × Entry)}
  (unbound : ∀ x ∈ entries, x.2.binding.phase = .unbound)
  (names : (entries.map (·.2.binding.switch)).Nodup)
  (ok : (startLanes (agent setup) (lanesOf entries) ⟨.empty, .fresh⟩).result = .ok ())

include unbound names ok

theorem told_of_ok : Told (startLanes (agent setup) (lanesOf entries) ⟨.empty, .fresh⟩).lanes
    (startLanes (agent setup) (lanesOf entries) ⟨.empty, .fresh⟩).shared.world :=
  (startLanes_reaches (agent setup) unbound _).calm_induction
    (Q := fun lanes sh => Told lanes sh.world) (lanesOf_distinct names) Told.step
    (told_lanesOf entries) (calm_of_ok unbound ok)

theorem launches_of_ok (c : Endpoint) :
    ((startLanes (agent setup) (lanesOf entries) ⟨.empty, .fresh⟩).shared.world.launches.filter
        fun l => l.controller == c) =
      (entries.map fun x => x.2.launch x.1).filter fun l => l.controller == c := by
  have reaches := startLanes_reaches (agent setup) unbound ⟨.empty, .fresh⟩
  have finished := finished_of_ok unbound ok
  have seen : ((startLanes (agent setup) (lanesOf entries) ⟨.empty, .fresh⟩).lanes.filter
      fun lane => lane.controller == c).flatMap launchesOf =
      (((startLanes (agent setup) (lanesOf entries) ⟨.empty, .fresh⟩).lanes.map
        Lane.origins).filter fun x => x.1 == c).flatMap fun x => x.2.map fun e => e.launch x.1 := by
    rw [List.filter_map, List.flatMap_map]
    refine List.flatMap_congr fun lane member => ?_
    rw [launchesOf, Lane.begun_of_finished (finished lane (List.mem_of_mem_filter member))]
    rfl
  rw [(told_of_ok unbound names ok).launches c, seen, reaches.origins]
  exact declared_launches entries c

end Success

end Testbed.InMemory
