import Testbed.Proofs.InMemory.Readiness
import Testbed.Proofs.Startup.Pace

namespace Testbed.InMemory

open Session

variable {setup : AgentSetup}

theorem rests_before {now : Nat} {lane : Lane} (tried : Tried setup now lane)
    (paced : lane.Paced (Agent.pause setup.readyDelay) now) (rest : lane.RestsUntil now)
    (agreeable : ∀ e ∈ lane.entries, Agreeable setup e) {e : Entry} {w : Wait}
    (waits : lane.progress = .waiting e w) :
    now ≤ lane.entries.length * Agent.pause setup.readyDelay := by
  have polled := (rest.waiting e w waits).1
  have responsive := (agreeable e (by simp [Lane.entries, waits])).responsive
  obtain ⟨_, _, timed⟩ := tried.waiting e w waits
  rcases timed.polled polled with ⟨hangs, _⟩ | ⟨_, start, scheduled, _⟩
  · exact absurd hangs responsive
  · obtain ⟨same, early⟩ := (paced.polled e w waits polled).2 _ scheduled
    have some_left : lane.past.length + 1 ≤ lane.entries.length := by
      simp only [Lane.entries, waits, List.length_append, List.length_cons]
      omega
    have room := Nat.mul_le_mul_right (Agent.pause setup.readyDelay) some_left
    omega

variable (delayed : setup.readyDelay.nanos ≠ 0)

include delayed

theorem agent_patient : Patient (agent setup) setup.readyDelay := by
  intro l round s answer t polled
  rcases poll_cases polled with ⟨never, _⟩ | ⟨again, _, _, first, _⟩ | ⟨settled, _, _, at_once⟩
  · exact Or.inl never
  · exact Or.inr (Or.inl ⟨again, first⟩)
  · refine Or.inr (Or.inr ⟨⟨_, settled⟩, ?_⟩)
    rcases Nat.eq_zero_or_pos round with first | later
    · exact absurd (at_once first) delayed
    · exact later

theorem startLanes_time_eq {entries : List (Endpoint × Entry)}
    (unbound : ∀ x ∈ entries, x.2.binding.phase = .unbound)
    (names : (entries.map (·.2.binding.switch)).Nodup)
    (ok : (startLanes (agent setup) (lanesOf entries) ⟨.empty, .fresh⟩).result = .ok ()) :
    (startLanes (agent setup) (lanesOf entries) ⟨.empty, .fresh⟩).time =
      longest (lanesOf entries) * setup.readyDelay.waitTicks := by
  have patient := agent_patient delayed
  rw [← pause_eq delayed]
  refine Nat.le_antisymm ?_ (startLanes_time_ge patient unbound ok)
  obtain ⟨_, agreeable⟩ := (startLanes_ok_iff unbound names).mp ok
  rcases runLanes_time (agent setup) (tickBound (lanesOf entries)) 0 _ ⟨.empty, .fresh⟩
      (lanesOf_orderly unbound) with ends | ⟨late, reaches, ends, lane, member, rest, e, w, waits⟩
  · rw [startLanes, ends]
    exact Nat.zero_le _
  · have tried := (tried_of_reaches reaches (lanesOf_tried setup entries) lane member).2
    have paced := reaches.paced patient (lanesOf_paced entries _) lane member
    have still := reaches.forall_entries agreeable_origin (fun e listed => by
      obtain ⟨x, its, rfl⟩ := List.mem_map.mp ((lanesOf_entries entries).mem_iff.mp listed)
      exact agreeable x its)
    have here := rests_before tried paced rest
      (fun f listed => still f (List.mem_flatMap.mpr ⟨lane, member, listed⟩)) waits
    have longest_here : longest late.lanes = longest (lanesOf entries) := by
      rw [longest, reaches.sizes]
      rfl
    rw [startLanes, ends, ← longest_here]
    exact Nat.le_trans here (longest_mul_le.mp (Nat.le_refl _) lane member)

end Testbed.InMemory
