import Testbed.Proofs.Session.Release
import Testbed.Session.InMemory

namespace Testbed.InMemory

open Session

namespace AgentState

variable (s : AgentState) (l : Launch) (switch : String)

@[simp]
theorem launches_begin : (s.begin l).launches = s.launches ++ [l] := rfl

@[simp]
theorem running_begin : (s.begin l).running = s.running ++ [l.switch] := rfl

@[simp]
theorem launches_endStarting : (s.endStarting switch).launches = s.launches := rfl

@[simp]
theorem running_endStarting : (s.endStarting switch).running = s.running := rfl

end AgentState

variable {setup : AgentSetup} {l : Launch} {s t : AgentState}

theorem checkEndpoint_state {e : Endpoint} {result : Except IoError Unit}
    (h : (agent setup).checkEndpoint e s = (result, t)) : t = s := by
  cases h
  rfl

theorem checkEndpoint_ok {e : Endpoint} (h : (agent setup).checkEndpoint e s = (.ok (), t)) :
    e.port ∉ setup.occupied := by
  intro taken
  simp [agent, checkEndpoint, taken] at h

theorem launch_cases {result : Except Error Unit} (h : launch setup l s = (result, t)) :
    (∃ cause, result = .error cause ∧ t = s ∧
      (setup.behavior l.switch = .failLaunch ∨ l.switch ∈ s.running)) ∨
    result = .ok () ∧ t = s.begin l ∧ setup.behavior l.switch ≠ .failLaunch ∧
      l.switch ∉ s.running := by
  unfold launch at h
  split at h
  next refuses =>
    cases h
    exact Or.inl ⟨_, rfl, rfl, Or.inl refuses⟩
  next willing =>
    split at h
    next runs =>
      cases h
      exact Or.inl ⟨_, rfl, rfl, Or.inr (by simpa using runs)⟩
    next ends =>
      cases h
      exact Or.inr ⟨rfl, rfl, willing, by simpa using ends⟩

theorem poll_cases {round : Nat} {answer : Readiness} (h : poll setup l round s = (answer, t)) :
    (answer = .never ∧ t = s ∧ setup.behavior l.switch = .unresponsive) ∨
    (answer = .again setup.readyDelay ∧ t = s ∧ setup.behavior l.switch ≠ .unresponsive ∧
      round = 0 ∧ setup.readyDelay.nanos ≠ 0) ∨
    answer = .settled (.ok ()) ∧ t = s.endStarting l.switch ∧
      setup.behavior l.switch ≠ .unresponsive ∧ (round = 0 → setup.readyDelay.nanos = 0) := by
  unfold poll at h
  split at h
  next hangs =>
    cases h
    exact Or.inl ⟨rfl, rfl, hangs⟩
  next answers =>
    split at h
    next early =>
      cases h
      exact Or.inr (Or.inl ⟨rfl, rfl, answers, early⟩)
    next late =>
      cases h
      refine Or.inr (Or.inr ⟨rfl, rfl, answers, fun first => ?_⟩)
      simpa [first] using late

theorem running_poll {round : Nat} {answer : Readiness} (h : poll setup l round s = (answer, t)) :
    t.running = s.running := by
  rcases poll_cases h with ⟨_, rfl, _⟩ | ⟨_, rfl, _⟩ | ⟨_, rfl, _⟩ <;> rfl

theorem launches_poll {round : Nat} {answer : Readiness} (h : poll setup l round s = (answer, t)) :
    t.launches = s.launches := by
  rcases poll_cases h with ⟨_, rfl, _⟩ | ⟨_, rfl, _⟩ | ⟨_, rfl, _⟩ <;> rfl

theorem shutdowns_poll {round : Nat} {answer : Readiness} (h : poll setup l round s = (answer, t)) :
    t.shutdowns = s.shutdowns := by
  rcases poll_cases h with ⟨_, rfl, _⟩ | ⟨_, rfl, _⟩ | ⟨_, rfl, _⟩ <;> rfl

theorem shutdown_cases {switch : String} {result : Except Error Unit}
    (h : shutdown setup switch s = (result, t)) :
    (result = .ok () ∧ t = s.endStarting switch ∧ switch ∉ s.running) ∨
    (result = .ok () ↔ setup.behavior switch ≠ .failShutdown) ∧ switch ∈ s.running ∧
      t = { s.endStarting switch with
        running := dropName switch s.running, shutdowns := s.shutdowns ++ [switch] } := by
  unfold shutdown at h
  dsimp only at h
  split at h
  next runs =>
    have member : switch ∈ s.running := List.contains_iff_mem.mp runs
    split at h
    next refuses =>
      cases h
      exact Or.inr ⟨by simp [refuses], member, rfl⟩
    next willing =>
      cases h
      exact Or.inr ⟨by simp [willing], member, rfl⟩
  next rests =>
    cases h
    exact Or.inl ⟨rfl, rfl, fun member => rests (List.contains_iff_mem.mpr member)⟩

theorem running_shutdown (setup : AgentSetup) (switch : String) (s : AgentState) :
    (shutdown setup switch s).2.running = dropName switch s.running := by
  cases called : shutdown setup switch s with
  | mk result t =>
    rcases shutdown_cases called with ⟨_, rfl, absent⟩ | ⟨_, _, rfl⟩
    · refine (List.filter_eq_self.mpr fun name member => ?_).symm
      simpa using fun same : name = switch => absent (same ▸ member)
    · rfl

/-- No switch is starting that does not run. -/
def AgentState.Tidy (s : AgentState) : Prop := ∀ x ∈ s.starting, x.1 ∈ s.running

namespace AgentState.Tidy

variable (tidy : s.Tidy)

include tidy

theorem endStarting (switch : String) : (s.endStarting switch).Tidy :=
  fun x member => tidy x (List.mem_of_mem_filter member)

theorem launch {l : Launch} {result : Except Error Unit}
    (launched : launch setup l s = (result, t)) : t.Tidy := by
  rcases launch_cases launched with ⟨_, _, rfl, _⟩ | ⟨_, rfl, _⟩
  · exact tidy
  · intro x member
    rcases List.mem_append.mp member with before | here
    · exact List.mem_append_left _ (tidy.endStarting l.switch x before)
    · rw [List.mem_singleton.mp here]
      exact List.mem_append_right _ (List.mem_singleton_self _)

theorem poll {l : Launch} {round : Nat} {answer : Readiness}
    (polled : poll setup l round s = (answer, t)) : t.Tidy := by
  rcases poll_cases polled with ⟨_, rfl, _⟩ | ⟨_, rfl, _⟩ | ⟨_, rfl, _⟩
  · exact tidy
  · exact tidy
  · exact tidy.endStarting l.switch

theorem shutdown (switch : String) : (shutdown setup switch s).2.Tidy := by
  have spared : ∀ x ∈ (s.endStarting switch).starting, x.1 ∈ dropName switch s.running := by
    intro x member
    obtain ⟨before, other⟩ := List.mem_filter.mp member
    exact mem_dropName.mpr ⟨tidy x before, by simpa using other⟩
  cases called : InMemory.shutdown setup switch s with
  | mk result t =>
    rcases shutdown_cases called with ⟨_, rfl, _⟩ | ⟨_, _, rfl⟩
    · exact tidy.endStarting switch
    · exact spared

end AgentState.Tidy

theorem running_stopAll (setup : AgentSetup) (bs : List Binding) (r : PortRegistry) (s : AgentState)
    (name : String) :
    name ∈ (stopAll (agent setup) bs r s).2.2.running ↔
      name ∈ s.running ∧ ∀ b ∈ bs, b.launched = true → b.switch ≠ name := by
  induction bs generalizing r s with
  | nil => simp [stopAll]
  | cons b rest ih =>
    simp only [stopAll, ih, Binding.stop_world, List.forall_mem_cons]
    by_cases launched : b.launched = true
    · simp only [launched, ↓reduceIte, agent, running_shutdown, mem_dropName, and_assoc,
        true_implies]
      rw [ne_comm]
    · simp [launched]

theorem running_startLanes (setup : AgentSetup) {entries : List (Endpoint × Entry)}
    (unbound : ∀ x ∈ entries, x.2.binding.phase = .unbound) :
    ∀ name ∈ (startLanes (agent setup) (lanesOf entries) ⟨.empty, .fresh⟩).shared.world.running,
      ∃ b ∈ bindingsOf (startLanes (agent setup) (lanesOf entries) ⟨.empty, .fresh⟩).lanes,
        b.launched = true ∧ b.switch = name := by
  have reported := (startLanes_reaches (Journaled.agent (agent setup)) unbound
      ⟨.empty, ⟨[], .fresh⟩⟩).world
    (Q := fun j => ∀ name ∈ j.inner.running, attempted j.calls name = true)
    (fun before checked name member => ?_) (fun before launched name member => ?_)
    (fun before polled name member => ?_) nofun
  · obtain ⟨new, calls, _, launched⟩ := startLanes_calls (agent setup) unbound ⟨[], .fresh⟩
    have same := startLanes_maps (Journaled.agent_maps (agent setup)) (lanesOf entries)
      ⟨.empty, ⟨[], .fresh⟩⟩
    simp only [Shared.map] at same
    intro name member
    rw [same] at member ⊢
    have attempt := reported name member
    rw [calls, List.nil_append, launched] at attempt
    obtain ⟨b, listed, both⟩ := List.any_eq_true.mp attempt
    exact ⟨b, listed, by simpa using both⟩
  · obtain ⟨calls, same⟩ := checkEndpoint_calls checked
    rw [calls, attempted_append, before name (checkEndpoint_state same ▸ member), Bool.true_or]
  · obtain ⟨calls, launched⟩ := launch_calls launched
    rw [calls, attempted_append]
    rcases launch_cases launched with ⟨_, _, same, _⟩ | ⟨_, begun, _⟩
    · rw [before name (same ▸ member), Bool.true_or]
    · rw [begun, AgentState.running_begin, List.mem_append, List.mem_singleton] at member
      rcases member with member | rfl
      · rw [before name member, Bool.true_or]
      · simp [attempted, Call.launch?]
  · obtain ⟨calls, polled⟩ := poll_calls polled
    rw [calls, attempted_append, before name (running_poll polled ▸ member), Bool.true_or]

end Testbed.InMemory
