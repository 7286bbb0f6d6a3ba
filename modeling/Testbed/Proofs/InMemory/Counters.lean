import Testbed.Proofs.InMemory.Agent
import Testbed.Proofs.Session.Pending

namespace Testbed.InMemory

open Session

def pendingFor (c : Endpoint) (pending : List Launch) : List Launch :=
  pending.filter (·.controller == c)

/-- The agent starts what the calls show as pending, and its counters are the most there ever was.
-/
structure Counted (calls : List Call) (s : AgentState) : Prop where
  starting : s.starting = (pendingAfter calls).map fun l => (l.switch, l.controller)
  most : ∀ n, s.maxStarting ≤ n ↔ AtAllTimes (·.length ≤ n) calls
  mostFor : ∀ c n, s.maxStartsFor c ≤ n ↔ AtAllTimes (fun S => (pendingFor c S).length ≤ n) calls

theorem length_fewer (n : Nat) (S T : List Launch) (less : T.Sublist S) (few : S.length ≤ n) :
    T.length ≤ n := Nat.le_trans less.length_le few

theorem pendingFor_fewer (c : Endpoint) (n : Nat) (S T : List Launch) (less : T.Sublist S)
    (few : (pendingFor c S).length ≤ n) : (pendingFor c T).length ≤ n :=
  Nat.le_trans (less.filter _).length_le few

theorem counted_fresh : Counted [] .fresh := by
  refine ⟨rfl, fun n => ?_, fun c n => ?_⟩
  · rw [AtAllTimes.nil_iff]
    exact Iff.rfl
  · rw [AtAllTimes.nil_iff]
    exact Iff.rfl

theorem filter_starting (pending : List Launch) (switch : String) :
    (pending.map fun l => (l.switch, l.controller)).filter (·.1 != switch) =
      (pending.filter (·.switch != switch)).map fun l => (l.switch, l.controller) := by
  rw [List.filter_map]
  rfl

variable {calls : List Call} {s t : AgentState}

theorem Counted.quiet (counted : Counted calls s) {call : Call} (quiet : call.launch? = none)
    (starting : t.starting =
      (call.pending (pendingAfter calls)).map fun l => (l.switch, l.controller))
    (most : t.maxStarting = s.maxStarting) (mostFor : t.maxStartingFor = s.maxStartingFor) :
    Counted (calls ++ [call]) t := by
  refine ⟨by rw [pendingAfter_snoc, starting], fun n => ?_, fun c n => ?_⟩
  · rw [AtAllTimes.snoc_quiet (length_fewer n) quiet, most, counted.most]
  · rw [AtAllTimes.snoc_quiet (pendingFor_fewer c n) quiet, ← counted.mostFor]
    simp only [AgentState.maxStartsFor, mostFor]

theorem Counted.silent (counted : Counted calls s) {call : Call}
    (silent : call.pending (pendingAfter calls) = pendingAfter calls) :
    Counted (calls ++ [call]) s := by
  refine ⟨?_, fun n => ?_, fun c n => ?_⟩
  · rw [pendingAfter_snoc, silent, counted.starting]
  · rw [AtAllTimes.snoc_same silent, counted.most]
  · rw [AtAllTimes.snoc_same silent, counted.mostFor]

theorem maxStartsFor_begin (s : AgentState) (l : Launch) (c : Endpoint) :
    (s.begin l).maxStartsFor c =
      if c = l.controller then max (s.maxStartsFor c) ((s.begin l).startingFor c)
      else s.maxStartsFor c := by
  by_cases same : c = l.controller
  · subst same
    simp [AgentState.maxStartsFor, AgentState.begin, AgentState.count, AgentState.endStarting,
      AgentState.startingFor]
  · have apart : (l.controller == c) = false := by simpa using Ne.symm same
    have skipped : (s.maxStartingFor.filter (·.1 != l.controller)).find? (·.1 == c) =
        s.maxStartingFor.find? (·.1 == c) := by
      rw [List.find?_filter]
      congr 1
      funext x
      by_cases here : x.1 = c <;> simp [here, same]
    simp [AgentState.maxStartsFor, AgentState.begin, AgentState.count, AgentState.endStarting,
      apart, skipped, same]

theorem Counted.begin (counted : Counted calls s) (l : Launch) :
    Counted (calls ++ [.launch l (.ok ())]) (s.begin l) := by
  have starting : (s.begin l).starting =
      (pendingAfter (calls ++ [.launch l (.ok ())])).map fun l => (l.switch, l.controller) := by
    rw [pendingAfter_snoc]
    simp only [AgentState.begin, AgentState.count, AgentState.endStarting, counted.starting,
      filter_starting, Call.pending, List.map_append, List.map_singleton]
  refine ⟨starting, fun n => ?_, fun c n => ?_⟩
  · have grown : (s.begin l).maxStarting = max s.maxStarting (s.begin l).starting.length := rfl
    rw [AtAllTimes.snoc_iff, ← counted.most, grown, starting, List.length_map, Nat.max_le]
  · have startingFor : (s.begin l).startingFor c =
        (pendingFor c (pendingAfter (calls ++ [.launch l (.ok ())]))).length := by
      rw [AgentState.startingFor, starting, List.filter_map, List.length_map]
      rfl
    rw [AtAllTimes.snoc_iff, ← counted.mostFor, maxStartsFor_begin, startingFor]
    split
    next => rw [Nat.max_le]
    next other =>
      -- the launch is for another controller, so that this one has no more pending than before
      refine ⟨fun few => ⟨few, ?_⟩, And.left⟩
      have before := ((counted.mostFor c n).mp few).now
      have apart : (l.controller == c) = false := by simpa using Ne.symm other
      rw [pendingAfter_snoc, pendingFor, Call.pending, List.filter_append]
      simp only [List.filter_cons, apart, Bool.false_eq_true, if_false, List.filter_nil,
        List.append_nil]
      exact pendingFor_fewer c n _ _ List.filter_sublist before

variable {setup : AgentSetup}

theorem Counted.launch (counted : Counted calls s) {l : Launch} {result : Except Error Unit}
    (launched : launch setup l s = (result, t)) : Counted (calls ++ [.launch l result]) t := by
  rcases launch_cases launched with ⟨cause, rfl, rfl, _⟩ | ⟨rfl, rfl, _⟩
  · exact counted.silent rfl
  · exact counted.begin l

theorem Counted.poll (counted : Counted calls s) {l : Launch} {round : Nat} {answer : Readiness}
    (polled : poll setup l round s = (answer, t)) :
    Counted (calls ++ [.poll l round answer]) t := by
  rcases poll_cases polled with ⟨rfl, rfl, _⟩ | ⟨rfl, rfl, _⟩ | ⟨rfl, rfl, _⟩
  · exact counted.silent rfl
  · exact counted.silent rfl
  · refine counted.quiet rfl ?_ rfl rfl
    simp only [AgentState.endStarting, counted.starting, filter_starting, Call.pending]

theorem shutdown_counters {switch : String} {result : Except Error Unit}
    (stopped : shutdown setup switch s = (result, t)) :
    t.starting = s.starting.filter (·.1 != switch) ∧ t.maxStarting = s.maxStarting ∧
      t.maxStartingFor = s.maxStartingFor := by
  rcases shutdown_cases stopped with ⟨_, rfl, _⟩ | ⟨_, _, rfl⟩ <;> exact ⟨rfl, rfl, rfl⟩

theorem Counted.shutdown (counted : Counted calls s) {switch : String} {result : Except Error Unit}
    (stopped : shutdown setup switch s = (result, t)) :
    Counted (calls ++ [.shutdown switch result]) t := by
  obtain ⟨starting, most, mostFor⟩ := shutdown_counters stopped
  refine counted.quiet rfl ?_ most mostFor
  rw [starting, counted.starting, filter_starting]
  rfl

end Testbed.InMemory
