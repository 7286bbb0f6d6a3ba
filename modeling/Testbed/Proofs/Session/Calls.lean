import Testbed.Proofs.Fabric.Setup
import Testbed.Proofs.Session.Simulation
import Testbed.Proofs.Startup.Phases
import Testbed.Session.Journal

namespace Testbed.Session

variable {σ α : Type}

namespace Call

def launch? : Call → Option Launch
  | .launch l _ => some l
  | _ => none

def shutdown? : Call → Option String
  | .shutdown switch _ => some switch
  | _ => none

def teardownLink? : Call → Option Link
  | .teardownLink l _ _ => some l
  | _ => none

def destroyNode? : Call → Option Node
  | .destroyNode n _ => some n
  | _ => none

def isRelease : Call → Bool
  | .shutdown .. | .teardownLink .. | .destroyNode .. => true
  | _ => false

end Call

def attempted (calls : List Call) (switch : String) : Bool :=
  calls.any fun call => call.launch?.any (·.switch == switch)

@[simp]
theorem attempted_append (calls more : List Call) (switch : String) :
    attempted (calls ++ more) switch = (attempted calls switch || attempted more switch) :=
  List.any_append

theorem attempted_eq_false {calls : List Call} (quiet : ∀ call ∈ calls, call.launch? = none)
    (switch : String) : attempted calls switch = false := by
  simp only [attempted, List.any_eq_false]
  intro call member
  simp [quiet call member]

namespace Journaled

theorem agent_maps (a : Agent σ) : (agent a).Maps inner a :=
  ⟨fun _ _ => rfl, fun _ _ => rfl, fun _ _ _ => rfl, fun _ _ => rfl⟩

theorem fabric_maps (f : Fabric σ) : (fabric f).Maps inner f :=
  ⟨fun _ _ => rfl, fun _ _ _ _ => rfl, fun _ _ _ => rfl, fun _ _ => rfl⟩

theorem backends_maps (bk : Backends σ) : (backends bk).Maps inner bk where
  fabric := fabric_maps bk.fabric
  agent := agent_maps bk.agent
  tuner _ _ _ := rfl

theorem untilFailure_shown (call : α → Except Error Unit → Call) (act : α → Action σ) {xs : List α}
    {j k : Journaled σ} {made : List α} {failure : Option Error}
    (run : Action.untilFailure (fun x => record (call x) (act x)) xs j = (made, failure, k)) :
    (failure = none ∧ made = xs ∧ k.calls = j.calls ++ xs.map (call · (.ok ()))) ∨
      ∃ x after e, failure = some e ∧ xs = made ++ x :: after ∧
        k.calls = j.calls ++ made.map (call · (.ok ())) ++ [call x (.error e)] := by
  induction xs generalizing j made with
  | nil =>
    cases run
    exact .inl ⟨rfl, rfl, (List.append_nil _).symm⟩
  | cons x rest ih =>
    simp only [Action.untilFailure, record_eq] at run
    cases acted : act x j.inner with
    | mk result s =>
      rw [acted] at run
      cases result with
      | error e =>
        cases run
        exact .inr ⟨x, rest, e, rfl, rfl, by simp⟩
      | ok =>
        cases others : Action.untilFailure (fun x => record (call x) (act x)) rest
            ⟨j.calls ++ [call x (.ok ())], s⟩ with
        | mk more out =>
          simp only [others, Prod.mk.injEq] at run
          obtain ⟨rfl, rfl, rfl⟩ := run
          rcases ih others with ⟨smooth, rfl, calls⟩ | ⟨y, after, e, failed, rfl, calls⟩
          · exact .inl ⟨smooth, rfl, by rw [calls]; simp⟩
          · exact .inr ⟨y, after, e, failed, rfl, by rw [calls]; simp⟩

theorem untilFailure_all (call : α → Except Error Unit → Call) (act : α → Action σ)
    {xs made : List α} {j k : Journaled σ}
    (run : Action.untilFailure (fun x => record (call x) (act x)) xs j = (made, none, k)) :
    k.calls = j.calls ++ xs.map (call · (.ok ())) := by
  rcases untilFailure_shown call act run with ⟨-, -, calls⟩ | ⟨_, _, _, failed, -⟩
  · exact calls
  · cases failed

theorem untilFailure_some (call : α → Except Error Unit → Call) (act : α → Action σ)
    {xs made : List α} {j k : Journaled σ} {e : Error}
    (run : Action.untilFailure (fun x => record (call x) (act x)) xs j = (made, some e, k)) :
    ∃ x after, xs = made ++ x :: after ∧
      k.calls = j.calls ++ made.map (call · (.ok ())) ++ [call x (.error e)] := by
  rcases untilFailure_shown call act run with ⟨smooth, -⟩ | ⟨x, after, _, failed, items, calls⟩
  · cases smooth
  · cases failed
    exact ⟨x, after, items, calls⟩

theorem untilFailure_calls (call : α → Except Error Unit → Call) (act : α → Action σ)
    {P : Call → Prop} (shown : ∀ x result, P (call x result)) (xs : List α) (j : Journaled σ) :
    ∃ new, (Action.untilFailure (fun x => record (call x) (act x)) xs j).2.2.calls =
      j.calls ++ new ∧ ∀ c ∈ new, P c := by
  rcases untilFailure_shown call act (Eq.refl (Action.untilFailure _ xs j)) with
    ⟨-, -, calls⟩ | ⟨x, after, e, -, -, calls⟩
  · exact ⟨_, calls, List.forall_mem_map.mpr fun x _ => shown x _⟩
  · rw [List.append_assoc] at calls
    exact ⟨_, calls, List.forall_mem_append.mpr
      ⟨List.forall_mem_map.mpr fun x _ => shown x _, List.forall_mem_singleton.mpr (shown x _)⟩⟩

theorem materialize_calls {fab : Fabric σ} {p : Plan} {j j' : Journaled σ} {t : Topology}
    (built : p.materialize (fabric fab) j = (.ok t, j')) :
    t = ⟨p.nodes, p.links, false⟩ ∧ ∃ created, j'.calls = j.calls ++ created ∧
      ∀ call ∈ created, call.isRelease = false ∧ call.launch? = none := by
  have set_up : p.SetUp (fabric fab) j (.ok t, j') := built ▸ Plan.materialize_setUp
  obtain ⟨rfl, k, made, linked⟩ := set_up.ok
  obtain ⟨first, calls, quiet⟩ := untilFailure_calls Call.createNode fab.createNode
    (P := fun call => call.isRelease = false ∧ call.launch? = none)
    (fun _ _ => ⟨rfl, rfl⟩) p.nodes j
  obtain ⟨second, calls', quiet'⟩ := untilFailure_calls
    (fun l => Call.createLink l (namespaceAt p.nodes l.a) (namespaceAt p.nodes l.b))
    (fab.connect p.nodes) (P := fun call => call.isRelease = false ∧ call.launch? = none)
    (fun _ _ => ⟨rfl, rfl⟩) p.links k
  have at_nodes : k.calls = j.calls ++ first := by
    rw [← calls]
    exact (congrArg (fun out => out.2.2.calls) made).symm
  have at_links : j'.calls = k.calls ++ second := by
    rw [← calls']
    exact (congrArg (fun out => out.2.2.calls) linked).symm
  refine ⟨rfl, first ++ second, ?_, List.forall_mem_append.mpr ⟨quiet, quiet'⟩⟩
  rw [at_links, at_nodes, List.append_assoc]

end Journaled

def Entry.launchedAs (switch : String) (e : Entry) : Bool :=
  e.binding.launched && e.binding.switch == switch

theorem Entry.launchedAs_of_unbound {switch : String} {e : Entry}
    (unbound : e.binding.phase = .unbound) : e.launchedAs switch = false := by
  simp [launchedAs, Binding.launched, unbound]

theorem Entry.launchedAs_of_attached {switch : String} {c : Endpoint} {e : Entry}
    (attached : e.Attached c) : e.launchedAs switch = (e.binding.switch == switch) := by
  unfold Attached at attached
  simp [launchedAs, Binding.launched, attached]

namespace Entry

variable (switch : String) (e : Entry)

@[simp]
theorem launchedAs_failed_none : (e.inPhase (.failed none)).launchedAs switch = false := rfl

@[simp]
theorem launchedAs_failed_some (endpoints : Endpoint × Endpoint) :
    (e.inPhase (.failed (some endpoints))).launchedAs switch = (e.binding.switch == switch) := rfl

@[simp]
theorem launchedAs_attached (dataPlane c : Endpoint) :
    (e.inPhase (.attached dataPlane c true)).launchedAs switch = (e.binding.switch == switch) := rfl

@[simp]
theorem launchedAs_running (dataPlane c : Endpoint) :
    (e.inPhase (.running dataPlane c)).launchedAs switch = (e.binding.switch == switch) := rfl

end Entry

theorem Lane.Step.calls {a : Agent σ} {now : Nat} {lane lane' : Lane}
    {sh sh' : Shared (Journaled σ)}
    (step : Step (Journaled.agent a) now (lane, sh) (lane', sh')) (phases : lane.Phases) :
    ∃ new, sh'.world.calls = sh.world.calls ++ new ∧ (∀ call ∈ new, call.isRelease = false) ∧
      ∀ switch, lane'.entries.any (Entry.launchedAs switch) =
        (lane.entries.any (Entry.launchedAs switch) || attempted new switch) := by
  have waited {c past e w todo} (phases : (Lane.mk c past (.waiting e w) todo).Phases)
      (switch : String) : e.launchedAs switch = (e.binding.switch == switch) :=
    Entry.launchedAs_of_attached (phases.waiting e w rfl).1
  cases step with
  | refused unbound =>
    refine ⟨[], by simp, by simp, fun switch => ?_⟩
    simp [Entry.launchedAs_of_unbound unbound, attempted]
  | occupied unbound _ checked =>
    refine ⟨_, (checkEndpoint_calls checked).1, by simp [Call.isRelease], fun switch => ?_⟩
    simp [Entry.launchedAs_of_unbound unbound, attempted, Call.launch?]
  | unlaunched unbound _ checked launched =>
    refine ⟨_, (launch_calls launched).1.trans
      (by rw [(checkEndpoint_calls checked).1, List.append_assoc]), by simp [Call.isRelease],
      fun switch => ?_⟩
    simp [Entry.launchedAs_of_unbound unbound, attempted, Call.launch?, Bool.or_left_comm,
      Bool.or_comm, Entry.launch, Binding.launchOf]
  | launched unbound _ checked launched =>
    refine ⟨_, (launch_calls launched).1.trans
      (by rw [(checkEndpoint_calls checked).1, List.append_assoc]), by simp [Call.isRelease],
      fun switch => ?_⟩
    simp [Entry.launchedAs_of_unbound unbound, attempted, Call.launch?, Bool.or_left_comm,
      Bool.or_comm, Entry.launch, Binding.launchOf]
  | ready _ polled =>
    refine ⟨_, (poll_calls polled).1, by simp [Call.isRelease], fun switch => ?_⟩
    simp [waited phases, attempted, Call.launch?]
  | unready _ polled =>
    refine ⟨_, (poll_calls polled).1, by simp [Call.isRelease], fun switch => ?_⟩
    simp [waited phases, attempted, Call.launch?]
  | unsettled _ polled =>
    refine ⟨_, (poll_calls polled).1, by simp [Call.isRelease], fun switch => ?_⟩
    simp [attempted, Call.launch?]
  | expired =>
    refine ⟨[], by simp, by simp, fun switch => ?_⟩
    simp [waited phases, attempted]

theorem Stage.Reaches.calls {a : Agent σ} {first last : Stage (Journaled σ)}
    (reaches : Stage.Reaches (Journaled.agent a) first last)
    (phases : ∀ lane ∈ first.lanes, lane.Phases)
    (fresh : ∀ switch, (first.lanes.flatMap Lane.entries).any (Entry.launchedAs switch) = false) :
    ∃ new, last.shared.world.calls = first.shared.world.calls ++ new ∧
      (∀ call ∈ new, call.isRelease = false) ∧ ∀ switch,
        (last.lanes.flatMap Lane.entries).any (Entry.launchedAs switch) = attempted new switch := by
  induction reaches with
  | refl => exact ⟨[], by simp, by simp, fun switch => by rw [fresh]; rfl⟩
  | tail path next ih =>
    obtain ⟨new, calls, quiet, same⟩ := ih
    have phases := Stage.Reaches.phases path phases
    cases next with
    | tick => exact ⟨new, calls, quiet, same⟩
    | lane taken =>
      obtain ⟨more, calls', quiet', same'⟩ :=
        taken.calls (phases _ (List.mem_append_right _ (List.mem_cons_self ..)))
      refine ⟨new ++ more, ?_, List.forall_mem_append.mpr ⟨quiet, quiet'⟩, fun switch => ?_⟩
      · rw [calls', calls, List.append_assoc]
      · rw [attempted_append, ← same switch]
        simp only [List.flatMap_append, List.flatMap_cons, List.any_append, same',
          Bool.or_comm, Bool.or_left_comm]

end Testbed.Session
