import Testbed.Proofs.Plan.Built
import Testbed.Proofs.Session.Takedown

namespace Testbed.Session

variable {σ α β : Type}

theorem entriesOf_switches (timeout : Duration) (controller : Endpoint) (t : Topology) :
    (entriesOf timeout controller t).map (·.2.binding.switch) = t.switches.map Node.name := by
  rw [entriesOf_map _ (fun n _ => n.name) fun _ _ _ => rfl, Topology.switches]
  induction t.nodes with
  | nil => rfl
  | cons n rest ih =>
    cases kind : n.kind <;> simp only [List.filterMap_cons, List.filter_cons, Node.spec?,
      Node.isHost, kind] at ih ⊢ <;> simp [ih]

theorem entriesOf_names (timeout : Duration) (controller : Endpoint) {p : Plan} (built : p.Built) :
    ((entriesOf timeout controller ⟨p.nodes, p.links, false⟩).map
      (·.2.binding.switch)).Nodup := by
  rw [entriesOf_switches]
  exact built.nodup_switchNames

theorem startLanes_switches (a : Agent σ) (timeout : Duration) (controller : Endpoint)
    (t : Topology) (sh : Shared σ) :
    (bindingsOf (startLanes a (lanesOf (entriesOf timeout controller t)) sh).lanes).map
      Binding.switch = t.switches.map Node.name := by
  have unbound := entriesOf_unbound timeout controller t
  have reaches := startLanes_reaches a unbound sh
  have ordered := orderedEntries_origin unbound (entriesOf_increasing timeout controller t) reaches
  have named := congrArg (List.map fun e : Entry => e.binding.switch) ordered
  simp only [List.map_map] at named
  rw [← entriesOf_switches timeout controller t, bindingsOf_eq, List.map_map]
  exact named

theorem bringUp_bindings (bk : Backends σ) (timeout : Duration) (controller : Endpoint)
    (t : Topology) (s : σ) : (bringUp bk timeout controller t s).2.2.1.bindings =
      bindingsOf (startLanes bk.agent (lanesOf (entriesOf timeout controller t))
        ⟨.empty, s⟩).lanes := by
  unfold bringUp
  dsimp only
  split <;> rfl

theorem bringUp_switches (bk : Backends σ) (timeout : Duration) (controller : Endpoint)
    (t : Topology) (s : σ) :
    (bringUp bk timeout controller t s).2.2.1.bindings.map Binding.switch =
      t.switches.map Node.name := by
  rw [bringUp_bindings]
  exact startLanes_switches bk.agent timeout controller t ⟨.empty, s⟩

theorem bringUp_topology (bk : Backends σ) (timeout : Duration) (controller : Endpoint)
    (t : Topology) (s : σ) : (bringUp bk timeout controller t s).2.2.1.topology = t := by
  unfold bringUp
  dsimp only
  split <;> rfl

theorem filter_map_eq {key : α → β} [BEq β] [LawfulBEq β] {P : α → Bool} {q : β → Bool}
    {xs : List α} (distinct : (xs.map key).Nodup)
    (found : ∀ k, q k = xs.any fun x => P x && key x == k) :
    (xs.filter P).map key = (xs.map key).filter q := by
  rw [List.filter_map]
  congr 1
  refine List.filter_congr fun x member => ?_
  rw [Function.comp_apply, found, Bool.eq_iff_iff, List.any_eq_true]
  constructor
  · intro holds
    exact ⟨x, member, by simp [holds]⟩
  · rintro ⟨y, there, both⟩
    obtain ⟨holds, same⟩ := Bool.and_eq_true_iff.mp both
    rwa [← List.inj_on_of_nodup_map distinct there member (by simpa using same)]

theorem startLanes_calls (a : Agent σ) {entries : List (Endpoint × Entry)}
    (unbound : ∀ x ∈ entries, x.2.binding.phase = .unbound) (j : Journaled σ) :
    ∃ new, (startLanes (Journaled.agent a) (lanesOf entries) ⟨.empty, j⟩).shared.world.calls =
        j.calls ++ new ∧
      (∀ call ∈ new, call.isRelease = false) ∧ ∀ switch, attempted new switch =
        (bindingsOf (startLanes (Journaled.agent a) (lanesOf entries) ⟨.empty, j⟩).lanes).any
          fun b => b.launched && b.switch == switch := by
  have fresh (switch : String) :
      ((lanesOf entries).flatMap Lane.entries).any (Entry.launchedAs switch) = false := by
    simp only [List.any_eq_false, Bool.not_eq_true]
    intro e member
    obtain ⟨x, listed, rfl⟩ := List.mem_map.mp ((lanesOf_entries _).mem_iff.mp member)
    simp [Entry.launchedAs_of_unbound (unbound x listed)]
  have reaches := startLanes_reaches (Journaled.agent a) unbound ⟨.empty, j⟩
  obtain ⟨new, calls, quiet, same⟩ := reaches.calls (lanesOf_phases unbound) fresh
  refine ⟨new, calls, quiet, fun switch => ?_⟩
  rw [bindingsOf_eq, List.any_map, (orderedEntries_perm _).any_eq]
  exact (same switch).symm

theorem bringUp_calls (bk : Backends σ) (timeout : Duration) (controller : Endpoint) (t : Topology)
    (j : Journaled σ) :
    ∃ new, (bringUp (Journaled.backends bk) timeout controller t j).2.2.2.calls = j.calls ++ new ∧
      (∀ call ∈ new, call.isRelease = false) ∧ ∀ switch, attempted new switch =
        (bringUp (Journaled.backends bk) timeout controller t j).2.2.1.bindings.any
          fun b => b.launched && b.switch == switch := by
  obtain ⟨started, calls, quiet, same⟩ :=
    startLanes_calls bk.agent (entriesOf_unbound timeout controller t) j
  obtain ⟨tuned, calls', quiet'⟩ := Journaled.untilFailure_calls
    (fun x : String × String => Call.disableOffloads x.1 x.2)
    (fun x => bk.tuner.disableOffloads x.1 x.2)
    (P := fun call => call.isRelease = false ∧ call.launch? = none) (fun _ _ => ⟨rfl, rfl⟩)
    (tuningTargets t) (startLanes (Journaled.agent bk.agent)
      (lanesOf (entriesOf timeout controller t)) ⟨.empty, j⟩).shared.world
  unfold bringUp
  dsimp only
  split
  next => exact ⟨started, calls, quiet, same⟩
  next =>
    have silent : ∀ call ∈ tuned, call.isRelease = false :=
      fun call member => (quiet' call member).1
    refine ⟨started ++ tuned, ?_, List.forall_mem_append.mpr ⟨quiet, silent⟩, fun switch => ?_⟩
    · refine calls'.trans ?_
      rw [← List.append_assoc]
      exact congrArg (· ++ tuned) calls
    · have silent := attempted_eq_false (fun call member => (quiet' call member).2) switch
      rw [attempted_append, silent, Bool.or_false]
      exact same switch

theorem materialize_journal {bk : Backends σ} {p : Plan} {s s' : σ} {topology : Topology}
    (created : p.materialize bk.fabric s = (.ok topology, s')) :
    topology = ⟨p.nodes, p.links, false⟩ ∧ ∃ setup,
      p.materialize (Journaled.backends bk).fabric ⟨[], s⟩ = (.ok topology, ⟨setup, s'⟩) ∧
      ∀ call ∈ setup, call.isRelease = false ∧ call.launch? = none := by
  have same := materialize_maps (Journaled.backends_maps bk).fabric p ⟨[], s⟩
  simp only [created, Prod.mk.injEq] at same
  have noted : p.materialize (Journaled.backends bk).fabric ⟨[], s⟩ = (.ok topology, _) :=
    Prod.ext same.1.symm rfl
  obtain ⟨whole, setup, calls, quiet⟩ := Journaled.materialize_calls noted
  rw [List.nil_append] at calls
  exact ⟨whole, setup, noted.trans (by rw [Journaled.eq_mk calls same.2.symm]), quiet⟩

theorem bringUp_journal {bk : Backends σ} {timeout : Duration} {controller : Endpoint}
    {topology : Topology} {s t : σ} {failure : Option Error} {time : Nat} {running : Running}
    (calls : List Call)
    (brought : bringUp bk timeout controller topology s = (failure, time, running, t)) :
    ∃ more, bringUp (Journaled.backends bk) timeout controller topology ⟨calls, s⟩ =
        (failure, time, running, ⟨calls ++ more, t⟩) ∧
      (∀ call ∈ more, call.isRelease = false) ∧ ∀ switch, attempted more switch =
        running.bindings.any fun b => b.launched && b.switch == switch := by
  have same := bringUp_maps (Journaled.backends_maps bk) timeout controller topology ⟨calls, s⟩
  obtain ⟨more, written, quiet, launched⟩ :=
    bringUp_calls bk timeout controller topology ⟨calls, s⟩
  simp only [brought, Prod.mk.injEq] at same
  obtain ⟨failed, timed, left, done⟩ := same
  refine ⟨more, ?_, quiet, fun switch => ?_⟩
  · rw [← Journaled.eq_mk written done.symm, failed, timed, left]
  · rw [launched, left]

/-- The calls of a session that gave everything back: up to the failure nothing is taken down, then
the switches whose launch was attempted are shut down, and the links and the nodes go in reverse
order. -/
def RolledBack (p : Plan) (calls : List Call) : Prop :=
  ∃ before stops unlinks removals, calls = before ++ stops ++ unlinks ++ removals ∧
    (∀ call ∈ before, call.isRelease = false) ∧
    stops.map Call.shutdown? = (p.switchNames.filter (attempted before)).map some ∧
    unlinks.map Call.teardownLink? = p.links.reverse.map some ∧
    removals.map Call.destroyNode? = p.nodes.reverse.map some

theorem bringUp_rolledBack {bk : Backends σ} {timeout : Duration} {controller : Endpoint} {p : Plan}
    {s s' t : σ} {topology : Topology} {cause : Error} {time : Nat} {running : Running}
    (built : p.Built) (created : p.materialize bk.fabric s = (.ok topology, s'))
    (failed : bringUp bk timeout controller topology s' = (some cause, time, running, t)) :
    ∃ calls, RolledBack p calls ∧
      buildAndStart (Journaled.backends bk) timeout p controller ⟨[], s⟩ =
        (.error cause, time, ⟨calls, (running.teardown bk t).2.2⟩) := by
  obtain ⟨rfl, setup, created', quiet⟩ := materialize_journal created
  obtain ⟨more, failed', quiet', launched⟩ := bringUp_journal setup failed
  have held := bringUp_topology bk timeout controller ⟨p.nodes, p.links, false⟩ s'
  have names : running.bindings.map Binding.switch = p.switchNames := by
    have switches := bringUp_switches bk timeout controller ⟨p.nodes, p.links, false⟩ s'
    rwa [failed] at switches
  simp only [failed] at held
  obtain ⟨d, shut, links, nodes, down, -, -⟩ :=
    teardown_journal bk running (by rw [held]) (setup ++ more) t
  have named (switch : String) : attempted (setup ++ more) switch =
      running.bindings.any fun b => b.launched && b.switch == switch := by
    have silent := attempted_eq_false (fun call member => (quiet call member).2) switch
    rw [attempted_append, silent, Bool.false_or, launched]
  have distinct : (running.bindings.map Binding.switch).Nodup := names ▸ built.nodup_switchNames
  have kept : ∀ call ∈ setup ++ more, call.isRelease = false :=
    List.forall_mem_append.mpr ⟨fun call member => (quiet call member).1, quiet'⟩
  refine ⟨setup ++ more ++ d.calls running.topology.nodes,
    ⟨setup ++ more, _, _, _, ?_, kept, d.map_stops.trans ?_,
      (d.map_unlinks running.topology.nodes).trans ?_, d.map_removals.trans ?_⟩, ?_⟩
  · simp only [Takedown.calls, List.append_assoc]
  · rw [shut, ← names, ← filter_map_eq distinct named]
  · rw [links, held]
  · rw [nodes, held]
  · simp only [buildAndStart, created', failed', down]

end Testbed.Session
