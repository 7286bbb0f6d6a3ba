import Testbed.Proofs.Session.FailFast
import Testbed.Proofs.Session.Keeping
import Testbed.Proofs.Session.Pending
import Testbed.Proofs.Session.Success
import Testbed.Proofs.Startup.Pace

namespace Testbed.Session

variable {σ : Type}

theorem Patient.journaled {a : Agent σ} {delay : Duration} (patient : Patient a delay) :
    Patient (Journaled.agent a) delay := by
  intro l round s answer t polled
  exact patient l round _ _ _ (poll_calls polled).2

theorem Spread.quiet {calls : List Call} (n : Nat) (quiet : AtAllTimes (Spread 0) calls) :
    AtAllTimes (Spread n) calls := fun before begins =>
  ⟨(quiet before begins).1, Nat.le_trans (quiet before begins).2 (Nat.zero_le n)⟩

section Start

variable {a : Agent σ} {entries : List (Endpoint × Entry)} {j : Journaled σ}
  (unbound : ∀ x ∈ entries, x.2.binding.phase = .unbound)
  (names : (entries.map (·.2.binding.switch)).Nodup)
  (quiet : AtAllTimes (Spread 0) j.calls) {last : Stage (Journaled σ)}
  (reaches : Stage.Reaches (Journaled.agent a) ⟨0, lanesOf entries, ⟨.empty, j⟩⟩ last)

include unbound names quiet reaches

theorem reaches_spread : UnderWay last.lanes (pendingAfter last.shared.world.calls) ∧
    AtAllTimes (Spread (lanesOf entries).length) last.shared.world.calls := by
  have nothing : pendingAfter j.calls = [] :=
    List.length_eq_zero_iff.mp (Nat.le_zero.mp quiet.now.2)
  have idle : UnderWay (lanesOf entries) (pendingAfter j.calls) := by
    rw [nothing]
    refine ⟨List.nodup_nil, nofun, fun lane member e w waits => ?_⟩
    obtain ⟨c, _, rfl⟩ := List.mem_map.mp member
    cases waits
  exact reaches.spread (lanesOf_distinct names) (lanesOf_phases unbound) idle (.quiet _ quiet)

theorem reaches_together {delay : Duration} (patient : Patient (Journaled.agent a) delay)
    (calm : ∀ lane ∈ last.lanes, lane.Calm) :
    last.now = 0 ∨ AtOnce (lanesOf entries).length last.shared.world.calls := by
  induction reaches with
  | refl => exact Or.inl rfl
  | tail path next ih =>
    cases next with
    | lane taken =>
      have earlier := Stage.forall_replace calm taken.calm
      rcases ih earlier with first | once
      · exact Or.inl first
      · have phases := Stage.Reaches.phases path (lanesOf_phases unbound)
        obtain ⟨new, calls, _⟩ :=
          taken.calls (phases _ (List.mem_append_right _ List.mem_cons_self))
        exact Or.inr (calls ▸ once.longer new)
    | @tick now time lanes sh later rest =>
      rcases ih calm with first | found
      · -- the clock goes on for the first time, so that every lane waits by now
        refine Or.inr ⟨sh.world.calls, List.prefix_refl _, ?_⟩
        dsimp only at first
        subst first
        have phases := Stage.Reaches.phases path (lanesOf_phases unbound)
        have distinct := Stage.Reaches.distinct path (lanesOf_distinct names)
        have paced := Stage.Reaches.paced patient path (lanesOf_paced entries _)
        have sizes := Stage.Reaches.sizes path
        have under := (reaches_spread unbound names quiet path).1
        have waits : ∀ lane ∈ lanes, ∃ e w, lane.progress = .waiting e w := by
          intro lane member
          refine (paced lane member).waits (Agent.pause_pos delay) (rest lane member)
            (calm lane member) fun empty => ?_
          obtain ⟨x, there, same⟩ := List.mem_map.mp (sizes ▸ List.mem_map_of_mem member)
          rw [empty] at same
          exact lanesOf_nonempty entries x there (List.eq_nil_of_length_eq_zero same)
        exact Stage.Reaches.lanes_length path ▸ under.length_ge distinct.controllers phases waits
      · exact Or.inr found

end Start

theorem Journaled.keeps (bk : Backends σ) {Q : List Call → Prop}
    (longer : ∀ calls call, call.launch? = none → Q calls → Q (calls ++ [call])) :
    (Journaled.backends bk).Keeps fun j => Q j.calls where
  fabric :=
    { createNode := fun _ _ => longer _ _ rfl
      createLink := fun _ _ _ _ => longer _ _ rfl
      teardownLink := fun _ _ _ => longer _ _ rfl
      destroyNode := fun _ _ => longer _ _ rfl }
  shutdown _ _ := longer _ _ rfl
  disableOffloads _ _ _ := longer _ _ rfl

theorem Journaled.keeps_spread (bk : Backends σ) (n : Nat) :
    (Journaled.backends bk).Keeps fun j => AtAllTimes (Spread n) j.calls :=
  Journaled.keeps bk fun _ _ quiet => (AtAllTimes.snoc_quiet Spread.fewer quiet).mpr

theorem spread_nil : AtAllTimes (Spread 0) [] :=
  AtAllTimes.nil_iff.mpr ⟨List.nodup_nil, Nat.le_refl 0⟩

theorem materialize_quiet (bk : Backends σ) (p : Plan) (s : σ) :
    AtAllTimes (Spread 0) (p.materialize (Journaled.backends bk).fabric ⟨[], s⟩).2.calls :=
  (Journaled.keeps_spread bk 0).fabric.materialize p spread_nil

section Session

variable (bk : Backends σ) (timeout : Duration) {p : Plan} (built : p.Built) (controller : Endpoint)
  (s : σ)

include built

theorem buildAndStart_spread : AtAllTimes (Spread (p.groups controller))
    (buildAndStart (Journaled.backends bk) timeout p controller ⟨[], s⟩).2.2.calls := by
  have unbound := entriesOf_unbound timeout controller ⟨p.nodes, p.links, false⟩
  have names := entriesOf_names timeout controller built
  refine (Journaled.keeps_spread bk (p.groups controller)).buildAndStart
    (Journaled.keeps_spread bk 0).fabric (fun _ => Spread.quiet _) timeout p controller
    ?_ spread_nil
  intro j quiet
  have reaches := startLanes_reaches (Journaled.agent bk.agent) unbound ⟨.empty, j⟩
  have spread := (reaches_spread unbound names quiet reaches).2
  rwa [lanesOf_length timeout controller p] at spread

theorem buildAndStart_together {delay : Duration} (patient : Patient bk.agent delay)
    {running : Running} {time : Nat} {j : Journaled σ}
    (ok : buildAndStart (Journaled.backends bk) timeout p controller ⟨[], s⟩ =
      (.ok running, time, j)) :
    AtOnce (p.groups controller) j.calls := by
  obtain ⟨topology, k, created, up⟩ := buildAndStart_ok_cases ok
  obtain ⟨rfl, -⟩ := Plan.SetUp.ok (created ▸ Plan.materialize_setUp)
  have unbound := entriesOf_unbound timeout controller ⟨p.nodes, p.links, false⟩
  have names := entriesOf_names timeout controller built
  have quiet := materialize_quiet bk p s
  rw [created] at quiet
  have started := bringUp_started up
  have calm := calm_of_ok unbound started
  have reaches := startLanes_reaches (Journaled.agent bk.agent) unbound ⟨.empty, k⟩
  have groups := lanesOf_length timeout controller p
  have keeps := Journaled.keeps bk (Q := AtOnce (p.groups controller))
    fun _ call _ once => once.longer [call]
  have all := keeps.bringUp timeout controller ⟨p.nodes, p.links, false⟩ k ?_
  · rwa [up] at all
  · rcases reaches_together unbound names quiet reaches patient.journaled calm with first | found
    · rw [startLanes_time_zero patient.journaled unbound started first] at groups
      refine ⟨[], List.nil_prefix, ?_⟩
      rw [← groups]
      exact Nat.zero_le _
    · rwa [groups] at found

end Session

end Testbed.Session
