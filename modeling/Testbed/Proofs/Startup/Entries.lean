import Testbed.Proofs.Sorted
import Testbed.Proofs.Startup.Stage
import Testbed.Session.Basic

namespace Testbed.Session

variable {σ : Type}

def Entry.origin (e : Entry) : Entry := e.inPhase .unbound

@[simp]
theorem Entry.inPhase_phase (e : Entry) (phase : Binding.Phase) :
    (e.inPhase phase).binding.phase = phase := rfl

@[simp]
theorem Entry.origin_inPhase (e : Entry) (phase : Binding.Phase) :
    (e.inPhase phase).origin = e.origin := rfl

theorem Entry.origin_unbound {e : Entry} (unbound : e.binding.phase = .unbound) : e.origin = e := by
  obtain ⟨place, binding, dataPlane⟩ := e
  obtain ⟨switch, deviceId, ports, timeout, phase⟩ := binding
  cases unbound
  rfl

namespace Lane

variable {c : Endpoint} {past todo : List Entry}

@[simp]
theorem entries_idle : (Lane.mk c past .idle todo).entries = past ++ todo := rfl

@[simp]
theorem entries_waiting {e : Entry} {w : Wait} :
    (Lane.mk c past (.waiting e w) todo).entries = past ++ e :: todo := rfl

@[simp]
theorem entries_failed {cause : Error} :
    (Lane.mk c past (.failed cause) todo).entries = past ++ todo := rfl

def origins (lane : Lane) : Endpoint × List Entry :=
  (lane.controller, lane.entries.map Entry.origin)

theorem Step.origins {a : Agent σ} {now : Nat} {first last : Lane × Shared σ}
    (step : Step a now first last) : last.1.origins = first.1.origins := by
  cases step <;> simp [Lane.origins]

end Lane

namespace Stage

theorem Reaches.origins {a : Agent σ} {first last : Stage σ} (reaches : Reaches a first last) :
    last.lanes.map Lane.origins = first.lanes.map Lane.origins := by
  induction reaches with
  | refl => rfl
  | tail _ next ih =>
    rw [← ih]
    cases next with
    | lane step => simp only [List.map_append, List.map_cons, step.origins]
    | tick => rfl

theorem Reaches.entries {a : Agent σ} {first last : Stage σ} (reaches : Reaches a first last) :
    (last.lanes.flatMap Lane.entries).map Entry.origin =
      (first.lanes.flatMap Lane.entries).map Entry.origin := by
  have same (lanes : List Lane) : (lanes.flatMap Lane.entries).map Entry.origin =
      (lanes.map Lane.origins).flatMap Prod.snd := by
    simp [List.map_flatMap, List.flatMap_map, Lane.origins]
  rw [same, same, reaches.origins]

theorem Reaches.map_entries {β : Type} {a : Agent σ} {first last : Stage σ}
    (reaches : Reaches a first last) (f : Entry → β) (of_origin : ∀ e, f e.origin = f e) :
    (last.lanes.flatMap Lane.entries).map f = (first.lanes.flatMap Lane.entries).map f := by
  have through : f ∘ Entry.origin = f := funext of_origin
  have same := congrArg (List.map f) reaches.entries
  rwa [List.map_map, List.map_map, through] at same

theorem Reaches.forall_entries {a : Agent σ} {P : Entry → Prop} {first last : Stage σ}
    (reaches : Reaches a first last) (of_origin : ∀ e, P e.origin ↔ P e)
    (start : ∀ e ∈ first.lanes.flatMap Lane.entries, P e) :
    ∀ e ∈ last.lanes.flatMap Lane.entries, P e := by
  intro e member
  have there := List.mem_map_of_mem (f := Entry.origin) member
  rw [reaches.entries] at there
  obtain ⟨x, listed, same⟩ := List.mem_map.mp there
  rw [← of_origin, ← same, of_origin]
  exact start x listed

end Stage

theorem lanesOf_entries (entries : List (Endpoint × Entry)) :
    ((lanesOf entries).flatMap Lane.entries).Perm (entries.map (·.2)) := by
  have distinct : (sortBy Endpoint.before (entries.map (·.1)).eraseDups).Nodup :=
    (nodup_eraseDups _).perm (sortBy_perm _ _).symm
  have covered : ∀ x ∈ entries, x.1 ∈ sortBy Endpoint.before (entries.map (·.1)).eraseDups :=
    fun x member => mem_sortBy.mpr (List.mem_eraseDups.mpr (List.mem_map_of_mem member))
  have parted := flatMap_filter_perm Prod.fst distinct covered
  have same : (lanesOf entries).flatMap Lane.entries =
      ((sortBy Endpoint.before (entries.map (·.1)).eraseDups).flatMap fun c =>
        entries.filter fun x => x.1 == c).map (·.2) := by
    simp [lanesOf, List.map_flatMap, List.flatMap_map]
  rw [same]
  exact parted.map _

theorem lanesOf_single {entries : List (Endpoint × Entry)}
    (distinct : (entries.map (·.1)).Nodup) :
    ∀ lane ∈ lanesOf entries, ∃ x ∈ entries, lane = ⟨x.1, [], .idle, [x.2]⟩ := by
  intro lane member
  obtain ⟨c, key, rfl⟩ := List.mem_map.mp member
  obtain ⟨x, listed, rfl⟩ := List.mem_map.mp (List.mem_eraseDups.mp (mem_sortBy.mp key))
  refine ⟨x, listed, ?_⟩
  have mine : x ∈ entries.filter (·.1 == x.1) := List.mem_filter.mpr ⟨listed, by simp⟩
  have alone : ((entries.filter (·.1 == x.1)).map (·.1)).Nodup :=
    distinct.sublist (List.filter_sublist.map _)
  have same : ∀ y ∈ entries.filter (·.1 == x.1), y.1 = x.1 :=
    fun y member => eq_of_beq (List.mem_filter.mp member).2
  have only : ∀ y ∈ entries.filter (·.1 == x.1), y = x :=
    fun y member => List.inj_on_of_nodup_map alone member mine (same y member)
  have one : (entries.filter (·.1 == x.1)).Perm [x] := by
    refine (List.perm_ext_iff_of_nodup (List.Nodup.of_map _ alone) (List.nodup_singleton x)).mpr
      fun y => ?_
    rw [List.mem_singleton]
    exact ⟨only y, fun eq => eq ▸ mine⟩
  rw [List.perm_singleton.mp one]
  rfl

theorem lanesOf_orderly {entries : List (Endpoint × Entry)}
    (unbound : ∀ x ∈ entries, x.2.binding.phase = .unbound) :
    ∀ lane ∈ lanesOf entries, lane.Orderly := by
  intro lane member
  simp only [lanesOf, List.mem_map] at member
  obtain ⟨c, _, rfl⟩ := member
  refine ⟨fun e member => ?_, nofun⟩
  simp only [List.mem_map, List.mem_filter] at member
  obtain ⟨x, ⟨member, _⟩, rfl⟩ := member
  exact unbound x member

theorem startLanes_reaches (a : Agent σ) {entries : List (Endpoint × Entry)}
    (unbound : ∀ x ∈ entries, x.2.binding.phase = .unbound) (sh : Shared σ) :
    Stage.Reaches a ⟨0, lanesOf entries, sh⟩ ⟨(startLanes a (lanesOf entries) sh).time,
      (startLanes a (lanesOf entries) sh).lanes, (startLanes a (lanesOf entries) sh).shared⟩ :=
  runLanes_reaches a _ 0 _ sh (lanesOf_orderly unbound)

def orderedEntries (lanes : List Lane) : List Entry :=
  sortBy (fun e f => decide (e.place < f.place)) (lanes.flatMap Lane.entries)

theorem bindingsOf_eq (lanes : List Lane) :
    bindingsOf lanes = (orderedEntries lanes).map (·.binding) := rfl

theorem orderedEntries_perm (lanes : List Lane) :
    (orderedEntries lanes).Perm (lanes.flatMap Lane.entries) := sortBy_perm _ _

theorem orderedEntries_origin {a : Agent σ} {entries : List (Endpoint × Entry)} {sh : Shared σ}
    {last : Stage σ} (unbound : ∀ x ∈ entries, x.2.binding.phase = .unbound)
    (increasing : entries.Pairwise (·.2.place < ·.2.place))
    (reaches : Stage.Reaches a ⟨0, lanesOf entries, sh⟩ last) :
    (orderedEntries last.lanes).map Entry.origin = entries.map (·.2) := by
  have mapped : (orderedEntries last.lanes).map Entry.origin =
      sortBy (fun e f => decide (e.place < f.place))
        ((last.lanes.flatMap Lane.entries).map Entry.origin) := by
    refine map_sortBy Entry.origin ?_ (last.lanes.flatMap Lane.entries)
    exact fun e f => rfl
  have untouched : (entries.map (·.2)).map Entry.origin = entries.map (·.2) := by
    rw [List.map_map]
    exact List.map_congr_left fun x member => Entry.origin_unbound (unbound x member)
  rw [mapped, reaches.entries]
  refine sortBy_eq_of_perm Entry.place ?_ (List.pairwise_map.mpr increasing)
  have perm := (lanesOf_entries entries).map Entry.origin
  rwa [untouched] at perm

theorem entriesOf_unbound (timeout : Duration) (controller : Endpoint) (t : Topology) :
    ∀ x ∈ entriesOf timeout controller t, x.2.binding.phase = .unbound := by
  intro x member
  unfold entriesOf at member
  obtain ⟨i, _, rfl⟩ := List.mem_mapIdx.mp member
  rfl

theorem entriesOf_map {β : Type} {timeout : Duration} {controller : Endpoint}
    (f : Endpoint × Entry → β) (g : Node → SwitchSpec → β)
    (same : ∀ place n spec, f (entryOf timeout controller place n spec) = g n spec)
    (t : Topology) :
    (entriesOf timeout controller t).map f = t.nodes.filterMap fun n => n.spec?.map (g n) := by
  have pairs : (t.nodes.filterMap fun n => n.spec?.map (g n)) =
      (t.nodes.filterMap fun n => n.spec?.map (Prod.mk n)).map fun x => g x.1 x.2 := by
    simp [List.map_filterMap, Function.comp_def]
  rw [pairs, entriesOf]
  apply List.ext_getElem
  · simp
  · simp [same]

theorem forall_entriesOf {timeout : Duration} {controller : Endpoint} {t : Topology}
    {P : Endpoint × Entry → Prop} {Q : Node → SwitchSpec → Prop}
    (same : ∀ place n spec, P (entryOf timeout controller place n spec) ↔ Q n spec) :
    (∀ x ∈ entriesOf timeout controller t, P x) ↔
      ∀ n ∈ t.nodes, ∀ spec, n.spec? = some spec → Q n spec := by
  have mapped := entriesOf_map P Q (fun place n spec => propext (same place n spec)) t
  rw [← List.forall_mem_map (P := fun q : Prop => q), mapped]
  simp only [List.mem_filterMap, Option.map_eq_some_iff]
  constructor
  · intro all n member spec found
    exact all _ ⟨n, member, spec, found, rfl⟩
  · rintro all q ⟨n, member, spec, found, rfl⟩
    exact all n member spec found

theorem entriesOf_increasing (timeout : Duration) (controller : Endpoint) (t : Topology) :
    (entriesOf timeout controller t).Pairwise (·.2.place < ·.2.place) := by
  rw [List.pairwise_iff_getElem]
  intro i j hi hj less
  simpa [entriesOf, entryOf] using less

end Testbed.Session
