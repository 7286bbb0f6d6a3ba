import Mathlib.Data.List.Perm.Basic
import Testbed.Proofs.Startup.Clock
import Testbed.Proofs.Startup.Phases

namespace Testbed

namespace PortRegistry

variable {r q : PortRegistry} {switch : String} {e : Endpoint}

theorem reserve_ok (h : r.reserve switch e = .ok q) :
    q.held = r.held ++ [(e.port, switch)] ∧ e.port ∉ r.held.map Prod.fst ∨
      (e.port, switch) ∈ r.held := by
  unfold reserve at h
  split at h
  next free =>
    cases h
    refine Or.inl ⟨rfl, fun member => ?_⟩
    obtain ⟨x, listed, same⟩ := List.mem_map.mp member
    have none_held : r.held.find? (·.1 == e.port) = none := by
      simpa [holder?] using free
    exact List.find?_eq_none.mp none_held x listed (by simp [same])
  next holder taken =>
    split at h
    next same =>
      obtain ⟨x, found, named⟩ := Option.map_eq_some_iff.mp taken
      have port : x.1 = e.port := by simpa using List.find?_some found
      refine Or.inr ?_
      rw [← port, ← same, ← named]
      exact List.mem_of_find?_eq_some found
    next => cases h

theorem reserve_error {cause : Error} (h : r.reserve switch e = .error cause) :
    e.port ∈ r.held.map Prod.fst := by
  unfold reserve at h
  split at h
  next => cases h
  next holder taken =>
    obtain ⟨x, found, _⟩ := Option.map_eq_some_iff.mp taken
    exact List.mem_map.mpr
      ⟨x, List.mem_of_find?_eq_some found, by simpa using List.find?_some found⟩

end PortRegistry

namespace Session

variable {σ : Type}

namespace Lane

/-- The switches whose start was begun, as they were before it. In a lane that has failed the last
of them may have failed before its launch. -/
def begun (lane : Lane) : List Entry :=
  match lane.progress with
  | .waiting e _ => (lane.past ++ [e]).map Entry.origin
  | _ => lane.past.map Entry.origin

def Calm (lane : Lane) : Prop := ∀ cause, lane.progress ≠ .failed cause

theorem entries_origin (lane : Lane) :
    lane.entries.map Entry.origin = lane.begun ++ lane.todo.map Entry.origin := by
  obtain ⟨c, past, progress, todo⟩ := lane
  cases progress <;> simp [entries, begun]

theorem Step.calm {a : Agent σ} {now : Nat} {first last : Lane × Shared σ}
    (step : Step a now first last) : first.1.Calm := by
  cases step <;> exact nofun

theorem Step.calm_cases {a : Agent σ} {now : Nat} {lane lane' : Lane} {sh sh' : Shared σ}
    (step : Step a now (lane, sh) (lane', sh')) (calm : lane'.Calm) :
    (∃ e t, lane.todo = e :: lane'.todo ∧ lane'.begun = lane.begun ++ [e] ∧
      sh.registry.reserve e.binding.switch e.dataPlane = .ok sh'.registry ∧
      a.checkEndpoint e.dataPlane sh.world = (.ok (), t) ∧
      a.launch (e.launch lane.controller) t = (.ok (), sh'.world)) ∨
    ∃ e w answer, lane.progress = .waiting e w ∧ lane'.begun = lane.begun ∧
      sh'.registry = sh.registry ∧ a.poll w.launch w.round sh.world = (answer, sh'.world) := by
  cases step with
  | refused | occupied | unlaunched | unready | expired => exact absurd rfl (calm _)
  | launched unbound reserved checked launch =>
    refine Or.inl ⟨_, _, rfl, ?_, reserved, checked, launch⟩
    simp [begun, Entry.origin_unbound unbound]
  | ready _ polled => exact Or.inr ⟨_, _, _, rfl, by simp [begun], rfl, polled⟩
  | unsettled _ polled => exact Or.inr ⟨_, _, _, rfl, rfl, rfl, polled⟩

end Lane

theorem lanesOf_calm (entries : List (Endpoint × Entry)) :
    ∀ lane ∈ lanesOf entries, lane.Calm := by
  intro lane member
  obtain ⟨c, _, rfl⟩ := List.mem_map.mp member
  exact nofun

def begunOf (lanes : List Lane) : List Entry := lanes.flatMap Lane.begun

theorem entries_perm (lanes : List Lane) :
    ((lanes.flatMap Lane.entries).map Entry.origin).Perm
      (begunOf lanes ++ (lanes.flatMap Lane.todo).map Entry.origin) := by
  simp only [List.map_flatMap, Lane.entries_origin]
  exact (List.flatMap_append_perm lanes Lane.begun fun lane => lane.todo.map Entry.origin).symm

theorem begunOf_replace (before after : List Lane) {lane lane' : Lane} {e : Entry}
    (begun : lane'.begun = lane.begun ++ [e]) :
    (begunOf (before ++ lane' :: after)).Perm (begunOf (before ++ lane :: after) ++ [e]) := by
  simp only [begunOf, List.flatMap_append, List.flatMap_cons, begun, List.append_assoc]
  exact ((List.perm_append_comm.append_left _).append_left _)

theorem begunOf_same (before after : List Lane) {lane lane' : Lane}
    (begun : lane'.begun = lane.begun) :
    begunOf (before ++ lane' :: after) = begunOf (before ++ lane :: after) := by
  simp only [begunOf, List.flatMap_append, List.flatMap_cons, begun]

structure Distinct (lanes : List Lane) : Prop where
  switches : ((lanes.flatMap Lane.entries).map (·.binding.switch)).Nodup
  controllers : (lanes.map Lane.controller).Nodup

theorem begun_ne {β : Type} {f : Entry → β} (same : ∀ e, f e.origin = f e) {lanes : List Lane}
    (apart : ((lanes.flatMap Lane.entries).map f).Nodup) {lane : Lane} {e : Entry}
    (member : lane ∈ lanes) (todo : e ∈ lane.todo) : ∀ x ∈ begunOf lanes, f x ≠ f e := by
  have of_origin : f ∘ Entry.origin = f := funext same
  have parted := ((entries_perm lanes).map f).nodup_iff.mp
    (by rw [List.map_map, of_origin]; exact apart)
  rw [List.map_append, List.map_map, of_origin] at parted
  intro x begun eq
  have later : f e ∈ (lanes.flatMap Lane.todo).map f :=
    List.mem_map_of_mem (List.mem_flatMap.mpr ⟨lane, member, todo⟩)
  exact List.disjoint_of_nodup_append parted (List.mem_map_of_mem begun) (eq ▸ later)

theorem Distinct.fresh {lanes : List Lane} (distinct : Distinct lanes) {lane : Lane} {e : Entry}
    (member : lane ∈ lanes) (todo : e ∈ lane.todo) :
    ∀ x ∈ begunOf lanes, x.binding.switch ≠ e.binding.switch :=
  begun_ne (f := fun e => e.binding.switch) (fun _ => rfl) distinct.switches member todo

def Entry.claim (e : Entry) : UInt16 × String := (e.dataPlane.port, e.binding.switch)

/-- The registry holds the ports of the switches that were begun, and each only once. -/
structure Held (lanes : List Lane) (r : PortRegistry) : Prop where
  claims : r.held.Perm ((begunOf lanes).map Entry.claim)
  once : ((begunOf lanes).map (·.dataPlane.port)).Nodup

theorem Held.ports {lanes : List Lane} {r : PortRegistry} (held : Held lanes r) :
    (r.held.map Prod.fst).Perm ((begunOf lanes).map (·.dataPlane.port)) := by
  have ports := held.claims.map Prod.fst
  rwa [List.map_map] at ports

theorem Held.step {a : Agent σ} {now : Nat} {before after : List Lane} {lane lane' : Lane}
    {sh sh' : Shared σ} (step : Lane.Step a now (lane, sh) (lane', sh')) (calm : lane'.Calm)
    (distinct : Distinct (before ++ lane :: after))
    (held : Held (before ++ lane :: after) sh.registry) :
    Held (before ++ lane' :: after) sh'.registry := by
  rcases step.calm_cases calm with
    ⟨e, t, next, begun, reserved, _⟩ | ⟨e, w, answer, _, begun, same, _⟩
  · have grown := begunOf_replace before after begun
    rcases PortRegistry.reserve_ok reserved with ⟨longer, free⟩ | mine
    · refine ⟨?_, ?_⟩
      · rw [longer]
        refine (held.claims.append_right _).trans ?_
        have claims := grown.map Entry.claim
        rw [List.map_append] at claims
        exact claims.symm
      · have ports := grown.map fun e : Entry => e.dataPlane.port
        rw [List.map_append] at ports
        refine ports.nodup_iff.mpr ?_
        rw [List.map_singleton, ← List.concat_eq_append]
        exact held.once.concat fun member => free (held.ports.mem_iff.mpr member)
    · obtain ⟨x, listed, same⟩ := List.mem_map.mp (held.claims.mem_iff.mp mine)
      have fresh := distinct.fresh (e := e) (List.mem_append_right _ (List.mem_cons_self ..))
        (by rw [next]; exact List.mem_cons_self ..)
      exact absurd (congrArg Prod.snd same) (fresh x listed)
  · rw [same]
    exact ⟨begunOf_same before after begun ▸ held.claims,
      begunOf_same before after begun ▸ held.once⟩

theorem Stage.Reaches.distinct {a : Agent σ} {first last : Stage σ}
    (reaches : Stage.Reaches a first last) (distinct : Distinct first.lanes) :
    Distinct last.lanes := by
  have switches := reaches.map_entries (fun e => e.binding.switch) fun _ => rfl
  have controllers := congrArg (List.map Prod.fst) reaches.origins
  simp only [List.map_map] at controllers
  exact ⟨switches ▸ distinct.switches, controllers ▸ distinct.controllers⟩

theorem Stage.Reaches.calm_induction {a : Agent σ} {Q : List Lane → Shared σ → Prop}
    {first last : Stage σ} (reaches : Stage.Reaches a first last)
    (distinct : Distinct first.lanes)
    (step : ∀ {now before after lane lane' sh sh'},
      Lane.Step a now (lane, sh) (lane', sh') → lane'.Calm → Distinct (before ++ lane :: after) →
      Q (before ++ lane :: after) sh → Q (before ++ lane' :: after) sh')
    (start : Q first.lanes first.shared) (calm : ∀ lane ∈ last.lanes, lane.Calm) :
    Q last.lanes last.shared := by
  induction reaches with
  | refl => exact start
  | tail path next ih =>
    cases next with
    | tick => exact ih calm
    | @lane now before lane lane' after sh sh' taken =>
      -- no lane had failed before the step either, for one that has takes no step
      have earlier := Stage.forall_replace calm taken.calm
      have here : lane'.Calm := calm lane' (by simp)
      exact step taken here (Stage.Reaches.distinct path distinct) (ih earlier)

end Testbed.Session
