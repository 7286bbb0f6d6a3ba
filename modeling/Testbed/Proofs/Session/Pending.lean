import Mathlib.Data.List.Induction
import Mathlib.Data.List.Perm.Subperm
import Testbed.Proofs.Session.Calls
import Testbed.Proofs.Startup.Started

namespace Testbed.Session

variable {σ : Type}

def Call.pending (before : List Launch) : Call → List Launch
  | .launch l (.ok _) => before.filter (·.switch != l.switch) ++ [l]
  | .poll l _ (.settled _) => before.filter (·.switch != l.switch)
  | .shutdown switch _ => before.filter (·.switch != switch)
  | _ => before

def pendingAfter (calls : List Call) : List Launch := calls.foldl Call.pending []

/-- Something is so of the launches that are pending at every instant. -/
def AtAllTimes (P : List Launch → Prop) (calls : List Call) : Prop :=
  ∀ before, before <+: calls → P (pendingAfter before)

theorem pendingAfter_snoc (calls : List Call) (call : Call) :
    pendingAfter (calls ++ [call]) = call.pending (pendingAfter calls) := by
  rw [pendingAfter, List.foldl_append]
  rfl

theorem Call.pending_sublist {call : Call} (quiet : call.launch? = none) (before : List Launch) :
    (call.pending before).Sublist before := by
  cases call with
  | launch l result => cases quiet
  | poll l round answer =>
    cases answer with
    | settled result => exact List.filter_sublist
    | again after => exact List.Sublist.refl _
    | never => exact List.Sublist.refl _
  | shutdown switch result => exact List.filter_sublist
  | _ => exact List.Sublist.refl _

theorem nodup_pendingAfter (calls : List Call) :
    ((pendingAfter calls).map (·.switch)).Nodup := by
  induction calls using List.reverseRecOn with
  | nil => exact List.nodup_nil
  | append_singleton calls call ih =>
    rw [pendingAfter_snoc]
    cases launched : call.launch? with
    | none => exact ih.sublist ((Call.pending_sublist launched _).map _)
    | some l =>
      cases call with
      | launch l' result =>
        cases result with
        | error cause => exact ih
        | ok u =>
          rw [Call.pending, List.map_append, List.map_singleton, ← List.concat_eq_append]
          refine (ih.sublist (List.filter_sublist.map _)).concat fun taken => ?_
          obtain ⟨other, listed, same⟩ := List.mem_map.mp taken
          simpa [same] using (List.mem_filter.mp listed).2
      | _ => cases launched

namespace AtAllTimes

variable {P : List Launch → Prop} {calls : List Call}

theorem now (always : AtAllTimes P calls) : P (pendingAfter calls) :=
  always calls (List.prefix_refl calls)

theorem nil_iff : AtAllTimes P [] ↔ P [] := by
  constructor
  · intro always
    exact always.now
  · intro here before begins
    rw [List.prefix_nil.mp begins]
    exact here

theorem snoc_iff (call : Call) :
    AtAllTimes P (calls ++ [call]) ↔ AtAllTimes P calls ∧ P (pendingAfter (calls ++ [call])) := by
  constructor
  · intro always
    refine ⟨fun before begins => always before ?_, always.now⟩
    exact begins.trans (List.prefix_append calls [call])
  · rintro ⟨always, here⟩ before begins
    rcases List.prefix_concat_iff.mp begins with rfl | begins
    · exact here
    · exact always before begins

theorem snoc_same {call : Call} (silent : call.pending (pendingAfter calls) = pendingAfter calls) :
    AtAllTimes P (calls ++ [call]) ↔ AtAllTimes P calls := by
  rw [snoc_iff, pendingAfter_snoc, silent]
  exact ⟨And.left, fun always => ⟨always, always.now⟩⟩

theorem snoc_quiet (fewer : ∀ S T : List Launch, T.Sublist S → P S → P T) {call : Call}
    (quiet : call.launch? = none) : AtAllTimes P (calls ++ [call]) ↔ AtAllTimes P calls := by
  rw [snoc_iff]
  constructor
  · exact And.left
  · intro always
    refine ⟨always, fewer _ _ ?_ always.now⟩
    rw [pendingAfter_snoc]
    exact Call.pending_sublist quiet _

end AtAllTimes

/-- At some instant that many launches are pending. -/
def AtOnce (n : Nat) (calls : List Call) : Prop :=
  ∃ before, before <+: calls ∧ n ≤ (pendingAfter before).length

theorem AtOnce.longer {n : Nat} {calls : List Call} (once : AtOnce n calls) (more : List Call) :
    AtOnce n (calls ++ more) := by
  obtain ⟨before, begins, all⟩ := once
  exact ⟨before, begins.trans (List.prefix_append calls more), all⟩

theorem Lane.mem_around {before after : List Lane} {lane x : Lane} :
    x ∈ before ++ lane :: after ↔ x = lane ∨ x ∈ before ++ after :=
  List.perm_middle.mem_iff.trans List.mem_cons

theorem Lane.mem_entries {lane : Lane} {e : Entry} {w : Wait}
    (waits : lane.progress = .waiting e w) : e ∈ lane.entries := by
  simp [Lane.entries, waits]

theorem Lane.Phases.told {lane : Lane} (phases : lane.Phases) {e : Entry} {w : Wait}
    (waits : lane.progress = .waiting e w) :
    w.launch.switch = e.binding.switch ∧ w.launch.controller = lane.controller := by
  rw [(phases.waiting e w waits).2]
  exact ⟨rfl, rfl⟩

theorem Distinct.other {before after : List Lane} {lane x : Lane}
    (distinct : Distinct (before ++ lane :: after)) (other : x ∈ before ++ after) :
    x.controller ≠ lane.controller ∧
      ∀ e ∈ lane.entries, ∀ f ∈ x.entries, f.binding.switch ≠ e.binding.switch := by
  have middle : (before ++ lane :: after).Perm (lane :: (before ++ after)) := List.perm_middle
  constructor
  · have apart := (middle.map Lane.controller).nodup_iff.mp distinct.controllers
    rw [List.map_cons, List.nodup_cons] at apart
    intro same
    exact apart.1 (same ▸ List.mem_map_of_mem other)
  · have apart := ((middle.flatMap_right Lane.entries).map (·.binding.switch)).nodup_iff.mp
      distinct.switches
    rw [List.flatMap_cons, List.map_append] at apart
    intro e mine f its same
    have there : f ∈ (before ++ after).flatMap Lane.entries := List.mem_flatMap.mpr ⟨x, other, its⟩
    exact List.disjoint_of_nodup_append apart (List.mem_map_of_mem mine)
      (same ▸ List.mem_map_of_mem (f := fun f : Entry => f.binding.switch) there)

/-- No two pending launches are for the same controller. Each belongs to a lane that has begun
with a switch and is not done with it, and every switch that is waited for is among them. -/
structure UnderWay (lanes : List Lane) (pending : List Launch) : Prop where
  apart : (pending.map (·.controller)).Nodup
  known : ∀ l ∈ pending, ∃ lane ∈ lanes, lane.controller = l.controller ∧ lane.progress ≠ .idle
  waiting : ∀ lane ∈ lanes, ∀ e w, lane.progress = .waiting e w → w.launch ∈ pending

namespace UnderWay

variable {before after : List Lane} {lane lane' : Lane} {pending : List Launch}

theorem length_le {lanes : List Lane} (under : UnderWay lanes pending) :
    pending.length ≤ lanes.length := by
  have listed : pending.map (·.controller) ⊆ lanes.map Lane.controller := by
    intro c member
    obtain ⟨l, here, rfl⟩ := List.mem_map.mp member
    obtain ⟨lane, there, same, _⟩ := under.known l here
    exact same ▸ List.mem_map_of_mem there
  simpa using (List.subperm_of_subset under.apart listed).length_le

theorem length_ge {lanes : List Lane} (controllers : (lanes.map Lane.controller).Nodup)
    (phases : ∀ lane ∈ lanes, lane.Phases) (under : UnderWay lanes pending)
    (wait : ∀ lane ∈ lanes, ∃ e w, lane.progress = .waiting e w) :
    lanes.length ≤ pending.length := by
  have listed : lanes.map Lane.controller ⊆ pending.map (·.controller) := by
    intro c member
    obtain ⟨lane, here, rfl⟩ := List.mem_map.mp member
    obtain ⟨e, w, waits⟩ := wait lane here
    exact ((phases lane here).told waits).2 ▸
      List.mem_map_of_mem (under.waiting lane here e w waits)
  simpa using (List.subperm_of_subset controllers listed).length_le

theorem same (under : UnderWay (before ++ lane :: after) pending)
    (controller : lane'.controller = lane.controller)
    (busy : lane.progress ≠ .idle → lane'.progress ≠ .idle)
    (waits : ∀ e w, lane'.progress = .waiting e w → w.launch ∈ pending) :
    UnderWay (before ++ lane' :: after) pending where
  apart := under.apart
  known l member := by
    obtain ⟨x, there, its, active⟩ := under.known l member
    rcases Lane.mem_around.mp there with rfl | other
    · exact ⟨lane', Lane.mem_around.mpr (Or.inl rfl), controller.trans its, busy active⟩
    · exact ⟨x, Lane.mem_around.mpr (Or.inr other), its, active⟩
  waiting :=
    Stage.forall_replace (P := fun x => ∀ e w, x.progress = .waiting e w → w.launch ∈ pending)
      under.waiting waits

theorem fail (under : UnderWay (before ++ lane :: after) pending) {cause : Error}
    (controller : lane'.controller = lane.controller) (failed : lane'.progress = .failed cause) :
    UnderWay (before ++ lane' :: after) pending := by
  apply under.same controller
  · intro _ idle
    cases failed.symm.trans idle
  · intro e w waits
    cases failed.symm.trans waits

theorem keep (under : UnderWay (before ++ lane :: after) pending)
    (distinct : Distinct (before ++ lane :: after))
    (phases : ∀ x ∈ before ++ lane :: after, x.Phases) {e : Entry} (mine : e ∈ lane.entries)
    {x : Lane} (other : x ∈ before ++ after) :
    ∀ f w, x.progress = .waiting f w →
      w.launch ∈ pending.filter (·.switch != e.binding.switch) := by
  intro f w waits
  have there : x ∈ before ++ lane :: after := Lane.mem_around.mpr (Or.inr other)
  have named := ((phases x there).told waits).1
  have unlike := (distinct.other other).2 e mine f (Lane.mem_entries waits)
  rw [List.mem_filter]
  exact ⟨under.waiting x there f w waits, by simpa [named] using unlike⟩

theorem launch (under : UnderWay (before ++ lane :: after) pending)
    (distinct : Distinct (before ++ lane :: after))
    (phases : ∀ x ∈ before ++ lane :: after, x.Phases) (idle : lane.progress = .idle) {e e' : Entry}
    {w : Wait} (next : e ∈ lane.todo) (controller : lane'.controller = lane.controller)
    (waits : lane'.progress = .waiting e' w) (launched : w.launch = e.launch lane.controller) :
    UnderWay (before ++ lane' :: after)
      (pending.filter (·.switch != e.binding.switch) ++ [e.launch lane.controller]) := by
  have mine : e ∈ lane.entries := by simp [Lane.entries, idle, next]
  have elsewhere : ∀ l ∈ pending, ∃ x ∈ before ++ after,
      x.controller = l.controller ∧ x.progress ≠ .idle := by
    intro l member
    obtain ⟨x, there, its, active⟩ := under.known l member
    rcases Lane.mem_around.mp there with rfl | other
    · exact absurd idle active
    · exact ⟨x, other, its, active⟩
  refine ⟨?_, fun l member => ?_, fun x there f v waiting => ?_⟩
  · rw [List.map_append, List.map_singleton, ← List.concat_eq_append]
    refine (under.apart.sublist (List.filter_sublist.map _)).concat fun taken => ?_
    obtain ⟨l, listed, same⟩ := List.mem_map.mp taken
    obtain ⟨x, other, owns, _⟩ := elsewhere l (List.mem_of_mem_filter listed)
    exact (distinct.other other).1 (owns.trans same)
  · rcases List.mem_append.mp member with member | member
    · obtain ⟨x, other, owns, active⟩ := elsewhere l (List.mem_of_mem_filter member)
      exact ⟨x, Lane.mem_around.mpr (Or.inr other), owns, active⟩
    · rw [List.mem_singleton.mp member]
      exact ⟨lane', by simp, controller, by simp [waits]⟩
  · rcases Lane.mem_around.mp there with rfl | other
    · rw [waits] at waiting
      cases waiting
      simp [launched]
    · exact List.mem_append_left _ (under.keep distinct phases mine other f v waiting)

theorem settle (under : UnderWay (before ++ lane :: after) pending)
    (distinct : Distinct (before ++ lane :: after))
    (phases : ∀ x ∈ before ++ lane :: after, x.Phases) {e : Entry} {w : Wait}
    (waited : lane.progress = .waiting e w) (ended : ∀ f v, lane'.progress ≠ .waiting f v) :
    UnderWay (before ++ lane' :: after) (pending.filter (·.switch != w.launch.switch)) := by
  have here : lane ∈ before ++ lane :: after := by simp
  obtain ⟨named, launched⟩ := (phases lane here).told waited
  refine ⟨under.apart.sublist (List.filter_sublist.map _), fun l member => ?_,
    fun x there f v waiting => ?_⟩
  · obtain ⟨listed, spared⟩ := List.mem_filter.mp member
    obtain ⟨x, there, owns, active⟩ := under.known l listed
    rcases Lane.mem_around.mp there with rfl | other
    · -- of this lane only the launch that was waited for is pending, and that one goes
      have same : l.controller = w.launch.controller := owns.symm.trans launched.symm
      have only :=
        List.inj_on_of_nodup_map under.apart listed (under.waiting x here e w waited) same
      simp [only] at spared
    · exact ⟨x, Lane.mem_around.mpr (Or.inr other), owns, active⟩
  · rcases Lane.mem_around.mp there with rfl | other
    · exact absurd waiting (ended f v)
    · rw [named]
      exact under.keep distinct phases (Lane.mem_entries waited) other f v waiting

variable {a : Agent σ} {now : Nat} {sh sh' : Shared (Journaled σ)}

theorem step (step : Lane.Step (Journaled.agent a) now (lane, sh) (lane', sh'))
    (distinct : Distinct (before ++ lane :: after))
    (phases : ∀ x ∈ before ++ lane :: after, x.Phases)
    (under : UnderWay (before ++ lane :: after) (pendingAfter sh.world.calls)) :
    UnderWay (before ++ lane' :: after) (pendingAfter sh'.world.calls) := by
  have here : lane ∈ before ++ lane :: after := by simp
  cases step with
  | refused => exact under.fail rfl rfl
  | occupied _ _ checked =>
    rw [(checkEndpoint_calls checked).1, pendingAfter_snoc]
    exact under.fail rfl rfl
  | unlaunched _ _ checked launched =>
    rw [(launch_calls launched).1, (checkEndpoint_calls checked).1, pendingAfter_snoc,
      pendingAfter_snoc]
    exact under.fail rfl rfl
  | launched _ _ checked launched =>
    rw [(launch_calls launched).1, (checkEndpoint_calls checked).1, pendingAfter_snoc,
      pendingAfter_snoc]
    exact under.launch distinct phases rfl (List.mem_cons_self ..) rfl rfl rfl
  | ready _ polled =>
    rw [(poll_calls polled).1, pendingAfter_snoc]
    exact under.settle distinct phases rfl fun f v waits => by cases waits
  | unready _ polled =>
    rw [(poll_calls polled).1, pendingAfter_snoc]
    exact under.settle distinct phases rfl fun f v waits => by cases waits
  | @unsettled _ _ e w w' _ _ s _ answer _ polled again =>
    have silent : Call.pending (pendingAfter s.calls) (.poll w.launch w.round answer) =
        pendingAfter s.calls := by
      cases answer with
      | settled result => cases again
      | again after => rfl
      | never => rfl
    rw [(poll_calls polled).1, pendingAfter_snoc, silent]
    refine under.same rfl ?_ ?_
    · intro _ idle
      cases idle
    · intro f v waits
      cases waits
      rw [Wait.launch_after again]
      exact under.waiting _ here e w rfl
  | expired => exact under.fail rfl rfl

end UnderWay

theorem Lane.Step.atAllTimes {a : Agent σ} {P : List Launch → Prop} {now : Nat} {lane lane' : Lane}
    {sh sh' : Shared (Journaled σ)}
    (step : Lane.Step (Journaled.agent a) now (lane, sh) (lane', sh'))
    (always : AtAllTimes P sh.world.calls) (here : P (pendingAfter sh'.world.calls)) :
    AtAllTimes P sh'.world.calls := by
  cases step with
  | refused => exact always
  | occupied _ _ check =>
    rw [(checkEndpoint_calls check).1]
    exact (AtAllTimes.snoc_same rfl).mpr always
  | unlaunched _ _ check launch =>
    rw [(launch_calls launch).1, (checkEndpoint_calls check).1] at here ⊢
    exact (AtAllTimes.snoc_iff _).mpr ⟨(AtAllTimes.snoc_same rfl).mpr always, here⟩
  | launched _ _ check launch =>
    rw [(launch_calls launch).1, (checkEndpoint_calls check).1] at here ⊢
    exact (AtAllTimes.snoc_iff _).mpr ⟨(AtAllTimes.snoc_same rfl).mpr always, here⟩
  | ready _ polled =>
    rw [(poll_calls polled).1] at here ⊢
    exact (AtAllTimes.snoc_iff _).mpr ⟨always, here⟩
  | unready _ polled =>
    rw [(poll_calls polled).1] at here ⊢
    exact (AtAllTimes.snoc_iff _).mpr ⟨always, here⟩
  | unsettled _ polled =>
    rw [(poll_calls polled).1] at here ⊢
    exact (AtAllTimes.snoc_iff _).mpr ⟨always, here⟩
  | expired => exact always

/-- Pending at one instant: for every controller one launch at most, and `n` launches at most. -/
def Spread (n : Nat) (pending : List Launch) : Prop :=
  (pending.map (·.controller)).Nodup ∧ pending.length ≤ n

theorem Spread.fewer {n : Nat} (S T : List Launch) (less : T.Sublist S) (spread : Spread n S) :
    Spread n T :=
  ⟨spread.1.sublist (less.map _), Nat.le_trans less.length_le spread.2⟩

theorem Stage.Reaches.lanes_length {a : Agent σ} {first last : Stage σ}
    (reaches : Stage.Reaches a first last) : last.lanes.length = first.lanes.length := by
  have same := congrArg List.length reaches.origins
  rwa [List.length_map, List.length_map] at same

theorem Stage.Reaches.spread {a : Agent σ} {first last : Stage (Journaled σ)}
    (reaches : Stage.Reaches (Journaled.agent a) first last) (distinct : Distinct first.lanes)
    (phases : ∀ lane ∈ first.lanes, lane.Phases)
    (under : UnderWay first.lanes (pendingAfter first.shared.world.calls))
    (spread : AtAllTimes (Spread first.lanes.length) first.shared.world.calls) :
    UnderWay last.lanes (pendingAfter last.shared.world.calls) ∧
      AtAllTimes (Spread first.lanes.length) last.shared.world.calls := by
  induction reaches with
  | refl => exact ⟨under, spread⟩
  | tail path next ih =>
    obtain ⟨under, spread⟩ := ih
    have same := Stage.Reaches.lanes_length (path.tail next)
    cases next with
    | tick => exact ⟨under, spread⟩
    | lane taken =>
      have later := under.step taken (Stage.Reaches.distinct path distinct)
        (Stage.Reaches.phases path phases)
      exact ⟨later, taken.atAllTimes spread ⟨later.apart, same ▸ later.length_le⟩⟩

end Testbed.Session
