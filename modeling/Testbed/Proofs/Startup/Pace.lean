import Testbed.Proofs.Startup.Success

namespace Testbed.Session

variable {σ : Type} {a : Agent σ}

theorem runLanes_time (a : Agent σ) (n now : Nat) (lanes : List Lane) (sh : Shared σ)
    (orderly : ∀ lane ∈ lanes, lane.Orderly) :
    (runLanes a n now lanes sh).time = now ∨
      ∃ late, Stage.Reaches a ⟨now, lanes, sh⟩ late ∧ (runLanes a n now lanes sh).time = late.now ∧
        ∃ lane ∈ late.lanes, lane.RestsUntil late.now ∧ ∃ e w, lane.progress = .waiting e w := by
  induction n generalizing now lanes sh with
  | zero => exact Or.inl rfl
  | succ n ih =>
    have swept := sweep_reaches a now [] lanes sh orderly
    have orderly' := sweep_orderly a now [] lanes sh (by simp) orderly
    rw [runLanes]
    dsimp only
    split
    next => exact Or.inl rfl
    next unnoticed =>
      have rests := sweep_rests a now [] lanes sh (by simp) orderly unnoticed
      split
      next => exact Or.inl rfl
      next time next =>
        obtain ⟨later, rests, lane, member, waits⟩ := restsUntil_nextTime rests next
        have ticked := swept.tail (.tick later rests)
        rcases ih time _ _ orderly' with ends | ⟨late, reaches, ends, waiting⟩
        · exact Or.inr ⟨_, ticked, ends, lane, member, rests lane member, waits⟩
        · exact Or.inr ⟨late, ticked.trans reaches, ends, waiting⟩

theorem startLanes_time_le (a : Agent σ) {lanes : List Lane} (sh : Shared σ)
    (orderly : ∀ lane ∈ lanes, lane.Orderly) (onTime : ∀ lane ∈ lanes, lane.OnTime 0) {bound : Nat}
    (enough : ∀ lane ∈ lanes, ticksOf lane.entries ≤ bound) :
    (startLanes a lanes sh).time ≤ bound := by
  unfold startLanes
  rcases runLanes_time a (tickBound lanes) 0 lanes sh orderly
    with ends | ⟨late, reaches, ends, waits⟩
  · omega
  · obtain ⟨lane, member, _, e, w, waiting⟩ := waits
    have deadline := (reaches.onTime onTime lane member).waiting e w waiting
    have room := reaches.ticks_le enough lane member
    omega

theorem ticksOf_same {timeout : Duration} {es : List Entry}
    (same : ∀ e ∈ es, e.binding.startupTimeout = timeout) :
    ticksOf es = es.length * timeout.waitTicks := by
  induction es with
  | nil => simp [ticksOf]
  | cons e rest ih =>
    have others := ih fun x member => same x (List.mem_cons_of_mem _ member)
    rw [ticksOf, same e List.mem_cons_self, others, List.length_cons, Nat.succ_mul, Nat.add_comm]

def longest (lanes : List Lane) : Nat := (lanes.map (·.entries.length)).foldr max 0

theorem foldr_max_mul_le {sizes : List Nat} {k n : Nat} :
    sizes.foldr max 0 * k ≤ n ↔ ∀ size ∈ sizes, size * k ≤ n := by
  induction sizes with
  | nil => simp
  | cons size rest ih =>
    rw [List.foldr_cons, Nat.mul_comm, ← Nat.mul_max_mul_left, Nat.max_le, Nat.mul_comm,
      Nat.mul_comm k, ih, List.forall_mem_cons]

theorem longest_mul_le {lanes : List Lane} {k n : Nat} :
    longest lanes * k ≤ n ↔ ∀ lane ∈ lanes, lane.entries.length * k ≤ n := by
  rw [longest, foldr_max_mul_le, List.forall_mem_map]

theorem startLanes_time_le_longest (a : Agent σ) {entries : List (Endpoint × Entry)} (sh : Shared σ)
    (unbound : ∀ x ∈ entries, x.2.binding.phase = .unbound) {timeout : Duration}
    (same : ∀ x ∈ entries, x.2.binding.startupTimeout = timeout) :
    (startLanes a (lanesOf entries) sh).time ≤ longest (lanesOf entries) * timeout.waitTicks := by
  refine startLanes_time_le a sh (lanesOf_orderly unbound) (lanesOf_onTime entries) ?_
  intro lane member
  have bounded := longest_mul_le.mp (Nat.le_refl (longest (lanesOf entries) * timeout.waitTicks))
  have ticks : ticksOf lane.entries = lane.entries.length * timeout.waitTicks := by
    refine ticksOf_same fun e listed => ?_
    have there : e ∈ (lanesOf entries).flatMap Lane.entries :=
      List.mem_flatMap.mpr ⟨lane, member, listed⟩
    obtain ⟨x, its, rfl⟩ := List.mem_map.mp ((lanesOf_entries entries).mem_iff.mp there)
    exact same x its
  rw [ticks]
  exact bounded lane member

/-- The agent never answers, or it asks for one pause and knows the answer after it. -/
def Patient (a : Agent σ) (delay : Duration) : Prop :=
  ∀ l round s answer t, a.poll l round s = (answer, t) →
    answer = .never ∨ (answer = .again delay ∧ round = 0) ∨
      (∃ result, answer = .settled result) ∧ 0 < round

theorem Patient.within {τ : Type} {view : Agent τ} {delay : Duration} (patient : Patient view delay)
    (part : Part σ τ) : Patient (view.within part) delay := by
  intro l round s answer t polled
  cases polled
  exact patient l round _ _ _ rfl

/-- The switches of the past took a pause each. The one that is waited for was launched at the end
of these pauses, and it is polled again after one more. -/
structure Lane.Paced (pause now : Nat) (lane : Lane) : Prop where
  idle : lane.progress = .idle →
    lane.past.length * pause ≤ now ∧ (lane.todo = [] ∨ now = lane.past.length * pause)
  begun : ∀ e w, lane.progress = .waiting e w → w.round = 0 → now = lane.past.length * pause
  polled : ∀ e w, lane.progress = .waiting e w → 0 < w.round → lane.past.length * pause ≤ now ∧
    ∀ wake, w.wake = some wake → wake = (lane.past.length + 1) * pause ∧ now ≤ wake

namespace Lane.Paced

variable {delay : Duration} {now : Nat} {lane lane' : Lane} {sh sh' : Shared σ}

theorem of_failed {pause : Nat} {cause : Error} (failed : lane.progress = .failed cause) :
    lane.Paced pause now := by
  constructor
  · intro idle
    cases failed.symm.trans idle
  · intro e w waits
    cases failed.symm.trans waits
  · intro e w waits
    cases failed.symm.trans waits

theorem past_le {pause : Nat} (paced : lane.Paced pause now) {e : Entry} {w : Wait}
    (waits : lane.progress = .waiting e w) : lane.past.length * pause ≤ now := by
  rcases Nat.eq_zero_or_pos w.round with first | later
  · exact Nat.le_of_eq (paced.begun e w waits first).symm
  · exact (paced.polled e w waits later).1

theorem settled (patient : Patient a delay) (paced : lane.Paced (Agent.pause delay) now) {e : Entry}
    {w : Wait} (waits : lane.progress = .waiting e w) (due : w.Due now) {s t : σ}
    {result : Except Error Unit} (polled : a.poll w.launch w.round s = (.settled result, t)) :
    now = (lane.past.length + 1) * Agent.pause delay := by
  have later : 0 < w.round := by
    rcases patient _ _ _ _ _ polled with never | ⟨again, _⟩ | ⟨_, later⟩
    · cases never
    · cases again
    · exact later
  have woken : w.wake.any (· ≤ now) = true := by
    rcases due with first | woken
    · omega
    · exact woken
  obtain ⟨wake, scheduled, passed⟩ : ∃ wake, w.wake = some wake ∧ wake ≤ now := by
    cases scheduled : w.wake with
    | none => simp [scheduled] at woken
    | some wake => exact ⟨wake, rfl, by simpa [scheduled] using woken⟩
  obtain ⟨same, early⟩ := (paced.polled e w waits later).2 wake scheduled
  rw [← same]
  exact Nat.le_antisymm early passed

theorem step (patient : Patient a delay) (step : Lane.Step a now (lane, sh) (lane', sh'))
    (paced : lane.Paced (Agent.pause delay) now) : lane'.Paced (Agent.pause delay) now := by
  cases step with
  | refused | occupied | unlaunched | unready | expired => exact of_failed rfl
  | launched =>
    constructor
    · intro idle
      cases idle
    · intro e w waits first
      exact (paced.idle rfl).2.resolve_left (List.cons_ne_nil _ _)
    · intro e w waits later
      cases waits
      cases later
  | @ready c past e w todo r s t due polled =>
    have on_time := settled patient paced rfl due polled
    constructor
    · intro _
      simp only [List.length_append, List.length_singleton]
      exact ⟨Nat.le_of_eq on_time.symm, Or.inr on_time⟩
    · intro e w waits
      cases waits
    · intro e w waits
      cases waits
  | @unsettled c past e w w' todo r s t answer due polled again =>
    constructor
    · intro idle
      cases idle
    · intro f v waits first
      cases waits
      cases answer <;> cases again <;> cases first
    · intro f v waits later
      cases waits
      refine ⟨paced.past_le rfl, fun wake scheduled => ?_⟩
      rcases patient _ _ _ _ _ polled with rfl | ⟨rfl, first⟩ | ⟨⟨result, rfl⟩, _⟩
      · cases again
        cases scheduled
      · have launched := paced.begun e w rfl first
        cases again
        cases scheduled
        rw [launched, Nat.succ_mul]
        exact ⟨rfl, Nat.le_add_right ..⟩
      · cases again

theorem tick {pause time : Nat} (later : now < time) (rest : lane.RestsUntil time)
    (paced : lane.Paced pause now) : lane.Paced pause time where
  idle idle := ⟨Nat.le_trans (paced.idle idle).1 (Nat.le_of_lt later), Or.inl (rest.idle idle)⟩
  begun e w waits first := by
    have polled := (rest.waiting e w waits).1
    omega
  polled e w waits polled := by
    obtain ⟨reached, pace⟩ := paced.polled e w waits polled
    refine ⟨by omega, fun wake scheduled => ?_⟩
    exact ⟨(pace wake scheduled).1, (rest.waiting e w waits).2.2 wake scheduled⟩

end Lane.Paced

theorem Stage.Reaches.paced {delay : Duration} (patient : Patient a delay) {first last : Stage σ}
    (reaches : Stage.Reaches a first last)
    (start : ∀ lane ∈ first.lanes, lane.Paced (Agent.pause delay) first.now) :
    ∀ lane ∈ last.lanes, lane.Paced (Agent.pause delay) last.now :=
  reaches.forall_lanes (P := fun now lane => lane.Paced (Agent.pause delay) now)
    (fun _ _ _ _ _ step => Lane.Paced.step patient step)
    (fun _ _ _ later rest => Lane.Paced.tick later rest) start

theorem Stage.Reaches.sizes {first last : Stage σ} (reaches : Stage.Reaches a first last) :
    last.lanes.map (·.entries.length) = first.lanes.map (·.entries.length) := by
  have same := congrArg (List.map fun x => x.2.length) reaches.origins
  simpa [Lane.origins, Function.comp_def] using same

theorem lanesOf_paced (entries : List (Endpoint × Entry)) (pause : Nat) :
    ∀ lane ∈ lanesOf entries, lane.Paced pause 0 := by
  intro lane member
  obtain ⟨c, _, rfl⟩ := List.mem_map.mp member
  constructor
  · intro _
    exact ⟨by simp, Or.inr (by simp)⟩
  · intro e w waits
    cases waits
  · intro e w waits
    cases waits

theorem lanesOf_nonempty (entries : List (Endpoint × Entry)) :
    ∀ lane ∈ lanesOf entries, lane.entries ≠ [] := by
  intro lane member
  obtain ⟨c, key, rfl⟩ := List.mem_map.mp member
  obtain ⟨x, listed, rfl⟩ := List.mem_map.mp (List.mem_eraseDups.mp (mem_sortBy.mp key))
  have mine : x.2 ∈ (entries.filter (·.1 == x.1)).map (·.2) :=
    List.mem_map_of_mem (List.mem_filter.mpr ⟨listed, by simp⟩)
  simpa using List.ne_nil_of_mem mine

theorem Lane.Paced.waits {pause time : Nat} {lane : Lane} (positive : 0 < pause)
    (paced : lane.Paced pause 0) (rest : lane.RestsUntil time) (calm : lane.Calm)
    (some_switch : lane.entries ≠ []) : ∃ e w, lane.progress = .waiting e w := by
  cases progress : lane.progress with
  | waiting e w => exact ⟨e, w, rfl⟩
  | failed cause => exact absurd progress (calm cause)
  | idle =>
    have none_past : lane.past = [] := by
      have reached := (paced.idle progress).1
      rcases Nat.mul_eq_zero.mp (Nat.le_zero.mp reached) with none_past | none
      · exact List.eq_nil_of_length_eq_zero none_past
      · omega
    have none_left := rest.idle progress
    exact absurd (by simp [Lane.entries, progress, none_past, none_left]) some_switch

theorem Lane.Paced.finished {pause now : Nat} {lane : Lane} (paced : lane.Paced pause now)
    (finished : lane.isFinished = true) : lane.entries.length * pause ≤ now := by
  obtain ⟨idle, nothing⟩ := Lane.isFinished_iff.mp finished
  have past : lane.entries = lane.past := by simp [Lane.entries, idle, nothing]
  rw [past]
  exact (paced.idle idle).1

theorem startLanes_time_ge {delay : Duration} (patient : Patient a delay)
    {entries : List (Endpoint × Entry)} {sh : Shared σ}
    (unbound : ∀ x ∈ entries, x.2.binding.phase = .unbound)
    (ok : (startLanes a (lanesOf entries) sh).result = .ok ()) :
    longest (lanesOf entries) * Agent.pause delay ≤ (startLanes a (lanesOf entries) sh).time := by
  have reaches := startLanes_reaches a unbound sh
  have paced := reaches.paced patient (lanesOf_paced entries _)
  have sizes := reaches.sizes
  rw [longest, ← sizes]
  refine longest_mul_le.mpr fun lane member => ?_
  exact (paced lane member).finished (finished_of_ok unbound ok lane member)

theorem startLanes_time_zero {delay : Duration} (patient : Patient a delay)
    {entries : List (Endpoint × Entry)} {sh : Shared σ}
    (unbound : ∀ x ∈ entries, x.2.binding.phase = .unbound)
    (ok : (startLanes a (lanesOf entries) sh).result = .ok ())
    (at_once : (startLanes a (lanesOf entries) sh).time = 0) : lanesOf entries = [] := by
  have bound := startLanes_time_ge patient unbound ok
  rw [at_once] at bound
  rw [List.eq_nil_iff_forall_not_mem]
  intro lane member
  have small := longest_mul_le.mp bound lane member
  rcases Nat.mul_eq_zero.mp (Nat.le_zero.mp small) with empty | none
  · exact lanesOf_nonempty entries lane member (List.eq_nil_of_length_eq_zero empty)
  · have positive := Agent.pause_pos delay
    omega

end Testbed.Session
