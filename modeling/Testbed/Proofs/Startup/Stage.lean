import Testbed.Proofs.Startup.Step

namespace Testbed.Session

variable {σ : Type}

structure Stage (σ : Type) where
  now : Nat
  lanes : List Lane
  shared : Shared σ

structure Lane.RestsUntil (time : Nat) (lane : Lane) : Prop where
  idle : lane.progress = .idle → lane.todo = []
  waiting : ∀ e w, lane.progress = .waiting e w →
    0 < w.round ∧ time ≤ w.deadline ∧ ∀ wake, w.wake = some wake → time ≤ wake

namespace Stage

inductive Step (a : Agent σ) : Stage σ → Stage σ → Prop
  | lane {now before lane lane' after sh sh'} (step : Lane.Step a now (lane, sh) (lane', sh')) :
      Step a ⟨now, before ++ lane :: after, sh⟩ ⟨now, before ++ lane' :: after, sh'⟩
  | tick {now time lanes sh} (later : now < time) (rest : ∀ lane ∈ lanes, lane.RestsUntil time) :
      Step a ⟨now, lanes, sh⟩ ⟨time, lanes, sh⟩

abbrev Reaches (a : Agent σ) : Stage σ → Stage σ → Prop := Relation.ReflTransGen (Step a)

theorem reaches_of_steps {a : Agent σ} {now : Nat} {first last : Lane × Shared σ}
    (steps : Lane.Steps a now first last) (before after : List Lane) :
    Reaches a ⟨now, before ++ first.1 :: after, first.2⟩
      ⟨now, before ++ last.1 :: after, last.2⟩ := by
  induction steps with
  | refl => exact .refl
  | tail _ step ih => exact ih.tail (.lane step)

theorem forall_replace {P : Lane → Prop} {before after : List Lane} {lane lane' : Lane}
    (all : ∀ x ∈ before ++ lane :: after, P x) (here : P lane') :
    ∀ x ∈ before ++ lane' :: after, P x := by
  intro x member
  simp only [List.mem_append, List.mem_cons] at all member
  rcases member with member | rfl | member
  · exact all x (Or.inl member)
  · exact here
  · exact all x (Or.inr (Or.inr member))

theorem Reaches.forall_lanes {a : Agent σ} {P : Nat → Lane → Prop} {first last : Stage σ}
    (reaches : Reaches a first last)
    (step : ∀ now lane sh lane' sh', Lane.Step a now (lane, sh) (lane', sh') → P now lane →
      P now lane')
    (tick : ∀ now time lane, now < time → lane.RestsUntil time → P now lane → P time lane)
    (start : ∀ lane ∈ first.lanes, P first.now lane) :
    ∀ lane ∈ last.lanes, P last.now lane := by
  induction reaches with
  | refl => exact start
  | tail _ next ih =>
    cases next with
    | lane taken =>
      refine forall_replace ih (step _ _ _ _ _ taken (ih _ ?_))
      exact List.mem_append_right _ List.mem_cons_self
    | tick later rest =>
      intro lane member
      exact tick _ _ lane later (rest lane member) (ih lane member)

theorem Reaches.world {a : Agent σ} {Q : σ → Prop} {first last : Stage σ}
    (reaches : Reaches a first last)
    (check : ∀ {e s result t}, Q s → a.checkEndpoint e s = (result, t) → Q t)
    (launch : ∀ {l s result t}, Q s → a.launch l s = (result, t) → Q t)
    (poll : ∀ {l round s answer t}, Q s → a.poll l round s = (answer, t) → Q t)
    (start : Q first.shared.world) :
    Q last.shared.world := by
  induction reaches with
  | refl => exact start
  | tail _ next ih =>
    cases next with
    | tick => exact ih
    | lane taken =>
      cases taken with
      | refused => exact ih
      | occupied _ _ checked => exact check ih checked
      | unlaunched _ _ checked launched => exact launch (check ih checked) launched
      | launched _ _ checked launched => exact launch (check ih checked) launched
      | ready _ polled => exact poll ih polled
      | unready _ polled => exact poll ih polled
      | unsettled _ polled _ => exact poll ih polled
      | expired => exact ih

end Stage

namespace Lane

theorem keepWaiting_rests {now : Nat} {w w' : Wait} {e e' : Entry}
    (h : keepWaiting now w e = (.waiting w', e')) : w' = w ∧ now < w.deadline := by
  unfold keepWaiting at h
  split at h
  next late => cases h
  next early =>
    cases h
    exact ⟨rfl, by omega⟩

theorem pollEntry_rests {a : Agent σ} {now : Nat} {w w' : Wait} {e e' : Entry}
    {sh sh' : Shared σ} (h : pollEntry a now w e sh = ((.waiting w', e'), sh')) :
    0 < w'.round ∧ now < w'.deadline ∧ ∀ wake, w'.wake = some wake → now < wake := by
  unfold pollEntry at h
  split at h
  next result t polled => cases result <;> cases h
  next t polled =>
    obtain ⟨rfl, early⟩ := keepWaiting_rests (congrArg Prod.fst h)
    exact ⟨Nat.succ_pos _, early, by simp⟩
  next after t polled =>
    obtain ⟨rfl, early⟩ := keepWaiting_rests (congrArg Prod.fst h)
    have positive := Agent.pause_pos after
    exact ⟨Nat.succ_pos _, early, by simp; omega⟩

theorem startEntry_rests {a : Agent σ} {now : Nat} {c : Endpoint} {w : Wait} {e e' : Entry}
    {sh sh' : Shared σ} (h : startEntry a now c e sh = ((.waiting w, e'), sh')) :
    0 < w.round ∧ now < w.deadline ∧ ∀ wake, w.wake = some wake → now < wake := by
  unfold startEntry at h
  split at h
  next => cases h
  next =>
    split at h
    next => cases h
    next =>
      unfold launchEntry at h
      split at h
      next => cases h
      next =>
        dsimp only at h
        split at h
        next => cases h
        next => exact pollEntry_rests h

theorem startAll_rests (a : Agent σ) (now : Nat) (c : Endpoint) (past todo : List Entry)
    (sh : Shared σ) : (startAll a now c past todo sh).1.RestsUntil (now + 1) := by
  induction todo generalizing past sh with
  | nil => exact ⟨fun _ => rfl, nofun⟩
  | cons e rest ih =>
    unfold startAll
    split
    next => exact ih _ _
    next started =>
      refine ⟨nofun, fun e w h => ?_⟩
      cases h
      exact startEntry_rests started
    next => exact ⟨nofun, nofun⟩

theorem advance_rests (a : Agent σ) (now : Nat) {lane : Lane} (orderly : lane.Orderly)
    (sh : Shared σ) : (lane.advance a now sh).1.RestsUntil (now + 1) := by
  obtain ⟨c, past, progress, todo⟩ := lane
  have resumed (step : Attempt × Entry) (sh : Shared σ)
      (rests : ∀ w, step.1 = .waiting w →
        0 < w.round ∧ now < w.deadline ∧ ∀ wake, w.wake = some wake → now < wake) :
      (resume a now ⟨c, past, progress, todo⟩ step sh).1.RestsUntil (now + 1) := by
    obtain ⟨attempt, e⟩ := step
    cases attempt with
    | running => exact startAll_rests ..
    | waiting w =>
      refine ⟨nofun, fun e w h => ?_⟩
      cases h
      exact rests w rfl
    | failed cause => exact ⟨nofun, nofun⟩
  unfold advance
  cases progress with
  | idle => exact startAll_rests ..
  | failed cause => exact ⟨nofun, nofun⟩
  | waiting e w =>
    by_cases due : w.wake.any (· ≤ now) = true
    · simp only [due, ↓reduceIte]
      refine resumed _ _ fun w' h => ?_
      exact pollEntry_rests (Prod.ext (Prod.ext h rfl) rfl)
    · simp only [due, Bool.false_eq_true, ↓reduceIte]
      refine resumed _ _ fun w' h => ?_
      obtain ⟨rfl, early⟩ := keepWaiting_rests (Prod.ext h rfl)
      refine ⟨orderly.polled e w' rfl, early, fun wake same => ?_⟩
      simpa [same] using due

theorem Step.todo_suffix {a : Agent σ} {now : Nat} {first last : Lane × Shared σ}
    (step : Step a now first last) : last.1.todo <:+ first.1.todo := by
  cases step <;> first | exact List.suffix_cons _ _ | exact List.suffix_refl _

theorem Steps.todo_suffix {a : Agent σ} {now : Nat} {first last : Lane × Shared σ}
    (steps : Steps a now first last) : last.1.todo <:+ first.1.todo := by
  induction steps with
  | refl => exact List.suffix_refl _
  | tail _ step ih => exact step.todo_suffix.trans ih

theorem advance_orderly (a : Agent σ) (now : Nat) {lane : Lane} (orderly : lane.Orderly)
    (sh : Shared σ) : (lane.advance a now sh).1.Orderly where
  unbound e member :=
    orderly.unbound e ((advance_steps a now orderly sh).todo_suffix.mem member)
  polled e w h := ((advance_rests a now orderly sh).waiting e w h).1

end Lane

theorem sweep_reaches (a : Agent σ) (now : Nat) (swept rest : List Lane) (sh : Shared σ)
    (orderly : ∀ lane ∈ rest, lane.Orderly) :
    Stage.Reaches a ⟨now, swept ++ rest, sh⟩
      ⟨now, (sweep a now swept rest sh).1, (sweep a now swept rest sh).2⟩ := by
  induction rest generalizing swept sh with
  | nil => simpa [sweep] using Relation.ReflTransGen.refl
  | cons lane rest ih =>
    have first := Stage.reaches_of_steps (Lane.advance_steps a now (orderly lane (by simp)) sh)
      swept rest
    unfold sweep
    dsimp only
    split
    next => simpa using first
    next =>
      refine first.trans ?_
      have later := ih (swept ++ [(lane.advance a now sh).1]) (lane.advance a now sh).2
        fun x member => orderly x (by simp [member])
      simpa using later

theorem sweep_orderly (a : Agent σ) (now : Nat) (swept rest : List Lane) (sh : Shared σ)
    (done : ∀ lane ∈ swept, lane.Orderly) (orderly : ∀ lane ∈ rest, lane.Orderly) :
    ∀ lane ∈ (sweep a now swept rest sh).1, lane.Orderly := by
  induction rest generalizing swept sh with
  | nil => simpa [sweep] using done
  | cons lane rest ih =>
    have advanced := Lane.advance_orderly a now (orderly lane (by simp)) sh
    have done' : ∀ x ∈ swept ++ [(lane.advance a now sh).1], x.Orderly :=
      List.forall_mem_append.mpr ⟨done, List.forall_mem_singleton.mpr advanced⟩
    have orderly' : ∀ x ∈ rest, x.Orderly := fun x member => orderly x (by simp [member])
    unfold sweep
    dsimp only
    split
    next => exact List.forall_mem_append.mpr ⟨done', orderly'⟩
    next => exact ih _ _ done' orderly'

theorem sweep_rests (a : Agent σ) (now : Nat) (swept rest : List Lane) (sh : Shared σ)
    (done : ∀ lane ∈ swept, lane.RestsUntil (now + 1)) (orderly : ∀ lane ∈ rest, lane.Orderly)
    (unnoticed : noticed? (sweep a now swept rest sh).1 = none) :
    ∀ lane ∈ (sweep a now swept rest sh).1, lane.RestsUntil (now + 1) := by
  induction rest generalizing swept sh with
  | nil => simpa [sweep] using done
  | cons lane rest ih =>
    have advanced := Lane.advance_rests a now (orderly lane (by simp)) sh
    unfold sweep at unnoticed ⊢
    dsimp only at unnoticed ⊢
    split
    next noticed =>
      simp only [noticed] at unnoticed
      cases unnoticed
    next noticed =>
      simp only [noticed] at unnoticed
      refine ih _ _ ?_ (fun x member => orderly x (by simp [member])) unnoticed
      exact List.forall_mem_append.mpr ⟨done, List.forall_mem_singleton.mpr advanced⟩

theorem Lane.restsUntil_iff {lane : Lane} {e : Entry} {w : Wait} {time t : Nat}
    (waits : lane.progress = .waiting e w) (polled : 0 < w.round) (due : lane.due? = some t) :
    lane.RestsUntil time ↔ time ≤ t := by
  simp only [Lane.due?, waits, Option.some.injEq] at due
  constructor
  · intro rests
    obtain ⟨_, deadline, wake⟩ := rests.waiting e w waits
    cases same : w.wake with
    | none =>
      simp only [same, Option.map_none, Option.getD_none] at due
      omega
    | some next =>
      have := wake next same
      simp only [same, Option.map_some, Option.getD_some] at due
      omega
  · intro early
    refine ⟨fun idle => ?_, fun e' w' h => ?_⟩
    · rw [waits] at idle
      cases idle
    · rw [waits] at h
      cases h
      cases same : w.wake with
      | none =>
        simp only [same, Option.map_none, Option.getD_none] at due
        exact ⟨polled, by omega, fun _ never => by cases never⟩
      | some next =>
        simp only [same, Option.map_some, Option.getD_some] at due
        refine ⟨polled, by omega, fun _ h => ?_⟩
        cases h
        omega

theorem restsUntil_nextTime {now time : Nat} {lanes : List Lane}
    (rests : ∀ lane ∈ lanes, lane.RestsUntil (now + 1)) (next : nextTime? now lanes = some time) :
    now < time ∧ (∀ lane ∈ lanes, lane.RestsUntil time) ∧
      ∃ lane ∈ lanes, ∃ e w, lane.progress = .waiting e w := by
  unfold nextTime? at next
  obtain ⟨least, found, rfl⟩ := Option.map_eq_some_iff.mp next
  obtain ⟨member, least_le⟩ := List.min?_eq_some_iff.mp found
  obtain ⟨lane, here, due⟩ := List.mem_filterMap.mp member
  obtain ⟨e, w, waits⟩ : ∃ e w, lane.progress = .waiting e w := by
    unfold Lane.due? at due
    split at due
    next e w waits => exact ⟨e, w, waits⟩
    next => cases due
  have polled := ((rests lane here).waiting e w waits).1
  -- the clock moves on, for even the earliest of the lanes rests on this tick
  have ahead : now + 1 ≤ least := (Lane.restsUntil_iff waits polled due).mp (rests lane here)
  rw [Nat.max_eq_right ahead]
  refine ⟨ahead, fun x there => ?_, lane, here, e, w, waits⟩
  cases progress : x.progress with
  | idle => exact ⟨fun _ => (rests x there).idle progress, fun _ _ h => by simp [progress] at h⟩
  | failed cause => exact ⟨fun h => by simp [progress] at h, fun _ _ h => by simp [progress] at h⟩
  | waiting e' w' =>
    have polled' := ((rests x there).waiting e' w' progress).1
    have due' : x.due? = some ((w'.wake.map (min w'.deadline)).getD w'.deadline) := by
      simp [Lane.due?, progress]
    exact (Lane.restsUntil_iff progress polled' due').mpr
      (least_le _ (List.mem_filterMap.mpr ⟨x, there, due'⟩))

theorem runLanes_reaches (a : Agent σ) (n now : Nat) (lanes : List Lane) (sh : Shared σ)
    (orderly : ∀ lane ∈ lanes, lane.Orderly) :
    Stage.Reaches a ⟨now, lanes, sh⟩ ⟨(runLanes a n now lanes sh).time,
      (runLanes a n now lanes sh).lanes, (runLanes a n now lanes sh).shared⟩ := by
  induction n generalizing now lanes sh with
  | zero => exact .refl
  | succ n ih =>
    have swept := sweep_reaches a now [] lanes sh orderly
    have orderly' := sweep_orderly a now [] lanes sh (by simp) orderly
    rw [runLanes]
    dsimp only
    split
    next => exact swept
    next unnoticed =>
      have rests := sweep_rests a now [] lanes sh (by simp) orderly unnoticed
      split
      next => exact swept
      next time next =>
        obtain ⟨later, rests, _⟩ := restsUntil_nextTime rests next
        exact (swept.tail (.tick later rests)).trans (ih time _ _ orderly')

end Testbed.Session
