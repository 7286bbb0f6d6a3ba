import Testbed.Proofs.Startup.Success

namespace Testbed.Session

variable {σ : Type}

/-- How an attempt to get on with a switch came out, and the world right after it. -/
structure Moment (σ : Type) where
  attempt : Attempt
  world : σ

def Moment.failure? (m : Moment σ) : Option (Error × σ) :=
  match m.attempt with
  | .failed cause => some (cause, m.world)
  | _ => none

def firstFailure? (moments : List (Moment σ)) : Option (Error × σ) :=
  moments.findSome? Moment.failure?

namespace Lane

def startAllMoments (a : Agent σ) (now : Nat) (controller : Endpoint) :
    List Entry → Shared σ → List (Moment σ)
  | [], _ => []
  | e :: rest, sh =>
    match startEntry a now controller e sh with
    | ((.running, _), sh) => ⟨.running, sh.world⟩ :: startAllMoments a now controller rest sh
    | ((attempt, _), sh) => [⟨attempt, sh.world⟩]

def resumeMoments (a : Agent σ) (now : Nat) (lane : Lane) (attempt : Attempt) (sh : Shared σ) :
    List (Moment σ) :=
  match attempt with
  | .running => ⟨.running, sh.world⟩ :: startAllMoments a now lane.controller lane.todo sh
  | attempt => [⟨attempt, sh.world⟩]

def advanceMoments (a : Agent σ) (now : Nat) (lane : Lane) (sh : Shared σ) : List (Moment σ) :=
  match lane.progress with
  | .idle => startAllMoments a now lane.controller lane.todo sh
  | .failed _ => []
  | .waiting e w =>
    if w.wake.any (· ≤ now) then
      let (step, sh) := pollEntry a now w e sh
      lane.resumeMoments a now step.1 sh
    else lane.resumeMoments a now (keepWaiting now w e).1 sh

end Lane

def sweepMoments (a : Agent σ) (now : Nat) : List Lane → List Lane → Shared σ → List (Moment σ)
  | _, [], _ => []
  | swept, lane :: rest, sh =>
    let (lane', sh') := lane.advance a now sh
    lane.advanceMoments a now sh ++
      match noticed? (swept ++ [lane'] ++ rest) with
      | some _ => []
      | none => sweepMoments a now (swept ++ [lane']) rest sh'

def runMoments (a : Agent σ) : Nat → Nat → List Lane → Shared σ → List (Moment σ)
  | 0, _, _, _ => []
  | n + 1, now, lanes, sh =>
    let (lanes', sh') := sweep a now [] lanes sh
    sweepMoments a now [] lanes sh ++
      match noticed? lanes' with
      | some _ => []
      | none =>
        match nextTime? now lanes' with
        | none => []
        | some time => runMoments a n time lanes' sh'

def startMoments (a : Agent σ) (lanes : List Lane) (sh : Shared σ) : List (Moment σ) :=
  runMoments a (tickBound lanes) 0 lanes sh

def Lane.outcome? (out : Lane × Shared σ) : Option (Error × σ) :=
  out.1.failure?.map fun cause => (cause, out.2.world)

namespace Lane

variable (a : Agent σ) (now : Nat)

theorem startAll_firstFailure (c : Endpoint) (past todo : List Entry) (sh : Shared σ) :
    firstFailure? (startAllMoments a now c todo sh) = outcome? (startAll a now c past todo sh) := by
  induction todo generalizing past sh with
  | nil => rfl
  | cons e rest ih =>
    unfold startAllMoments startAll
    cases started : startEntry a now c e sh with
    | mk step sh' =>
      obtain ⟨attempt, e'⟩ := step
      cases attempt with
      | running => exact ih _ _
      | waiting w => rfl
      | failed cause => rfl

theorem resume_firstFailure (lane : Lane) (step : Attempt × Entry) (sh : Shared σ) :
    firstFailure? (lane.resumeMoments a now step.1 sh) = outcome? (lane.resume a now step sh) := by
  obtain ⟨attempt, e⟩ := step
  cases attempt with
  | running => exact startAll_firstFailure a now _ _ _ sh
  | waiting w => rfl
  | failed cause => rfl

theorem advance_firstFailure {lane : Lane} (calm : lane.Calm) (sh : Shared σ) :
    firstFailure? (lane.advanceMoments a now sh) = outcome? (lane.advance a now sh) := by
  obtain ⟨c, past, progress, todo⟩ := lane
  unfold advanceMoments advance
  cases progress with
  | idle => exact startAll_firstFailure a now c past todo sh
  | failed cause => exact absurd rfl (calm cause)
  | waiting e w =>
    by_cases due : w.wake.any (· ≤ now) = true
    · simp only [due, ↓reduceIte]
      exact resume_firstFailure a now ⟨c, past, .waiting e w, todo⟩ _ _
    · simp only [due, Bool.false_eq_true, ↓reduceIte]
      exact resume_firstFailure a now ⟨c, past, .waiting e w, todo⟩ _ sh

end Lane

theorem failure?_eq_none {lane : Lane} : lane.failure? = none ↔ lane.Calm := by
  rw [Option.eq_none_iff_forall_ne_some]
  exact forall_congr' fun cause => not_congr failure?_eq_some

theorem noticed?_eager {before after : List Lane} (lane : Lane)
    (few : (before ++ [lane] ++ after).length ≤ eagerLimit) (calm : ∀ x ∈ before, x.Calm)
    (calm' : ∀ x ∈ after, x.Calm) : noticed? (before ++ [lane] ++ after) = lane.failure? := by
  have silent : before.findSome? Lane.failure? = none :=
    List.findSome?_eq_none_iff.mpr fun x member => failure?_eq_none.mpr (calm x member)
  have silent' : after.findSome? Lane.failure? = none :=
    List.findSome?_eq_none_iff.mpr fun x member => failure?_eq_none.mpr (calm' x member)
  rw [noticed?, if_pos few, List.append_assoc, List.findSome?_append, silent, Option.none_or,
    List.singleton_append, List.findSome?_cons]
  cases lane.failure? with
  | none => exact silent'
  | some cause => rfl

theorem sweep_length (a : Agent σ) (now : Nat) (swept rest : List Lane) (sh : Shared σ) :
    (sweep a now swept rest sh).1.length = swept.length + rest.length := by
  induction rest generalizing swept sh with
  | nil => simp [sweep]
  | cons lane rest ih =>
    unfold sweep
    dsimp only
    split
    next => simp
    next =>
      rw [ih, List.length_append, List.length_singleton, List.length_cons]
      omega

theorem firstFailure?_append (moments more : List (Moment σ)) :
    firstFailure? (moments ++ more) = (firstFailure? moments).or (firstFailure? more) :=
  List.findSome?_append

theorem sweep_firstFailure (a : Agent σ) (now : Nat) (swept rest : List Lane) (sh : Shared σ)
    (few : swept.length + rest.length ≤ eagerLimit) (calm : ∀ x ∈ swept, x.Calm)
    (calm' : ∀ x ∈ rest, x.Calm) :
    firstFailure? (sweepMoments a now swept rest sh) =
        (noticed? (sweep a now swept rest sh).1).map
          (fun cause => (cause, (sweep a now swept rest sh).2.world)) ∧
      (noticed? (sweep a now swept rest sh).1 = none →
        ∀ x ∈ (sweep a now swept rest sh).1, x.Calm) := by
  induction rest generalizing swept sh with
  | nil =>
    have unnoticed : noticed? swept = none := by
      rw [noticed?, if_pos (by simpa using few)]
      exact List.findSome?_eq_none_iff.mpr fun x member => failure?_eq_none.mpr (calm x member)
    simp only [sweep, sweepMoments, unnoticed]
    exact ⟨rfl, fun _ => calm⟩
  | cons lane rest ih =>
    have first := Lane.advance_firstFailure a now (calm' lane (by simp)) sh
    have later : ∀ x ∈ rest, x.Calm := fun x member => calm' x (by simp [member])
    have here := noticed?_eager (lane.advance a now sh).1
      (by simpa [Nat.add_assoc] using few) calm later
    unfold sweepMoments sweep
    dsimp only
    rw [firstFailure?_append, first, Lane.outcome?]
    cases failure : (lane.advance a now sh).1.failure? with
    | some cause =>
      rw [failure] at here
      simp only [here]
      exact ⟨rfl, fun none => by cases none⟩
    | none =>
      rw [failure] at here
      simp only [here]
      have few' : (swept ++ [(lane.advance a now sh).1]).length + rest.length ≤ eagerLimit := by
        rw [List.length_append, List.length_singleton]
        rw [List.length_cons] at few
        omega
      have unfailed := failure?_eq_none.mp failure
      have calm' := List.forall_mem_append.mpr ⟨calm, List.forall_mem_singleton.mpr unfailed⟩
      exact ih _ _ few' calm' later

theorem run_firstFailure (a : Agent σ) (n now : Nat) (lanes : List Lane) (sh : Shared σ)
    (few : lanes.length ≤ eagerLimit) (calm : ∀ x ∈ lanes, x.Calm) :
    firstFailure? (runMoments a n now lanes sh) =
      (failureOf (runLanes a n now lanes sh).result).map
        fun cause => (cause, (runLanes a n now lanes sh).shared.world) := by
  induction n generalizing now lanes sh with
  | zero => rfl
  | succ n ih =>
    obtain ⟨first, calm'⟩ := sweep_firstFailure a now [] lanes sh (by simpa using few) nofun calm
    have length := sweep_length a now [] lanes sh
    unfold runMoments runLanes
    dsimp only
    rw [firstFailure?_append, first]
    cases noticed : noticed? (sweep a now [] lanes sh).1 with
    | some cause => rfl
    | none =>
      cases next : nextTime? now (sweep a now [] lanes sh).1 with
      | none => simp [firstFailure?, failureOf]
      | some time =>
        simp only [Option.map_none, Option.none_or]
        exact ih time _ _ (by simpa [length] using few) (calm' noticed)

theorem start_firstFailure (a : Agent σ) (lanes : List Lane) (sh : Shared σ)
    (few : lanes.length ≤ eagerLimit) (calm : ∀ x ∈ lanes, x.Calm) :
    firstFailure? (startMoments a lanes sh) = (failureOf (startLanes a lanes sh).result).map
      fun cause => (cause, (startLanes a lanes sh).shared.world) :=
  run_firstFailure a _ 0 lanes sh few calm

end Testbed.Session
