import Testbed.Error

namespace Testbed

variable {σ τ α : Type}

abbrev Action (σ : Type) := σ → Except Error Unit × σ

structure Part (σ τ : Type) where
  get : σ → τ
  set : τ → σ → σ
  get_set : ∀ t s, get (set t s) = t := by intros; rfl
  set_get : ∀ s, set (get s) s = s := by intros; rfl
  set_set : ∀ t u s, set t (set u s) = set t s := by intros; rfl

def failureOf : Except Error Unit → Option Error
  | .ok () => none
  | .error e => some e

theorem failureOf_eq_none {result : Except Error Unit} :
    failureOf result = none ↔ result = .ok () := by
  cases result <;> simp [failureOf]

theorem failureOf_eq_some {result : Except Error Unit} {e : Error} :
    failureOf result = some e ↔ result = .error e := by
  cases result <;> simp [failureOf]

namespace Action

def done : Action σ := fun s => (.ok (), s)

def sequence : List (Action σ) → Action σ
  | [], s => (.ok (), s)
  | act :: rest, s =>
    match act s with
    | (.ok (), s) => sequence rest s
    | (.error e, s) => (.error e, s)

def bestEffort (act : Action σ) : Action σ := fun s => (.ok (), (act s).2)

def within (part : Part σ τ) (act : Action τ) : Action σ := fun s =>
  let (result, t) := act (part.get s)
  (result, part.set t s)

/-- Acts on the items in turn, up to the first failure: the items done, the failure, the state. -/
def untilFailure (act : α → Action σ) : List α → σ → List α × Option Error × σ
  | [], s => ([], none, s)
  | x :: rest, s =>
    match act x s with
    | (.ok (), s) =>
      let (finished, failure, s) := untilFailure act rest s
      (x :: finished, failure, s)
    | (.error e, s) => ([], some e, s)

def onEach (act : α → Action σ) : List α → σ → List (α × Option Error) × σ
  | [], s => ([], s)
  | x :: rest, s =>
    let (result, s) := act x s
    let (others, s) := onEach act rest s
    ((x, failureOf result) :: others, s)

theorem untilFailure_items (act : α → Action σ) (xs : List α) (s : σ) :
    (untilFailure act xs s).1 <+: xs ∧
      ((untilFailure act xs s).2.1 = none → (untilFailure act xs s).1 = xs) := by
  induction xs generalizing s with
  | nil => simp [untilFailure]
  | cons x rest ih =>
    obtain ⟨hp, hall⟩ := ih (act x s).2
    cases h : act x s with
    | mk result t =>
      cases result with
      | ok u =>
        simp only [h] at hp hall
        simp only [untilFailure, h]
        exact ⟨List.prefix_cons_inj x |>.2 hp, fun hn => by rw [hall hn]⟩
      | error e => simp [untilFailure, h]

theorem untilFailure_none_iff {act : α → Action σ} {smooth : α → Prop}
    (h : ∀ x s, (act x s).1 = .ok () ↔ smooth x) (xs : List α) (s : σ) :
    (untilFailure act xs s).2.1 = none ↔ ∀ x ∈ xs, smooth x := by
  induction xs generalizing s with
  | nil => simp [untilFailure]
  | cons x rest ih =>
    have first := h x s
    cases acted : act x s with
    | mk result t =>
      rw [acted] at first
      cases result with
      | ok u => simp [untilFailure, acted, ih, first.mp rfl]
      | error e =>
        have fails : ¬ smooth x := fun smooth => by cases first.mpr smooth
        simp [untilFailure, acted, fails]

end Action

end Testbed
