import Testbed.Switch.Flight

namespace Testbed

variable {σ : Type}

namespace Binding

/-- The operation runs to its end with the agent. -/
inductive Performs (a : Agent σ) (b : Binding) (r : PortRegistry) (s : σ) :
    Operation → Except Error Unit → Binding → PortRegistry → σ → Prop
  | bind {e result b' q s'} (done : b.bind a e r s = (result, b', q, s')) :
      Performs a b r s (.bind e) result b' q s'
  | attach {c result b'} (done : b.attach c = (result, b')) :
      Performs a b r s (.attach c) result b' r s
  | start {now result time b' s'} (done : b.start a none now s = (some result, time, b', s')) :
      Performs a b r s .start result b' r s'
  | stop {result b' q s'} (done : b.stop a r s = (result, b', q, s')) :
      Performs a b r s .stop result b' q s'

variable {a : Agent σ} {b b' : Binding} {r q : PortRegistry} {s s' : σ}

theorem start_returns (a : Agent σ) (now : Nat) (b : Binding) (s : σ) :
    ∃ result, (b.start a none now s).1 = some result := by
  unfold start
  split
  next => exact ⟨_, rfl⟩
  next l b₁ _ =>
    split
    next => exact ⟨_, rfl⟩
    next s₁ _ =>
      dsimp only
      split
      next => exact ⟨_, rfl⟩
      next =>
        rw [if_neg (by simp)]
        exact ⟨_, rfl⟩

theorem performs_total (a : Agent σ) (b : Binding) (r : PortRegistry) (s : σ) (op : Operation) :
    ∃ result b' q s', Performs a b r s op result b' q s' := by
  cases op with
  | bind e => exact ⟨_, _, _, _, .bind rfl⟩
  | attach c => exact ⟨_, _, _, _, .attach rfl⟩
  | start =>
    obtain ⟨result, returned⟩ := start_returns a 0 b s
    have done : b.start a none 0 s =
        (some result, (b.start a none 0 s).2.1, (b.start a none 0 s).2.2.1,
          (b.start a none 0 s).2.2.2) := by rw [← returned]
    exact ⟨result, _, _, _, .start done⟩
  | stop => exact ⟨_, _, _, _, .stop rfl⟩

end Binding

namespace Seat

variable {a : Agent σ} {b b' : Binding} {r q : PortRegistry} {s s' : σ}
  {others : PortRegistry → PortRegistry → Prop}

theorem Run.trans {first t u : Seat Binding} {start r q : PortRegistry} {past later : List Moment}
    (run : Run Binding.machine others first start past t r)
    (next : Run Binding.machine others t r later u q) :
    Run Binding.machine others first start (past ++ later) u q := by
  induction next with
  | start => rwa [List.append_nil]
  | step _ taken ih =>
    rw [← List.append_assoc]
    exact ih.step taken
  | elsewhere _ changed ih => exact ih.elsewhere changed

theorem Run.called {op : Binding.Operation} {turn : Turn}
    (begun : b.begin op r = (turn, b', q)) :
    Run Binding.machine others (idle b) r [⟨.call op, turn⟩] ⟨b', turn.request?⟩ q := by
  have taken : (idle b).step Binding.machine r (.call op) = some (settle (b.begin op r)) := rfl
  rw [begun] at taken
  exact Run.start.step taken

theorem Run.answered {first : Seat Binding} {start : PortRegistry} {past : List Moment}
    {request : Request} {turn : Turn} (answer : Answer)
    (run : Run Binding.machine others first start past ⟨b, some request⟩ r)
    (resumed : b.resume request answer r = some (turn, b', q)) :
    Run Binding.machine others first start (past ++ [⟨.answer answer, turn⟩])
      ⟨b', turn.request?⟩ q := by
  have taken : (Seat.mk b (some request)).step Binding.machine r (.answer answer) =
      (b.resume request answer r).map settle := rfl
  rw [resumed] at taken
  exact run.step taken

theorem bind_run {e : Endpoint} {result : Except Error Unit}
    (done : b.bind a e r s = (result, b', q, s')) :
    ∃ past event, Run Binding.machine others (idle b) r (past ++ [⟨event, .returns result⟩])
      (idle b') q := by
  unfold Binding.bind at done
  split at done
  next err _ _ refused =>
    cases done
    have begun : b.begin (.bind e) r = (.returns (.error err), b', q) := by
      simp only [Binding.begin, refused]
    exact ⟨[], _, .called begun⟩
  next b₁ q₁ granted =>
    cases done
    have begun : b.begin (.bind e) r = (.asks (.checkEndpoint e), b₁, q₁) := by
      simp only [Binding.begin, granted]
    exact ⟨_, _, .answered (.checked (a.checkEndpoint e s).1) (.called begun) rfl⟩

/-- How a start is over: with its result or, without one, by being given up. -/
def Over (turn : Turn) : Option (Except Error Unit) → Prop
  | some result => turn = .returns result
  | none => ∃ l, turn = .givesUp (.awaitReady l)

theorem start_run {limit : Option Nat} {now time : Nat} {outcome : Option (Except Error Unit)}
    (done : b.start a limit now s = (outcome, time, b', s')) :
    ∃ past event turn, Over turn outcome ∧
      Run Binding.machine others (idle b) r (past ++ [⟨event, turn⟩]) (idle b') r := by
  unfold Binding.start at done
  split at done
  next err refused =>
    cases done
    have begun : b.begin .start r = (.returns (.error err), b, r) := by
      simp only [Binding.begin, refused]
    exact ⟨[], _, _, rfl, .called begun⟩
  next l b₁ ready =>
    have begun : b.begin .start r = (.asks (.launch l), b₁, r) := by
      simp only [Binding.begin, ready]
    have launching : Run Binding.machine others (idle b) r [⟨.call .start, .asks (.launch l)⟩]
        ⟨b₁, some (.launch l)⟩ r := .called begun
    split at done
    next err s₁ _ =>
      cases done
      exact ⟨_, _, _, rfl, launching.answered (.launched (.error err)) rfl⟩
    next s₁ _ =>
      have waiting := launching.answered (.launched (.ok ())) rfl
      dsimp only at done
      split at done
      next result _ s₂ _ =>
        cases done
        exact ⟨_, _, _, rfl, waiting.answered (.awaited (some result)) rfl⟩
      next =>
        split at done
        next =>
          cases done
          exact ⟨_, .giveUp, _, ⟨l, rfl⟩, waiting.step rfl⟩
        next =>
          cases done
          exact ⟨_, _, _, rfl, waiting.answered (.awaited none) rfl⟩

theorem stop_run {result : Except Error Unit} (done : b.stop a r s = (result, b', q, s')) :
    ∃ past event, Run Binding.machine others (idle b) r (past ++ [⟨event, .returns result⟩])
      (idle b') q := by
  unfold Binding.stop at done
  split at done
  next stopped =>
    cases done
    have begun : b.begin .stop r = (.returns (.ok ()), b, r) := by
      simp only [Binding.begin, stopped]
    exact ⟨[], _, .called begun⟩
  next up =>
    cases launched : b.launched with
    | true =>
      rw [launched] at done
      cases done
      have begun : b.begin .stop r = (.asks (.shutdown b.switch), b, r) := by
        simp [Binding.begin, launched]
      exact ⟨_, _, .answered (.shutDown (a.shutdown b.switch s).1) (.called begun) rfl⟩
    | false =>
      rw [launched] at done
      cases done
      have begun : b.begin .stop r = (.returns (.ok ()), (b.endStop r).1, (b.endStop r).2) := by
        simp [Binding.begin, launched]
      exact ⟨[], _, .called begun⟩

end Seat

namespace Binding

variable {a : Agent σ} {b b' : Binding} {r q : PortRegistry} {s s' : σ}

theorem Performs.run {op : Operation} {result : Except Error Unit}
    {others : PortRegistry → PortRegistry → Prop} (performs : b.Performs a r s op result b' q s') :
    ∃ past event, Seat.Run machine others (.idle b) r (past ++ [⟨event, .returns result⟩])
      (.idle b') q := by
  cases performs with
  | bind done => exact Seat.bind_run done
  | @attach c _ _ done =>
    have begun : b.begin (.attach c) r = (.returns result, b', r) := by
      simp only [begin, done]
    exact ⟨[], _, .called begun⟩
  | start done =>
    obtain ⟨past, event, _, rfl, run⟩ := Seat.start_run done
    exact ⟨past, event, run⟩
  | stop done => exact Seat.stop_run done

end Binding

end Testbed
