import Testbed.Proofs.Switch.Performed
import Testbed.Proofs.Switch.Step
import Testbed.Session.Journal

namespace Testbed

open Session (Call Journaled)

variable {σ : Type}

namespace Session.Journaled

variable {a : Agent σ} {l : Launch} {j j' : Journaled σ}

def polls (l : Launch) (answers : List Readiness) : List Call := answers.mapIdx (Call.poll l)

theorem await_calls (a : Agent σ) (l : Launch) (cut round now : Nat) (j : Journaled σ) :
    ∃ answers : List Readiness,
      (Agent.await ((agent a).poll l) cut round now j).2.2.calls =
        j.calls ++ answers.mapIdx fun i => Call.poll l (round + i) := by
  fun_induction Agent.await ((agent a).poll l) cut round now j with
  | case1 round now j result j' polled => exact ⟨[.settled result], (poll_calls polled).1⟩
  | case2 round now j j' polled => exact ⟨[.never], (poll_calls polled).1⟩
  | case3 round now j after j' polled soon ih =>
    obtain ⟨answers, ih⟩ := ih
    refine ⟨.again after :: answers, ?_⟩
    rw [ih, (poll_calls polled).1, List.mapIdx_cons, List.append_assoc]
    simp [Nat.add_assoc, Nat.add_comm 1]
  | case4 round now j after j' polled => exact ⟨[.again after], (poll_calls polled).1⟩

theorem awaitReady_calls (a : Agent σ) (l : Launch) (cut now : Nat) (j : Journaled σ) :
    ∃ answers, ((agent a).awaitReady l cut now j).2.2.calls = j.calls ++ polls l answers := by
  obtain ⟨answers, called⟩ := await_calls a l cut 0 now j
  refine ⟨answers, ?_⟩
  simpa only [polls, Agent.awaitReady, Nat.zero_add] using called

end Session.Journaled

/-- An operation that has run to its end: the registry that it found and left, what the agent was
called for, and the result. -/
structure Deed where
  op : Binding.Operation
  found : PortRegistry
  left : PortRegistry
  calls : List Call
  result : Except Error Unit

/-- What is done with a switch, one operation after the other. In between others may reserve and
release ports, and the agent gets on with what it does. -/
inductive Life (a : Agent σ) (first : Binding) : List Deed → Binding → Prop
  | new : Life a first [] first
  | deed {deeds : List Deed} {b b' : Binding} {op : Binding.Operation} {found left : PortRegistry}
      {calls : List Call} {result : Except Error Unit} {s s' : σ} :
      Life a first deeds b →
      b.Performs (Journaled.agent a) found ⟨[], s⟩ op result b' left ⟨calls, s'⟩ →
      Life a first (deeds ++ [⟨op, found, left, calls, result⟩]) b'

/-- A life is a run, in which nothing is given up. -/
theorem Life.run {a : Agent σ} {first b : Binding} {deeds : List Deed} (life : Life a first deeds b)
    (start : PortRegistry) :
    ∃ past r, Seat.Run Binding.machine (fun _ _ => True) (.idle first) start past (.idle b) r := by
  induction life with
  | new => exact ⟨[], start, .start⟩
  | deed _ performs ih =>
    obtain ⟨past, r, run⟩ := ih
    obtain ⟨later, event, next⟩ := performs.run
    exact ⟨_, _, (run.elsewhere trivial).trans next⟩

namespace Deed

open Binding Session.Journaled in
/-- All that an operation can do that runs to its end. -/
inductive Done : Binding → Deed → Binding → Prop
  | misplaced {b r op state} (required : op.required? = some state) (other : b.state ≠ state) :
      Done b ⟨op, r, r, [], .error (b.invalidState op.name)⟩ b
  | conflict {b r e err} (unbound : b.phase = .unbound)
      (taken : r.reserve b.switch e = .error err) :
      Done b ⟨.bind e, r, r, [], .error err⟩ (b.inPhase (.failed none))
  | listening {b r e q} (unbound : b.phase = .unbound) (granted : r.reserve b.switch e = .ok q) :
      Done b ⟨.bind e, r, q, [.checkEndpoint e (.ok ())], .ok ()⟩ (b.inPhase (.listening e))
  | occupied {b r e q cause} (unbound : b.phase = .unbound)
      (granted : r.reserve b.switch e = .ok q) :
      Done b ⟨.bind e, r, q.release b.switch e, [.checkEndpoint e (.error cause)],
        .error (.bindConflict b.switch e (foreignHolder cause))⟩ (b.inPhase (.failed none))
  | attached {b r e c} (listens : b.phase = .listening e) :
      Done b ⟨.attach c, r, r, [], .ok ()⟩ (b.inPhase (.attached e c false))
  | unlaunched {b r e c launched err} (attached : b.phase = .attached e c launched) :
      Done b ⟨.start, r, r, [.launch (b.launchOf e c) (.error err)], .error err⟩
        (b.inPhase (.failed (some (e, c))))
  | ready {b r e c launched answers} (attached : b.phase = .attached e c launched) :
      Done b ⟨.start, r, r,
        .launch (b.launchOf e c) (.ok ()) :: polls (b.launchOf e c) answers, .ok ()⟩
        (b.inPhase (.running e c))
  | unready {b r e c launched answers err} (attached : b.phase = .attached e c launched) :
      Done b ⟨.start, r, r,
        .launch (b.launchOf e c) (.ok ()) :: polls (b.launchOf e c) answers, .error err⟩
        (b.inPhase (.failed (some (e, c))))
  | atRest {b r} (stopped : b.phase = .stopped) : Done b ⟨.stop, r, r, [], .ok ()⟩ b
  | stopped {b r} (up : b.phase ≠ .stopped) (unlaunched : b.launched = false) :
      Done b ⟨.stop, r, (b.endStop r).2, [], .ok ()⟩ (b.endStop r).1
  | shutDown {b r result} (launched : b.launched = true) :
      Done b ⟨.stop, r, (b.endStop r).2, [.shutdown b.switch result], result⟩ (b.endStop r).1

variable {a : Agent σ} {b b' : Binding} {r q : PortRegistry} {s s' : σ} {calls : List Call}
  {result : Except Error Unit}

theorem done_of_bind {e : Endpoint}
    (performed : b.bind (Journaled.agent a) e r ⟨[], s⟩ = (result, b', q, ⟨calls, s'⟩)) :
    Done b ⟨.bind e, r, q, calls, result⟩ b' := by
  by_cases free : b.state = .unbound
  · have unbound := Binding.phase_of_unbound free
    simp only [Binding.bind, Binding.beginBind, unbound] at performed
    cases granted : r.reserve b.switch e with
    | error err =>
      rw [granted] at performed
      cases performed
      exact .conflict unbound granted
    | ok p =>
      rw [granted] at performed
      simp only [Journaled.agent] at performed
      cases checked : (a.checkEndpoint e s).1 with
      | error cause =>
        rw [checked] at performed
        cases performed
        exact .occupied unbound granted
      | ok =>
        rw [checked] at performed
        cases performed
        exact .listening unbound granted
  · simp only [Binding.bind, Binding.beginBind_misplaced free] at performed
    cases performed
    have required : (Binding.Operation.bind e).required? = some .unbound := rfl
    exact .misplaced required free

theorem done_of_attach {c : Endpoint} (performed : b.attach c = (result, b')) :
    Done b ⟨.attach c, r, r, [], result⟩ b' := by
  by_cases listens : b.state = .dataPlaneListening
  · obtain ⟨e, listening⟩ := Binding.phase_of_listening listens
    simp only [Binding.attach, listening] at performed
    cases performed
    exact .attached listening
  · rw [Binding.attach_misplaced listens] at performed
    cases performed
    have required : (Binding.Operation.attach c).required? = some .dataPlaneListening := rfl
    exact .misplaced required listens

theorem done_of_start {now time : Nat}
    (performed : b.start (Journaled.agent a) none now ⟨[], s⟩ =
      (some result, time, b', ⟨calls, s'⟩)) :
    Done b ⟨.start, r, r, calls, result⟩ b' := by
  by_cases ready : b.state = .controllerAttached
  · obtain ⟨e, c, launched, attached⟩ := Binding.phase_of_attached ready
    simp only [Binding.start, Binding.beginStart, attached] at performed
    split at performed
    next err j launching =>
      cases performed
      have called : calls = [.launch (b.launchOf e c) (.error err)] :=
        (Session.launch_calls launching).1
      rw [called]
      exact .unlaunched attached
    next j launching =>
      obtain ⟨answers, waited⟩ := Journaled.awaitReady_calls a (b.launchOf e c)
        (now + b.startupTimeout.waitTicks) now j
      -- However the wait ends, the journal then holds the launch and the polls of the one wait.
      rw [(Session.launch_calls launching).1] at waited
      dsimp only [Option.map_none, Option.getD_none] at performed
      split at performed
      next outcome _ j' awaited =>
        rw [awaited] at waited
        obtain ⟨_, inner⟩ := j'
        obtain rfl : _ = .launch (b.launchOf e c) (.ok ()) :: Journaled.polls _ answers := waited
        cases outcome with
        | ok =>
          cases performed
          exact .ready attached
        | error err =>
          cases performed
          exact .unready attached
      next _ j' awaited =>
        rw [awaited] at waited
        obtain ⟨_, inner⟩ := j'
        obtain rfl : _ = .launch (b.launchOf e c) (.ok ()) :: Journaled.polls _ answers := waited
        rw [if_neg (Nat.lt_irrefl _)] at performed
        cases performed
        exact .unready attached
  · simp only [Binding.start, Binding.beginStart_misplaced ready] at performed
    cases performed
    have required : Binding.Operation.start.required? = some .controllerAttached := rfl
    exact .misplaced required ready

theorem done_of_stop
    (performed : b.stop (Journaled.agent a) r ⟨[], s⟩ = (result, b', q, ⟨calls, s'⟩)) :
    Done b ⟨.stop, r, q, calls, result⟩ b' := by
  unfold Binding.stop at performed
  split at performed
  next stopped =>
    cases performed
    exact .atRest stopped
  next up =>
    cases launched : b.launched with
    | true =>
      rw [launched] at performed
      cases performed
      exact .shutDown launched
    | false =>
      rw [launched] at performed
      cases performed
      exact .stopped up launched

theorem done_of_performs {op : Binding.Operation}
    (performs : b.Performs (Journaled.agent a) r ⟨[], s⟩ op result b' q ⟨calls, s'⟩) :
    Done b ⟨op, r, q, calls, result⟩ b' := by
  cases performs with
  | bind performed => exact done_of_bind performed
  | attach performed => exact done_of_attach performed
  | start performed => exact done_of_start performed
  | stop performed => exact done_of_stop performed

end Deed

end Testbed
