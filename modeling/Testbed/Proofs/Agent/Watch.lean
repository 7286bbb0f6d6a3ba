import Testbed.Agent.Watch
import Testbed.Proofs.Switch.Step

namespace Testbed

namespace Binding

theorem start_launched {σ : Type} {a : Agent σ} {b : Binding} {e controller : Endpoint}
    {marked : Bool} {now time : Nat} {s t u : σ} {outcome : Option (Except Error Unit)}
    (attached : b.phase = .attached e controller marked)
    (launched : a.launch (b.launchOf e controller) s = (.ok (), t))
    (waited : a.awaitReady (b.launchOf e controller) (now + b.startupTimeout.waitTicks) now t =
      (outcome, time, u)) :
    b.start a none now s =
      let result := outcome.getD (.error (.startupTimeout b.switch e b.startupTimeout))
      (some result, time, (b.endStart (b.launchOf e controller) result).2, u) := by
  simp only [start, beginStart, attached, launched, Option.map_none, Option.getD_none, waited]
  rcases outcome with _ | err | _
  · simp only [Nat.lt_irrefl, ↓reduceIte]
    rfl
  · rfl
  · rfl

theorem start_unlaunched {σ : Type} {a : Agent σ} {b : Binding} {e controller : Endpoint}
    {marked : Bool} {s t : σ} {err : Error} (attached : b.phase = .attached e controller marked)
    (refused : a.launch (b.launchOf e controller) s = (.error err, t)) (now : Nat) :
    b.start a none now s =
      (some (.error err), now, (b.endStart (b.launchOf e controller) (.error err)).2, t) := by
  simp only [start, beginStart, attached, refused]
  rfl

theorem endStart_running_iff {b : Binding} {l : Launch} {result : Except Error Unit} :
    (b.endStart l result).2.state = .running ↔ result = .ok () := by
  cases result <;> simp [endStart, state]

theorem result_shown {σ : Type} {out : Option (Except Error Unit) × Nat × Binding × σ} {b : Binding}
    {l : Launch} {result : Except Error Unit} {time : Nat} {u : σ}
    (done : out = (some result, time, (b.endStart l result).2, u)) :
    out.1 = some result ∧ (out.2.2.1.state = .running ↔ result = .ok ()) ∧
      ∀ err, result = .error err → out.2.2.1.state = .failed := by
  subst done
  refine ⟨rfl, endStart_running_iff, fun err failed => ?_⟩
  subst failed
  rfl

end Binding

namespace ChildProcess

open Host

variable {σ : Type}

def View.readiness (switch : String) (interval : Duration) : View → Readiness
  | .round r =>
    match r.check.complaint? with
    | some message => .settled (.error (.agent switch message))
    | none => if r.connected then .settled (.ok ()) else .again interval
  | .late after => .again after
  | .lost => .never

theorem View.isOpen_iff {v : View} {switch : String} {interval : Duration} :
    v.IsOpen ↔ ∃ after, v.readiness switch interval = .again after := by
  cases v with
  | late | lost => simp [IsOpen, readiness]
  | round r =>
    obtain ⟨connected, found⟩ := r
    cases found <;> cases connected <;> simp [IsOpen, readiness, Check.complaint?]

theorem ensureAlive_eq (ps : Processes σ) (switch : String) (s : State σ) :
    ensureAlive ps switch s =
      (match (check ps switch s).1.complaint? with
        | some message => .error (.agent switch message)
        | none => .ok (), (check ps switch s).2) := by
  cases tracked : s.child? switch with
  | none => simp only [ensureAlive, check, tracked, Check.complaint?]
  | some pid =>
    rcases asked : ps.status pid s.host with ⟨cause | _ | status, host⟩ <;>
      simp only [ensureAlive, check, tracked, asked, Check.complaint?]

theorem poll_eq (ps : Processes σ) (interval : Duration) (l : Launch) (s : State σ) :
    poll ps interval l s =
      ((View.round (round ps l s).1).readiness l.switch interval, (round ps l s).2) := by
  simp only [poll, round, ensureAlive_eq, View.readiness]
  cases (check ps l.switch _).1.complaint? <;> rfl

namespace Watch

variable {w : Watch σ} {c : AgentCommand} {now deadline n : Nat}

def polls (w : Watch σ) (n : Nat) (s : State σ) : Readiness × State σ :=
  ((w.look n s).1.readiness w.launch.switch w.interval, (w.look n s).2)

def outcome? (w : Watch σ) (now deadline : Nat) : Option (Except Error Unit) :=
  (Agent.await w.polls deadline 0 now w.begun).1

theorem poll_amid (w : Watch σ) (c : AgentCommand) :
    ((agent w.processes c w.interval).amid w.around).poll w.launch = w.polls := by
  funext n s
  simp only [Agent.amid, agent, polls, look, poll_eq]
  cases w.around.reply n <;> rfl

theorem instant_le (w : Watch σ) (now n : Nat) : w.instant now n ≤ w.instant now (n + 1) :=
  Nat.le_add_right _ _

theorem Comes.earlier (comes : w.Comes now deadline (n + 1)) : w.Comes now deadline n :=
  ⟨fun m less => comes.1 m (by omega), Nat.le_trans (w.instant_le now n) comes.2⟩

theorem Comes.later (comes : w.Comes now deadline n) (isOpen : (w.view n).IsOpen)
    (soon : w.instant now (n + 1) ≤ deadline) : w.Comes now deadline (n + 1) := by
  refine ⟨fun m less => ?_, soon⟩
  rcases Nat.lt_succ_iff_lt_or_eq.mp less with before | rfl
  · exact comes.1 m before
  · exact isOpen

theorem instant_succ {after : Duration}
    (again : (w.view n).readiness w.launch.switch w.interval = .again after) :
    w.instant now (n + 1) = w.instant now n + Agent.pause after := by
  rw [instant]
  cases seen : w.view n with
  | late d =>
    rw [seen] at again
    cases again
    rfl
  | lost =>
    rw [seen] at again
    cases again
  | round r =>
    obtain rfl := View.isOpen_iff.mpr ⟨after, seen ▸ again⟩
    rw [seen] at again
    cases again
    rfl

theorem await_comes (comes : w.Comes now deadline n) :
    Agent.await w.polls deadline 0 now w.begun =
      Agent.await w.polls deadline n (w.instant now n) (w.found n) := by
  induction n with
  | zero => rfl
  | succ n ih =>
    obtain ⟨after, again⟩ := View.isOpen_iff.mp (comes.1 n (by omega))
    have answer : w.polls n (w.found n) = (.again after, w.found (n + 1)) :=
      Prod.ext again rfl
    have next : w.instant now (n + 1) = w.instant now n + Agent.pause after := instant_succ again
    have soon := comes.2
    rw [next] at soon
    rw [ih comes.earlier, Agent.await, answer, next]
    exact dif_pos soon

theorem outcome_settled {result : Except Error Unit} (comes : w.Comes now deadline n)
    (settled : (w.view n).readiness w.launch.switch w.interval = .settled result) :
    w.outcome? now deadline = some result := by
  have answer : w.polls n (w.found n) = (.settled result, w.found (n + 1)) := Prod.ext settled rfl
  rw [outcome?, await_comes comes, Agent.await, answer]

theorem await_unsettled (comes : w.Comes now deadline n)
    (unsettled : ∀ m, w.Comes now deadline m → ∀ result,
      (w.view m).readiness w.launch.switch w.interval ≠ .settled result) :
    (Agent.await w.polls deadline n (w.instant now n) (w.found n)).1 = none := by
  -- Each poll that is repeated comes later, and so the time that is left gets less.
  induction left : deadline + 1 - w.instant now n using Nat.strongRecOn generalizing n with
  | ind left ih =>
    cases answer : (w.view n).readiness w.launch.switch w.interval with
    | settled result => exact absurd answer (unsettled n comes result)
    | never =>
      have answer : w.polls n (w.found n) = (.never, w.found (n + 1)) := Prod.ext answer rfl
      rw [Agent.await, answer]
    | again after =>
      have next : w.instant now (n + 1) = w.instant now n + Agent.pause after :=
        instant_succ answer
      have isOpen := View.isOpen_iff.mpr ⟨after, answer⟩
      have answer : w.polls n (w.found n) = (.again after, w.found (n + 1)) := Prod.ext answer rfl
      rw [Agent.await, answer]
      by_cases soon : w.instant now n + Agent.pause after ≤ deadline
      · have progress := Agent.pause_pos after
        simp only [soon, ↓reduceDIte]
        rw [← next]
        apply ih (deadline + 1 - w.instant now (n + 1)) (by omega)
          (comes.later isOpen (by omega)) rfl
      · simp only [soon, ↓reduceDIte]

theorem readiness_of_sees {r : Round} (sees : w.Sees now deadline n r) :
    (w.view n).readiness w.launch.switch w.interval =
      (View.round r).readiness w.launch.switch w.interval := by
  rw [sees.2]

theorem settled_cases {result : Except Error Unit} (comes : w.Comes now deadline n)
    (settled : (w.view n).readiness w.launch.switch w.interval = .settled result) :
    (result = .ok () ∧ w.Sees now deadline n ⟨true, .alive⟩) ∨
      ∃ r message, w.Sees now deadline n r ∧ r.check.complaint? = some message ∧
        result = .error (.agent w.launch.switch message) := by
  cases seen : w.view n with
  | late | lost =>
    rw [seen] at settled
    cases settled
  | round r =>
    rw [seen] at settled
    obtain ⟨connected, found⟩ := r
    cases complaint : found.complaint? with
    | some message =>
      simp only [View.readiness, complaint] at settled
      cases settled
      exact .inr ⟨_, message, ⟨comes, seen⟩, complaint, rfl⟩
    | none =>
      cases found <;> cases complaint
      cases connected
      · cases settled
      · cases settled
        exact .inl ⟨rfl, comes, seen⟩

theorem outcome_cases (w : Watch σ) {now deadline : Nat} (begun : now ≤ deadline) :
    (∃ n result, w.Comes now deadline n ∧
      (w.view n).readiness w.launch.switch w.interval = .settled result ∧
      w.outcome? now deadline = some result) ∨
    (∀ n, w.Comes now deadline n → ∀ result,
      (w.view n).readiness w.launch.switch w.interval ≠ .settled result) ∧
      w.outcome? now deadline = none := by
  have first : w.Comes now deadline 0 := ⟨fun m less => absurd less (Nat.not_lt_zero m), begun⟩
  by_cases settles : ∃ n result, w.Comes now deadline n ∧
      (w.view n).readiness w.launch.switch w.interval = .settled result
  · obtain ⟨n, result, comes, settled⟩ := settles
    exact .inl ⟨n, result, comes, settled, outcome_settled comes settled⟩
  · have unsettled (n : Nat) (comes : w.Comes now deadline n) (result : Except Error Unit) :
        (w.view n).readiness w.launch.switch w.interval ≠ .settled result := fun settled =>
      settles ⟨n, result, comes, settled⟩
    exact .inr ⟨unsettled, await_unsettled first unsettled⟩

theorem outcome_ok_iff (w : Watch σ) {now deadline : Nat} (begun : now ≤ deadline) :
    w.outcome? now deadline = some (.ok ()) ↔ ∃ n, w.Sees now deadline n ⟨true, .alive⟩ := by
  constructor
  · intro success
    rcases w.outcome_cases begun with ⟨n, result, comes, settled, outcome⟩ | ⟨-, outcome⟩
    · rcases settled_cases comes settled with ⟨-, sees⟩ | ⟨_, _, _, _, rfl⟩
      · exact ⟨n, sees⟩
      · cases outcome.symm.trans success
    · cases outcome.symm.trans success
  · rintro ⟨n, sees⟩
    exact outcome_settled sees.1 (readiness_of_sees sees)

theorem outcome_complaint {r : Round} {message : String} (sees : w.Sees now deadline n r)
    (complaint : r.check.complaint? = some message) :
    w.outcome? now deadline = some (.error (.agent w.launch.switch message)) := by
  apply outcome_settled sees.1
  rw [readiness_of_sees sees, View.readiness, complaint]

theorem outcome_none (w : Watch σ) {now deadline : Nat} (begun : now ≤ deadline)
    (waiting : ∀ n r, w.Sees now deadline n r → r = ⟨false, .alive⟩) :
    w.outcome? now deadline = none := by
  rcases w.outcome_cases begun with ⟨n, result, comes, settled, -⟩ | ⟨-, outcome⟩
  · rcases settled_cases comes settled with ⟨-, sees⟩ | ⟨r, message, sees, complaint, -⟩
    · cases waiting n _ sees
    · rw [waiting n r sees] at complaint
      cases complaint
  · exact outcome

end Watch

theorem start_result {b : Binding} {e controller : Endpoint} {marked : Bool}
    (attached : b.phase = .attached e controller marked) (ps : Processes σ) (c : AgentCommand)
    (interval : Duration) (around : Agent.Surroundings (State σ)) (now : Nat) (s : State σ) :
    let l := b.launchOf e controller
    let launched := launch ps c l s
    let w : Watch σ := ⟨ps, interval, around, l, launched.2⟩
    let waited := w.outcome? now (now + b.startupTimeout.waitTicks)
    ∃ result time u, b.start ((agent ps c interval).amid around) none now s =
        (some result, time, (b.endStart l result).2, u) ∧
      ((∃ err, launched.1 = .error err ∧ result = .error err) ∨
        launched.1 = .ok () ∧
          result = waited.getD (.error (.startupTimeout b.switch e b.startupTimeout))) := by
  intro l launched w waited
  rcases tried : launch ps c l s with ⟨err | _, t⟩
  · have refused : launched.1 = .error err := congrArg Prod.fst tried
    exact ⟨_, _, _, Binding.start_unlaunched attached tried now, .inl ⟨err, refused, rfl⟩⟩
  · have ok : launched.1 = .ok () := congrArg Prod.fst tried
    have begun : w.begun = t := congrArg Prod.snd tried
    have same : ((agent ps c interval).amid around).awaitReady l
        (now + b.startupTimeout.waitTicks) now t =
          Agent.await w.polls (now + b.startupTimeout.waitTicks) 0 now w.begun := by
      rw [Agent.awaitReady, begun]
      exact congrArg (Agent.await · _ _ _ _) (w.poll_amid c)
    exact ⟨_, _, _, Binding.start_launched attached tried same, .inr ⟨ok, rfl⟩⟩

/-- A start of an attached switch leads to a running one just if its launch succeeds and a poll
that comes in time is answered at the data plane and then finds the switch's own process alive,
where all polls before have found it alive without an answer. A process that is found otherwise
first fails the start, and so does the startup timeout where no poll decides. No other switch can
be started. -/
theorem start_decided (b : Binding) (ps : Processes σ) (c : AgentCommand) (interval : Duration)
    (around : Agent.Surroundings (State σ)) (now : Nat) (s : State σ) :
    let out := b.start ((agent ps c interval).amid around) none now s
    let Fails (err : Error) : Prop := out.1 = some (.error err) ∧ out.2.2.1.state = .failed
    (b.state ≠ .controllerAttached → out = (some (.error (b.invalidState "start")), now, b, s)) ∧
    ∀ e controller marked, b.phase = .attached e controller marked →
      let l := b.launchOf e controller
      let launched := launch ps c l s
      let w : Watch σ := ⟨ps, interval, around, l, launched.2⟩
      let deadline := now + b.startupTimeout.waitTicks
      (∀ err, launched.1 = .error err → Fails err) ∧
      (out.2.2.1.state = .running ↔
        launched.1 = .ok () ∧ ∃ n, w.Sees now deadline n ⟨true, .alive⟩) ∧
      (out.1 = some (.ok ()) ↔ out.2.2.1.state = .running) ∧
      (launched.1 = .ok () →
        (∀ n r message, w.Sees now deadline n r → r.check.complaint? = some message →
          Fails (.agent b.switch message)) ∧
        ((∀ n r, w.Sees now deadline n r → r = ⟨false, .alive⟩) →
          Fails (.startupTimeout b.switch e b.startupTimeout))) := by
  intro out Fails
  refine ⟨fun misplaced => ?_, fun e controller marked attached => ?_⟩
  · show b.start _ none now s = _
    rw [Binding.start, Binding.beginStart_misplaced misplaced]
  intro l launched w deadline
  obtain ⟨result, time, u, done, cause⟩ := start_result attached ps c interval around now s
  have shown : out.1 = some result ∧ (out.2.2.1.state = .running ↔ result = .ok ()) ∧
      ∀ err, result = .error err → out.2.2.1.state = .failed := Binding.result_shown done
  obtain ⟨returned, running, failed⟩ := shown
  have success : out.1 = some (.ok ()) ↔ out.2.2.1.state = .running := by
    rw [running, returned, Option.some.injEq]
  have fails {err : Error} (same : result = .error err) : Fails err :=
    ⟨returned.trans (congrArg some same), failed err same⟩
  rcases cause with ⟨err, refused, same⟩ | ⟨ok, waited⟩
  · refine ⟨fun other refused' => ?_, ?_, success, fun ok => ?_⟩
    · cases refused.symm.trans refused'
      exact fails same
    · rw [running, same, refused]
      simp
    · cases refused.symm.trans ok
  · have begun : now ≤ deadline := Nat.le_add_right now _
    have ready : result = .ok () ↔ w.outcome? now deadline = some (.ok ()) := by
      rw [waited]
      cases w.outcome? now deadline <;> simp
    refine ⟨fun err refused => ?_, ?_, success, fun _ => ⟨?_, fun waiting => ?_⟩⟩
    · cases ok.symm.trans refused
    · rw [running, ready, w.outcome_ok_iff begun]
      exact ⟨fun sees => ⟨ok, sees⟩, And.right⟩
    · intro n r message sees complaint
      apply fails
      rw [waited, Watch.outcome_complaint sees complaint]
      rfl
    · apply fails
      rw [waited, w.outcome_none begun waiting]
      rfl

def answered (found : Option ExitStatus) : Processes Unit where
  spawn _ _ := (.ok 7, ())
  status _ _ := (.ok found, ())
  kill _ _ := (.ok (), ())
  reap _ _ _ := (.stillThere, ())
  connects _ _ := (true, ())
  checkFree _ _ := (.ok (), ())

theorem answered_decided :
    let b : Binding := ⟨"s1", 1, [], .ofSeconds 5, .attached (.any 50051) (.any 6653) false⟩
    let start (found : Option ExitStatus) :=
      b.start (agent (answered found) .default (.ofSeconds 1)) none 0 ⟨(), []⟩
    (start none).2.2.1.state = .running ∧
    (start (some (.exited 1))).1 =
      some (.error (.agent "s1" "agent exited with exit status: 1 before becoming ready")) ∧
    (start (some (.exited 1))).2.2.1.state = .failed := by
  intro b start
  have decided (found : Option ExitStatus) :=
    (start_decided b (answered found) .default (.ofSeconds 1) .quiet 0 ⟨(), []⟩).2 _ _ _ rfl
  have first {r : Round} {w : Watch Unit} {deadline : Nat} (seen : w.view 0 = .round r) :
      w.Sees 0 deadline 0 r := by
    refine ⟨⟨fun m less => ?_, Nat.zero_le _⟩, seen⟩
    exact absurd less (Nat.not_lt_zero m)
  have alive := (decided none).2.1.mpr ⟨rfl, 0, first rfl⟩
  have gone := ((decided (some (.exited 1))).2.2.2 rfl).1 0 ⟨true, .exited (.exited 1)⟩ _
    (first rfl) rfl
  simp only [Agent.amid_quiet] at alive gone
  exact ⟨alive, gone⟩

end ChildProcess

end Testbed
