import Mathlib.Data.List.Nodup
import Testbed.Agent.Errand
import Testbed.Proofs.Switch.Step

namespace Testbed.ChildProcess

open Host

variable {σ : Type} {ps : Processes σ} {c : AgentCommand}

namespace State

variable {s : State σ} {switch : String}

@[simp]
theorem child?_host (s : State σ) (host : σ) (switch : String) :
    child? ⟨host, s.children⟩ switch = s.child? switch := rfl

theorem child?_eq_none : s.child? switch = none ↔ switch ∉ s.children.map Prod.fst := by
  rw [child?, Option.map_eq_none_iff, List.find?_eq_none, List.mem_map]
  simp only [beq_iff_eq, not_exists, not_and]

theorem child?_track (untracked : s.child? switch = none) (pid : Nat) (other : String) :
    (s.track switch pid).child? other = if other = switch then some pid else s.child? other := by
  have absent : s.children.find? (·.1 == switch) = none := by simpa [child?] using untracked
  by_cases same : other = switch
  · subst same
    simp [child?, track, absent]
  · have apart : (switch == other) = false := by simpa using Ne.symm same
    simp [child?, track, same, apart]

theorem child?_untrack (s : State σ) (switch other : String) :
    (s.untrack switch).child? other = if other = switch then none else s.child? other := by
  unfold child? untrack
  rw [List.find?_filter]
  by_cases same : other = switch
  · subst same
    simp
  · rw [if_neg same]
    congr 2
    funext child
    by_cases its : child.1 = other <;> simp [its, same]

end State

def reapResult (switch : String) : Reaped → Except Error Unit
  | .exited _ => .ok ()
  | .failed cause => .error (.agent switch s!"failed to reap agent: {cause.text}")
  | .stillThere => .error (.agent switch s!"agent did not exit within {shutdownGrace.text}")

section Shutdown

variable {s : State σ} {switch : String} {pid : Nat} {seen : Except IoError (Option ExitStatus)}
  {host host' host'' : σ}

theorem shutdown_exited {status : ExitStatus} (tracked : s.child? switch = some pid)
    (asked : ps.status pid s.host = (.ok (some status), host)) :
    shutdown ps switch s = (.ok (), { s.untrack switch with host }) := by
  have asked : ps.status pid (s.untrack switch).host = (.ok (some status), host) := asked
  simp only [shutdown, tracked, asked]

theorem shutdown_unsignalled {cause : IoError} (tracked : s.child? switch = some pid)
    (asked : ps.status pid s.host = (seen, host)) (alive : ∀ status, seen ≠ .ok (some status))
    (killed : ps.kill pid host = (.error cause, host')) :
    shutdown ps switch s = (.error (.agent switch s!"failed to signal agent: {cause.text}"),
      { s.untrack switch with host := host' }) := by
  have asked : ps.status pid (s.untrack switch).host = (seen, host) := asked
  rcases seen with err | _ | status
  · simp only [shutdown, tracked, asked, killed]
  · simp only [shutdown, tracked, asked, killed]
  · exact absurd rfl (alive status)

theorem shutdown_reaped {reaped : Reaped} (tracked : s.child? switch = some pid)
    (asked : ps.status pid s.host = (seen, host)) (alive : ∀ status, seen ≠ .ok (some status))
    (killed : ps.kill pid host = (.ok (), host'))
    (waited : ps.reap pid shutdownGrace host' = (reaped, host'')) :
    shutdown ps switch s =
      (reapResult switch reaped, { s.untrack switch with host := host'' }) := by
  have asked : ps.status pid (s.untrack switch).host = (seen, host) := asked
  rcases seen with err | _ | status
  · cases reaped <;> simp only [shutdown, tracked, asked, killed, waited, reapResult]
  · cases reaped <;> simp only [shutdown, tracked, asked, killed, waited, reapResult]
  · exact absurd rfl (alive status)

end Shutdown

namespace Errand

/-- All that can come of an order. -/
inductive Done (c : AgentCommand) : Errand σ → Prop
  | alreadyRunning {l s pid} (tracked : s.child? l.switch = some pid) :
      Done c ⟨.launch l, s, s, [], .error (.agent l.switch "agent already running")⟩
  | unspawned {l s cause host} (untracked : s.child? l.switch = none) :
      Done c ⟨.launch l, s, { s with host }, [.spawn (program c l) (.error cause)],
        .error (.agent l.switch s!"failed to spawn {c.binary}: {cause.text}")⟩
  | spawned {l s pid host} (untracked : s.child? l.switch = none) :
      Done c ⟨.launch l, s, { s with host }.track l.switch pid,
        [.spawn (program c l) (.ok pid)], .ok ()⟩
  | unknown {switch s} (untracked : s.child? switch = none) :
      Done c ⟨.shutdown switch, s, s, [], .ok ()⟩
  | exited {switch s pid status host} (tracked : s.child? switch = some pid) :
      Done c ⟨.shutdown switch, s, { s.untrack switch with host },
        [.status pid (.ok (some status))], .ok ()⟩
  | unsignalled {switch s pid seen cause host} (tracked : s.child? switch = some pid)
      (alive : ∀ status, seen ≠ .ok (some status)) :
      Done c ⟨.shutdown switch, s, { s.untrack switch with host },
        [.status pid seen, .kill pid (.error cause)],
        .error (.agent switch s!"failed to signal agent: {cause.text}")⟩
  | reaped {switch s pid seen reaped host} (tracked : s.child? switch = some pid)
      (alive : ∀ status, seen ≠ .ok (some status)) :
      Done c ⟨.shutdown switch, s, { s.untrack switch with host },
        [.status pid seen, .kill pid (.ok ()), .reap pid shutdownGrace reaped],
        reapResult switch reaped⟩

theorem done_launch (ps : Processes σ) (c : AgentCommand) (l : Launch) (s : State σ) :
    (run ps c (.launch l) s).Done c := by
  have noted := s.child?_noted l.switch
  cases tracked : s.child? l.switch with
  | some pid =>
    simp only [run, Order.questions, Order.act, launch, noted, tracked]
    exact .alreadyRunning tracked
  | none =>
    simp only [run, Order.questions, Order.act, launch, noted, tracked, Processes.noting, note]
    cases spawned : ps.spawn (program c l) s.host with
    | mk answer host =>
      cases answer with
      | error cause =>
        simp only [State.noted, spawned]
        exact .unspawned tracked
      | ok pid =>
        simp only [State.noted, spawned]
        exact .spawned tracked

theorem done_shutdown (ps : Processes σ) (c : AgentCommand) (switch : String) (s : State σ) :
    (run ps c (.shutdown switch) s).Done c := by
  have noted := s.child?_noted switch
  simp only [run, Order.questions, Order.act]
  cases tracked : s.child? switch with
  | none =>
    simp only [shutdown, noted, tracked]
    exact .unknown tracked
  | some pid =>
    rw [tracked] at noted
    cases asked : ps.status pid s.host with
    | mk seen host =>
      have asked' : ps.noting.status pid s.noted.host = (seen, [.status pid seen], host) :=
        note_eq asked
      by_cases ended : ∃ status, seen = .ok (some status)
      · obtain ⟨status, rfl⟩ := ended
        rw [shutdown_exited tracked asked, shutdown_exited noted asked']
        exact .exited tracked
      · have alive (status : ExitStatus) : seen ≠ .ok (some status) := fun same =>
          ended ⟨status, same⟩
        cases killed : ps.kill pid host with
        | mk answer host' =>
          have killed' : ps.noting.kill pid ([.status pid seen], host) =
              (answer, [.status pid seen, .kill pid answer], host') := note_eq killed
          cases answer with
          | error cause =>
            rw [shutdown_unsignalled tracked asked alive killed,
              shutdown_unsignalled noted asked' alive killed']
            exact .unsignalled tracked alive
          | ok =>
            cases waited : ps.reap pid shutdownGrace host' with
            | mk reaped host'' =>
              have waited' : ps.noting.reap pid shutdownGrace
                  ([.status pid seen, .kill pid (.ok ())], host') =
                  (reaped, [.status pid seen, .kill pid (.ok ()),
                    .reap pid shutdownGrace reaped], host'') := note_eq waited
              rw [shutdown_reaped tracked asked alive killed waited,
                shutdown_reaped noted asked' alive killed' waited']
              exact .reaped tracked alive

theorem done_run (ps : Processes σ) (c : AgentCommand) (order : Order) (s : State σ) :
    (run ps c order s).Done c := by
  cases order with
  | launch l => exact done_launch ps c l s
  | shutdown switch => exact done_shutdown ps c switch s

variable {d : Errand σ} {past : List (Errand σ)} {switch : String}

theorem Done.apart (done : d.Done c) {other : String} (different : other ≠ d.order.switch) :
    d.left.child? other = d.found.child? other := by
  cases done with
  | alreadyRunning | unspawned | unknown => rfl
  | @spawned l s pid host untracked =>
    exact (State.child?_track (s := { s with host }) untracked pid other).trans (if_neg different)
  | exited | unsignalled | reaped =>
    exact (State.child?_untrack _ _ other).trans (if_neg different)

theorem Done.untracks (done : d.Done c) (ordered : d.order = .shutdown switch) :
    d.left.child? switch = none := by
  cases done with
  | alreadyRunning | unspawned | spawned => cases ordered
  | unknown untracked =>
    cases ordered
    exact untracked
  | exited | unsignalled | reaped =>
    cases ordered
    exact (State.child?_untrack _ _ _).trans (if_pos rfl)

theorem Done.launched (done : d.Done c) {l : Launch} (ordered : d.order = .launch l) :
    d.result = .ok () ∧ d.found.child? l.switch = none ∧ d.left.child? l.switch ≠ none ∨
      d.result ≠ .ok () ∧ d.left.child? l.switch = d.found.child? l.switch := by
  cases done with
  | alreadyRunning | unspawned =>
    cases ordered
    exact .inr ⟨nofun, rfl⟩
  | @spawned l s pid host untracked =>
    cases ordered
    have tracked := (State.child?_track (s := { s with host }) untracked pid l.switch).trans
      (if_pos rfl)
    exact .inl ⟨rfl, untracked, by simp [tracked]⟩
  | unknown | exited | unsignalled | reaped => cases ordered

theorem Done.balance (done : d.Done c) :
    (d.found.child? d.order.switch).toList ++ d.started =
      d.handed?.toList ++ (d.left.child? d.order.switch).toList := by
  cases done with
  | alreadyRunning tracked => simp [started, handed?, Order.switch, tracked]
  | unspawned untracked => simp [started, handed?, Order.switch, untracked, Question.spawned?]
  | @spawned l s pid host untracked =>
    have tracked := (State.child?_track (s := { s with host }) untracked pid l.switch).trans
      (if_pos rfl)
    simp [started, handed?, Order.switch, untracked, tracked, Question.spawned?]
  | unknown untracked => simp [started, handed?, Order.switch, untracked]
  | exited tracked | unsignalled tracked | reaped tracked =>
    simp [started, handed?, Order.switch, tracked, State.child?_untrack, Question.spawned?]

theorem Done.nodup (done : d.Done c) (nodup : (d.found.children.map Prod.fst).Nodup) :
    (d.left.children.map Prod.fst).Nodup := by
  cases done with
  | alreadyRunning | unspawned | unknown => exact nodup
  | @spawned l s pid host untracked =>
    rw [State.track, List.map_append, List.map_singleton, ← List.concat_eq_append]
    exact nodup.concat (State.child?_eq_none.mp untracked)
  | exited | unsignalled | reaped => exact nodup.sublist (List.filter_sublist.map Prod.fst)

theorem Done.proper (done : d.Done c) : d.Proper c where
  launch_tracked l ordered tracked := by
    cases done with
    | alreadyRunning =>
      cases ordered
      exact ⟨rfl, rfl, rfl⟩
    | unspawned untracked | spawned untracked =>
      cases ordered
      exact absurd untracked tracked
    | unknown | exited | unsignalled | reaped => cases ordered
  launch_untracked l ordered untracked := by
    cases done with
    | alreadyRunning tracked =>
      cases ordered
      rw [tracked] at untracked
      cases untracked
    | unspawned =>
      cases ordered
      exact ⟨_, rfl, by simp⟩
    | spawned =>
      cases ordered
      exact ⟨_, rfl, by simp⟩
    | unknown | exited | unsignalled | reaped => cases ordered
  spawn_failed p cause refused := by
    cases done with
    | unspawned => rfl
    | alreadyRunning | spawned | unknown | exited | unsignalled | reaped => simp at refused
  apart other different := done.apart different
  untracks switch ordered := done.untracks ordered
  shutdown_unknown switch ordered untracked := by
    cases done with
    | alreadyRunning | unspawned | spawned => cases ordered
    | unknown => exact ⟨rfl, rfl, rfl⟩
    | exited tracked | unsignalled tracked | reaped tracked =>
      cases ordered
      rw [tracked] at untracked
      cases untracked
  ends pid handed := by
    cases done with
    | alreadyRunning | unspawned | spawned => cases handed
    | unknown untracked => cases untracked.symm.trans handed
    | exited tracked =>
      cases tracked.symm.trans handed
      exact .inl ⟨_, rfl⟩
    | unsignalled tracked alive =>
      cases tracked.symm.trans handed
      exact .inr ⟨_, _, [], rfl, alive, nofun⟩
    | reaped tracked alive =>
      cases tracked.symm.trans handed
      exact .inr ⟨_, _, _, rfl, alive, List.forall_mem_singleton.mpr ⟨_, rfl⟩⟩

theorem standing_snoc : Standing switch (past ++ [d]) ↔
    (∃ l, d.order = .launch l ∧ l.switch = switch ∧ d.result = .ok ()) ∨
      Standing switch past ∧ d.order ≠ .shutdown switch := by
  constructor
  · rintro ⟨before, e, after, l, parted, launched, its, done, unended⟩
    rcases snoc_eq_append_cons.mp parted with ⟨rfl, rfl, rfl⟩ | ⟨middle, rfl, earlier⟩
    · exact .inl ⟨l, launched, its, done⟩
    · have later := List.forall_mem_append.mp unended
      exact .inr ⟨⟨before, e, middle, l, earlier, launched, its, done, later.1⟩,
        later.2 d (List.mem_singleton_self d)⟩
  · rintro (⟨l, launched, its, done⟩ | ⟨standing, other⟩)
    · exact ⟨past, d, [], l, rfl, launched, its, done, nofun⟩
    · obtain ⟨before, e, after, l, rfl, launched, its, done, unended⟩ := standing
      refine ⟨before, e, after ++ [d], l, by simp, launched, its, done, ?_⟩
      exact List.forall_mem_append.mpr ⟨unended, List.forall_mem_singleton.mpr other⟩

theorem Done.tracked_iff (done : d.Done c) : d.left.child? switch ≠ none ↔
    (∃ l, d.order = .launch l ∧ l.switch = switch ∧ d.result = .ok ()) ∨
      d.found.child? switch ≠ none ∧ d.order ≠ .shutdown switch := by
  cases ordered : d.order with
  | shutdown name =>
    by_cases its : switch = name
    · subst its
      simp [done.untracks ordered]
    · have same : d.left.child? switch = d.found.child? switch := by
        apply done.apart
        rw [ordered]
        exact its
      simp [same, Ne.symm its]
  | launch l =>
    by_cases its : l.switch = switch
    · subst its
      rcases done.launched ordered with ⟨ok, untracked, tracked⟩ | ⟨failed, same⟩
      · simp [ok, tracked]
      · simp [failed, same]
    · have same : d.left.child? switch = d.found.child? switch := by
        apply done.apart
        rw [ordered]
        exact Ne.symm its
      simp [same, its]

theorem ofSwitch_concat (switch : String) (past : List (Errand σ)) (d : Errand σ) :
    ofSwitch switch (past ++ [d]) =
      if d.order.switch = switch then ofSwitch switch past ++ [d] else ofSwitch switch past := by
  by_cases its : d.order.switch = switch <;> simp [ofSwitch, its]

end Errand

namespace History

open Errand

variable {past : List (Errand σ)} {s : State σ}

theorem started_eq (history : History ps c past s) (switch : String) :
    startedFor switch past = handedFor switch past ++ (s.child? switch).toList := by
  induction history with
  | start host => rfl
  | elsewhere host _ ih => exact ih
  | @errand past s order _ ih =>
    have done := done_run ps c order s
    have found : (run ps c order s).found = s := rfl
    have left : (run ps c order s).left = (order.act ps c s).2 := rfl
    generalize run ps c order s = d at done found left
    subst found
    rw [startedFor, handedFor, ofSwitch_concat, ← left]
    by_cases its : d.order.switch = switch
    · subst its
      have handed : [d].filterMap handed? = d.handed?.toList := by
        cases seen : d.handed? <;> simp [seen]
      rw [if_pos rfl, List.flatMap_append, List.filterMap_append, ← startedFor, ← handedFor, ih,
        List.flatMap_singleton, handed, List.append_assoc, List.append_assoc, done.balance]
    · rw [if_neg its, done.apart (Ne.symm its)]
      exact ih

theorem tracked_iff (history : History ps c past s) (switch : String) :
    s.child? switch ≠ none ↔ Standing switch past := by
  induction history with
  | start host => simp [Standing, State.child?]
  | elsewhere host _ ih => exact ih
  | @errand past s order _ ih =>
    rw [standing_snoc, ← ih]
    exact (done_run ps c order s).tracked_iff

theorem nodup (history : History ps c past s) : (s.children.map Prod.fst).Nodup := by
  induction history with
  | start host => exact .nil
  | elsewhere host _ ih => exact ih
  | @errand past s order _ ih => exact (done_run ps c order s).nodup ih

/-- Every process that was started for a switch was handed to one of its shutdowns, each to its
own and in order, except for the last if that is tracked still; and a switch is tracked just if it
was launched and not shut down since. -/
theorem processes_accounted (history : History ps c past s) :
    (∀ switch, startedFor switch past = handedFor switch past ++ (s.child? switch).toList) ∧
    (∀ switch, s.child? switch ≠ none ↔ Standing switch past) ∧
    (s.children.map Prod.fst).Nodup ∧
    ∀ before d after, past = before ++ d :: after →
      History ps c before d.found ∧ d = .run ps c d.order d.found ∧ d.Proper c := by
  refine ⟨history.started_eq, history.tracked_iff, history.nodup, ?_⟩
  induction history with
  | start host =>
    intro before d after parted
    simp at parted
  | elsewhere host _ ih => exact ih
  | @errand past s order earlier ih =>
    intro before d after parted
    rcases snoc_eq_append_cons.mp parted with ⟨rfl, rfl, rfl⟩ | ⟨middle, rfl, same⟩
    · exact ⟨earlier, rfl, (done_run ps c order s).proper⟩
    · exact ih before d middle same

def frail : Processes Nat where
  spawn _ attempts := (if attempts % 2 = 0 then .ok attempts else .error (.os 12), attempts + 1)
  status _ attempts := (.ok none, attempts)
  kill _ attempts := (.error (.os 1), attempts)
  reap _ _ attempts := (.stillThere, attempts)
  connects _ attempts := (false, attempts)
  checkFree _ attempts := (.ok (), attempts)

def frailOrders : List Order :=
  [.launch ⟨"s1", 1, .any 50051, .any 6653, []⟩, .launch ⟨"s1", 1, .any 50051, .any 6653, []⟩,
    .shutdown "s1", .launch ⟨"s1", 1, .any 50051, .any 6653, []⟩,
    .launch ⟨"s2", 2, .any 50052, .any 6653, []⟩]

theorem frail_accounted : ∃ past s, History frail .default past s ∧
    startedFor "s1" past = [0] ∧ handedFor "s1" past = [0] ∧
    startedFor "s2" past = [2] ∧ handedFor "s2" past = [] ∧
    Standing "s2" past ∧ ¬ Standing "s1" past := by
  have fresh : History frail .default [] ⟨0, []⟩ := .start 0
  have history := fresh.carried frailOrders
  obtain ⟨started, tracked, _, _⟩ := history.processes_accounted
  have gone : (carryOut frail .default frailOrders ⟨0, []⟩).2.child? "s1" = none := by decide
  have there : (carryOut frail .default frailOrders ⟨0, []⟩).2.child? "s2" = some 2 := by decide
  have first := started "s1"
  have second := started "s2"
  rw [gone] at first
  rw [there] at second
  refine ⟨_, _, history, by decide, ?_, by decide, ?_, (tracked "s2").mp ?_, fun standing => ?_⟩
  · exact ((List.append_nil _).symm.trans first.symm).trans (by decide)
  · exact List.append_cancel_right
      ((second.symm.trans (by decide)).trans (List.nil_append [2]).symm)
  · rw [there]
    nofun
  · exact (tracked "s1").mpr standing gone

end History

end Testbed.ChildProcess
