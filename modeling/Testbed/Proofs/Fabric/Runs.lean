import Testbed.Fabric.Namespaces
import Testbed.Proofs.Host.Network
import Testbed.Proofs.Host.Reading

namespace Testbed.Namespaces

open Host

def FailedAt (c : Command) (e : Error) : Prop :=
  ∃ cause, e = .command cause ∧ cause.command? = some c.text

/-- What can come of a command. -/
inductive Ran (c : Command) (h : NetworkHost) : Except Error Unit × NetworkHost → Prop
  | done {network} (clean : ∀ name ∈ c.names, Clean name)
      (applied : h.network.apply c.heard = some network) :
      Ran c h (.ok (), ⟨network, h.commands + 1⟩)
  | failed {e h'} (at_command : FailedAt c e) (same : h'.network = h.network) :
      Ran c h (.error e, h')

inductive Went (cs : List Command) (h : NetworkHost) : Except Error Unit × NetworkHost → Prop
  | through {h'} (clean : ∀ c ∈ cs, ∀ name ∈ c.names, Clean name)
      (applied : h.network.applyAll (cs.map Command.heard) = some h'.network) :
      Went cs h (.ok (), h')
  | stopped {done c rest e h'} (split : cs = done ++ c :: rest) (at_command : FailedAt c e)
      (clean : ∀ c ∈ done, ∀ name ∈ c.names, Clean name)
      (applied : h.network.applyAll (done.map Command.heard) = some h'.network) :
      Went cs h (.error e, h')

section Shell

variable {refused : Nat → Command → Option Refusal}

theorem exec_clean {c : Command} (network : c.ofNetwork = true)
    (clean : ∀ name ∈ c.names, Clean name) (h : NetworkHost) :
    (NetworkHost.shell refused).exec c.text h =
      match refused h.commands c.heard with
      | some (.notStarted cause) =>
        (.error (.notStarted c.text cause), ⟨h.network, h.commands + 1⟩)
      | some (.failed code) =>
        (.ok (.ofFinished (NetworkHost.finished (code + 1))), ⟨h.network, h.commands + 1⟩)
      | none =>
        match h.network.apply c.heard with
        | none => (.ok (.ofFinished (NetworkHost.finished 1)), ⟨h.network, h.commands + 1⟩)
        | some network =>
            (.ok (.ofFinished (NetworkHost.finished 0)), ⟨network, h.commands + 1⟩) := by
  have no_nul : c.text.toList.contains '\x00' = false := by
    simpa [Clean] using Command.text_clean_iff.mpr clean
  have heard : (CommandLine.read c.text).bind Command.ofWords? = some c.heard := by
    rw [Command.read_text clean]
    exact Command.ofWords?_words network
  unfold Shell.exec NetworkHost.shell
  simp only [no_nul, heard, Bool.false_eq_true, if_false]
  cases refused h.commands c.heard with
  | none => cases h.network.apply c.heard <;> rfl
  | some refusal => cases refusal <;> rfl

theorem run_done (refused : Nat → Command → Option Refusal) {c : Command}
    (ofNetwork : c.ofNetwork = true) (clean : ∀ name ∈ c.names, Clean name) {h : NetworkHost}
    (allowed : refused h.commands c.heard = none) {network : Network}
    (applied : h.network.apply c.heard = some network) :
    run (NetworkHost.shell refused) c h = (.ok (), ⟨network, h.commands + 1⟩) := by
  unfold run Shell.execChecked
  rw [exec_clean ofNetwork clean, allowed, applied]
  rfl

theorem run_ran (refused : Nat → Command → Option Refusal) {c : Command}
    (ofNetwork : c.ofNetwork = true) (h : NetworkHost) :
    Ran c h (run (NetworkHost.shell refused) c h) := by
  have failed {cause : CommandError} {h' : NetworkHost} (named : cause.command? = some c.text)
      (same : h'.network = h.network) : Ran c h (.error (.command cause), h') :=
    .failed ⟨cause, rfl, named⟩ same
  by_cases clean : ∀ name ∈ c.names, Clean name
  · unfold run Shell.execChecked
    rw [exec_clean ofNetwork clean]
    cases refused h.commands c.heard with
    | some refusal =>
      cases refusal with
      | notStarted cause => exact failed rfl rfl
      | failed code =>
        have nonzero :
            (ExecResult.ofFinished (NetworkHost.finished (code + 1))).success = false := by
          simp only [ExecResult.success, ExecResult.ofFinished, NetworkHost.finished,
            ExitStatus.code]
          simp
          omega
        simp only [nonzero]
        exact failed rfl rfl
    | none =>
      cases applied : h.network.apply c.heard with
      | none => exact failed rfl rfl
      | some network => exact .done clean applied
  · have nul : c.text.toList.contains '\x00' = true := by
      simpa [Clean] using mt Command.text_clean_iff.mp clean
    unfold run Shell.execChecked Shell.exec
    rw [if_pos nul]
    exact failed rfl rfl

theorem sequence_went {cs : List Command} (ofNetwork : ∀ c ∈ cs, c.ofNetwork = true)
    (h : NetworkHost) :
    Went cs h (Action.sequence (cs.map (run (NetworkHost.shell refused))) h) := by
  induction cs generalizing h with
  | nil => exact .through (by simp) rfl
  | cons c rest ih =>
    have first := run_ran refused (ofNetwork c List.mem_cons_self) h
    rw [List.map_cons, Action.sequence]
    generalize run (NetworkHost.shell refused) c h = out at first
    cases first with
    | failed at_command same =>
      have split : c :: rest = [] ++ c :: rest := rfl
      exact .stopped split at_command (by simp) (congrArg some same.symm)
    | @done network clean applied =>
      have others := ih (fun d member => ofNetwork d (List.mem_cons_of_mem _ member))
        ⟨network, h.commands + 1⟩
      dsimp only
      generalize Action.sequence (rest.map (run (NetworkHost.shell refused)))
        ⟨network, h.commands + 1⟩ = out at others
      cases others with
      | through clean' applied' =>
        refine .through (List.forall_mem_cons.mpr ⟨clean, clean'⟩) ?_
        rw [List.map_cons, Network.applyAll_cons, applied]
        exact applied'
      | @stopped done d more e h' split at_command clean' applied' =>
        have split' : c :: rest = (c :: done) ++ d :: more := congrArg (c :: ·) split
        refine .stopped split' at_command
          (List.forall_mem_cons.mpr ⟨clean, clean'⟩) ?_
        rw [List.map_cons, Network.applyAll_cons, applied]
        exact applied'

theorem sequence_done (refused : Nat → Command → Option Refusal) {cs : List Command}
    (ofNetwork : ∀ c ∈ cs, c.ofNetwork = true) (clean : ∀ c ∈ cs, ∀ name ∈ c.names, Clean name)
    (allowed : ∀ k, ∀ c ∈ cs, refused k c.heard = none) {h : NetworkHost} {network : Network}
    (applied : h.network.applyAll (cs.map Command.heard) = some network) :
    ∃ h', Action.sequence (cs.map (run (NetworkHost.shell refused))) h = (.ok (), h') ∧
      h'.network = network := by
  induction cs generalizing h with
  | nil => exact ⟨h, rfl, Option.some.inj applied⟩
  | cons c rest ih =>
    rw [List.map_cons, Network.applyAll_cons] at applied
    obtain ⟨first, done, others⟩ := Option.bind_eq_some_iff.mp applied
    have ran := run_done refused (ofNetwork c List.mem_cons_self) (clean c List.mem_cons_self)
      (allowed h.commands c List.mem_cons_self) done
    obtain ⟨h', through, network⟩ := ih (h := ⟨first, h.commands + 1⟩)
      (fun d member => ofNetwork d (List.mem_cons_of_mem _ member))
      (fun d member => clean d (List.mem_cons_of_mem _ member))
      (fun k d member => allowed k d (List.mem_cons_of_mem _ member)) others
    refine ⟨h', ?_, network⟩
    rw [List.map_cons, Action.sequence, ran]
    exact through

end Shell

end Testbed.Namespaces
