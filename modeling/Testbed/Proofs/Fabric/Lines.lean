import Mathlib.Data.List.Forall2
import Testbed.Host.Script
import Testbed.Host.Template
import Testbed.Proofs.Fabric.Links
import Testbed.Session.HostTask

namespace Testbed

namespace Host

theorem Form.length_fill {template : List (Option String)} {names : List String}
    (enough : template.count none = names.length) :
    (fill template names).length = template.length := by
  induction template generalizing names with
  | nil => rfl
  | cons place rest ih =>
    cases place with
    | some word =>
      rw [List.count_cons_of_ne (by simp)] at enough
      simp [fill, ih enough]
    | none =>
      rw [List.count_cons_self] at enough
      cases names with
      | nil => simp at enough
      | cons name names =>
        rw [List.length_cons] at enough
        simp [fill, ih (Nat.add_right_cancel enough)]

namespace Command

theorem bare_words (c : Command) :
    c.words.map Word.bare = Form.fill c.form.words (c.names.map bare) := by
  cases c with
  | raise ns interface | deleteInterface ns interface => cases ns <;> rfl
  | _ => rfl

theorem count_open (c : Command) : c.form.words.count none = c.names.length := by
  cases c with
  | raise ns interface | deleteInterface ns interface => cases ns <;> rfl
  | _ => rfl

theorem tool_first (c : Command) :
    (c.words.map Word.bare).head? ∈ [some ipTool, some ethtool, some "command"] := by
  cases c with
  | raise ns interface | deleteInterface ns interface =>
    cases ns <;> simp [words, Word.bare, enterNamespace, plainWords]
  | _ => simp [words, Word.bare, enterNamespace, plainWords]

theorem readSimple_text {c : Command} (clean : ∀ name ∈ c.names, Clean name) :
    CommandLine.readSimple c.text = some (Form.fill c.form.words (c.names.map bare)) := by
  have free : (c.words.map Word.bare).head?.any
      (fun first => !CommandLine.reservedWords.contains first) = true := by
    have tool := tool_first c
    simp only [List.mem_cons, List.not_mem_nil, or_false] at tool
    rcases tool with tool | tool | tool <;> rw [tool] <;> decide
  rw [CommandLine.readSimple, read_text clean, Option.filter_some, if_pos free, bare_words]

end Command

namespace Shell

variable {σ : Type} (sh : Shell σ)

theorem noting_exec {line : String} (clean : Clean line) (t : List String × σ) :
    (sh.noting.exec line t).2.1 = t.1 ++ [line] := by
  have no_nul : line.toList.contains '\x00' = false := by simpa [Clean] using clean
  unfold exec noting
  rw [if_neg (by simpa using no_nul)]
  dsimp only
  cases (sh.run line t.2).1 <;> rfl

theorem execChecked_state (line : String) (s : σ) :
    (sh.execChecked line s).2 = (sh.exec line s).2 := by
  unfold execChecked
  split
  next ended =>
    rw [ended]
  next ended =>
    rw [ended]
    split <;> rfl

theorem requireTool_state (tool : String) (s : σ) :
    (sh.requireTool tool s).2 = (sh.exec (Command.findTool tool).text s).2 := by
  unfold requireTool
  split
  next ended => rw [ended]
  next ended => rw [ended]

end Shell

end Host

namespace HostTask

open Host Namespaces

variable {σ : Type}

def Notes (act : Action (List String × σ)) (c : Command) : Prop :=
  ∀ t, (act t).2.1 = t.1 ++ [c.text]

theorem run_notes (sh : Shell σ) {c : Command} (clean : ∀ name ∈ c.names, Clean name) :
    Notes (run sh.noting c) c := by
  intro t
  have state : (run sh.noting c t).2 = (sh.noting.exec c.text t).2 := by
    rw [← Shell.execChecked_state]
    unfold run
    split
    next ended => rw [ended]
    next ended => rw [ended]
  rw [state]
  exact sh.noting_exec (Command.text_clean_iff.mpr clean) t

theorem Notes.bestEffort {act : Action (List String × σ)} {c : Command} (notes : Notes act c) :
    Notes act.bestEffort c := notes

theorem offloads_notes (sh : Shell σ) {host interface : String} (cleanHost : Clean host)
    (cleanInterface : Clean interface) :
    Notes ((Ethtool.tuner sh.noting).disableOffloads host interface)
      (.disableOffloads host interface) := by
  intro t
  let c := Command.disableOffloads host interface
  have state : ((Ethtool.tuner sh.noting).disableOffloads host interface t).2 =
      (sh.noting.exec c.text t).2 := by
    rw [← Shell.execChecked_state]
    unfold Ethtool.tuner
    dsimp only
    split
    next ended => rw [ended]
    next ended => rw [ended]
  have clean : ∀ name ∈ c.names, Clean name := by
    have names : c.names = [host, interface] := rfl
    rw [names]
    simp [cleanHost, cleanInterface]
  rw [state]
  exact sh.noting_exec (Command.text_clean_iff.mpr clean) t

/-- Which lines a task may have issued of its commands: those of the first few, and at least one. -/
def Issued (commands : List Command) (lines : List String) : Prop :=
  ∃ issued, issued <+: commands ∧ (commands ≠ [] → issued ≠ []) ∧
    lines = issued.map Command.text

theorem Notes.issued {act : Action (List String × σ)} {c : Command} (notes : Notes act c) (s : σ) :
    Issued [c] (act ([], s)).2.1 :=
  ⟨[c], List.prefix_rfl, fun _ => by simp, notes ([], s)⟩

theorem sequence_notes {acts : List (Action (List String × σ))} {cs : List Command}
    (each : List.Forall₂ Notes acts cs) (t : List String × σ) :
    ∃ lines, Issued cs lines ∧ (Action.sequence acts t).2.1 = t.1 ++ lines := by
  induction each generalizing t with
  | nil => exact ⟨[], ⟨[], List.prefix_rfl, id, rfl⟩, (List.append_nil _).symm⟩
  | @cons act c acts cs first _ ih =>
    have noted := first t
    unfold Action.sequence
    split
    next t' went =>
      rw [went] at noted
      obtain ⟨_, ⟨issued, start, -, rfl⟩, lines⟩ := ih t'
      refine ⟨_, ⟨c :: issued, (List.prefix_cons_inj c).mpr start, fun _ => by simp, rfl⟩, ?_⟩
      rw [lines, noted, List.append_assoc]
      rfl
    next e t' failed =>
      rw [failed] at noted
      have start : [c] <+: c :: cs := (List.prefix_cons_inj c).mpr List.nil_prefix
      exact ⟨[c.text], ⟨[c], start, fun _ => by simp, rfl⟩, noted⟩

theorem sequence_issued {acts : List (Action (List String × σ))} {cs : List Command}
    (each : List.Forall₂ Notes acts cs) (s : σ) : Issued cs (Action.sequence acts ([], s)).2.1 := by
  obtain ⟨lines, issued, noted⟩ := sequence_notes each ([], s)
  rw [noted, List.nil_append]
  exact issued

theorem names_commands (task : HostTask) :
    ∀ c ∈ task.commands, ∀ name ∈ c.names, name ∈ task.names := by
  intro c listed name given
  cases task with
  | createNode n =>
    simp only [commands, List.mem_flatMap, List.mem_cons, List.not_mem_nil, or_false] at listed
    obtain ⟨ns, named, rfl | rfl | rfl⟩ := listed <;>
    · obtain rfl := List.mem_singleton.mp given
      exact named
  | createLink l nsA nsB =>
    simp only [commands, List.cons_append, List.mem_cons, List.mem_append] at listed
    rcases listed with rfl | first | second
    · simp only [Command.names_addPair, List.mem_cons, List.not_mem_nil, or_false] at given
      rcases given with rfl | rfl <;> simp [names]
    · rcases names_placement first given with rfl | inside
      · simp [names]
      · simp [names, inside]
    · rcases names_placement second given with rfl | inside
      · simp [names]
      · simp [names, inside]
  | teardownLink l nsA =>
    obtain rfl := List.mem_singleton.mp listed
    simpa [names, or_comm] using given
  | destroyNode n =>
    simp only [commands, List.mem_map] at listed
    obtain ⟨ns, named, rfl⟩ := listed
    obtain rfl := List.mem_singleton.mp given
    exact named
  | disableOffloads host interface =>
    obtain rfl := List.mem_singleton.mp listed
    exact given
  | requireTool tool =>
    obtain rfl := List.mem_singleton.mp listed
    exact given

theorem lines_issued (sh : Shell σ) (s : σ) {task : HostTask}
    (clean : ∀ name ∈ task.names, Clean name) : Issued task.commands (task.lines sh s) := by
  have ran {c : Command} (listed : c ∈ task.commands) : Notes (run sh.noting c) c :=
    run_notes sh fun name given => clean name (names_commands task c listed name given)
  unfold lines perform
  cases task with
  | createNode n =>
    simp only [fabric, Namespaces.createNode]
    cases named : n.namespace? with
    | none => exact ⟨[], List.nil_prefix, by simp [commands, named], rfl⟩
    | some ns =>
      have own : commands (createNode n) =
          [.deleteNamespace ns, .addNamespace ns, .raiseLoopback ns] := by
        simp [commands, named]
      rw [own] at ran ⊢
      dsimp only
      have deleted : Notes (attempt sh.noting (.deleteNamespace ns)) (.deleteNamespace ns) :=
        (ran (by simp)).bestEffort
      have added : Notes (run sh.noting (.addNamespace ns)) (.addNamespace ns) := ran (by simp)
      have raised : Notes (run sh.noting (.raiseLoopback ns)) (.raiseLoopback ns) := ran (by simp)
      exact sequence_issued (.cons deleted (.cons added (.cons raised .nil))) s
  | createLink l nsA nsB =>
    simp only [fabric, Namespaces.createLink]
    have own : commands (createLink l nsA nsB) = .addPair l.a.name l.b.name ::
        placement l.a.name nsA ++ placement l.b.name nsB := rfl
    rw [own] at ran ⊢
    apply sequence_issued
    rw [List.forall₂_map_left_iff, List.forall₂_same]
    intro c listed
    exact ran listed
  | teardownLink l nsA =>
    simp only [fabric, Namespaces.teardownLink]
    have noted : Notes (run sh.noting (.deleteInterface nsA l.a.name))
        (.deleteInterface nsA l.a.name) := ran (List.mem_singleton_self _)
    exact noted.issued s
  | destroyNode n =>
    simp only [fabric, Namespaces.destroyNode]
    cases named : n.namespace? with
    | none => exact ⟨[], List.nil_prefix, by simp [commands, named], rfl⟩
    | some ns =>
      have own : commands (destroyNode n) = [.deleteNamespace ns] := by
        simp [commands, named]
      rw [own] at ran ⊢
      dsimp only
      have noted : Notes (run sh.noting (.deleteNamespace ns)) (.deleteNamespace ns) :=
        ran (List.mem_singleton_self _)
      exact noted.issued s
  | disableOffloads host interface =>
    have noted :=
      offloads_notes sh (clean host (by simp [names])) (clean interface (by simp [names]))
    exact noted.issued s
  | requireTool tool =>
    refine ⟨[.findTool tool], List.prefix_rfl, fun _ => by simp, ?_⟩
    dsimp only
    rw [Shell.requireTool_state, sh.noting_exec]
    · rfl
    · exact Command.text_clean_iff.mpr clean

/-- Whatever the names in it are and whatever the shell answers, a task issues lines of its commands
only. The line of a command is read as a simple command of just as many words as its form has: the
fixed words, and in the open places the names without their newlines. -/
theorem lines_read (sh : Shell σ) (s : σ) {task : HostTask}
    (clean : ∀ name ∈ task.names, Clean name) :
    (∃ issued, issued <+: task.commands ∧ (task.commands ≠ [] → issued ≠ []) ∧
      task.lines sh s = issued.map Command.text ∧
      ∀ c ∈ issued, ∀ name ∈ c.names, name ∈ task.names ∧ Clean name) ∧
    ∀ c : Command, (∀ name ∈ c.names, Clean name) →
      CommandLine.readSimple c.text = some (Form.fill c.form.words (c.names.map bare)) ∧
        (Form.fill c.form.words (c.names.map bare)).length = c.form.words.length := by
  constructor
  · obtain ⟨issued, start, some_line, lines⟩ := lines_issued sh s clean
    refine ⟨issued, start, some_line, lines, fun c member name given => ?_⟩
    have listed := names_commands task c (start.subset member) name given
    exact ⟨listed, clean name listed⟩
  · intro c clean
    have enough : c.form.words.count none = (c.names.map bare).length := by
      rw [Command.count_open, List.length_map]
    exact ⟨Command.readSimple_text clean, Form.length_fill enough⟩

def hostileName : String := "x\"; reboot; $(id) `id` \\\n#"

def hostileTask : HostTask :=
  .createLink ⟨⟨hostileName, 0⟩, ⟨"s 1", 1⟩⟩ (some hostileName) none

theorem hostile_lines_read : (∀ name ∈ hostileTask.names, Clean name) ∧
    (∃ issued, issued <+: hostileTask.commands ∧ issued ≠ [] ∧
      hostileTask.lines (Script.shell []) [] = issued.map Command.text) ∧
    CommandLine.readSimple (Command.moveToNamespace (hostileName ++ "-eth0") hostileName).text =
      some ["/sbin/ip", "link", "set", "x\"; reboot; $(id) `id` \\#-eth0", "netns",
        "x\"; reboot; $(id) `id` \\#"] := by
  have clean : ∀ name ∈ hostileTask.names, Clean name := by
    unfold Clean
    decide
  obtain ⟨⟨issued, start, some_line, lines, _⟩, read⟩ := lines_read (Script.shell []) [] clean
  refine ⟨clean, ⟨issued, start, some_line (by decide), lines⟩, ?_⟩
  refine (read (.moveToNamespace (hostileName ++ "-eth0") hostileName) ?_).1
  unfold Clean
  decide

end HostTask

end Testbed
