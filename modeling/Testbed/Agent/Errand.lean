import Testbed.Agent.ChildProcess
import Testbed.Host.ProcessNotes

namespace Testbed.ChildProcess

open Host

variable {σ : Type}

def State.noted (s : State σ) : State (List Question × σ) := ⟨([], s.host), s.children⟩

theorem State.child?_noted (s : State σ) (switch : String) :
    s.noted.child? switch = s.child? switch := rfl

inductive Order where
  | launch (l : Launch)
  | shutdown (switch : String)
deriving DecidableEq, Repr

namespace Order

def switch : Order → String
  | launch l => l.switch
  | shutdown switch => switch

def act (ps : Processes σ) (c : AgentCommand) : Order → Action (State σ)
  | launch l => ChildProcess.launch ps c l
  | shutdown switch => ChildProcess.shutdown ps switch

def questions (ps : Processes σ) (c : AgentCommand) (order : Order) (s : State σ) : List Question :=
  (order.act ps.noting c s.noted).2.host.1

end Order

/-- An order that was carried out: what it found and left, what the host was asked, the result. -/
structure Errand (σ : Type) where
  order : Order
  found : State σ
  left : State σ
  questions : List Question
  result : Except Error Unit

namespace Errand

def run (ps : Processes σ) (c : AgentCommand) (order : Order) (s : State σ) : Errand σ :=
  ⟨order, s, (order.act ps c s).2, order.questions ps c s, (order.act ps c s).1⟩

def started (d : Errand σ) : List Nat := d.questions.filterMap Question.spawned?

/-- The process that a shutdown has to see to: the one that it finds for its switch. -/
def handed? (d : Errand σ) : Option Nat :=
  match d.order with
  | .shutdown switch => d.found.child? switch
  | .launch _ => none

def ofSwitch (switch : String) (past : List (Errand σ)) : List (Errand σ) :=
  past.filter (·.order.switch == switch)

def startedFor (switch : String) (past : List (Errand σ)) : List Nat :=
  (ofSwitch switch past).flatMap started

/-- The processes of the switch that its shutdowns were handed. -/
def handedFor (switch : String) (past : List (Errand σ)) : List Nat :=
  (ofSwitch switch past).filterMap handed?

/-- A launch of the switch succeeded after which there was no shutdown of it. -/
def Standing (switch : String) (past : List (Errand σ)) : Prop :=
  ∃ before d after l, past = before ++ d :: after ∧ d.order = .launch l ∧ l.switch = switch ∧
    d.result = .ok () ∧ ∀ later ∈ after, later.order ≠ .shutdown switch

/-- The errand leaves no process to itself and touches none that is not its own. -/
structure Proper (c : AgentCommand) (d : Errand σ) : Prop where
  launch_tracked : ∀ l, d.order = .launch l → d.found.child? l.switch ≠ none →
    d.questions = [] ∧ d.left = d.found ∧
      d.result = .error (.agent l.switch "agent already running")
  launch_untracked : ∀ l, d.order = .launch l → d.found.child? l.switch = none →
    ∃ answer, d.questions = [.spawn (program c l) answer] ∧
      (d.result = .ok () ↔ ∃ pid, answer = .ok pid)
  spawn_failed : ∀ p cause, .spawn p (.error cause) ∈ d.questions →
    d.left.children = d.found.children
  apart : ∀ other, other ≠ d.order.switch → d.left.child? other = d.found.child? other
  untracks : ∀ switch, d.order = .shutdown switch → d.left.child? switch = none
  shutdown_unknown : ∀ switch, d.order = .shutdown switch → d.found.child? switch = none →
    d.questions = [] ∧ d.left = d.found ∧ d.result = .ok ()
  ends : ∀ pid, d.handed? = some pid →
    (∃ status, d.questions = [.status pid (.ok (some status))]) ∨
      ∃ seen answer rest, d.questions = .status pid seen :: .kill pid answer :: rest ∧
        (∀ status, seen ≠ .ok (some status)) ∧
        ∀ question ∈ rest, ∃ reaped, question = .reap pid shutdownGrace reaped

end Errand

/-- What can come of an agent that tracks nothing at first. Between its errands the host gets on
with what it does, and so a process can end at any time. -/
inductive History (ps : Processes σ) (c : AgentCommand) : List (Errand σ) → State σ → Prop
  | start (host : σ) : History ps c [] ⟨host, []⟩
  | elsewhere {past : List (Errand σ)} {s : State σ} (host : σ) :
      History ps c past s → History ps c past { s with host }
  | errand {past : List (Errand σ)} {s : State σ} (order : Order) :
      History ps c past s → History ps c (past ++ [.run ps c order s]) (order.act ps c s).2

def carryOut (ps : Processes σ) (c : AgentCommand) :
    List Order → State σ → List (Errand σ) × State σ
  | [], s => ([], s)
  | order :: rest, s =>
    let (later, t) := carryOut ps c rest (order.act ps c s).2
    (.run ps c order s :: later, t)

theorem History.carried {ps : Processes σ} {c : AgentCommand} {past : List (Errand σ)} {s : State σ}
    (history : History ps c past s) (orders : List Order) :
    History ps c (past ++ (carryOut ps c orders s).1) (carryOut ps c orders s).2 := by
  induction orders generalizing past s with
  | nil => simpa [carryOut] using history
  | cons order rest ih => simpa [carryOut] using ih (history.errand order)

end Testbed.ChildProcess
