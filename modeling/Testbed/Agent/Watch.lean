import Testbed.Agent.ChildProcess

namespace Testbed

/-- What becomes of the connection that a poll tries to make: an answer, at once or after a while,
or none at all. -/
inductive Agent.Reply where
  | comes
  | late (after : Duration)
  | lost
deriving DecidableEq, Repr

/-- What goes on around an agent while it waits. Others use the agent too, and so anything can have
become of its state until the poll of the given number. -/
structure Agent.Surroundings (σ : Type) where
  meanwhile : Nat → σ → σ
  reply : Nat → Reply

namespace Agent

variable {σ : Type}

def Surroundings.quiet : Surroundings σ := ⟨fun _ => id, fun _ => .comes⟩

def amid (around : Surroundings σ) (a : Agent σ) : Agent σ := { a with
  poll := fun l round s =>
    match around.reply round with
    | .comes => a.poll l round (around.meanwhile round s)
    | .late after => (.again after, around.meanwhile round s)
    | .lost => (.never, around.meanwhile round s) }

theorem amid_quiet (a : Agent σ) : a.amid .quiet = a := rfl

end Agent

namespace ChildProcess

open Host

variable {σ : Type}

inductive Check where
  | alive
  | missing
  | exited (status : ExitStatus)
  | unpollable (cause : IoError)
deriving DecidableEq, Repr

def Check.complaint? : Check → Option String
  | .alive => none
  | .missing => some "agent is not running"
  | .exited status => some s!"agent exited with {status.text} before becoming ready"
  | .unpollable cause => some s!"failed to poll agent: {cause.text}"

structure Round where
  connected : Bool
  check : Check
deriving DecidableEq, Repr

def check (ps : Processes σ) (switch : String) (s : State σ) : Check × State σ :=
  match s.child? switch with
  | none => (.missing, s)
  | some pid =>
    let (answer, host) := ps.status pid s.host
    match answer with
    | .ok none => (.alive, { s with host })
    | .ok (some status) => (.exited status, { s with host })
    | .error cause => (.unpollable cause, { s with host })

def round (ps : Processes σ) (l : Launch) (s : State σ) : Round × State σ :=
  let (connected, host) := ps.connects l.dataPlane s.host
  let (found, s) := check ps l.switch { s with host }
  (⟨connected, found⟩, s)

inductive View where
  | round (r : Round)
  | late (after : Duration)
  | lost
deriving DecidableEq, Repr

def View.IsOpen : View → Prop
  | .round r => r = ⟨false, .alive⟩
  | .late _ => True
  | .lost => False

/-- A wait for a switch, from the state that its launch has left. -/
structure Watch (σ : Type) where
  processes : Processes σ
  interval : Duration
  around : Agent.Surroundings (State σ)
  launch : Launch
  begun : State σ

namespace Watch

def look (w : Watch σ) (n : Nat) (s : State σ) : View × State σ :=
  let s := w.around.meanwhile n s
  match w.around.reply n with
  | .comes =>
    let (r, s) := ChildProcess.round w.processes w.launch s
    (.round r, s)
  | .late after => (.late after, s)
  | .lost => (.lost, s)

def found (w : Watch σ) : Nat → State σ
  | 0 => w.begun
  | n + 1 => (w.look n (w.found n)).2

def view (w : Watch σ) (n : Nat) : View := (w.look n (w.found n)).1

def instant (w : Watch σ) (now : Nat) : Nat → Nat
  | 0 => now
  | n + 1 =>
    w.instant now n + Agent.pause (match w.view n with
      | .late after => after
      | .round _ | .lost => w.interval)

/-- The wait comes to the poll of the number, and before the deadline has passed. -/
def Comes (w : Watch σ) (now deadline n : Nat) : Prop :=
  (∀ m < n, (w.view m).IsOpen) ∧ w.instant now n ≤ deadline

def Sees (w : Watch σ) (now deadline n : Nat) (r : Round) : Prop :=
  w.Comes now deadline n ∧ w.view n = .round r

end Watch

end ChildProcess

end Testbed
