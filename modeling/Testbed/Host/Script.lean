import Testbed.Host.Processes
import Testbed.Text.Search

namespace Testbed.Host

inductive Ending where
  | running
  | ended (status : ExitStatus)
deriving DecidableEq, Repr

inductive Outcome where
  | notStarted (errno : Nat)
  | started (stdout stderr : List UInt8) (ending : Ending)
deriving DecidableEq, Repr

def Outcome.result : Outcome → Except IoError Finished
  | .notStarted errno => .error (.os errno)
  | .started stdout stderr .running => .ok ⟨.exited 0, stdout, stderr⟩
  | .started stdout stderr (.ended status) => .ok ⟨status, stdout, stderr⟩

structure Rule where
  contains : String
  outcome : Outcome

abbrev Script := List Rule

namespace Script

def answer (script : Script) (line : String) : Except IoError Finished :=
  match script.find? fun rule => Text.contains rule.contains line with
  | some rule => rule.outcome.result
  | none => .ok ⟨.exited 0, [], []⟩

def shell (script : Script) : Shell (List String) where
  run line log := (script.answer line, log ++ [line])

end Script

structure ScriptedProcesses where
  next : Outcome
  tried : List Program
  endings : List Ending
  taken : List Endpoint
  accepting : List Endpoint

namespace ScriptedProcesses

def status (s : ScriptedProcesses) (pid : Nat) : Option ExitStatus :=
  match s.endings[pid]? with
  | some (.ended status) => some status
  | _ => none

def spawn (p : Program) (s : ScriptedProcesses) : Except IoError Nat × ScriptedProcesses :=
  let s := { s with tried := s.tried ++ [p] }
  match s.next with
  | .notStarted errno => (.error (.os errno), s)
  | .started _ _ ending =>
    (.ok s.endings.length, { s with endings := s.endings ++ [ending] })

def kill (pid : Nat) (s : ScriptedProcesses) : ScriptedProcesses :=
  { s with endings := s.endings.set pid (.ended (.killed 9)) }

def processes : Processes ScriptedProcesses where
  spawn := spawn
  status pid s := (.ok (s.status pid), s)
  kill pid s := (.ok (), s.kill pid)
  reap pid _ s :=
    match s.status pid with
    | some status => (.exited status, s)
    | none => (.stillThere, s)
  connects e s := (s.accepting.contains e, s)
  checkFree e s := (if s.taken.contains e then .error (.os 98) else .ok (), s)

end ScriptedProcesses

end Testbed.Host
