import Testbed.Host.Processes

namespace Testbed.Host

inductive Question where
  | spawn (p : Program) (answer : Except IoError Nat)
  | status (pid : Nat) (answer : Except IoError (Option ExitStatus))
  | kill (pid : Nat) (answer : Except IoError Unit)
  | reap (pid : Nat) (grace : Duration) (answer : Reaped)
  | connects (e : Endpoint) (answer : Bool)
  | checkFree (e : Endpoint) (answer : Except IoError Unit)

namespace Question

def spawned? : Question → Option Nat
  | .spawn _ (.ok pid) => some pid
  | _ => none

end Question

def note {σ α : Type} (question : α → Question) (ask : σ → α × σ) (s : List Question × σ) :
    α × List Question × σ :=
  let (answer, host) := ask s.2
  (answer, s.1 ++ [question answer], host)

theorem note_eq {σ α : Type} {question : α → Question} {ask : σ → α × σ} {s : List Question × σ}
    {answer : α} {host : σ} (asked : ask s.2 = (answer, host)) :
    note question ask s = (answer, s.1 ++ [question answer], host) := by
  rw [note, asked]

def Processes.noting {σ : Type} (ps : Processes σ) : Processes (List Question × σ) where
  spawn p := note (.spawn p) (ps.spawn p)
  status pid := note (.status pid) (ps.status pid)
  kill pid := note (.kill pid) (ps.kill pid)
  reap pid grace := note (.reap pid grace) (ps.reap pid grace)
  connects e := note (.connects e) (ps.connects e)
  checkFree e := note (.checkFree e) (ps.checkFree e)

end Testbed.Host
