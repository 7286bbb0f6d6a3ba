import Testbed.Endpoint.Basic
import Testbed.Host.Shell
import Testbed.Time

namespace Testbed.Host

structure Program where
  binary : String
  args : List String
  environment : List (String × String)
deriving DecidableEq, Repr

inductive Reaped where
  | exited (status : ExitStatus)
  | failed (cause : IoError)
  | stillThere
deriving DecidableEq, Repr

/-- The processes and ports of a host in state `σ`; a process is known by a number. -/
structure Processes (σ : Type) where
  spawn : Program → σ → Except IoError Nat × σ
  status : Nat → σ → Except IoError (Option ExitStatus) × σ
  kill : Nat → σ → Except IoError Unit × σ
  reap : Nat → Duration → σ → Reaped × σ
  connects : Endpoint → σ → Bool × σ
  checkFree : Endpoint → σ → Except IoError Unit × σ

end Testbed.Host
