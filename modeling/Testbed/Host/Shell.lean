import Testbed.Host.Command
import Testbed.Host.CommandError
import Testbed.Text.Blank
import Testbed.Text.Utf8

namespace Testbed.Host

inductive ExitStatus where
  | exited (code : Nat)
  | killed (signal : Nat)
deriving DecidableEq, Repr

namespace ExitStatus

/-- A process that a signal ended has no exit code of its own. -/
def code : ExitStatus → Int
  | .exited code => code
  | .killed _ => -1

def signalNames : List String :=
  ["SIGHUP", "SIGINT", "SIGQUIT", "SIGILL", "SIGTRAP", "SIGABRT", "SIGBUS", "SIGFPE", "SIGKILL",
    "SIGUSR1", "SIGSEGV", "SIGUSR2", "SIGPIPE", "SIGALRM", "SIGTERM", "SIGSTKFLT", "SIGCHLD",
    "SIGCONT", "SIGSTOP", "SIGTSTP", "SIGTTIN", "SIGTTOU", "SIGURG", "SIGXCPU", "SIGXFSZ",
    "SIGVTALRM", "SIGPROF", "SIGWINCH", "SIGIO", "SIGPWR", "SIGSYS"]

def signalName? (signal : Nat) : Option String :=
  if signal = 0 then none else signalNames[signal - 1]?

def text : ExitStatus → String
  | .exited code => s!"exit status: {code}"
  | .killed signal =>
    s!"signal: {signal}" ++ ((signalName? signal).map fun name => s!" ({name})").getD ""

end ExitStatus

structure Finished where
  status : ExitStatus
  stdout : List UInt8
  stderr : List UInt8

structure Shell (σ : Type) where
  run : String → σ → Except IoError Finished × σ

structure ExecResult where
  exitCode : Int
  stdout : String
  stderr : String
deriving DecidableEq, Repr

namespace ExecResult

def ofFinished (f : Finished) : ExecResult :=
  ⟨f.status.code, Text.trim (Text.decodeLossy f.stdout), Text.trim (Text.decodeLossy f.stderr)⟩

def success (r : ExecResult) : Bool := r.exitCode == 0

def combined (r : ExecResult) : String :=
  "\n".intercalate ([r.stdout, r.stderr].filter (· != ""))

end ExecResult

namespace Shell

variable {σ : Type}

/-- A command line with a NUL in it never gets to the host. -/
def exec (sh : Shell σ) (line : String) (s : σ) : Except CommandError ExecResult × σ :=
  if line.toList.contains '\x00' then (.error (.notStarted line .nulInCommand), s)
  else
    match sh.run line s with
    | (.error cause, s) => (.error (.notStarted line cause), s)
    | (.ok finished, s) => (.ok (.ofFinished finished), s)

def execChecked (sh : Shell σ) (line : String) (s : σ) : Except CommandError String × σ :=
  match sh.exec line s with
  | (.error e, s) => (.error e, s)
  | (.ok r, s) =>
    if r.success then (.ok r.stdout, s) else (.error (.failed line r.exitCode r.combined), s)

def requireTool (sh : Shell σ) (tool : String) (s : σ) : Except CommandError Unit × σ :=
  match sh.exec (Command.findTool tool).text s with
  | (.error e, s) => (.error e, s)
  | (.ok r, s) => (if r.success then .ok () else .error (.toolMissing tool), s)

end Shell

end Testbed.Host
