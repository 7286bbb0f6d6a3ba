import Testbed.Cli.Report
import Testbed.Cli.Request
import Testbed.Description.Plan
import Testbed.Description.Read
import Testbed.Session.InMemory
import Testbed.Session.OnHost

namespace Testbed.Cli

structure Outcome where
  lines : List String
  waits : Bool
  more : List String
  exitCode : UInt8
deriving DecidableEq, Repr

namespace Outcome

def success (lines : List String) : Outcome := ⟨lines, false, [], 0⟩

def failure (message : String) : Outcome := ⟨["ERROR netbench error: " ++ message], false, [], 1⟩

def misuse : Outcome := ⟨[], false, [], 2⟩

end Outcome

def helpLines : List String :=
  ["Programmable-switch testbed orchestrator",
    "",
    "Usage: netbench [OPTIONS] <COMMAND>",
    "",
    "Commands:",
    "  run       Build and start a testbed, hold it until interrupted, then tear it down",
    "  validate  Check a topology description without building it",
    "  help      Print this message",
    "",
    "Options:",
    "  -l, --log-level <LOG_LEVEL>  Log level [default: info]",
    "  -h, --help                   Print help",
    "  -V, --version                Print version"]

abbrev File := Except Description.Rejection Description

def loadFailure (path : String) (r : Description.Rejection) : Outcome :=
  .failure (s!"Failed to load {path}: " ++ r.error.chain)

def validate (path : String) : File → Outcome
  | .error r => loadFailure path r
  | .ok d =>
    match d.toPlan with
    | .error e => .failure e.chain
    | .ok p =>
      match p.validate with
      | .error e => .failure e.chain
      | .ok () =>
        .success [s!"{path}: {d.hosts.length} hosts, {d.switches.length} switches, " ++
          s!"{p.links.length} links"]

variable {σ : Type}

def runOn (bk : Session.Backends σ) (d : Description) (controller : Endpoint) (wait : Bool)
    (s : σ) : Outcome :=
  match d.toPlan with
  | .error e => .failure e.chain
  | .ok p =>
    match Session.buildAndStart bk d.startupTimeout p controller s with
    | (.error e, _, _) => .failure ("Testbed startup failed: " ++ e.chain)
    | (.ok running, _, s) =>
      let (report, _, _) := running.teardown bk s
      ⟨running.summary, wait, report.jsonLines, if report.isClean then 0 else 1⟩

def run (m : Machine σ) (host : σ) (path : String) (controller : Option Endpoint)
    (dryRun noWait : Bool) : File → Outcome
  | .error r => loadFailure path r
  | .ok d =>
    let controller := controller.getD d.controller
    if dryRun then runOn (InMemory.backends .smooth) d controller (!noWait) .fresh
    else
      match m.check host with
      | (.error e, _) => .failure e.chain
      | (.ok (), host) => runOn (m.backends d) d controller (!noWait) ⟨host, []⟩

/-- Answers a request. `file` is what the file at the path of the request holds. -/
def perform (m : Machine σ) (host : σ) (file : Except IoError ByteArray) : Option Request → Outcome
  | none => .misuse
  | some .version => .success ["netbench 0.1.0"]
  | some .help => .success helpLines
  | some (.validate path) => validate path (Description.ofFile file)
  | some (.run path controller dryRun noWait) =>
    run m host path controller dryRun noWait (Description.ofFile file)

end Testbed.Cli
