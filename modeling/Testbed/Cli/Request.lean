import Testbed.Cli.Options
import Testbed.Endpoint.Read

namespace Testbed.Cli

inductive Request where
  | version
  | help
  | validate (path : String)
  | run (path : String) (controller : Option Endpoint) (dryRun noWait : Bool)
deriving DecidableEq, Repr

namespace Request

def helpOption : OptionSpec := ⟨some 'h', "help", false, true, fun _ => true⟩

def versionOption : OptionSpec := ⟨some 'V', "version", false, true, fun _ => true⟩

def logLevel : OptionSpec := ⟨some 'l', "log-level", true, false, fun _ => true⟩

def topology : OptionSpec := ⟨some 't', "topology", true, false, fun path => path != ""⟩

def isEndpoint (s : String) : Bool :=
  match Endpoint.read s with
  | .ok _ => true
  | .error _ => false

def controller : OptionSpec := ⟨some 'c', "controller", true, false, isEndpoint⟩

def dryRun : OptionSpec := ⟨none, "dry-run", false, false, fun _ => true⟩

def noWait : OptionSpec := ⟨none, "no-wait", false, false, fun _ => true⟩

def valueOf? (given : Given) (o : OptionSpec) : Option String :=
  (given.find? (·.1 == o.long)).map (·.2)

def controllerOf? (given : Given) : Option Endpoint :=
  (valueOf? given controller).bind fun s => (Endpoint.read s).toOption

def ofOptions? (options : List OptionSpec) (args : List String)
    (request : String → Given → Request) : Option Request :=
  match scan (options ++ [logLevel, helpOption]) [] args with
  | .ended given => (valueOf? given topology).map fun path => request path given
  | .final _ => some .help
  | .word .. | .refused => none

def commandNames : List String := ["run", "validate", "help"]

def helpFor? : List String → Option Request
  | [] => some .help
  | [name] => if commandNames.contains name || name == "-h" || name == "--help" then some .help
    else none
  | _ => none

def ofArgs? (args : List String) : Option Request :=
  match scan [logLevel, helpOption, versionOption] [] args with
  | .word _ "run" rest =>
    ofOptions? [topology, controller, dryRun, noWait] rest fun path given =>
      .run path (controllerOf? given) (valueOf? given dryRun).isSome (valueOf? given noWait).isSome
  | .word _ "validate" rest => ofOptions? [topology] rest fun path _ => .validate path
  | .word _ "help" rest => helpFor? rest
  | .final long => some (if long == versionOption.long then .version else .help)
  | .word .. | .ended _ | .refused => none

def path? : Request → Option String
  | .version => none
  | .help => none
  | .validate path => some path
  | .run path .. => some path

end Request

end Testbed.Cli
