import Testbed.Host.IoError

namespace Testbed

inductive CommandError where
  | notStarted (command : String) (cause : IoError)
  | failed (command : String) (exitCode : Int) (output : String)
  | toolMissing (tool : String)
deriving DecidableEq, Repr

namespace CommandError

def message : CommandError → String
  | .notStarted command cause => s!"Failed to execute shell command '{command}': {cause.text}"
  | .failed command exitCode output =>
    s!"Shell command failed: '{command}' (exit code {exitCode}): {output}"
  | .toolMissing tool => s!"Required tool '{tool}' not found"

def command? : CommandError → Option String
  | .notStarted command _ => some command
  | .failed command _ _ => some command
  | .toolMissing _ => none

end CommandError

end Testbed
