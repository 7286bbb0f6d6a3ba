import Testbed.Cli.Outcome

namespace Testbed

/-- The system's number of a failure, which may come with its sign changed. -/
def errorNumber (code : UInt32) : Nat := if code < 0x80000000 then code.toNat else (0 - code).toNat

def errorOf : IO.Error → IoError
  | .noFileOrDirectory _ code _ => .os (errorNumber code)
  | .inappropriateType _ code _ => .os (errorNumber code)
  | .permissionDenied _ code _ => .os (errorNumber code)
  | .invalidArgument _ code _ => .os (errorNumber code)
  | .resourceExhausted _ code _ => .os (errorNumber code)
  | _ => .os 5

def readFile (path : String) : IO (Except IoError ByteArray) := do
  try return .ok (← IO.FS.readBinFile path)
  catch e => return .error (errorOf e)

end Testbed

def main (args : List String) : IO UInt32 := do
  let request := Testbed.Cli.Request.ofArgs? args
  let file ← match request.bind (·.path?) with
    | some path => Testbed.readFile path
    | none => pure (.ok .empty)
  let outcome := Testbed.Cli.perform .idle () file request
  outcome.lines.forM IO.println
  if outcome.waits then discard (← IO.getStdin).getLine
  outcome.more.forM IO.println
  return outcome.exitCode.toUInt32
