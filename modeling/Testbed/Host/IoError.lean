namespace Testbed

inductive IoError where
  | os (code : Nat)
  | nulInCommand
  | nulInPath
  | notUtf8
  | portOccupied (port : UInt16)
deriving DecidableEq, Repr

namespace IoError

/-- The system's wording for the error numbers that starting a process, reading a file or using a
port gives. -/
def describe : Nat → String
  | 1 => "Operation not permitted"
  | 2 => "No such file or directory"
  | 8 => "Exec format error"
  | 12 => "Cannot allocate memory"
  | 13 => "Permission denied"
  | 17 => "File exists"
  | 20 => "Not a directory"
  | 21 => "Is a directory"
  | 36 => "File name too long"
  | 98 => "Address already in use"
  | 111 => "Connection refused"
  | code => s!"Unknown error {code}"

def text : IoError → String
  | .os code => s!"{describe code} (os error {code})"
  | .nulInCommand => "nul byte found in provided data"
  | .nulInPath => "file name contained an unexpected NUL byte"
  | .notUtf8 => "stream did not contain valid UTF-8"
  | .portOccupied port => s!"port {port.toNat} is occupied"

end IoError

end Testbed
