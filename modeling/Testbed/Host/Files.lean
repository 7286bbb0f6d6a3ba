import Testbed.Host.IoError
import Testbed.Text.Split

namespace Testbed.Host

structure Files where
  files : List (String × ByteArray)

namespace Files

def components (path : String) : List String :=
  (Text.pieces '/' path.toList).filterMap fun cs =>
    let part := String.ofList cs
    if part == "" || part == "." then none else some part

def rootDirectories : List String :=
  ["bin", "boot", "dev", "etc", "home", "lib", "media", "mnt", "opt", "proc", "root", "run", "sbin",
    "srv", "sys", "tmp", "usr", "var"]

def maxNameLength : Nat := 255

def maxPathLength : Nat := 4095

/-- A file is no directory: nothing can come after its name, not even a slash. -/
def readWorking (fs : Files) (path : String) : List String → Except IoError ByteArray
  | [] => .error (.os 21)
  | name :: rest =>
    match fs.files.find? (·.1 == name) with
    | none => .error (.os 2)
    | some (_, bytes) =>
      if !rest.isEmpty || path.endsWith "/" || path.endsWith "/." then .error (.os 20)
      else .ok bytes

def read (fs : Files) (path : String) : Except IoError ByteArray :=
  let parts := components path
  if path.toList.contains '\x00' then .error .nulInPath
  else if path == "" then .error (.os 2)
  else if maxPathLength < path.utf8ByteSize then .error (.os 36)
  else if parts.any fun part => maxNameLength < part.utf8ByteSize then .error (.os 36)
  else if parts.all (· == "..") then .error (.os 21)
  else if path.startsWith "/" then
    match parts with
    | [name] => .error (.os (if rootDirectories.contains name then 21 else 2))
    | _ => .error (.os 2)
  else fs.readWorking path parts

end Files

end Testbed.Host
