import Testbed.Description.Read
import Testbed.Text.Json

namespace Testbed.Description

open Text

def hexDigits : Nat → Nat → List Char
  | 0, _ => []
  | width + 1, n => hexDigits width (n / 16) ++ [hexDigit (n % 16)]

def escapeYaml (c : Char) : List Char :=
  match c with
  | '"' => ['\\', '"']
  | '\\' => ['\\', '\\']
  | c => if 0x20 ≤ c.toNat ∧ c.toNat < 0x7f then [c] else '\\' :: 'U' :: hexDigits 8 c.toNat

-- Every text is quoted, so that none is taken for a number or for `null`.
def quoteYaml (s : String) : String :=
  "\"" ++ String.ofList (s.toList.flatMap escapeYaml) ++ "\""

def optionText (value : Option String) : String := value.getD "null"

def itemLines : List String → List String
  | [] => []
  | first :: rest => ("- " ++ first) :: indented rest

def listLines (name : String) (items : List (List String)) : List String :=
  if items.isEmpty then [name ++ ": []"] else (name ++ ":") :: items.flatMap itemLines

def settingsLines (s : Settings) : List String :=
  ["startup_timeout_secs: " ++ toString s.startupTimeoutSecs,
    "ready_poll_interval_ms: " ++ toString s.readyPollIntervalMs,
    "max_interfaces_per_node: " ++ optionText (s.maxInterfacesPerNode.map toString)]

def switchLines (s : SwitchEntry) : List String :=
  ["name: " ++ quoteYaml s.name,
    "data_plane: " ++ quoteYaml s.dataPlane.text,
    "device_id: " ++ optionText (s.deviceId.map toString),
    "controller: " ++ optionText (s.controller.map fun e => quoteYaml e.text)]

def lines (d : Description) : List String :=
  ["controller: " ++ quoteYaml d.controller.text] ++
    ["settings:"] ++ indented (settingsLines d.settings) ++
    ["agent:"] ++ indented (["binary: " ++ quoteYaml d.agent.binary] ++
      listLines "args" (d.agent.args.map fun a => [quoteYaml a])) ++
    listLines "hosts" (d.hosts.map fun h => [quoteYaml h]) ++
    listLines "switches" (d.switches.map switchLines) ++
    listLines "links" (d.links.map fun l => itemLines [quoteYaml l.1] ++ itemLines [quoteYaml l.2])

def text (d : Description) : String := String.join (d.lines.map (· ++ "\n"))

/-- The description comes back unchanged when its text is read. -/
def rereads (d : Description) : Bool := (ofText d.text).toOption == some d

end Testbed.Description
