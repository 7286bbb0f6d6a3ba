import Testbed.Description.Basic
import Testbed.Error
import Testbed.Text.Blank

namespace Testbed.Description

inductive Defect where
  | zeroStartupTimeout
  | zeroPollInterval
  | blankBinary
  | blankName
  | repeatedName (name : String)
  | repeatedPort (port : UInt16) (switch : String)
deriving DecidableEq, Repr

namespace Defect

def field : Defect → String
  | .zeroStartupTimeout => "settings.startup_timeout_secs"
  | .zeroPollInterval => "settings.ready_poll_interval_ms"
  | .blankBinary => "agent.binary"
  | .blankName => "name"
  | .repeatedName _ => "name"
  | .repeatedPort .. => "switches.data_plane"

def message : Defect → String
  | .zeroStartupTimeout => "must be greater than 0"
  | .zeroPollInterval => "must be greater than 0"
  | .blankBinary => "must not be empty"
  | .blankName => "node names must not be empty"
  | .repeatedName name => s!"node '{name}' is declared twice"
  | .repeatedPort port switch => s!"port {port.toNat} of '{switch}' is used by another switch"

def error (d : Defect) : Error := .config d.field d.message

end Defect

def settingsDefect? (d : Description) : Option Defect :=
  if d.settings.startupTimeoutSecs = 0 then some .zeroStartupTimeout
  else if d.settings.readyPollIntervalMs = 0 then some .zeroPollInterval
  else if Text.isAllBlank d.agent.binary then some .blankBinary
  else none

def nameDefect? (seen : List String) : List String → Option Defect
  | [] => none
  | name :: rest =>
    if Text.isAllBlank name then some .blankName
    else if name ∈ seen then some (.repeatedName name)
    else nameDefect? (name :: seen) rest

def portDefect? (seen : List UInt16) : List SwitchEntry → Option Defect
  | [] => none
  | s :: rest =>
    if s.dataPlane.port ∈ seen then some (.repeatedPort s.dataPlane.port s.name)
    else portDefect? (s.dataPlane.port :: seen) rest

def defect? (d : Description) : Option Defect :=
  (settingsDefect? d).or ((nameDefect? [] d.names).or (portDefect? [] d.switches))

def validate (d : Description) : Except Error Unit :=
  match d.defect? with
  | none => .ok ()
  | some defect => .error defect.error

end Testbed.Description
