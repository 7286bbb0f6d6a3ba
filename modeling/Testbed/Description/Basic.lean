import Testbed.Agent.Command
import Testbed.Time

namespace Testbed

structure Settings where
  startupTimeoutSecs : UInt64
  readyPollIntervalMs : UInt64
  maxInterfacesPerNode : Option Nat
deriving DecidableEq, Repr

def Settings.default : Settings := ⟨5, 100, none⟩

/-- A switch of a description. Its number and its controller may be left open. -/
structure SwitchEntry where
  name : String
  dataPlane : Endpoint
  deviceId : Option UInt64
  controller : Option Endpoint
deriving DecidableEq, Repr

structure Description where
  controller : Endpoint
  settings : Settings
  agent : AgentCommand
  hosts : List String
  switches : List SwitchEntry
  links : List (String × String)
deriving DecidableEq, Repr

namespace Description

def default : Description where
  controller := ⟨"127.0.0.1", 6653⟩
  settings := .default
  agent := .default
  hosts := []
  switches := []
  links := []

def startupTimeout (d : Description) : Duration := .ofSeconds d.settings.startupTimeoutSecs.toNat

def readyPollInterval (d : Description) : Duration :=
  .ofMillis d.settings.readyPollIntervalMs.toNat

def names (d : Description) : List String := d.hosts ++ d.switches.map SwitchEntry.name

end Description

end Testbed
