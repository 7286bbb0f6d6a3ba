import Testbed.Agent.InMemory
import Testbed.Fabric.InMemory
import Testbed.Session.Basic
import Testbed.Tuner.InMemory

namespace Testbed.InMemory

structure Setup where
  faults : FabricFaults
  agent : AgentSetup
  refusedHost : Option String

def Setup.smooth : Setup := ⟨⟨none, none⟩, ⟨[], .ofMillis 0, []⟩, none⟩

structure World where
  fabric : FabricState
  agent : AgentState
  tuner : TunerState

namespace World

def fresh : World := ⟨.fresh, .fresh, []⟩

def fabricPart : Part World FabricState where
  get w := w.fabric
  set f w := { w with fabric := f }

def agentPart : Part World AgentState where
  get w := w.agent
  set a w := { w with agent := a }

def tunerPart : Part World TunerState where
  get w := w.tuner
  set t w := { w with tuner := t }

end World

def backends (setup : Setup) : Session.Backends World where
  fabric := (fabric setup.faults).within World.fabricPart
  agent := (agent setup.agent).within World.agentPart
  tuner := (tuner setup.refusedHost).within World.tunerPart

end Testbed.InMemory
