import Testbed.Agent.ChildProcess
import Testbed.Description.Basic
import Testbed.Fabric.Namespaces
import Testbed.Session.Basic
import Testbed.Tuner.Ethtool

namespace Testbed

structure Machine (σ : Type) where
  shell : Host.Shell σ
  processes : Host.Processes σ

namespace Machine

variable {σ : Type}

def hostPart : Part (ChildProcess.State σ) σ where
  get s := s.host
  set h s := { s with host := h }

def backends (m : Machine σ) (d : Description) : Session.Backends (ChildProcess.State σ) where
  fabric := (Namespaces.fabric m.shell).within hostPart
  agent := ChildProcess.agent m.processes d.agent d.readyPollInterval
  tuner := (Ethtool.tuner m.shell).within hostPart

def check (m : Machine σ) : Action σ :=
  .sequence [Namespaces.checkHost m.shell, Ethtool.checkHost m.shell]

/-- A host on which nothing can be started: there is no shell and there are no programs. -/
def idle : Machine Unit where
  shell := ⟨fun _ host => (.error (.os 2), host)⟩
  processes :=
    { spawn := fun _ host => (.error (.os 2), host)
      status := fun _ host => (.error (.os 3), host)
      kill := fun _ host => (.error (.os 3), host)
      reap := fun _ _ host => (.failed (.os 3), host)
      connects := fun _ host => (false, host)
      checkFree := fun _ host => (.ok (), host) }

end Machine

end Testbed
