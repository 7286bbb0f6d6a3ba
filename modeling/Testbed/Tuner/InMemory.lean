import Testbed.Tuner.Basic

namespace Testbed.InMemory

abbrev TunerState := List (String × String)

def tuner (refused : Option String) : Tuner TunerState where
  disableOffloads host interface s :=
    if refused = some host then (.error (.tuning host interface "injected tuning failure"), s)
    else (.ok (), s ++ [(host, interface)])

end Testbed.InMemory
