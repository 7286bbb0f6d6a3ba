import Testbed.Host.Shell
import Testbed.Tuner.Basic

namespace Testbed.Ethtool

open Host

variable {σ : Type}

def tuner (sh : Shell σ) : Tuner σ where
  disableOffloads host interface s :=
    match sh.execChecked (Command.disableOffloads host interface).text s with
    | (.ok _, s) => (.ok (), s)
    | (.error e, s) => (.error (.tuning host interface e.message), s)

def checkHost (sh : Shell σ) : Action σ := fun s =>
  match sh.requireTool Host.ethtool s with
  | (.ok (), s) => (.ok (), s)
  | (.error e, s) => (.error (.command e), s)

end Testbed.Ethtool
