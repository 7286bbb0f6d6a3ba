import Testbed.Action

namespace Testbed

structure Tuner (σ : Type) where
  disableOffloads : String → String → Action σ

def Tuner.within {σ τ : Type} (part : Part σ τ) (t : Tuner τ) : Tuner σ where
  disableOffloads host interface := (t.disableOffloads host interface).within part

end Testbed
