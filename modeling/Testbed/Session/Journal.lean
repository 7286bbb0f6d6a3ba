import Testbed.Session.Basic

namespace Testbed.Session

inductive Call where
  | checkEndpoint (e : Endpoint) (result : Except IoError Unit)
  | launch (l : Launch) (result : Except Error Unit)
  | poll (l : Launch) (round : Nat) (answer : Readiness)
  | shutdown (switch : String) (result : Except Error Unit)
  | createNode (n : Node) (result : Except Error Unit)
  | createLink (l : Link) (nsA nsB : Option String) (result : Except Error Unit)
  | teardownLink (l : Link) (nsA : Option String) (result : Except Error Unit)
  | destroyNode (n : Node) (result : Except Error Unit)
  | disableOffloads (host interface : String) (result : Except Error Unit)

structure Journaled (σ : Type) where
  calls : List Call
  inner : σ

namespace Journaled

variable {σ : Type}

def record (call : Except Error Unit → Call) (act : Action σ) : Action (Journaled σ) := fun j =>
  let (result, inner) := act j.inner
  (result, ⟨j.calls ++ [call result], inner⟩)

def fabric (f : Fabric σ) : Fabric (Journaled σ) where
  name := f.name
  createNode n := record (.createNode n) (f.createNode n)
  createLink l nsA nsB := record (.createLink l nsA nsB) (f.createLink l nsA nsB)
  teardownLink l nsA := record (.teardownLink l nsA) (f.teardownLink l nsA)
  destroyNode n := record (.destroyNode n) (f.destroyNode n)

def agent (a : Agent σ) : Agent (Journaled σ) where
  name := a.name
  checkEndpoint e j :=
    let (result, inner) := a.checkEndpoint e j.inner
    (result, ⟨j.calls ++ [.checkEndpoint e result], inner⟩)
  launch l := record (.launch l) (a.launch l)
  poll l round j :=
    let (answer, inner) := a.poll l round j.inner
    (answer, ⟨j.calls ++ [.poll l round answer], inner⟩)
  shutdown switch := record (.shutdown switch) (a.shutdown switch)

def tuner (t : Tuner σ) : Tuner (Journaled σ) where
  disableOffloads host interface :=
    record (.disableOffloads host interface) (t.disableOffloads host interface)

def backends (bk : Backends σ) : Backends (Journaled σ) :=
  ⟨fabric bk.fabric, agent bk.agent, tuner bk.tuner⟩

theorem record_eq (call : Except Error Unit → Call) (act : Action σ) (j : Journaled σ) :
    record call act j = ((act j.inner).1, ⟨j.calls ++ [call (act j.inner).1], (act j.inner).2⟩) :=
  rfl

end Journaled

section Calls

variable {σ : Type} {a : Agent σ} {s t : Journaled σ}

theorem checkEndpoint_calls {e : Endpoint} {result : Except IoError Unit}
    (h : (Journaled.agent a).checkEndpoint e s = (result, t)) :
    t.calls = s.calls ++ [.checkEndpoint e result] ∧
      a.checkEndpoint e s.inner = (result, t.inner) := by
  cases h
  exact ⟨rfl, rfl⟩

theorem launch_calls {l : Launch} {result : Except Error Unit}
    (h : (Journaled.agent a).launch l s = (result, t)) :
    t.calls = s.calls ++ [.launch l result] ∧ a.launch l s.inner = (result, t.inner) := by
  cases h
  exact ⟨rfl, rfl⟩

theorem poll_calls {l : Launch} {round : Nat} {answer : Readiness}
    (h : (Journaled.agent a).poll l round s = (answer, t)) :
    t.calls = s.calls ++ [.poll l round answer] ∧ a.poll l round s.inner = (answer, t.inner) := by
  cases h
  exact ⟨rfl, rfl⟩

end Calls

end Testbed.Session
