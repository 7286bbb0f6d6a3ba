import Testbed.Error

namespace Testbed

structure PortRegistry where
  held : List (UInt16 × String)
deriving DecidableEq, Repr

namespace PortRegistry

def empty : PortRegistry := ⟨[]⟩

def holder? (r : PortRegistry) (port : UInt16) : Option String :=
  (r.held.find? (·.1 == port)).map (·.2)

def size (r : PortRegistry) : Nat := r.held.length

/-- Reserves the port of the endpoint. A switch may reserve again what it holds. -/
def reserve (r : PortRegistry) (switch : String) (e : Endpoint) : Except Error PortRegistry :=
  match r.holder? e.port with
  | none => .ok ⟨r.held ++ [(e.port, switch)]⟩
  | some holder => if holder = switch then .ok r else .error (.bindConflict switch e holder)

/-- Gives the port back, if it is the switch that holds it. -/
def release (r : PortRegistry) (switch : String) (e : Endpoint) : PortRegistry :=
  if r.holder? e.port = some switch then ⟨r.held.filter (·.1 != e.port)⟩ else r

@[simp]
theorem holder?_empty (port : UInt16) : empty.holder? port = none := rfl

theorem holder?_reserve {r q : PortRegistry} {switch : String} {e : Endpoint}
    (h : r.reserve switch e = .ok q) (port : UInt16) :
    q.holder? port = if port = e.port then some switch else r.holder? port := by
  unfold reserve at h
  split at h
  · rename_i free
    cases h
    have hfree : r.held.find? (·.1 == e.port) = none := by simpa [holder?] using free
    by_cases hp : port = e.port
    · subst hp
      simp [holder?, List.find?_append, hfree]
    · have hne : (e.port == port) = false := by simpa using Ne.symm hp
      simp [holder?, List.find?_append, hp, hne]
  · rename_i holder held
    by_cases hs : holder = switch
    · rw [if_pos hs] at h
      cases h
      by_cases hp : port = e.port
      · rw [if_pos hp, hp, held, hs]
      · rw [if_neg hp]
    · rw [if_neg hs] at h
      cases h

theorem holder?_release (r : PortRegistry) (switch : String) (e : Endpoint) (port : UInt16) :
    (r.release switch e).holder? port =
      if port = e.port ∧ r.holder? e.port = some switch then none else r.holder? port := by
  unfold release
  by_cases hs : r.holder? e.port = some switch
  · rw [if_pos hs]
    by_cases hp : port = e.port
    · rw [if_pos ⟨hp, hs⟩, hp]
      simp [holder?, List.find?_filter]
    · rw [if_neg (fun both => hp both.1)]
      unfold holder?
      congr 1
      rw [List.find?_filter]
      congr 1
      funext held
      by_cases hh : held.1 = port
      · simp [hh, hp]
      · simp [hh]
  · rw [if_neg hs, if_neg (fun both => hs both.2)]

end PortRegistry

end Testbed
