import Testbed.Action

namespace Testbed

structure Launch where
  switch : String
  deviceId : UInt64
  dataPlane : Endpoint
  controller : Endpoint
  ports : List (UInt32 × String)
deriving DecidableEq, Repr

inductive Readiness where
  | settled (result : Except Error Unit)
  | again (after : Duration)
  | never

structure Agent (σ : Type) where
  name : String
  checkEndpoint : Endpoint → σ → Except IoError Unit × σ
  launch : Launch → Action σ
  /-- The poll of the given number, counted from 0, of one wait for readiness. -/
  poll : Launch → Nat → σ → Readiness × σ
  shutdown : String → Action σ

namespace Agent

variable {σ τ : Type}

def within (part : Part σ τ) (a : Agent τ) : Agent σ where
  name := a.name
  checkEndpoint e s :=
    let (result, t) := a.checkEndpoint e (part.get s)
    (result, part.set t s)
  launch l := (a.launch l).within part
  poll l round s :=
    let (readiness, t) := a.poll l round (part.get s)
    (readiness, part.set t s)
  shutdown switch := (a.shutdown switch).within part

/-- A poll that is to be repeated is repeated on a later tick. -/
def pause (after : Duration) : Nat := max 1 after.waitTicks

theorem pause_pos (after : Duration) : 0 < pause after :=
  Nat.lt_of_lt_of_le Nat.one_pos (Nat.le_max_left ..)

/-- Polls from `now` on until the wait is settled or `cut` has passed; a poll that falls on `cut`
still counts. The result, if there is one, the time it took to get there, and the state. -/
def await (poll : Nat → σ → Readiness × σ) (cut round now : Nat) (s : σ) :
    Option (Except Error Unit) × Nat × σ :=
  match poll round s with
  | (.settled result, s) => (some result, now, s)
  | (.never, s) => (none, max now cut, s)
  | (.again after, s) =>
    if _h : now + pause after ≤ cut then await poll cut (round + 1) (now + pause after) s
    else (none, max now cut, s)
termination_by cut + 1 - now
decreasing_by
  have := pause_pos after
  omega

def awaitReady (a : Agent σ) (l : Launch) (cut now : Nat) (s : σ) :
    Option (Except Error Unit) × Nat × σ :=
  await (a.poll l) cut 0 now s

end Agent

end Testbed
