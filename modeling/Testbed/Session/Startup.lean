import Testbed.Session.Lane
import Testbed.Sorted

namespace Testbed.Session

variable {σ : Type}

/-- Up to this number of lanes a failure is noticed when it happens. Of more lanes the results are
taken in the order of the lanes, so that a failure counts once all lanes before it are finished. -/
def eagerLimit : Nat := 30

def frontFailure? : List Lane → Option Error
  | [] => none
  | lane :: rest =>
    match lane.failure? with
    | some cause => some cause
    | none => if lane.isFinished then frontFailure? rest else none

def noticed? (lanes : List Lane) : Option Error :=
  if lanes.length ≤ eagerLimit then lanes.findSome? Lane.failure? else frontFailure? lanes

def sweep (a : Agent σ) (now : Nat) : List Lane → List Lane → Shared σ → List Lane × Shared σ
  | swept, [], sh => (swept, sh)
  | swept, lane :: rest, sh =>
    let (lane, sh) := lane.advance a now sh
    let swept := swept ++ [lane]
    match noticed? (swept ++ rest) with
    | some _ => (swept ++ rest, sh)
    | none => sweep a now swept rest sh

def nextTime? (now : Nat) (lanes : List Lane) : Option Nat :=
  (lanes.filterMap Lane.due?).min?.map (max (now + 1))

structure Outcome (σ : Type) where
  result : Except Error Unit
  time : Nat
  lanes : List Lane
  shared : Shared σ

def runLanes (a : Agent σ) : Nat → Nat → List Lane → Shared σ → Outcome σ
  | 0, now, lanes, sh => ⟨.ok (), now, lanes, sh⟩
  | n + 1, now, lanes, sh =>
    let (lanes, sh) := sweep a now [] lanes sh
    match noticed? lanes with
    | some cause => ⟨.error cause, now, lanes, sh⟩
    | none =>
      match nextTime? now lanes with
      | none => ⟨.ok (), now, lanes, sh⟩
      | some time => runLanes a n time lanes sh

/-- More points in time than the lanes need: a switch is waited for on no more ticks than its
timeout has, and the tick on which its wait begins. -/
def tickBound (lanes : List Lane) : Nat :=
  (lanes.flatMap Lane.entries).foldr (fun e n => e.binding.startupTimeout.waitTicks + 2 + n) 1

def startLanes (a : Agent σ) (lanes : List Lane) (sh : Shared σ) : Outcome σ :=
  runLanes a (tickBound lanes) 0 lanes sh

/-- The lanes for switches with their controllers: one for each controller, in the order of the
controllers; within a lane the switches keep their order. -/
def lanesOf (entries : List (Endpoint × Entry)) : List Lane :=
  (sortBy Endpoint.before (entries.map (·.1)).eraseDups).map fun controller =>
    ⟨controller, [], .idle, (entries.filter (·.1 == controller)).map (·.2)⟩

def bindingsOf (lanes : List Lane) : List Binding :=
  (sortBy (fun e f => decide (e.place < f.place)) (lanes.flatMap Lane.entries)).map (·.binding)

end Testbed.Session
