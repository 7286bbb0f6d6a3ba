import Testbed.Agent.Basic
import Testbed.Sorted

namespace Testbed.InMemory

inductive Behavior where
  | ready
  | unresponsive
  | failLaunch
  | failShutdown
deriving DecidableEq, Repr

structure AgentSetup where
  behaviors : List (String × Behavior)
  readyDelay : Duration
  occupied : List UInt16

namespace AgentSetup

/-- A switch of which nothing is said is ready. -/
def behavior (setup : AgentSetup) (switch : String) : Behavior :=
  ((setup.behaviors.find? (·.1 == switch)).map (·.2)).getD .ready

end AgentSetup

structure AgentState where
  launches : List Launch
  shutdowns : List String
  running : List String
  /-- The switches that are launched and not yet ready, with their controllers. -/
  starting : List (String × Endpoint)
  maxStarting : Nat
  maxStartingFor : List (Endpoint × Nat)
deriving DecidableEq, Repr

namespace AgentState

def fresh : AgentState := ⟨[], [], [], [], 0, []⟩

def runningSwitches (s : AgentState) : List String := sortNames s.running

def maxStartsFor (s : AgentState) (controller : Endpoint) : Nat :=
  ((s.maxStartingFor.find? (·.1 == controller)).map (·.2)).getD 0

def startingFor (s : AgentState) (controller : Endpoint) : Nat :=
  (s.starting.filter (·.2 == controller)).length

def endStarting (s : AgentState) (switch : String) : AgentState :=
  { s with starting := s.starting.filter (·.1 != switch) }

def count (s : AgentState) (controller : Endpoint) : AgentState :=
  let most := max (s.maxStartsFor controller) (s.startingFor controller)
  { s with
    maxStarting := max s.maxStarting s.starting.length
    maxStartingFor := (controller, most) :: s.maxStartingFor.filter (·.1 != controller) }

def begin (s : AgentState) (l : Launch) : AgentState :=
  { s.endStarting l.switch with
    launches := s.launches ++ [l]
    running := s.running ++ [l.switch]
    starting := (s.endStarting l.switch).starting ++ [(l.switch, l.controller)] }.count l.controller

end AgentState

def launch (setup : AgentSetup) (l : Launch) : Action AgentState := fun s =>
  if setup.behavior l.switch = .failLaunch then
    (.error (.agent l.switch "injected launch failure"), s)
  else if s.running.contains l.switch then (.error (.agent l.switch "agent already running"), s)
  else (.ok (), s.begin l)

def poll (setup : AgentSetup) (l : Launch) (round : Nat) (s : AgentState) :
    Readiness × AgentState :=
  if setup.behavior l.switch = .unresponsive then (.never, s)
  else if round = 0 ∧ setup.readyDelay.nanos ≠ 0 then (.again setup.readyDelay, s)
  else (.settled (.ok ()), s.endStarting l.switch)

/-- Ending a switch that does not run is no error and leaves no record. -/
def shutdown (setup : AgentSetup) (switch : String) : Action AgentState := fun s =>
  let s := s.endStarting switch
  if s.running.contains switch then
    let s := { s with running := dropName switch s.running, shutdowns := s.shutdowns ++ [switch] }
    if setup.behavior switch = .failShutdown then
      (.error (.agent switch "injected shutdown failure"), s)
    else (.ok (), s)
  else (.ok (), s)

def checkEndpoint (setup : AgentSetup) (e : Endpoint) : Except IoError Unit :=
  if setup.occupied.contains e.port then .error (.portOccupied e.port) else .ok ()

def agent (setup : AgentSetup) : Agent AgentState where
  name := "sim"
  checkEndpoint e s := (checkEndpoint setup e, s)
  launch := launch setup
  poll := poll setup
  shutdown := shutdown setup

end Testbed.InMemory
