import Testbed.Agent.Command
import Testbed.Host.Processes

namespace Testbed.ChildProcess

open Host

def shutdownGrace : Duration := .ofSeconds 2

structure State (σ : Type) where
  host : σ
  children : List (String × Nat)

namespace State

variable {σ : Type}

def child? (s : State σ) (switch : String) : Option Nat :=
  (s.children.find? (·.1 == switch)).map (·.2)

def track (s : State σ) (switch : String) (pid : Nat) : State σ :=
  { s with children := s.children ++ [(switch, pid)] }

def untrack (s : State σ) (switch : String) : State σ :=
  { s with children := s.children.filter (·.1 != switch) }

end State

variable {σ : Type}

def program (c : AgentCommand) (l : Launch) : Program where
  binary := c.binary
  args := c.render l
  environment := [("NETBENCH_SWITCH", l.switch), ("NETBENCH_CONTROLLER", l.controller.text)]

def launch (ps : Processes σ) (c : AgentCommand) (l : Launch) : Action (State σ) := fun s =>
  match s.child? l.switch with
  | some _ => (.error (.agent l.switch "agent already running"), s)
  | none =>
    match ps.spawn (program c l) s.host with
    | (.error cause, host) =>
      (.error (.agent l.switch s!"failed to spawn {c.binary}: {cause.text}"), { s with host })
    | (.ok pid, host) => (.ok (), { s with host }.track l.switch pid)

def ensureAlive (ps : Processes σ) (switch : String) : Action (State σ) := fun s =>
  match s.child? switch with
  | none => (.error (.agent switch "agent is not running"), s)
  | some pid =>
    match ps.status pid s.host with
    | (.ok none, host) => (.ok (), { s with host })
    | (.ok (some status), host) =>
      (.error (.agent switch s!"agent exited with {status.text} before becoming ready"),
        { s with host })
    | (.error cause, host) =>
      (.error (.agent switch s!"failed to poll agent: {cause.text}"), { s with host })

/-- A connection counts only if the process is still alive after it. -/
def poll (ps : Processes σ) (interval : Duration) (l : Launch) (s : State σ) :
    Readiness × State σ :=
  let (connected, host) := ps.connects l.dataPlane s.host
  match ensureAlive ps l.switch { s with host } with
  | (.error e, s) => (.settled (.error e), s)
  | (.ok (), s) => (if connected then .settled (.ok ()) else .again interval, s)

/-- The process is no longer tracked from here on, whatever comes of ending it. -/
def shutdown (ps : Processes σ) (switch : String) : Action (State σ) := fun s =>
  match s.child? switch with
  | none => (.ok (), s)
  | some pid =>
    let s := s.untrack switch
    match ps.status pid s.host with
    | (.ok (some _), host) => (.ok (), { s with host })
    | (_, host) =>
      match ps.kill pid host with
      | (.error cause, host) =>
        (.error (.agent switch s!"failed to signal agent: {cause.text}"), { s with host })
      | (.ok (), host) =>
        match ps.reap pid shutdownGrace host with
        | (.exited _, host) => (.ok (), { s with host })
        | (.failed cause, host) =>
          (.error (.agent switch s!"failed to reap agent: {cause.text}"), { s with host })
        | (.stillThere, host) =>
          (.error (.agent switch s!"agent did not exit within {shutdownGrace.text}"),
            { s with host })

/-- The poll of a wait for an endpoint to take connections, whoever listens there. -/
def probe (ps : Processes σ) (interval : Duration) (e : Endpoint) (_round : Nat) (host : σ) :
    Readiness × σ :=
  let (connected, host) := ps.connects e host
  (if connected then .settled (.ok ()) else .again interval, host)

def agent (ps : Processes σ) (c : AgentCommand) (interval : Duration) : Agent (State σ) where
  name := c.binary
  checkEndpoint e s :=
    let (result, host) := ps.checkFree e s.host
    (result, { s with host })
  launch := launch ps c
  poll l _ s := poll ps interval l s
  shutdown := shutdown ps

end Testbed.ChildProcess
