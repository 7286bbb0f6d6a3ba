import Testbed.Cli.Outcome
import Testbed.Proofs.Cli.Arguments
import Testbed.Proofs.Description.Plan
import Testbed.Proofs.Session.Condition
import Testbed.Proofs.Session.Report

namespace Testbed.Cli

open InMemory

theorem favourable_smooth {p : Plan} (grown : p.Grown) (ports : p.switchPorts.Nodup) :
    Session.Favourable .smooth p where
  whole := grown.orphanLinks_eq_nil
  nodes _ _ := nofun
  links _ _ := rfl
  ports := ports
  free _ _ := nofun
  willing _ _ := Or.inl rfl
  hosts _ _ _ _ := nofun

theorem shutdown_smooth (switch : String) (w : World) :
    ((backends .smooth).agent.shutdown switch w).1 = .ok () := by
  have ready : Setup.smooth.agent.behavior switch = .ready := rfl
  have ended (s : AgentState) : (shutdown Setup.smooth.agent switch s).1 = .ok () := by
    by_cases running : (s.endStarting switch).running.contains switch = true <;>
      simp only [shutdown, ready, running, reduceCtorEq, Bool.false_eq_true, ↓reduceIte]
  exact ended w.agent

theorem dry_run_clean {d : Description} {p : Plan} (sound : d.validate = .ok ())
    (planned : d.toPlan = .ok p) (controller : Endpoint) :
    ∃ running time w,
      Session.buildAndStart (backends .smooth) d.startupTimeout p controller .fresh =
        (.ok running, time, w) ∧
      (running.teardown (backends .smooth) w).1.isClean = true := by
  have grown := Description.toPlan_grown planned
  have ports : p.switchPorts.Nodup := by
    rw [Description.toPlan_switchPorts planned]
    exact Description.nodup_ports sound
  have inTime : Setup.smooth.agent.readyDelay.waitTicks ≤ d.startupTimeout.waitTicks := by
    have atOnce : Setup.smooth.agent.readyDelay.waitTicks = 0 := Duration.waitTicks_zero rfl
    omega
  obtain ⟨running, time, w, ok⟩ :=
    (Session.buildAndStart_ok_iff_waits .smooth d.startupTimeout grown.built controller).mpr
      ⟨favourable_smooth grown ports, Or.inl inTime⟩
  refine ⟨running, time, w, ok, ?_⟩
  exact Session.teardown_clean shutdown_smooth (fun _ _ _ => rfl) (fun _ _ => rfl) running w

theorem failure_exitCode (message : String) : (Outcome.failure message).exitCode ≠ 0 := by
  simp [Outcome.failure]

theorem validate_exitCode (path : String) (file : File) :
    (validate path file).exitCode = 0 ↔ ∃ d p, file = .ok d ∧ d.toPlan = .ok p := by
  cases file with
  | error r => simp [validate, loadFailure, failure_exitCode]
  | ok d =>
    cases planned : d.toPlan with
    | error e => simp [validate, planned, failure_exitCode]
    | ok p =>
      have valid := (Description.toPlan_grown planned).valid
      simp [validate, planned, valid, Outcome.success]

variable {σ : Type} {m : Machine σ} {host : σ}

theorem dry_run_exitCode (path : String) (controller : Option Endpoint) {file : File}
    (sound : ∀ d, file = .ok d → d.validate = .ok ()) :
    (run m host path controller true true file).exitCode = 0 ↔
      ∃ d p, file = .ok d ∧ d.toPlan = .ok p := by
  cases file with
  | error r => simp [run, loadFailure, failure_exitCode]
  | ok d =>
    cases planned : d.toPlan with
    | error e => simp [run, runOn, planned, failure_exitCode]
    | ok p =>
      obtain ⟨running, time, w, ok, clean⟩ :=
        dry_run_clean (sound d rfl) planned (controller.getD d.controller)
      simp [run, runOn, planned, ok, clean]

/-- A validation succeeds just if a dry run does, and every description that passes its checks and
has a plan comes up in memory and goes down again cleanly. -/
theorem validate_iff_dry_run (m : Machine σ) (host : σ) (file : Except IoError ByteArray)
    (path : String) {args : List String} {controller : Option Endpoint}
    (given : Request.ControllerGiven args controller) :
    ((perform m host file (Request.ofArgs? ["validate", "-t", path])).exitCode = 0 ↔
      (perform m host file (Request.ofArgs?
        (["run", "-t", path] ++ args ++ ["--dry-run", "--no-wait"]))).exitCode = 0) ∧
    ∀ (d : Description) (p : Plan) (c : Endpoint), d.validate = .ok () → d.toPlan = .ok p →
      ∃ running time w,
        Session.buildAndStart (backends .smooth) d.startupTimeout p c .fresh =
          (.ok running, time, w) ∧
        (running.teardown (backends .smooth) w).1.isClean = true := by
  refine ⟨?_, fun d p c sound planned => dry_run_clean sound planned c⟩
  rw [Request.ofArgs?_validate, Request.ofArgs?_run path given]
  by_cases proper : Request.isPath path = true
  · have sound : ∀ d, Description.ofFile file = .ok d → d.validate = .ok () :=
      fun d read => Description.validate_of_ofFile read
    simp only [proper, ↓reduceIte, perform]
    rw [validate_exitCode, dry_run_exitCode path controller sound]
  · simp only [proper]
    rfl

def starText : String :=
  "hosts: [h1]\nswitches: [\x7bname: s1, data_plane: '127.0.0.1:50051'\x7d]\nlinks: [[s1, h1]]\n"

theorem star_runs_dry :
    Request.ControllerGiven ["--controller=" ++ "10.0.0.9:6653"] (some ⟨"10.0.0.9", 6653⟩) ∧
      (perform .idle () (.ok starText.toUTF8) (Request.ofArgs? (["run", "-t", "star.yaml"] ++
        ["--controller=" ++ "10.0.0.9:6653"] ++ ["--dry-run", "--no-wait"]))).exitCode = 0 := by
  have given : Request.ControllerGiven ["--controller=" ++ "10.0.0.9:6653"]
      (some ⟨"10.0.0.9", 6653⟩) := .attached rfl
  have valid : (perform .idle () (.ok starText.toUTF8)
      (Request.ofArgs? ["validate", "-t", "star.yaml"])).exitCode = 0 := by
    decide +kernel
  exact ⟨given, (validate_iff_dry_run .idle () (.ok starText.toUTF8) "star.yaml" given).1.mp valid⟩

end Testbed.Cli
