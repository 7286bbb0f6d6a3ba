import Testbed.Cli.Request

namespace Testbed.Cli

section Scan

variable {options : List OptionSpec} {given : Given} {arg value : String} {rest : List String}
  {o : OptionSpec}

theorem looksLikeOption_of_written {w : Written} (written : written? options arg = some w) :
    looksLikeOption arg = true := by
  have dashed : ['-'] <+: arg.toList ∧ arg.toList ≠ ['-'] := by
    unfold written? at written
    split at written
    next chars => simp [chars]
    next body _ chars =>
      refine ⟨by simp [chars], fun alone => ?_⟩
      rw [chars, List.cons.injEq] at alone
      rw [alone.2] at written
      cases written
    next => cases written
  have more : arg ≠ "-" := fun same => dashed.2 (by simp [same])
  simp [looksLikeOption, dashed.1, more]

theorem scan_word (ends : arg ≠ "--") (plain : looksLikeOption arg = false) :
    scan options given (arg :: rest) = .word given arg rest := by
  simp [scan, ends, plain]

theorem scan_flag (ends : arg ≠ "--") (written : written? options arg = some ⟨o, none⟩)
    (goesOn : o.final = false) (bare : o.takesValue = false) :
    scan options given (arg :: rest) =
      (add given o "").elim .refused fun given => scan options given rest := by
  have looks := looksLikeOption_of_written written
  cases added : add given o "" <;> simp [scan, ends, looks, written, goesOn, bare, added]

theorem scan_attached (ends : arg ≠ "--") (written : written? options arg = some ⟨o, some value⟩)
    (goesOn : o.final = false) (valued : o.takesValue = true) :
    scan options given (arg :: rest) =
      (add given o value).elim .refused fun given => scan options given rest := by
  have looks := looksLikeOption_of_written written
  cases added : add given o value <;> simp [scan, ends, looks, written, goesOn, valued, added]

theorem scan_apart (ends : arg ≠ "--") (written : written? options arg = some ⟨o, none⟩)
    (goesOn : o.final = false) (valued : o.takesValue = true) :
    scan options given (arg :: value :: rest) =
      if looksLikeOption value then .refused
      else (add given o value).elim .refused fun given => scan options given rest := by
  have looks := looksLikeOption_of_written written
  cases added : add given o value <;> simp [scan, ends, looks, written, goesOn, valued, added]

end Scan

namespace Request

def isPath (path : String) : Bool := !looksLikeOption path && path != ""

/-- The ways to give a controller, or none, and the controller that is given. -/
inductive ControllerGiven : List String → Option Endpoint → Prop
  | absent : ControllerGiven [] none
  | attached {text : String} {e : Endpoint} (read : Endpoint.read text = .ok e) :
      ControllerGiven ["--controller=" ++ text] (some e)
  | apart {text : String} {e : Endpoint} (read : Endpoint.read text = .ok e)
      (plain : looksLikeOption text = false) : ControllerGiven ["--controller", text] (some e)

def runOptions : List OptionSpec := [topology, controller, dryRun, noWait, logLevel, helpOption]

def givenSoFar (path : String) (text : Option String) : Given :=
  ("topology", path) :: text.toList.map (Prod.mk "controller")

theorem scan_topology (options : List OptionSpec) (path : String) (rest : List String) :
    scan (topology :: options) [] ("-t" :: path :: rest) =
      if isPath path then scan (topology :: options) (givenSoFar path none) rest
      else .refused := by
  rw [scan_apart (o := topology) (by decide) rfl rfl rfl]
  by_cases empty : path = ""
  · simp [isPath, empty, add, topology]
  · by_cases looks : looksLikeOption path = true <;>
      simp [isPath, givenSoFar, empty, add, topology, looks]

theorem isEndpoint_of_read {text : String} {e : Endpoint} (read : Endpoint.read text = .ok e) :
    isEndpoint text = true := by
  simp [isEndpoint, read]

theorem scan_controller {args : List String} {c : Option Endpoint} (given : ControllerGiven args c)
    (path : String) (rest : List String) :
    ∃ text, (text.bind fun s => (Endpoint.read s).toOption) = c ∧
      scan runOptions (givenSoFar path none) (args ++ rest) =
        scan runOptions (givenSoFar path text) rest := by
  cases given with
  | absent => exact ⟨none, rfl, rfl⟩
  | @attached text e read =>
    refine ⟨some text, by simp [read, Except.toOption], ?_⟩
    have ends : "--controller=" ++ text ≠ "--" := fun same => by
      have chars := congrArg String.toList same
      simp at chars
    have written : written? runOptions ("--controller=" ++ text) =
        some ⟨controller, some text⟩ := by
      simp [written?, writtenLong?]
      rfl
    rw [List.singleton_append, scan_attached ends written rfl rfl]
    simp [givenSoFar, add, controller, isEndpoint_of_read read]
  | @apart text e read plain =>
    refine ⟨some text, by simp [read, Except.toOption], ?_⟩
    have taken : scan runOptions (givenSoFar path none) ("--controller" :: text :: rest) = _ :=
      scan_apart (o := controller) (by decide) rfl rfl rfl
    refine taken.trans ?_
    simp [givenSoFar, add, controller, isEndpoint_of_read read, plain]

theorem scan_flags (path : String) (text : Option String) :
    scan runOptions (givenSoFar path text) ["--dry-run", "--no-wait"] =
      .ended (givenSoFar path text ++ [("dry-run", ""), ("no-wait", "")]) := by
  have first (given : Given) (rest : List String) :
      scan runOptions given ("--dry-run" :: rest) = _ :=
    scan_flag (o := dryRun) (by decide) rfl rfl rfl
  have second (given : Given) (rest : List String) :
      scan runOptions given ("--no-wait" :: rest) = _ :=
    scan_flag (o := noWait) (by decide) rfl rfl rfl
  rw [first]
  cases text <;> simp [givenSoFar, add, dryRun, noWait, second, scan]

theorem ofArgs?_validate (path : String) :
    ofArgs? ["validate", "-t", path] = if isPath path then some (.validate path) else none := by
  rw [ofArgs?, scan_word (by decide) (by simp [looksLikeOption])]
  simp only [ofOptions?, List.cons_append, scan_topology]
  by_cases proper : isPath path = true
  · simp only [proper, ↓reduceIte]
    rfl
  · simp only [proper]
    rfl

theorem ofArgs?_run (path : String) {args : List String} {c : Option Endpoint}
    (given : ControllerGiven args c) :
    ofArgs? (["run", "-t", path] ++ args ++ ["--dry-run", "--no-wait"]) =
      if isPath path then some (.run path c true true) else none := by
  obtain ⟨text, read, scanned⟩ := scan_controller given path ["--dry-run", "--no-wait"]
  have command : ofArgs? (["run", "-t", path] ++ args ++ ["--dry-run", "--no-wait"]) =
      ofOptions? [topology, controller, dryRun, noWait]
        ("-t" :: path :: (args ++ ["--dry-run", "--no-wait"])) fun path given =>
        .run path (controllerOf? given) (valueOf? given dryRun).isSome
          (valueOf? given noWait).isSome := by
    rw [ofArgs?, List.append_assoc, List.cons_append,
      scan_word (by decide) (by simp [looksLikeOption])]
    rfl
  have options : [topology, controller, dryRun, noWait] ++ [logLevel, helpOption] =
      runOptions := rfl
  rw [command, ofOptions?, options, runOptions, scan_topology]
  by_cases proper : isPath path = true
  · simp only [proper, ↓reduceIte]
    rw [← runOptions, scanned, scan_flags, ← read]
    cases text <;>
      simp [givenSoFar, controllerOf?, valueOf?, topology, controller, dryRun, noWait]
  · simp only [proper]
    rfl

end Request

end Testbed.Cli
