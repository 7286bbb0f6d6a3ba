import Mathlib.Data.List.Induction
import Mathlib.Data.List.Nodup
import Testbed.Description.Defect

namespace Testbed

theorem exists_first {α : Type} {clear : List α → Prop} {xs : List α} (start : clear [])
    (lost : ¬ clear xs) :
    ∃ before x after, xs = before ++ x :: after ∧ clear before ∧ ¬ clear (before ++ [x]) := by
  induction xs generalizing clear with
  | nil => exact absurd start lost
  | cons y rest ih =>
    by_cases kept : clear [y]
    · obtain ⟨before, x, after, rfl, clear_before, lost_at⟩ :=
        @ih (fun ys => clear (y :: ys)) kept lost
      exact ⟨y :: before, x, after, rfl, clear_before, lost_at⟩
    · exact ⟨[], y, rest, rfl, start, kept⟩

namespace Description

/-- What the checks of a description ask of it, apart from its nodes. -/
structure SoundSettings (d : Description) : Prop where
  timeout : d.settings.startupTimeoutSecs ≠ 0
  interval : d.settings.readyPollIntervalMs ≠ 0
  binary : Text.trim d.agent.binary ≠ ""

def SoundNames (names : List String) : Prop := (∀ name ∈ names, Text.trim name ≠ "") ∧ names.Nodup

def SoundPorts (switches : List SwitchEntry) : Prop :=
  (switches.map fun s => s.dataPlane.port).Nodup

structure Sound (d : Description) : Prop extends SoundSettings d where
  names : SoundNames d.names
  ports : SoundPorts d.switches

/-- The first thing that the checks find wrong. -/
inductive FirstDefect (d : Description) : Defect → Prop
  | zeroStartupTimeout (zero : d.settings.startupTimeoutSecs = 0) :
      FirstDefect d .zeroStartupTimeout
  | zeroPollInterval (timeout : d.settings.startupTimeoutSecs ≠ 0)
      (zero : d.settings.readyPollIntervalMs = 0) : FirstDefect d .zeroPollInterval
  | blankBinary (timeout : d.settings.startupTimeoutSecs ≠ 0)
      (interval : d.settings.readyPollIntervalMs ≠ 0) (blank : Text.trim d.agent.binary = "") :
      FirstDefect d .blankBinary
  | blankName {before name after} (settings : d.SoundSettings)
      (names : d.names = before ++ name :: after) (first : SoundNames before)
      (blank : Text.trim name = "") : FirstDefect d .blankName
  | repeatedName {before name after} (settings : d.SoundSettings)
      (names : d.names = before ++ name :: after) (first : SoundNames before)
      (repeated : name ∈ before) : FirstDefect d (.repeatedName name)
  | repeatedPort {before s after} (settings : d.SoundSettings) (names : SoundNames d.names)
      (switches : d.switches = before ++ s :: after) (first : SoundPorts before)
      (repeated : s.dataPlane.port ∈ before.map fun s => s.dataPlane.port) :
      FirstDefect d (.repeatedPort s.dataPlane.port s.name)

theorem settingsDefect?_eq_none {d : Description} : settingsDefect? d = none ↔ d.SoundSettings := by
  unfold settingsDefect?
  constructor
  · intro none_found
    split at none_found
    next => cases none_found
    next timeout =>
      split at none_found
      next => cases none_found
      next interval =>
        split at none_found
        next => cases none_found
        next binary =>
          exact ⟨timeout, interval, fun blank => binary (Text.trim_eq_empty_iff.mp blank)⟩
  · rintro ⟨timeout, interval, binary⟩
    rw [Ne, Text.trim_eq_empty_iff] at binary
    simp only [timeout, interval, binary, ↓reduceIte, Bool.false_eq_true]

section Names

variable {before names : List String} {name : String} {defect : Defect}

theorem nameDefect?_append (seen before rest : List String) :
    nameDefect? seen (before ++ rest) =
      (nameDefect? seen before).or (nameDefect? (before.reverse ++ seen) rest) := by
  induction before generalizing seen with
  | nil => rfl
  | cons name others ih =>
    rw [List.cons_append, nameDefect?, nameDefect?]
    split
    next => rfl
    next =>
      split
      next => rfl
      next => rw [ih, List.reverse_cons, List.append_assoc, List.singleton_append]

theorem nameDefect?_cons (before after : List String) (name : String) :
    nameDefect? before.reverse (name :: after) =
      if Text.trim name = "" then some .blankName
      else if name ∈ before then some (.repeatedName name)
      else nameDefect? (name :: before.reverse) after := by
  simp only [nameDefect?, Text.trim_eq_empty_iff, List.mem_reverse]

theorem nameDefect?_eq_none : nameDefect? [] names = none ↔ SoundNames names := by
  induction names using List.reverseRecOn with
  | nil => simp [nameDefect?, SoundNames]
  | append_singleton names name ih =>
    have sound_concat : SoundNames (names ++ [name]) ↔
        SoundNames names ∧ Text.trim name ≠ "" ∧ name ∉ names := by
      rw [SoundNames, ← List.concat_eq_append, List.nodup_concat, List.concat_eq_append,
        List.forall_mem_append, List.forall_mem_singleton, and_comm (a := name ∉ names)]
      exact and_and_and_comm
    rw [sound_concat, ← ih, nameDefect?_append, Option.or_eq_none_iff, List.append_nil,
      nameDefect?_cons]
    apply and_congr_right
    intro _
    by_cases blank : Text.trim name = ""
    · simp [blank]
    · by_cases before : name ∈ names <;> simp [blank, before, nameDefect?]

theorem nameDefect?_after (first : SoundNames before) (rest : List String) :
    nameDefect? [] (before ++ rest) = nameDefect? before.reverse rest := by
  rw [nameDefect?_append, nameDefect?_eq_none.mpr first, Option.none_or, List.append_nil]

theorem nameDefect?_eq_some (found : nameDefect? [] names = some defect) :
    ∃ before name after, names = before ++ name :: after ∧ SoundNames before ∧
      (Text.trim name = "" ∧ defect = .blankName ∨
        name ∈ before ∧ defect = .repeatedName name) := by
  have unsound : ¬ SoundNames names := by
    rw [← nameDefect?_eq_none, found]
    nofun
  have start : SoundNames [] := ⟨nofun, .nil⟩
  -- The check gets as far as the first name that it cannot pass, and says why.
  obtain ⟨before, name, after, rfl, first, lost⟩ := exists_first start unsound
  refine ⟨before, name, after, rfl, first, ?_⟩
  rw [← nameDefect?_eq_none, nameDefect?_after first, nameDefect?_cons] at lost
  rw [nameDefect?_after first, nameDefect?_cons] at found
  by_cases blank : Text.trim name = ""
  · simp only [blank, ↓reduceIte, Option.some.injEq] at found
    exact .inl ⟨blank, found.symm⟩
  · by_cases repeated : name ∈ before
    · simp only [blank, repeated, ↓reduceIte, Option.some.injEq] at found
      exact .inr ⟨repeated, found.symm⟩
    · simp [blank, repeated, nameDefect?] at lost

end Names

section Ports

variable {before switches : List SwitchEntry} {defect : Defect}

theorem portDefect?_append (seen : List UInt16) (before rest : List SwitchEntry) :
    portDefect? seen (before ++ rest) = (portDefect? seen before).or
      (portDefect? ((before.map fun s => s.dataPlane.port).reverse ++ seen) rest) := by
  induction before generalizing seen with
  | nil => rfl
  | cons s others ih =>
    rw [List.cons_append, portDefect?, portDefect?]
    split
    next => rfl
    next => rw [ih, List.map_cons, List.reverse_cons, List.append_assoc, List.singleton_append]

theorem portDefect?_cons (before : List UInt16) (s : SwitchEntry) (after : List SwitchEntry) :
    portDefect? before.reverse (s :: after) =
      if s.dataPlane.port ∈ before then some (.repeatedPort s.dataPlane.port s.name)
      else portDefect? (s.dataPlane.port :: before.reverse) after := by
  simp only [portDefect?, List.mem_reverse]

theorem portDefect?_eq_none : portDefect? [] switches = none ↔ SoundPorts switches := by
  induction switches using List.reverseRecOn with
  | nil => simp [portDefect?, SoundPorts]
  | append_singleton switches s ih =>
    have sound_concat : SoundPorts (switches ++ [s]) ↔
        SoundPorts switches ∧ s.dataPlane.port ∉ switches.map fun s => s.dataPlane.port := by
      rw [SoundPorts, List.map_append, List.map_singleton, ← List.concat_eq_append,
        List.nodup_concat, and_comm]
      rfl
    rw [sound_concat, ← ih, portDefect?_append, Option.or_eq_none_iff, List.append_nil,
      portDefect?_cons]
    apply and_congr_right
    intro _
    split
    next repeated => simp [repeated]
    next new => simp [new, portDefect?]

theorem portDefect?_after (first : SoundPorts before) (rest : List SwitchEntry) :
    portDefect? [] (before ++ rest) =
      portDefect? (before.map fun s => s.dataPlane.port).reverse rest := by
  rw [portDefect?_append, portDefect?_eq_none.mpr first, Option.none_or, List.append_nil]

theorem portDefect?_eq_some (found : portDefect? [] switches = some defect) :
    ∃ before s after, switches = before ++ s :: after ∧ SoundPorts before ∧
      s.dataPlane.port ∈ before.map (fun s => s.dataPlane.port) ∧
      defect = .repeatedPort s.dataPlane.port s.name := by
  have unsound : ¬ SoundPorts switches := by
    rw [← portDefect?_eq_none, found]
    nofun
  have start : SoundPorts [] := .nil
  obtain ⟨before, s, after, rfl, first, lost⟩ := exists_first start unsound
  refine ⟨before, s, after, rfl, first, ?_⟩
  rw [← portDefect?_eq_none, portDefect?_after first, portDefect?_cons] at lost
  rw [portDefect?_after first, portDefect?_cons] at found
  split at found
  next repeated => exact ⟨repeated, (Option.some.inj found).symm⟩
  next new => simp [new, portDefect?] at lost

end Ports

variable {d : Description} {defect : Defect}

theorem validate_ok_iff : d.validate = .ok () ↔ d.defect? = none := by
  unfold validate
  cases d.defect? <;> simp

theorem defect?_eq_none : d.defect? = none ↔ d.Sound := by
  rw [defect?, Option.or_eq_none_iff, Option.or_eq_none_iff, settingsDefect?_eq_none,
    nameDefect?_eq_none, portDefect?_eq_none]
  constructor
  · rintro ⟨settings, names, ports⟩
    exact ⟨settings, names, ports⟩
  · rintro ⟨settings, names, ports⟩
    exact ⟨settings, names, ports⟩

theorem FirstDefect.found (first : d.FirstDefect defect) : d.defect? = some defect := by
  cases first with
  | zeroStartupTimeout zero => simp [defect?, settingsDefect?, zero]
  | zeroPollInterval timeout zero => simp [defect?, settingsDefect?, timeout, zero]
  | blankBinary timeout interval blank =>
    simp [defect?, settingsDefect?, timeout, interval, Text.trim_eq_empty_iff.mp blank]
  | blankName settings names first blank =>
    rw [defect?, settingsDefect?_eq_none.mpr settings, names, nameDefect?_after first,
      nameDefect?_cons, if_pos blank]
    rfl
  | repeatedName settings names first repeated =>
    rw [defect?, settingsDefect?_eq_none.mpr settings, names, nameDefect?_after first,
      nameDefect?_cons, if_neg (first.1 _ repeated), if_pos repeated]
    rfl
  | repeatedPort settings names switches first repeated =>
    rw [defect?, settingsDefect?_eq_none.mpr settings, nameDefect?_eq_none.mpr names, switches,
      portDefect?_after first, portDefect?_cons, if_pos repeated]
    rfl

theorem firstDefect_of_settings (found : settingsDefect? d = some defect) :
    d.FirstDefect defect := by
  unfold settingsDefect? at found
  split at found
  next zero => exact Option.some.inj found ▸ .zeroStartupTimeout zero
  next timeout =>
    split at found
    next zero => exact Option.some.inj found ▸ .zeroPollInterval timeout zero
    next interval =>
      split at found
      next blank =>
        exact Option.some.inj found ▸
          .blankBinary timeout interval (Text.trim_eq_empty_iff.mpr blank)
      next => cases found

theorem firstDefect_of_found (found : d.defect? = some defect) : d.FirstDefect defect := by
  rw [defect?, Option.or_eq_some_iff, Option.or_eq_some_iff] at found
  rcases found with settings | ⟨settings, names | ⟨names, ports⟩⟩
  · exact firstDefect_of_settings settings
  · have settings := settingsDefect?_eq_none.mp settings
    obtain ⟨before, name, after, split, first, ⟨blank, rfl⟩ | ⟨repeated, rfl⟩⟩ :=
      nameDefect?_eq_some names
    · exact .blankName settings split first blank
    · exact .repeatedName settings split first repeated
  · obtain ⟨before, s, after, split, first, repeated, rfl⟩ := portDefect?_eq_some ports
    exact .repeatedPort (settingsDefect?_eq_none.mp settings) (nameDefect?_eq_none.mp names) split
      first repeated

/-- A description is accepted just if it is sound, and otherwise the first defect is reported. -/
theorem validate_exact (d : Description) :
    (d.validate = .ok () ↔ d.Sound) ∧
      ∀ e, d.validate = .error e ↔
        ∃ defect, d.FirstDefect defect ∧ e = .config defect.field defect.message := by
  unfold validate
  cases found : d.defect? with
  | none =>
    have sound := defect?_eq_none.mp found
    refine ⟨⟨fun _ => sound, fun _ => rfl⟩, fun e => ⟨nofun, ?_⟩⟩
    rintro ⟨defect, first, -⟩
    rw [first.found] at found
    cases found
  | some defect =>
    refine ⟨⟨nofun, fun sound => ?_⟩, fun e => ⟨fun refused => ?_, ?_⟩⟩
    · rw [defect?_eq_none.mpr sound] at found
      cases found
    · exact ⟨defect, firstDefect_of_found found, (Except.error.inj refused).symm⟩
    · rintro ⟨other, first, rfl⟩
      rw [first.found] at found
      cases found
      rfl

example : Description.validate { default with hosts := ["h1", "h1", " "] } =
    .error (.config "name" "node 'h1' is declared twice") := by
  decide

end Description

end Testbed
