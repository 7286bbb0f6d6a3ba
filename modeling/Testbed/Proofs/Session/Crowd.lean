import Testbed.Proofs.InMemory.Fabric
import Testbed.Proofs.InMemory.Startup
import Testbed.Proofs.InMemory.World
import Testbed.Proofs.Session.FailFast

namespace Testbed.Session

variable {σ : Type}

/-- The only switch of the lane finds its port taken. -/
structure Clashes (r : PortRegistry) (lane : Lane) (e : Entry) (holder : String) : Prop where
  single : lane = ⟨lane.controller, [], .idle, [e]⟩
  unbound : e.binding.phase = .unbound
  taken : r.holder? e.dataPlane.port = some holder
  other : holder ≠ e.binding.switch

def clashed (lane : Lane) (e : Entry) (holder : String) : Lane :=
  ⟨lane.controller, [e.inPhase (.failed none)],
    .failed (.bindConflict e.binding.switch e.dataPlane holder), []⟩

theorem Clashes.start {r : PortRegistry} {lane : Lane} {e : Entry} {holder : String}
    (clashes : Clashes r lane e holder) (a : Agent σ) (now : Nat) (c : Endpoint) (s : σ) :
    startEntry a now c e ⟨r, s⟩ = ((.failed (.bindConflict e.binding.switch e.dataPlane holder),
      e.inPhase (.failed none)), ⟨r, s⟩) := by
  have refused : r.reserve e.binding.switch e.dataPlane =
      .error (.bindConflict e.binding.switch e.dataPlane holder) := by
    unfold PortRegistry.reserve
    rw [clashes.taken]
    exact if_neg clashes.other
  unfold startEntry
  rw [Lane.bind_unbound a clashes.unbound, refused]
  rfl

theorem Clashes.advance {r : PortRegistry} {lane : Lane} {e : Entry} {holder : String}
    (clashes : Clashes r lane e holder) (a : Agent σ) (now : Nat) (s : σ) :
    lane.advance a now ⟨r, s⟩ = (clashed lane e holder, ⟨r, s⟩) ∧
    lane.advanceMoments a now ⟨r, s⟩ =
      [⟨.failed (.bindConflict e.binding.switch e.dataPlane holder), s⟩] := by
  have started := clashes.start a now lane.controller s
  rw [clashes.single]
  refine ⟨?_, ?_⟩
  · simp only [Lane.advance, Lane.startAll, started, List.nil_append, clashed]
  · simp only [Lane.advanceMoments, Lane.startAllMoments, started]

theorem noticed?_front (front : Lane) (rest : List Lane)
    (many : eagerLimit < (front :: rest).length) (unfinished : front.isFinished = false) :
    noticed? (front :: rest) = front.failure? := by
  rw [noticed?, if_neg (by omega), frontFailure?]
  cases front.failure? <;> simp [unfinished]

theorem sweep_clashes (a : Agent σ) (now : Nat) (front : Lane) {e : Entry} {w : Wait}
    (waits : front.progress = .waiting e w) {r : PortRegistry} (s : σ) (swept rest : List Lane)
    (many : eagerLimit < 1 + swept.length + rest.length)
    (clash : ∀ lane ∈ rest, ∃ x holder, Clashes r lane x holder) :
    ∃ failed, sweep a now (front :: swept) rest ⟨r, s⟩ = (front :: swept ++ failed, ⟨r, s⟩) ∧
      ∀ lane ∈ failed, ∃ cause, lane.progress = .failed cause := by
  induction rest generalizing swept with
  | nil => exact ⟨[], by simp [sweep], nofun⟩
  | cons lane rest ih =>
    obtain ⟨x, holder, clashes⟩ := clash lane (by simp)
    have unnoticed (lane' : Lane) : noticed? (front :: swept ++ [lane'] ++ rest) = none := by
      have silent := noticed?_front front (swept ++ [lane'] ++ rest)
        (by simp only [List.length_cons, List.length_append, List.length_nil] at many ⊢; omega)
        (by simp [Lane.isFinished, waits])
      simpa [Lane.failure?, waits] using silent
    have advanced := (clashes.advance a now s).1
    obtain ⟨failed, swept_out, all_failed⟩ := ih (swept ++ [clashed lane x holder])
      (by simp only [List.length_cons, List.length_append, List.length_nil] at many ⊢; omega)
      fun y member => clash y (by simp [member])
    refine ⟨clashed lane x holder :: failed, ?_,
      List.forall_mem_cons.mpr ⟨⟨_, rfl⟩, all_failed⟩⟩
    unfold sweep
    simp only [advanced, unnoticed]
    rw [List.cons_append, swept_out]
    simp

/-- The first lane waits from the start on for a switch that gets ready too late, and the lanes
behind it, which are many, find their ports taken. -/
structure Crowded (a : Agent σ) (sh : Shared σ) (first : Lane) (rest : List Lane) (c : Endpoint)
    (e : Entry) (w : Wait) (r : PortRegistry) (s : σ) : Prop where
  calm : first.Calm
  advanced : first.advance a 0 sh = (⟨c, [], .waiting e w, []⟩, ⟨r, s⟩)
  deadline : w.deadline = 1
  wake : w.wake = some 2
  many : eagerLimit < (first :: rest).length
  clash : ∀ lane ∈ rest, ∃ x holder, Clashes r lane x holder

section Crowded

variable {a : Agent σ} {sh : Shared σ} {first : Lane} {rest : List Lane} {c : Endpoint} {e : Entry}
  {w : Wait} {r : PortRegistry} {s : σ} (crowded : Crowded a sh first rest c e w r s)

include crowded

theorem Crowded.sweep : ∃ failed,
    sweep a 0 [] (first :: rest) sh = (⟨c, [], .waiting e w, []⟩ :: failed, ⟨r, s⟩) ∧
      failed.length = rest.length ∧ ∀ lane ∈ failed, ∃ cause, lane.progress = .failed cause := by
  have many := crowded.many
  have length := sweep_length a 0 [] (first :: rest) sh
  obtain ⟨failed, swept, all_failed⟩ := sweep_clashes a 0 ⟨c, [], .waiting e w, []⟩ rfl s [] rest
    (by simpa [Nat.add_comm] using many) crowded.clash
  have unnoticed := noticed?_front ⟨c, [], .waiting e w, []⟩ rest (by simpa using many) rfl
  have whole : Session.sweep a 0 [] (first :: rest) sh =
      (⟨c, [], .waiting e w, []⟩ :: failed, ⟨r, s⟩) := by
    rw [Session.sweep]
    simp only [crowded.advanced, List.nil_append, List.singleton_append, unnoticed, Lane.failure?]
    exact swept
  refine ⟨failed, whole, ?_, all_failed⟩
  rw [whole] at length
  simpa using length

theorem Crowded.result (n : Nat) : (runLanes a (n + 2) 0 (first :: rest) sh).result =
    .error (e.binding.timedOut w.launch) := by
  obtain ⟨failed, swept, length, all_failed⟩ := crowded.sweep
  have many : eagerLimit < (first :: rest).length := crowded.many
  rw [List.length_cons, ← length] at many
  have unnoticed := noticed?_front ⟨c, [], .waiting e w, []⟩ failed many rfl
  have asleep : failed.filterMap Lane.due? = [] := by
    refine List.filterMap_eq_nil_iff.mpr fun lane member => ?_
    obtain ⟨cause, h⟩ := all_failed lane member
    simp [Lane.due?, h]
  have next : nextTime? 0 (⟨c, [], .waiting e w, []⟩ :: failed) = some 1 := by
    simp [nextTime?, asleep, Lane.due?, crowded.wake, crowded.deadline]
  -- on the next tick the wait is over, with which the start ends
  let late : Lane := ⟨c, [e.inPhase (.failed (some (w.launch.dataPlane, w.launch.controller)))],
    .failed (e.binding.timedOut w.launch), []⟩
  have advanced : (Lane.mk c [] (.waiting e w) []).advance a 1 ⟨r, s⟩ = (late, ⟨r, s⟩) := by
    simp [Lane.advance, crowded.wake, keepWaiting, crowded.deadline, concludeStart,
      Binding.endStart, Lane.resume, late, Entry.inPhase]
  have noticed := noticed?_front late failed many rfl
  have last : Session.sweep a 1 [] (⟨c, [], .waiting e w, []⟩ :: failed) ⟨r, s⟩ =
      (late :: failed, ⟨r, s⟩) := by
    rw [Session.sweep]
    simp only [advanced, List.nil_append, List.singleton_append, noticed]
    rfl
  rw [runLanes]
  simp only [swept, unnoticed, Lane.failure?, next]
  rw [runLanes]
  simp only [last, noticed]
  rfl

theorem Crowded.firstFailure (n : Nat) (some_rest : rest ≠ []) : ∃ (x : Entry) (holder : String),
    firstFailure? (runMoments a (n + 1) 0 (first :: rest) sh) =
      some (.bindConflict x.binding.switch x.dataPlane holder, s) := by
  obtain ⟨second, others, rfl⟩ := List.exists_cons_of_ne_nil some_rest
  obtain ⟨x, holder, clashes⟩ := crowded.clash second (by simp)
  have quiet := Lane.advance_firstFailure a 0 crowded.calm sh
  have unnoticed := noticed?_front ⟨c, [], .waiting e w, []⟩ (second :: others)
    (by simpa using crowded.many) rfl
  refine ⟨x, holder, ?_⟩
  rw [crowded.advanced] at quiet
  rw [runMoments, firstFailure?_append, sweepMoments]
  simp only [crowded.advanced, List.nil_append, List.singleton_append, unnoticed, Lane.failure?]
  rw [firstFailure?_append, quiet, sweepMoments, firstFailure?_append,
    (clashes.advance a 0 s).2]
  rfl

end Crowded

section Plans

open InMemory

def mark (c : Char) (i : Nat) : String := String.ofList (List.replicate (i + 1) c)

theorem mark_injective (c : Char) : Function.Injective (mark c) := by
  intro i j same
  have lists := congrArg (fun text : String => text.toList.length) same
  simpa [mark] using lists

def crowdController (i : Nat) : Endpoint := ⟨mark 'c' i, 6653⟩

def crowdSpec (i : Nat) : SwitchSpec := ⟨⟨"127.0.0.1", 9000⟩, 1, some (crowdController i)⟩

def crowd (n : Nat) : Plan :=
  Plan.empty.performAll ((List.range n).map fun i => .addSwitchSpec (mark 's' i) (crowdSpec i))

theorem built_crowd (n : Nat) : (crowd n).Built := Plan.Built.empty.performAll _

theorem crowd_declares (n : Nat) :
    (crowd n).nodes = ((List.range n).map fun i => Node.switch (mark 's' i) (crowdSpec i)) ∧
      (crowd n).links = [] := by
  induction n with
  | zero => exact ⟨rfl, rfl⟩
  | succ n ih =>
    obtain ⟨nodes, links⟩ := ih
    have grown : crowd (n + 1) = (crowd n).perform (.addSwitchSpec (mark 's' n) (crowdSpec n)) := by
      simp only [crowd, List.range_succ, List.map_append, Plan.performAll_append]
      rfl
    have absent : (crowd n).has (mark 's' n) = false := by
      rw [← Bool.not_eq_true, Plan.has_iff, Plan.names, nodes, List.map_map]
      intro member
      obtain ⟨i, listed, same⟩ := List.mem_map.mp member
      have eq := mark_injective 's' same
      rw [eq] at listed
      exact Nat.lt_irrefl n (List.mem_range.mp listed)
    rw [grown]
    simp only [Plan.perform, Plan.attempt, Plan.addSwitchSpec, Plan.declare, Node.switch, absent,
      Bool.false_eq_true, ↓reduceIte, Except.map]
    refine ⟨?_, links⟩
    rw [nodes, List.range_succ, List.map_append]
    rfl

theorem crowd_keys (n : Nat) (controller : Endpoint) :
    ((crowd n).nodes.filterMap fun n => n.spec?.map fun spec => spec.controller.getD controller) =
      (List.range n).map crowdController := by
  rw [(crowd_declares n).1, List.filterMap_map]
  simp [Function.comp_def, Node.switch, Node.spec?, crowdSpec]

theorem nodup_crowdControllers (n : Nat) : ((List.range n).map crowdController).Nodup :=
  List.nodup_range.map fun _ _ same => mark_injective 'c' (congrArg Endpoint.host same)

theorem crowd_groups (n : Nat) (controller : Endpoint) : (crowd n).groups controller = n := by
  have perm := (List.perm_ext_iff_of_nodup (nodup_eraseDups _) (nodup_crowdControllers n)).mpr
    fun _ => List.mem_eraseDups
  rw [Plan.groups, crowd_keys, perm.length_eq, List.length_map, List.length_range]

def tardy : Setup := { Setup.smooth with agent := ⟨[], .ofMillis 2, []⟩ }

structure Hurried (e : Entry) : Prop where
  unbound : e.binding.phase = .unbound
  port : e.dataPlane.port = 9000
  timeout : e.binding.startupTimeout = .ofMillis 1

theorem hurried_entries (n : Nat) (controller : Endpoint) :
    ∀ x ∈ entriesOf (.ofMillis 1) controller ⟨(crowd n).nodes, (crowd n).links, false⟩,
      Hurried x.2 := by
  rw [forall_entriesOf (Q := fun _ spec => spec.dataPlane.port = 9000)]
  · intro m member spec found
    rw [(crowd_declares n).1] at member
    obtain ⟨i, _, rfl⟩ := List.mem_map.mp member
    cases found
    rfl
  · intro place m spec
    exact ⟨Hurried.port, fun port => ⟨rfl, port, rfl⟩⟩

theorem crowd_controllers (n : Nat) (controller : Endpoint) :
    ((entriesOf (.ofMillis 1) controller
      ⟨(crowd n).nodes, (crowd n).links, false⟩).map (·.1)).Nodup := by
  rw [entriesOf_map _ (fun _ spec => spec.controller.getD controller) fun _ _ _ => rfl]
  rw [crowd_keys]
  exact nodup_crowdControllers n

theorem first_waits (c : Endpoint) {e : Entry} (hurried : Hurried e) (j : Journaled World)
    (fresh : j.inner.agent = .fresh) :
    ∃ s, (Lane.mk c [] .idle [e]).advance (Journaled.backends (backends tardy)).agent 0
        ⟨.empty, j⟩ =
      (⟨c, [], .waiting (e.inPhase (.attached e.dataPlane c true))
        ⟨e.launch c, 1, some 2, 1⟩, []⟩, ⟨⟨[(e.dataPlane.port, e.binding.switch)]⟩, s⟩) := by
  let a := (Journaled.backends (backends tardy)).agent
  have reserved : PortRegistry.empty.reserve e.binding.switch e.dataPlane =
      .ok ⟨[(e.dataPlane.port, e.binding.switch)]⟩ := rfl
  obtain ⟨t, checked, same⟩ : ∃ t, a.checkEndpoint e.dataPlane j = (.ok (), t) ∧
      t.inner.agent = .fresh := ⟨_, rfl, fresh⟩
  obtain ⟨u, launched⟩ : ∃ u, a.launch (e.launch c) t = (.ok (), u) := by
    have begun : (launch tardy.agent (e.launch c) t.inner.agent).1 = .ok () := by
      rw [same]
      rfl
    exact ⟨_, Prod.ext begun rfl⟩
  obtain ⟨s, polled⟩ : ∃ s, a.poll (e.launch c) 0 u = (.again (.ofMillis 2), s) := ⟨_, rfl⟩
  refine ⟨s, ?_⟩
  have waiting : startEntry a 0 c e ⟨.empty, j⟩ =
      ((.waiting ⟨e.launch c, 1, some 2, 1⟩, e.inPhase (.attached e.dataPlane c true)),
        ⟨⟨[(e.dataPlane.port, e.binding.switch)]⟩, s⟩) := by
    have deadline : 0 + e.binding.startupTimeout.waitTicks = 1 := by rw [hurried.timeout]; rfl
    simp only [Entry.launch, Binding.launchOf] at launched polled
    simp only [startEntry, Lane.bind_unbound a hurried.unbound, reserved, checked, Binding.endBind,
      Binding.attach, launchEntry, Binding.beginStart, Binding.launchOf, launched, pollEntry,
      polled, deadline]
    rfl
  simp only [Lane.advance, Lane.startAll]
  rw [show startEntry _ 0 c e ⟨.empty, j⟩ = _ from waiting]

theorem crowd_created (n : Nat) : ∃ k : Journaled World,
    (crowd n).materialize (Journaled.backends (backends tardy)).fabric ⟨[], .fresh⟩ =
        (.ok ⟨(crowd n).nodes, (crowd n).links, false⟩, k) ∧
      k.inner.agent = .fresh := by
  have unlinked : (crowd n).links = [] := (crowd_declares n).2
  obtain ⟨topology, set_up⟩ := (materialize_ok_iff tardy.faults (p := crowd n) .fresh).mpr
    ⟨by simp [Plan.orphanLinks, unlinked], fun m _ => nofun, by simp [unlinked]⟩
  have created := materialize_world tardy (tuner tardy.refusedHost) (crowd n) .fresh
  rw [← backends_eq, show World.fresh.fabric = .fresh from rfl, set_up] at created
  obtain ⟨rfl, calls, noted, _⟩ := materialize_journal created
  exact ⟨_, noted, rfl⟩

theorem crowded_crowd {n : Nat} (many : eagerLimit < n) (controller : Endpoint)
    (k : Journaled World) (fresh : k.inner.agent = .fresh) :
    ∃ first rest c e w r s,
      lanesOf (entriesOf (.ofMillis 1) controller ⟨(crowd n).nodes, (crowd n).links, false⟩) =
          first :: rest ∧
        Crowded (Journaled.backends (backends tardy)).agent ⟨.empty, k⟩ first rest c e w r s := by
  let entries := entriesOf (.ofMillis 1) controller ⟨(crowd n).nodes, (crowd n).links, false⟩
  have length : (lanesOf entries).length = n := by
    rw [lanesOf_length, crowd_groups]
  have single := lanesOf_single (crowd_controllers n controller)
  have hurried := hurried_entries n controller
  have distinct : Distinct (lanesOf entries) :=
    lanesOf_distinct (entriesOf_names (.ofMillis 1) controller (built_crowd n))
  cases lanes : lanesOf entries with
  | nil =>
    rw [lanes] at length
    rw [← length] at many
    cases many
  | cons first rest =>
    obtain ⟨x, listed, is_first⟩ := single first (by simp [entries, lanes])
    have at_port := (hurried x listed).port
    obtain ⟨s, advanced⟩ := first_waits x.1 (hurried x listed) k fresh
    have switches := distinct.switches
    rw [lanes, List.flatMap_cons, is_first, List.map_append, List.nodup_append] at switches
    refine ⟨first, rest, _, _, _, _, s, rfl, ?_, is_first ▸ advanced, rfl, rfl, ?_, ?_⟩
    · exact lanesOf_calm entries first (by simp [lanes])
    · rw [← lanes, length]
      exact many
    · intro lane member
      obtain ⟨y, listed', rfl⟩ := single lane (by simp [entries, lanes, member])
      have in_rest : y.2 ∈ rest.flatMap Lane.entries :=
        List.mem_flatMap.mpr ⟨_, member, by simp [Lane.entries]⟩
      refine ⟨y.2, x.2.binding.switch, rfl, (hurried y listed').unbound, ?_, ?_⟩
      · simp [PortRegistry.holder?, at_port, (hurried y listed').port]
      · exact switches.2.2 _ (by simp [Lane.entries]) _ (List.mem_map_of_mem in_rest)

theorem tickBound_cons {first : Lane} {e : Entry} (rest : List Lane)
    (single : first.entries = [e]) : ∃ n, tickBound (first :: rest) = n + 2 := by
  unfold tickBound
  rw [List.flatMap_cons, single, List.singleton_append, List.foldr_cons]
  exact ⟨_, by rw [Nat.add_right_comm]⟩

theorem not_failsFast_crowd {n : Nat} (many : eagerLimit < n) (controller : Endpoint) :
    ¬ FailsFast (backends tardy) (.ofMillis 1) (crowd n) controller .fresh := by
  intro fast
  let entries := entriesOf (.ofMillis 1) controller ⟨(crowd n).nodes, (crowd n).links, false⟩
  obtain ⟨k, created, fresh⟩ := crowd_created n
  obtain ⟨first, rest, c, e, w, r, s, lanes, crowded⟩ := crowded_crowd many controller k fresh
  obtain ⟨x, _, is_first⟩ := lanesOf_single (crowd_controllers n controller) first
    (by rw [lanes]; exact List.mem_cons_self)
  obtain ⟨m, ticks⟩ := tickBound_cons rest
    (show first.entries = [x.2] by rw [is_first]; rfl)
  have failed : (startLanes (Journaled.backends (backends tardy)).agent (lanesOf entries)
      ⟨.empty, k⟩).result = .error (e.binding.timedOut w.launch) := by
    rw [lanes, startLanes, ticks]
    exact crowded.result m
  have some_rest : rest ≠ [] := by
    rintro rfl
    exact absurd (show eagerLimit < 1 from crowded.many) (by decide)
  obtain ⟨y, holder, before⟩ := crowded.firstFailure (m + 1) some_rest
  have reported := (buildAndStart_start_failed created failed).1
  have noted : firstFailure? (sessionMoments (Journaled.backends (backends tardy)) (.ofMillis 1)
      (crowd n) controller ⟨[], .fresh⟩) =
        some (.bindConflict y.binding.switch y.dataPlane holder, s) := by
    simp only [sessionMoments, created]
    rw [lanes, startMoments, ticks]
    exact before
  rw [(fast _ _ noted).1] at reported
  cases reported

/-- The sessions of which one can rely on that they fail fast are those with few groups. -/
theorem failsFast_iff (n : Nat) :
    (∀ setup timeout p controller, p.Built → p.groups controller = n →
      FailsFast (backends setup) timeout p controller .fresh) ↔ n ≤ eagerLimit := by
  constructor
  · intro reliable
    by_contra many
    rw [Nat.not_le] at many
    let controller : Endpoint := ⟨"127.0.0.1", 6653⟩
    exact not_failsFast_crowd many controller
      (reliable tardy (.ofMillis 1) (crowd n) controller (built_crowd n)
        (crowd_groups n controller))
  · intro few setup timeout p controller _ groups
    exact failsFast_of_few (backends setup) timeout p controller .fresh (groups ▸ few)

/-- One group more is one too many. -/
theorem crowd_reports_late : ¬ FailsFast (backends tardy) (.ofMillis 1) (crowd 31)
    ⟨"127.0.0.1", 6653⟩ .fresh :=
  not_failsFast_crowd (by decide) _

end Plans

end Testbed.Session
