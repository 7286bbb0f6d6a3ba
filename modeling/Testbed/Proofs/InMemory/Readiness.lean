import Testbed.Proofs.InMemory.Startup

namespace Testbed.InMemory

open Session

structure Admitted (setup : AgentSetup) (e : Entry) : Prop where
  free : e.dataPlane.port ∉ setup.occupied
  launches : setup.behavior e.binding.switch ≠ .failLaunch

structure Agreeable (setup : AgentSetup) (e : Entry) : Prop extends Admitted setup e where
  responsive : setup.behavior e.binding.switch ≠ .unresponsive
  inTime : setup.readyDelay.waitTicks ≤ e.binding.startupTimeout.waitTicks

/-- A wait that has just begun, and one that was polled: the poll is repeated once, when the delay
is over. -/
structure Timed (setup : AgentSetup) (now : Nat) (e : Entry) (w : Wait) : Prop where
  begun : w.round = 0 → w.wake = none ∧ w.deadline = now + e.binding.startupTimeout.waitTicks
  polled : 0 < w.round → setup.behavior e.binding.switch = .unresponsive ∧ w.wake = none ∨
    setup.readyDelay.nanos ≠ 0 ∧ ∃ start, w.wake = some (start + Agent.pause setup.readyDelay) ∧
      w.deadline = start + e.binding.startupTimeout.waitTicks

theorem pause_eq {d : Duration} (some : d.nanos ≠ 0) : Agent.pause d = d.waitTicks :=
  Nat.max_eq_right (Duration.waitTicks_pos some)

/-- What is known of the switches of a lane, unless it has failed, from what the agent answered. -/
structure Tried (setup : AgentSetup) (now : Nat) (lane : Lane) : Prop where
  past : lane.Calm → ∀ e ∈ lane.past, Agreeable setup e
  waiting : ∀ e w, lane.progress = .waiting e w →
    Admitted setup e ∧ w.launch.switch = e.binding.switch ∧ Timed setup now e w

theorem Timed.ready {setup : AgentSetup} {now : Nat} {e : Entry} {w : Wait}
    (timed : Timed setup now e w) (due : w.Due now) (early : now ≤ w.deadline)
    (answers : setup.behavior e.binding.switch ≠ .unresponsive)
    (first : w.round = 0 → setup.readyDelay.nanos = 0) :
    setup.readyDelay.waitTicks ≤ e.binding.startupTimeout.waitTicks := by
  rcases Nat.eq_zero_or_pos w.round with begun | polled
  · rw [Duration.waitTicks_zero (first begun)]
    exact Nat.zero_le _
  · rcases timed.polled polled with ⟨hangs, _⟩ | ⟨delay, start, wake, deadline⟩
    · exact absurd hangs answers
    · have woken : start + Agent.pause setup.readyDelay ≤ now := by
        rcases due with begun | woken
        · omega
        · simpa [wake] using woken
      rw [pause_eq delay] at woken
      omega

theorem Timed.again {setup : AgentSetup} {now : Nat} {e : Entry} {w w' : Wait} {s t : AgentState}
    {answer : Readiness} (timed : Timed setup now e w) (same : w.launch.switch = e.binding.switch)
    (polled : poll setup w.launch w.round s = (answer, t)) (again : w.after? now answer = some w') :
    w'.launch = w.launch ∧ Timed setup now e w' := by
  rcases poll_cases polled with ⟨rfl, _, hangs⟩ | ⟨rfl, _, _, begun, delay⟩ | ⟨rfl, _⟩
  · cases again
    exact ⟨rfl, nofun, fun _ => Or.inl ⟨same ▸ hangs, rfl⟩⟩
  · cases again
    exact ⟨rfl, nofun, fun _ => Or.inr ⟨delay, now, rfl, (timed.begun begun).2⟩⟩
  · cases again

theorem Tried.step {setup : AgentSetup} {now : Nat} {lane lane' : Lane}
    {sh sh' : Shared AgentState} (step : Lane.Step (agent setup) now (lane, sh) (lane', sh'))
    (onTime : lane.OnTime now) (tried : Tried setup now lane) : Tried setup now lane' := by
  cases step with
  | refused | occupied | unlaunched | unready | expired =>
    exact ⟨fun calm => absurd rfl (calm _), nofun⟩
  | @launched c past e todo r q s t u unbound reserved checked launched =>
    refine ⟨fun _ => tried.past nofun, fun e' w h => ?_⟩
    cases h
    refine ⟨⟨checkEndpoint_ok checked, ?_⟩, rfl, fun _ => ⟨rfl, rfl⟩, nofun⟩
    rcases launch_cases launched with ⟨_, failed, _⟩ | ⟨_, _, willing, _⟩
    · cases failed
    · exact willing
  | @ready c past e w todo r s t due polled =>
    obtain ⟨admitted, same, timed⟩ := tried.waiting e w rfl
    refine ⟨fun _ x member => ?_, nofun⟩
    rcases List.mem_append.mp member with member | member
    · exact tried.past nofun x member
    · rw [List.mem_singleton.mp member]
      rcases poll_cases polled with ⟨never, _⟩ | ⟨again, _⟩ | ⟨_, _, answers, first⟩
      · cases never
      · cases again
      · rw [same] at answers
        exact ⟨⟨admitted.free, admitted.launches⟩, answers,
          timed.ready due (onTime.waiting e w rfl).1 answers first⟩
  | @unsettled c past e w w' todo r s t answer due polled again =>
    obtain ⟨admitted, same, timed⟩ := tried.waiting e w rfl
    refine ⟨fun _ => tried.past nofun, fun e' w'' h => ?_⟩
    cases h
    obtain ⟨kept, timed'⟩ := timed.again same polled again
    exact ⟨admitted, kept ▸ same, timed'⟩

theorem Tried.tick {setup : AgentSetup} {now time : Nat} {lane : Lane}
    (rest : lane.RestsUntil time) (tried : Tried setup now lane) : Tried setup time lane where
  past := tried.past
  waiting e w h := by
    obtain ⟨admitted, same, timed⟩ := tried.waiting e w h
    have polled := (rest.waiting e w h).1
    exact ⟨admitted, same, fun begun => by omega, timed.polled⟩

theorem tried_of_reaches {setup : AgentSetup} {first last : Stage AgentState}
    (reaches : Stage.Reaches (agent setup) first last)
    (start : ∀ lane ∈ first.lanes, lane.OnTime first.now ∧ Tried setup first.now lane) :
    ∀ lane ∈ last.lanes, lane.OnTime last.now ∧ Tried setup last.now lane :=
  reaches.forall_lanes (P := fun now lane => lane.OnTime now ∧ Tried setup now lane)
    (fun _ _ _ _ _ step both => ⟨both.1.step step, both.2.step step both.1⟩)
    (fun _ _ _ _ rest both => ⟨both.1.tick rest, both.2.tick rest⟩) start

theorem lanesOf_tried (setup : AgentSetup) (entries : List (Endpoint × Entry)) :
    ∀ lane ∈ lanesOf entries, lane.OnTime 0 ∧ Tried setup 0 lane := by
  intro lane member
  refine ⟨lanesOf_onTime entries lane member, ?_⟩
  obtain ⟨c, _, rfl⟩ := List.mem_map.mp member
  exact ⟨fun _ => nofun, nofun⟩

theorem Timed.not_late {setup : AgentSetup} {now : Nat} {e : Entry} {w : Wait}
    (timed : Timed setup now e w) (agreeable : Agreeable setup e) (polled : 0 < w.round)
    (asleep : w.wake.any (· ≤ now) = false) : now < w.deadline := by
  rcases timed.polled polled with ⟨hangs, _⟩ | ⟨delay, start, wake, deadline⟩
  · exact absurd hangs agreeable.responsive
  · have inTime := agreeable.inTime
    rw [wake, pause_eq delay] at asleep
    simp only [Option.any_some, decide_eq_false_iff_not] at asleep
    omega

theorem stays_calm {setup : AgentSetup} {now : Nat} {before after : List Lane} {lane lane' : Lane}
    {sh sh' : Shared AgentState} (step : Lane.Step (agent setup) now (lane, sh) (lane', sh'))
    (agreeable : ∀ e ∈ lane.entries, Agreeable setup e)
    (ports : (((before ++ lane :: after).flatMap Lane.entries).map (·.dataPlane.port)).Nodup)
    (distinct : Distinct (before ++ lane :: after))
    (held : Held (before ++ lane :: after) sh.registry)
    (told : Told (before ++ lane :: after) sh.world) (tried : Tried setup now lane) :
    lane'.Calm := by
  have here : lane ∈ before ++ lane :: after := List.mem_append_right _ (List.mem_cons_self ..)
  cases step with
  | launched | ready | unsettled => exact nofun
  | @refused c past e todo r s cause unbound reserved =>
    obtain ⟨x, begun, same⟩ :=
      List.mem_map.mp (held.ports.mem_iff.mp (PortRegistry.reserve_error reserved))
    have apart := begun_ne (f := fun e => e.dataPlane.port) (fun _ => rfl) ports here
      (List.mem_cons_self ..) x begun
    exact absurd same apart
  | @occupied c past e todo r q s t cause unbound reserved checked =>
    have free := (agreeable e (by simp)).free
    simp [agent, checkEndpoint, free] at checked
  | @unlaunched c past e todo r q s t u cause unbound reserved checked launched =>
    have willing := (agreeable e (by simp)).launches
    rcases launch_cases launched with ⟨_, _, _, refuses | runs⟩ | ⟨ok, _⟩
    · exact absurd refuses willing
    · rw [checkEndpoint_state checked] at runs
      obtain ⟨x, begun, same⟩ := List.mem_map.mp (told.running.mem_iff.mp runs)
      exact absurd same (distinct.fresh here (List.mem_cons_self ..) x begun)
    · cases ok
  | @unready c past e w todo r s t cause due polled =>
    rcases poll_cases polled with ⟨never, _⟩ | ⟨again, _⟩ | ⟨ok, _⟩
    · cases never
    · cases again
    · cases ok
  | @expired c past e w todo sh polled asleep late =>
    have early := (tried.waiting e w rfl).2.2.not_late (agreeable e (by simp)) polled asleep
    omega

theorem agreeable_origin {setup : AgentSetup} (e : Entry) :
    Agreeable setup e.origin ↔ Agreeable setup e := by
  constructor
  · intro h
    exact ⟨⟨h.free, h.launches⟩, h.responsive, h.inTime⟩
  · intro h
    exact ⟨⟨h.free, h.launches⟩, h.responsive, h.inTime⟩

theorem reaches_calm {setup : AgentSetup} {entries : List (Endpoint × Entry)}
    (names : (entries.map (·.2.binding.switch)).Nodup)
    (agreeable : ∀ x ∈ entries, Agreeable setup x.2)
    (ports : (entries.map (·.2.dataPlane.port)).Nodup) {last : Stage AgentState}
    (reaches : Stage.Reaches (agent setup) ⟨0, lanesOf entries, ⟨.empty, .fresh⟩⟩ last) :
    ∀ lane ∈ last.lanes, lane.Calm := by
  have perm := lanesOf_entries entries
  have agreeable' : ∀ e ∈ (lanesOf entries).flatMap Lane.entries, Agreeable setup e := by
    intro e member
    obtain ⟨x, listed, rfl⟩ := List.mem_map.mp (perm.mem_iff.mp member)
    exact agreeable x listed
  have ports' : (((lanesOf entries).flatMap Lane.entries).map (·.dataPlane.port)).Nodup := by
    have kept := perm.map fun e => e.dataPlane.port
    rw [List.map_map] at kept
    exact kept.nodup_iff.mpr ports
  induction reaches with
  | refl => exact lanesOf_calm entries
  | tail path next ih =>
    cases next with
    | tick => exact ih
    | @lane now before lane lane' after sh sh' taken =>
      -- that no lane has failed so far gives the invariants of registry and agent for this step
      have distinct := Stage.Reaches.distinct path (lanesOf_distinct names)
      have held := Stage.Reaches.calm_induction (Q := fun lanes sh => Held lanes sh.registry) path
        (lanesOf_distinct names) Held.step (held_lanesOf entries) ih
      have told := Stage.Reaches.calm_induction (Q := fun lanes sh => Told lanes sh.world) path
        (lanesOf_distinct names) Told.step (told_lanesOf entries) ih
      have tried := tried_of_reaches path (lanesOf_tried setup entries)
      have still := Stage.Reaches.forall_entries path agreeable_origin agreeable'
      have kept := Stage.Reaches.map_entries path (fun e => e.dataPlane.port) fun _ => rfl
      have here : lane ∈ before ++ lane :: after := by simp
      have calm : lane'.Calm :=
        stays_calm taken (fun e member => still e (List.mem_flatMap.mpr ⟨lane, here, member⟩))
          (kept ▸ ports') distinct held told (tried lane here).2
      exact Stage.forall_replace ih calm

theorem startLanes_ok_iff {setup : AgentSetup} {entries : List (Endpoint × Entry)}
    (unbound : ∀ x ∈ entries, x.2.binding.phase = .unbound)
    (names : (entries.map (·.2.binding.switch)).Nodup) :
    (startLanes (agent setup) (lanesOf entries) ⟨.empty, .fresh⟩).result = .ok () ↔
      (entries.map (·.2.dataPlane.port)).Nodup ∧ ∀ x ∈ entries, Agreeable setup x.2 := by
  have reaches := startLanes_reaches (agent setup) unbound ⟨.empty, .fresh⟩
  constructor
  · intro ok
    refine ⟨ports_of_ok unbound ok names rfl, fun x listed => ?_⟩
    have tried := tried_of_reaches reaches (lanesOf_tried setup entries)
    have begun : x.2 ∈ begunOf (startLanes (agent setup) (lanesOf entries)
        ⟨.empty, .fresh⟩).lanes :=
      (begun_of_ok unbound ok).mem_iff.mpr (List.mem_map_of_mem listed)
    obtain ⟨lane, here, there⟩ := List.mem_flatMap.mp begun
    have finished := finished_of_ok unbound ok lane here
    rw [Lane.begun, (Lane.isFinished_iff.mp finished).1] at there
    obtain ⟨e, past, same⟩ := List.mem_map.mp there
    have known := (tried lane here).2.past (Lane.calm_of_finished finished) e past
    rw [← same]
    exact (agreeable_origin e).mpr known
  · rintro ⟨ports, agreeable⟩
    exact ok_of_calm (reaches_calm names agreeable ports reaches)

end Testbed.InMemory
