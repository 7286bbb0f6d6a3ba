import Testbed.Proofs.Switch.Reservation

namespace Testbed.Seat

def Followed (switch : String) (past : List Moment) : Prop :=
  ∀ before m after, past = before ++ m :: after → ∀ l, m.turn = .asks (.launch l) →
    ∃ later ∈ after, later.turn = .asks (.shutdown switch)

/-- With this a stop has run to its end. -/
def Moment.EndsStop (m : Moment) : Prop :=
  (m.event = .call .stop ∨ ∃ result, m.event = .answer (.shutDown result)) ∧
    ∃ result, m.turn = .returns result

section Followed

variable {switch : String} {past : List Moment} {m : Moment}

theorem followed_nil (switch : String) : Followed switch [] := by
  intro before m after parted
  simp at parted

theorem followed_of_shutdown (switch : String) (past : List Moment) (event : SwitchEvent) :
    Followed switch (past ++ [⟨event, .asks (.shutdown switch)⟩]) := by
  intro before x after parted l launched
  rcases snoc_eq_append_cons.mp parted with ⟨rfl, rfl, rfl⟩ | ⟨middle, rfl, rfl⟩
  · cases launched
  · exact ⟨_, List.mem_append_right _ (List.mem_singleton_self _), rfl⟩

theorem Followed.snoc (followed : Followed switch past)
    (quiet : ∀ l, m.turn ≠ .asks (.launch l)) : Followed switch (past ++ [m]) := by
  intro before x after parted l launched
  rcases snoc_eq_append_cons.mp parted with ⟨rfl, rfl, rfl⟩ | ⟨middle, rfl, rfl⟩
  · exact absurd launched (quiet l)
  · obtain ⟨later, member, shut⟩ := followed before x middle rfl l launched
    exact ⟨later, List.mem_append_left _ member, shut⟩

end Followed

/-- A launch that no shutdown has followed is marked, and while one is under way there is none. -/
structure Marked (past : List Moment) (t : Seat Binding) : Prop where
  marked : t.switch.launched = true ∨ Followed t.switch.switch past
  closing : (∃ name, t.asked = some (.shutdown name)) → Followed t.switch.switch past

section Step

variable {past : List Moment} {m : Moment} {t t' : Seat Binding} {r r' : PortRegistry}
  {event : SwitchEvent} {turn : Turn}

theorem Marked.quiet (marked : Marked past t) (name : t'.switch.switch = t.switch.switch)
    (keeps : t.switch.launched = true → t'.switch.launched = true)
    (unasked : ∀ name, t'.asked ≠ some (.shutdown name)) (quiet : ∀ l, m.turn ≠ .asks (.launch l)) :
    Marked (past ++ [m]) t' := by
  refine ⟨?_, fun ⟨name, asked⟩ => absurd asked (unasked name)⟩
  rcases marked.marked with launched | followed
  · exact Or.inl (keeps launched)
  · exact Or.inr (name ▸ followed.snoc quiet)

theorem Marked.step (marked : Marked past t) (step : Step t r event turn t' r') :
    Marked (past ++ [⟨event, turn⟩]) t' := by
  cases step with
  | misplaced | atRest | givenUp => exact marked.quiet rfl id (by simp) (by simp)
  | reserved | launched => exact marked.quiet rfl id (by simp) (by simp)
  | conflict before | listening before | occupied before | attached before =>
    refine marked.quiet rfl (fun launched => ?_) (by simp) (by simp)
    simp [Binding.launched, before] at launched
  | unlaunched | ready | unready | expired =>
    exact marked.quiet rfl (fun _ => rfl) (by simp) (by simp)
  | launching => exact ⟨Or.inl rfl, fun asked => by simp at asked⟩
  | stopped _ unlaunched =>
    have followed := marked.marked.resolve_left (by simp [unlaunched])
    exact ⟨Or.inr (followed.snoc (by simp)), fun asked => by simp at asked⟩
  | @shuttingDown b =>
    have followed := followed_of_shutdown b.switch past (.call .stop)
    exact ⟨Or.inr followed, fun _ => followed⟩
  | shutDown =>
    have followed := marked.closing ⟨_, rfl⟩
    exact ⟨Or.inr (followed.snoc (by simp)), fun asked => by simp at asked⟩

theorem Step.stopped_of_ended (step : Step t r event turn t' r')
    (ended : Moment.EndsStop ⟨event, turn⟩) : t'.switch.phase = .stopped := by
  obtain ⟨which, result, returned⟩ := ended
  cases step with
  | stopped | shutDown => rfl
  | atRest stopped => exact stopped
  | misplaced required =>
    obtain rfl : _ = Binding.Operation.stop := by simpa using which
    cases required
  | _ => simp at which returned

theorem Run.stopped {others : PortRegistry → PortRegistry → Prop} {b : Binding}
    {start : PortRegistry} (run : Run Binding.machine others (idle b) start past t r)
    (ended : ∃ m ∈ past, m.EndsStop) : t.switch.phase = .stopped := by
  refine (Run.induction (P := fun past t _ => (∃ m ∈ past, m.EndsStop) → t.switch.phase = .stopped)
    (fits_idle b) (fun ⟨_, member, _⟩ => absurd member List.not_mem_nil) ?_
    (fun kept _ => kept) run).2 ended
  rintro past t r event turn t' r' _ before taken ⟨m, member, ends⟩
  rcases List.mem_append.mp member with earlier | now
  · exact taken.stays_stopped (before ⟨m, earlier, ends⟩)
  · rw [List.mem_singleton.mp now] at ends
    exact taken.stopped_of_ended ends

theorem Run.marked {others : PortRegistry → PortRegistry → Prop} {b : Binding}
    {start : PortRegistry} (run : Run Binding.machine others (idle b) start past t r) :
    Marked past t := by
  refine (Run.induction (P := fun past t _ => Marked past t) (fits_idle b) ?_
    (fun _ marked taken => marked.step taken) (fun marked _ => marked) run).2
  exact ⟨Or.inr (followed_nil b.switch), fun _ => followed_nil b.switch⟩

end Step

/-- After a stop that has run to its end, whatever was given up before it or since: the switch is
stopped, it holds just the ports whose last bind was given up, and each launch that was attempted
has been followed by a shutdown. -/
theorem stop_holds_abandoned {switch : String} {deviceId : UInt64}
    {ports : List (UInt32 × String)} {timeout : Duration} {start r : PortRegistry}
    {past : List Moment} {t : Seat Binding} (free : ∀ port, start.holder? port ≠ some switch)
    (run : Run Binding.machine (PortRegistry.Spares switch)
      (idle (.new switch deviceId ports timeout)) start past t r)
    (ended : ∃ m ∈ past, m.EndsStop) :
    t.switch.state = .stopped ∧ Followed switch past ∧
      ∀ port, r.holder? port = some switch ↔ Abandoned past port := by
  have stopped : t.switch.phase = .stopped := run.stopped ended
  have idle : t.asked = none := (run.fits (fits_idle _)).idle_of_stopped stopped
  obtain ⟨name, accounted⟩ : t.switch.switch = switch ∧ Accounted past t r :=
    run.accounted (fits_idle _) (.new free)
  refine ⟨Binding.state_stopped_iff.mpr stopped, ?_, fun port => ?_⟩
  · rw [← name]
    exact run.marked.marked.resolve_left (by simp [Binding.launched, stopped])
  · have unclaimed : ¬ t.Claims port := by
      simp [Claims, Binding.dataPlane?, stopped, idle]
    rw [← name, accounted.holds port, or_iff_right unclaimed]

def interrupted (first second : Endpoint) : List SwitchEvent :=
  [.call (.bind first), .giveUp,
   .call (.bind second), .answer (.checked (.ok ())), .call (.attach (.any 6653)),
   .call .start, .answer (.launched (.ok ())), .giveUp,
   .call .stop, .giveUp, .call .stop, .answer (.shutDown (.error (.agent "s1" "stuck")))]

theorem interrupted_keeps_first : ∃ past t r,
    ((∀ port, PortRegistry.empty.holder? port ≠ some "s1") ∧
      Run Binding.machine (PortRegistry.Spares "s1") (idle (.new "s1" 1 [] (.ofSeconds 5))) .empty
        past t r ∧ ∃ m ∈ past, m.EndsStop) ∧
    t.switch.state = .stopped ∧ Followed "s1" past ∧
      Abandoned past 50051 ∧ ¬ Abandoned past 50052 := by
  obtain ⟨past, t, r, replayed, left, free, ended⟩ : ∃ past t r,
      replay Binding.machine (interrupted (.any 50051) (.any 50052))
        (idle (.new "s1" 1 [] (.ofSeconds 5))) .empty = some (past, t, r) ∧
      r.holder? 50051 = some "s1" ∧ r.holder? 50052 ≠ some "s1" ∧
      ∃ m ∈ past, m.EndsStop :=
    ⟨_, _, _, rfl, rfl, by decide, ⟨_, List.getLast_mem (by simp), Or.inr ⟨_, rfl⟩, _, rfl⟩⟩
  have run : Run Binding.machine (PortRegistry.Spares "s1")
      (idle (.new "s1" 1 [] (.ofSeconds 5))) .empty past t r := Run.start.replayed replayed
  obtain ⟨stopped, followed, holds⟩ := stop_holds_abandoned (by simp) run ended
  exact ⟨past, t, r, ⟨by simp, run, ended⟩, stopped, followed, (holds 50051).mp left,
    fun abandoned => free ((holds 50052).mpr abandoned)⟩

/-- The port of a bind that was given up stays with the switch after its stop. -/
theorem abandoned_bind_outlives_stop :
    ¬ ∀ (switch : String) (deviceId : UInt64) (ports : List (UInt32 × String)) (timeout : Duration)
      (start r : PortRegistry) (past : List Moment) (t : Seat Binding),
      (∀ port, start.holder? port ≠ some switch) →
      Run Binding.machine (PortRegistry.Spares switch) (idle (.new switch deviceId ports timeout))
        start past t r →
      (∃ m ∈ past, m.EndsStop) →
      t.switch.state = .stopped ∧ Followed switch past ∧ ∀ port, r.holder? port ≠ some switch := by
  intro claimed
  obtain ⟨past, t, r, replayed, left, ended⟩ : ∃ past t r,
      replay Binding.machine [.call (.bind (.any 50051)), .giveUp, .call .stop]
        (idle (.new "s1" 1 [] (.ofSeconds 5))) .empty = some (past, t, r) ∧
      r.holder? 50051 = some "s1" ∧ ∃ m ∈ past, m.EndsStop :=
    ⟨_, _, _, rfl, rfl, _, List.getLast_mem (by simp), Or.inl rfl, _, rfl⟩
  obtain ⟨_, _, free⟩ := claimed "s1" 1 [] (.ofSeconds 5) .empty r past t (by simp)
    (Run.start.replayed replayed) ended
  exact free 50051 left

end Testbed.Seat
