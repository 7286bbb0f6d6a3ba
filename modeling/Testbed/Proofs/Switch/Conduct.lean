import Testbed.Proofs.Switch.Life

namespace Testbed

open Session (Call)
open Session.Journaled (polls)

/-- What an agent was asked for on behalf of a switch, each at most once. -/
structure Service where
  check? : Option (Endpoint × Except IoError Unit) := none
  launch? : Option (Launch × Except Error Unit) := none
  wait? : Option (Launch × List Readiness) := none
  shutdown? : Option (String × Except Error Unit) := none

namespace Service

def calls (v : Service) : List Call :=
  (v.check?.toList.map fun check => .checkEndpoint check.1 check.2) ++
    (v.launch?.toList.map fun launch => .launch launch.1 launch.2) ++
    (v.wait?.toList.flatMap fun wait => polls wait.1 wait.2) ++
    v.shutdown?.toList.map fun shutdown => .shutdown shutdown.1 shutdown.2

/-- What is to come after the phase has not been asked for yet. -/
def Suits (v : Service) : Binding.Phase → Prop
  | .unbound => v = {}
  | .listening _ | .attached .. => v.launch? = none ∧ v.wait? = none ∧ v.shutdown? = none
  | .running .. | .failed _ => v.shutdown? = none
  | .stopped => True

variable {v : Service} {b b' : Binding} {d : Deed}

theorem launch (unasked : v.launch? = none ∧ v.wait? = none ∧ v.shutdown? = none) (l : Launch)
    (result : Except Error Unit) :
    ∃ v' : Service, v'.calls = v.calls ++ [.launch l result] ∧ v'.shutdown? = none := by
  obtain ⟨unlaunched, unwaited, up⟩ := unasked
  refine ⟨{ v with launch? := some (l, result) }, ?_, up⟩
  simp [calls, unlaunched, unwaited, up]

theorem wait (unasked : v.launch? = none ∧ v.wait? = none ∧ v.shutdown? = none) (l : Launch)
    (answers : List Readiness) :
    ∃ v' : Service, v'.calls = v.calls ++ .launch l (.ok ()) :: polls l answers ∧
      v'.shutdown? = none := by
  obtain ⟨unlaunched, unwaited, up⟩ := unasked
  refine ⟨{ v with launch? := some (l, .ok ()), wait? := some (l, answers) }, ?_, up⟩
  simp [calls, unlaunched, unwaited, up]

theorem shutdown (up : v.shutdown? = none) (switch : String) (result : Except Error Unit) :
    ∃ v' : Service, v'.calls = v.calls ++ [.shutdown switch result] := by
  refine ⟨{ v with shutdown? := some (switch, result) }, ?_⟩
  simp [calls, up]

theorem Suits.up {phase : Binding.Phase} (suits : v.Suits phase) (up : phase ≠ .stopped) :
    v.shutdown? = none := by
  cases phase with
  | unbound =>
    obtain rfl : v = {} := suits
    rfl
  | listening | attached => exact suits.2.2
  | running | failed => exact suits
  | stopped => exact absurd rfl up

theorem Suits.done (suits : v.Suits b.phase) (done : d.Done b b') :
    ∃ v' : Service, v'.calls = v.calls ++ d.calls ∧ v'.Suits b'.phase := by
  cases done with
  | misplaced | atRest => exact ⟨v, (List.append_nil _).symm, suits⟩
  | conflict unbound =>
    rw [unbound] at suits
    obtain rfl : v = {} := suits
    exact ⟨{}, rfl, rfl⟩
  | @listening _ e _ unbound =>
    rw [unbound] at suits
    obtain rfl : v = {} := suits
    exact ⟨{ check? := some (e, .ok ()) }, rfl, rfl, rfl, rfl⟩
  | @occupied _ e _ cause unbound =>
    rw [unbound] at suits
    obtain rfl : v = {} := suits
    exact ⟨{ check? := some (e, .error cause) }, rfl, rfl⟩
  | attached listens =>
    rw [listens] at suits
    exact ⟨v, (List.append_nil _).symm, suits⟩
  | unlaunched attached =>
    rw [attached] at suits
    exact launch suits _ _
  | ready attached | unready attached =>
    rw [attached] at suits
    exact wait suits _ _
  | stopped => exact ⟨v, (List.append_nil _).symm, trivial⟩
  | @shutDown _ result launched =>
    obtain ⟨v', calls⟩ := shutdown (suits.up (Binding.up_of_launched launched)) b.switch result
    exact ⟨v', calls, trivial⟩

end Service

namespace Deed

/-- A bind of the endpoint got the port from the registry, and the agent found it free. -/
def Bound (switch : String) (deeds : List Deed) (e : Endpoint) : Prop :=
  ∃ d ∈ deeds, d.op = .bind e ∧ d.found.reserve switch e = .ok d.left ∧
    .checkEndpoint e (.ok ()) ∈ d.calls ∧ d.result = .ok ()

def Attached (deeds : List Deed) (controller : Endpoint) : Prop :=
  ∃ d ∈ deeds, d.op = .attach controller ∧ d.result = .ok ()

def Launched (deeds : List Deed) : Prop := ∃ d ∈ deeds, ∃ l result, .launch l result ∈ d.calls

/-- The operation treats the agent as it should after those before it. -/
structure Proper (first : Binding) (before : List Deed) (d : Deed) : Prop where
  launch : ∀ l result, .launch l result ∈ d.calls →
    ∃ e c, l = ⟨first.switch, first.deviceId, e, c, first.ports⟩ ∧
      Bound first.switch before e ∧ Attached before c
  wait : ∀ l round answer, .poll l round answer ∈ d.calls →
    d.calls.head? = some (.launch l (.ok ()))
  shutdown : (∃ switch result, .shutdown switch result ∈ d.calls) ↔
    d.op = .stop ∧ Launched before ∧ ∀ x ∈ before, x.op ≠ .stop
  answer : ∀ switch result, .shutdown switch result ∈ d.calls →
    switch = first.switch ∧ d.result = result
  again : d.op = .stop → (∃ x ∈ before, x.op = .stop) → d.calls = [] ∧ d.result = .ok ()

/-- What a switch knows of what was done with it. -/
structure Known (first : Binding) (deeds : List Deed) (b : Binding) : Prop where
  same : b = first.inPhase b.phase
  service : ∃ v : Service, v.calls = deeds.flatMap Deed.calls ∧ v.Suits b.phase
  bound : ∀ e, b.dataPlane? = some e → Bound first.switch deeds e
  attached : ∀ c, b.controller? = some c → Attached deeds c
  launched : b.phase ≠ .stopped → (b.launched = true ↔ Launched deeds)
  stopped : b.phase = .stopped ↔ ∃ d ∈ deeds, d.op = .stop

section Append

variable {switch : String} {deeds more : List Deed} {e : Endpoint}

theorem bound_append :
    Bound switch (deeds ++ more) e ↔ Bound switch deeds e ∨ Bound switch more e := by
  simp [Bound, or_and_right, exists_or]

theorem attached_append : Attached (deeds ++ more) e ↔ Attached deeds e ∨ Attached more e := by
  simp [Attached, or_and_right, exists_or]

theorem launched_append : Launched (deeds ++ more) ↔ Launched deeds ∨ Launched more := by
  simp [Launched, or_and_right, exists_or]

end Append

section Done

variable {b b' : Binding} {d : Deed} {e c : Endpoint} {l : Launch}

theorem launch_not_polled {result : Except Error Unit} {l' : Launch} {answers : List Readiness} :
    Call.launch l result ∉ polls l' answers := by
  simp [polls, List.mem_mapIdx]

theorem shutdown_not_polled {switch : String} {result : Except Error Unit} {l' : Launch}
    {answers : List Readiness} : Call.shutdown switch result ∉ polls l' answers := by
  simp [polls, List.mem_mapIdx]

theorem launch_of_polled {l' : Launch} {answers : List Readiness} {round : Nat} {answer : Readiness}
    (polled : Call.poll l round answer ∈ polls l' answers) : l' = l := by
  obtain ⟨i, _, same⟩ := List.mem_mapIdx.mp polled
  cases same
  rfl

theorem Done.same (done : d.Done b b') : b' = b.inPhase b'.phase := by
  cases done with
  | misplaced | atRest => exact (Binding.inPhase_self rfl).symm
  | _ => rfl

theorem Done.dataPlane (done : d.Done b b') (has : b'.dataPlane? = some e) :
    b.dataPlane? = some e ∨ Bound b.switch [d] e := by
  cases done with
  | misplaced | atRest => exact .inl has
  | conflict | occupied | stopped | shutDown => cases has
  | listening unbound granted =>
    cases has
    exact .inr ⟨_, List.mem_singleton_self _, rfl, granted, List.mem_singleton_self _, rfl⟩
  | attached before | unlaunched before | ready before | unready before =>
    cases has
    exact .inl (by simp [Binding.dataPlane?, before])

theorem Done.controller (done : d.Done b b') (has : b'.controller? = some c) :
    b.controller? = some c ∨ Attached [d] c := by
  cases done with
  | misplaced | atRest => exact .inl has
  | conflict | listening | occupied | stopped | shutDown => cases has
  | attached =>
    cases has
    exact .inr ⟨_, List.mem_singleton_self _, rfl, rfl⟩
  | unlaunched before | ready before | unready before =>
    cases has
    exact .inl (by simp [Binding.controller?, before])

theorem Done.launched (done : d.Done b b') (up : b'.phase ≠ .stopped) :
    b'.launched = true ↔ b.launched = true ∨ Launched [d] := by
  cases done with
  | misplaced | atRest => simp [Launched]
  | conflict before | listening before | occupied before | attached before =>
    simp [Launched, Binding.launched, before]
  | unlaunched before | ready before | unready before =>
    simp [Launched, Binding.launched, exists_or]
  | stopped | shutDown => exact absurd rfl up

theorem Done.stopped_iff (done : d.Done b b') :
    b'.phase = .stopped ↔ b.phase = .stopped ∨ d.op = .stop := by
  cases done with
  | @misplaced _ op _ required =>
    cases op <;> cases required <;> simp
  | conflict before | listening before | occupied before | attached before | unlaunched before
  | ready before | unready before => simp [before]
  | atRest stopped => simp [stopped]
  | stopped | shutDown => simp [Binding.endStop]

theorem Done.launch {result : Except Error Unit} (done : d.Done b b')
    (launched : .launch l result ∈ d.calls) :
    ∃ e c, l = b.launchOf e c ∧ b.dataPlane? = some e ∧ b.controller? = some c := by
  have ends {e c : Endpoint} {marked : Bool} (attached : b.phase = .attached e c marked) :
      b.dataPlane? = some e ∧ b.controller? = some c := by
    simp [Binding.dataPlane?, Binding.controller?, attached]
  cases done with
  | unlaunched attached =>
    cases List.mem_singleton.mp launched
    exact ⟨_, _, rfl, ends attached⟩
  | ready attached | unready attached =>
    rcases List.mem_cons.mp launched with first | polled
    · cases first
      exact ⟨_, _, rfl, ends attached⟩
    · exact absurd polled launch_not_polled
  | _ => simp at launched

theorem Done.wait {round : Nat} {answer : Readiness} (done : d.Done b b')
    (polled : .poll l round answer ∈ d.calls) : d.calls.head? = some (.launch l (.ok ())) := by
  cases done with
  | ready | unready =>
    rcases List.mem_cons.mp polled with first | polled
    · cases first
    · rw [← launch_of_polled polled]
      rfl
  | _ => simp at polled

theorem Done.shutdown (done : d.Done b b') :
    (∃ switch result, .shutdown switch result ∈ d.calls) ↔ d.op = .stop ∧ b.launched = true := by
  cases done with
  | @misplaced _ op _ required =>
    cases op <;> cases required <;> simp
  | ready | unready => simp [shutdown_not_polled]
  | atRest stopped => simp [Binding.launched, stopped]
  | stopped _ unlaunched => simp [unlaunched]
  | shutDown launched => simp [launched]
  | _ => simp

theorem Done.answer {switch : String} {result : Except Error Unit} (done : d.Done b b')
    (asked : .shutdown switch result ∈ d.calls) : switch = b.switch ∧ d.result = result := by
  cases done with
  | ready | unready => simp [shutdown_not_polled] at asked
  | shutDown =>
    cases List.mem_singleton.mp asked
    exact ⟨rfl, rfl⟩
  | _ => simp at asked

theorem Done.again (done : d.Done b b') (stop : d.op = .stop) (stopped : b.phase = .stopped) :
    d.calls = [] ∧ d.result = .ok () := by
  cases done with
  | misplaced required =>
    obtain rfl : _ = Binding.Operation.stop := stop
    cases required
  | atRest | stopped => exact ⟨rfl, rfl⟩
  | shutDown launched => exact absurd stopped (Binding.up_of_launched launched)
  | _ => cases stop

end Done

section Known

variable {first b b' : Binding} {deeds : List Deed} {d : Deed}

theorem Known.new {switch : String} {deviceId : UInt64} {ports : List (UInt32 × String)}
    {timeout : Duration} :
    Known (.new switch deviceId ports timeout) [] (.new switch deviceId ports timeout) where
  same := rfl
  service := ⟨{}, rfl, rfl⟩
  bound := nofun
  attached := nofun
  launched _ := by simp [Launched, Binding.launched, Binding.new]
  stopped := by simp [Binding.new]

theorem Known.switch_eq (known : Known first deeds b) : b.switch = first.switch := by
  rw [known.same]
  rfl

theorem Known.step (known : Known first deeds b) (done : d.Done b b') :
    Known first (deeds ++ [d]) b' where
  same := by
    have kept := done.same
    rw [known.same] at kept
    exact kept
  service := by
    obtain ⟨v, calls, suits⟩ := known.service
    obtain ⟨v', more, suits⟩ := suits.done done
    refine ⟨v', ?_, suits⟩
    simp [more, calls]
  bound e has := by
    rw [bound_append]
    exact (done.dataPlane has).imp (known.bound e) (known.switch_eq ▸ id)
  attached c has := attached_append.mpr ((done.controller has).imp_left (known.attached c))
  launched up := by
    have before : b.phase ≠ .stopped := fun stopped => up (done.stopped_iff.mpr (.inl stopped))
    rw [done.launched up, launched_append, known.launched before]
  stopped := by
    rw [done.stopped_iff, known.stopped]
    simp [or_and_right, exists_or]

theorem Known.launched_iff (known : Known first deeds b) :
    b.launched = true ↔ Launched deeds ∧ ∀ x ∈ deeds, x.op ≠ .stop := by
  constructor
  · intro launched
    have up := Binding.up_of_launched launched
    exact ⟨(known.launched up).mp launched, fun x member stop =>
      up (known.stopped.mpr ⟨x, member, stop⟩)⟩
  · rintro ⟨attempted, unstopped⟩
    apply (known.launched fun stopped => ?_).mpr attempted
    obtain ⟨x, member, stop⟩ := known.stopped.mp stopped
    exact unstopped x member stop

theorem Known.proper (known : Known first deeds b) (done : d.Done b b') : Proper first deeds d where
  launch l result launched := by
    obtain ⟨e, c, rfl, dataPlane, controller⟩ := done.launch launched
    refine ⟨e, c, ?_, known.bound e dataPlane, known.attached c controller⟩
    rw [known.same]
    rfl
  wait l round answer polled := done.wait polled
  shutdown := by
    rw [done.shutdown, known.launched_iff]
  answer switch result asked := known.switch_eq ▸ done.answer asked
  again stop before := done.again stop (known.stopped.mpr before)

end Known

end Deed

namespace Life

variable {σ : Type} {a : Agent σ} {switch : String} {deviceId : UInt64}
    {ports : List (UInt32 × String)}
  {timeout : Duration} {deeds : List Deed} {b : Binding}

theorem known (life : Life a (.new switch deviceId ports timeout) deeds b) :
    Deed.Known (.new switch deviceId ports timeout) deeds b := by
  induction life with
  | new => exact .new
  | deed _ performs ih => exact ih.step (Deed.done_of_performs performs)

/-- Whatever is done with a switch, its agent is asked for a check, a launch, a wait and a
shutdown, in this order and each at most once; each operation asks only for what it may, and is
never stuck. -/
theorem agent_calls (life : Life a (.new switch deviceId ports timeout) deeds b) :
    (∃ v : Service, v.calls = deeds.flatMap Deed.calls) ∧
    (∀ before d after, deeds = before ++ d :: after →
      d.Proper (.new switch deviceId ports timeout) before) ∧
    ∀ op found s, ∃ result b' left calls s',
      b.Performs (Session.Journaled.agent a) found ⟨[], s⟩ op result b' left ⟨calls, s'⟩ := by
  refine ⟨?_, ?_, fun op found s => ?_⟩
  · obtain ⟨v, calls, _⟩ := life.known.service
    exact ⟨v, calls⟩
  · induction life with
    | new =>
      intro before d after parted
      simp at parted
    | deed life performs ih =>
      intro before d after parted
      rcases snoc_eq_append_cons.mp parted with ⟨rfl, rfl, rfl⟩ | ⟨middle, rfl, earlier⟩
      · exact life.known.proper (Deed.done_of_performs performs)
      · exact ih before d middle earlier
  · obtain ⟨result, b', left, s', performs⟩ :=
      Binding.performs_total (Session.Journaled.agent a) b found ⟨[], s⟩ op
    exact ⟨result, b', left, s'.calls, s'.inner, performs⟩

def broken : Agent Unit where
  name := "broken"
  checkEndpoint _ s := (.ok (), s)
  launch l s := (.error (.agent l.switch "no such program"), s)
  poll _ _ s := (.never, s)
  shutdown switch s := (.error (.agent switch "stuck"), s)

def brokenDeeds (e c : Endpoint) : List Deed :=
  [⟨.bind e, .empty, ⟨[(e.port, "s1")]⟩, [.checkEndpoint e (.ok ())], .ok ()⟩,
   ⟨.attach c, .empty, .empty, [], .ok ()⟩,
   ⟨.start, .empty, .empty,
     [.launch ⟨"s1", 1, e, c, []⟩ (.error (.agent "s1" "no such program"))],
     .error (.agent "s1" "no such program")⟩,
   ⟨.stop, .empty, .empty, [.shutdown "s1" (.error (.agent "s1" "stuck"))],
     .error (.agent "s1" "stuck")⟩,
   ⟨.stop, .empty, .empty, [], .ok ()⟩]

theorem broken_life (e c : Endpoint) :
    Life broken (.new "s1" 1 [] (.ofSeconds 5)) (brokenDeeds e c)
      ⟨"s1", 1, [], .ofSeconds 5, .stopped⟩ := by
  have bound : Life broken (.new "s1" 1 [] (.ofSeconds 5)) ((brokenDeeds e c).take 1)
      ⟨"s1", 1, [], .ofSeconds 5, .listening e⟩ := .deed (s := ()) .new (.bind rfl)
  have attached : Life broken (.new "s1" 1 [] (.ofSeconds 5)) ((brokenDeeds e c).take 2)
      ⟨"s1", 1, [], .ofSeconds 5, .attached e c false⟩ := .deed (s := ()) bound (.attach rfl)
  have refused : (Binding.mk "s1" 1 [] (.ofSeconds 5) (.attached e c false)).start
      (Session.Journaled.agent broken) none 0 ⟨[], ()⟩ = (some (.error _), 0, _, ⟨_, ()⟩) := rfl
  have started : Life broken (.new "s1" 1 [] (.ofSeconds 5)) ((brokenDeeds e c).take 3)
      ⟨"s1", 1, [], .ofSeconds 5, .failed (some (e, c))⟩ := .deed attached (.start refused)
  have stopped : Life broken (.new "s1" 1 [] (.ofSeconds 5)) ((brokenDeeds e c).take 4)
      ⟨"s1", 1, [], .ofSeconds 5, .stopped⟩ := .deed (s := ()) started (.stop rfl)
  exact .deed (s := ()) stopped (.stop rfl)

theorem broken_treated : ∃ bound attached started stopped again : Deed,
    Life broken (.new "s1" 1 [] (.ofSeconds 5)) [bound, attached, started, stopped, again]
      ⟨"s1", 1, [], .ofSeconds 5, .stopped⟩ ∧
    (∃ e c, Deed.Bound "s1" [bound, attached] e ∧ Deed.Attached [bound, attached] c ∧
      started.calls = [.launch ⟨"s1", 1, e, c, []⟩ started.result]) ∧
    Deed.Launched [bound, attached, started] ∧ stopped.result ≠ .ok () ∧
    again.calls = [] ∧ again.result = .ok () := by
  have life := broken_life (.any 50051) (.any 6653)
  obtain ⟨_, proper, _⟩ := agent_calls life
  have started := proper ((brokenDeeds (.any 50051) (.any 6653)).take 2) _ _ rfl
  have stopped := proper ((brokenDeeds (.any 50051) (.any 6653)).take 3) _ _ rfl
  have again := proper ((brokenDeeds (.any 50051) (.any 6653)).take 4) _ _ rfl
  obtain ⟨e, c, same, bound, attached⟩ := started.launch _ _ (List.mem_singleton_self _)
  cases same
  obtain ⟨_, launched, _⟩ := stopped.shutdown.mp ⟨_, _, List.mem_singleton_self _⟩
  obtain ⟨uncalled, returned⟩ := again.again rfl ⟨_, List.getLast_mem (by simp [brokenDeeds]), rfl⟩
  exact ⟨_, _, _, _, _, life, ⟨_, _, bound, attached, rfl⟩, launched, nofun, uncalled, returned⟩

end Life

end Testbed
