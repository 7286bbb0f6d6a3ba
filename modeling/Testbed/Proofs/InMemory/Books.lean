import Mathlib.Order.Bounds.Defs
import Testbed.Agent.Books
import Testbed.Proofs.InMemory.Counters

namespace Testbed

open Session

theorem Agent.await_keeps {σ : Type} {P : σ → Prop} {poll : Nat → σ → Readiness × σ}
    (kept : ∀ round s, P s → P (poll round s).2) (cut round now : Nat) {s : σ} (before : P s) :
    P (Agent.await poll cut round now s).2.2 := by
  fun_induction Agent.await poll cut round now s with
  | case1 round now s result t polled | case2 round now s t polled =>
    have later := kept round s before
    rwa [polled] at later
  | case3 round now s after t polled soon ih =>
    have later := kept round s before
    rw [polled] at later
    exact ih later
  | case4 round now s after t polled late =>
    have later := kept round s before
    rwa [polled] at later

namespace InMemory

variable {setup : AgentSetup}

theorem Order.act_keeps {P : Journaled AgentState → Prop}
    (launch : ∀ l j, P j → P ((Journaled.agent (agent setup)).launch l j).2)
    (poll : ∀ l round j, P j → P ((Journaled.agent (agent setup)).poll l round j).2)
    (shutdown : ∀ switch j, P j → P ((Journaled.agent (agent setup)).shutdown switch j).2)
    (order : Order) {j : Journaled AgentState} (before : P j) : P (order.act setup j) := by
  cases order with
  | launch l => exact launch l j before
  | wait l start cut => exact Agent.await_keeps (poll l) cut 0 start before
  | poll l round => exact poll l round j before
  | shutdown switch => exact shutdown switch j before

theorem Order.act_counted (order : Order) {j : Journaled AgentState}
    (counted : Counted j.calls j.inner) :
    Counted (order.act setup j).calls (order.act setup j).inner := by
  refine order.act_keeps (P := fun j => Counted j.calls j.inner) ?_ ?_ ?_ counted
  · exact fun l j before => before.launch rfl
  · exact fun l round j before => before.poll rfl
  · exact fun switch j before => before.shutdown rfl

theorem Order.act_tidy (order : Order) {j : Journaled AgentState} (tidy : j.inner.Tidy) :
    (order.act setup j).inner.Tidy := by
  refine order.act_keeps (P := fun j => j.inner.Tidy) ?_ ?_ ?_ tidy
  · exact fun l j before => before.launch rfl
  · exact fun l round j before => before.poll rfl
  · exact fun switch j before => before.shutdown switch

/-- An order makes one entry at most, and with it the switch begins to run or runs no more. -/
inductive Posted (s t : AgentState) : Option Record → Prop
  | nothing (launches : t.launches = s.launches) (shutdowns : t.shutdowns = s.shutdowns)
      (running : t.running = s.running) : Posted s t none
  | launched (l : Launch) (rests : l.switch ∉ s.running) (launches : t.launches = s.launches ++ [l])
      (shutdowns : t.shutdowns = s.shutdowns) (running : t.running = s.running ++ [l.switch]) :
      Posted s t (some (.launched l))
  | ended (switch : String) (runs : switch ∈ s.running) (launches : t.launches = s.launches)
      (shutdowns : t.shutdowns = s.shutdowns ++ [switch])
      (running : t.running = dropName switch s.running) : Posted s t (some (.ended switch))

namespace Posted

variable {s t u : AgentState} {entry : Option Record}

theorem between (posted : Posted s t entry) : Record.between? s t = entry := by
  cases posted with
  | nothing launches shutdowns => simp [Record.between?, launches, shutdowns]
  | launched l _ launches => simp [Record.between?, launches]
  | ended switch _ launches shutdowns => simp [Record.between?, launches, shutdowns]

theorem of_launch {l : Launch} {result : Except Error Unit}
    (called : launch setup l s = (result, t)) : ∃ entry, Posted s t entry := by
  rcases launch_cases called with ⟨_, _, rfl, _⟩ | ⟨_, rfl, _, rests⟩
  · exact ⟨none, .nothing rfl rfl rfl⟩
  · exact ⟨some (.launched l), .launched l rests rfl rfl rfl⟩

theorem poll {l : Launch} {round : Nat} {answer : Readiness} (posted : Posted s t none)
    (polled : poll setup l round t = (answer, u)) : Posted s u none := by
  cases posted with
  | nothing launches shutdowns running =>
    apply nothing
    · rw [launches_poll polled, launches]
    · rw [shutdowns_poll polled, shutdowns]
    · rw [running_poll polled, running]

theorem of_shutdown {switch : String} {result : Except Error Unit}
    (called : shutdown setup switch s = (result, t)) : ∃ entry, Posted s t entry := by
  rcases shutdown_cases called with ⟨_, rfl, _⟩ | ⟨_, runs, rfl⟩
  · exact ⟨none, .nothing rfl rfl rfl⟩
  · exact ⟨some (.ended switch), .ended switch runs rfl rfl rfl⟩

end Posted

theorem Order.posts (setup : AgentSetup) (order : Order) (j : Journaled AgentState) :
    ∃ entry, Posted j.inner (order.act setup j).inner entry := by
  have untouched : Posted j.inner j.inner none := .nothing rfl rfl rfl
  cases order with
  | launch l => exact Posted.of_launch rfl
  | wait l start cut =>
    refine ⟨none,
      Agent.await_keeps (P := fun k : Journaled AgentState => Posted j.inner k.inner none)
      (fun round k same => ?_) cut 0 start untouched⟩
    exact same.poll rfl
  | poll l round => exact ⟨none, untouched.poll rfl⟩
  | shutdown switch => exact Posted.of_shutdown rfl

theorem Record.inTurn_snoc {records : List Record} {r : Record} :
    InTurn (records ++ [r]) ↔
      InTurn records ∧ (r.launch?.isSome ↔ records.length % 2 = 0) := by
  constructor
  · intro turns
    refine ⟨fun i x here => turns i x ?_, turns records.length r List.getElem?_concat_length⟩
    have short : i < records.length := (List.getElem?_eq_some_iff.mp here).1
    rw [List.getElem?_append_left short, here]
  · rintro ⟨turns, last⟩ i x here
    rcases Nat.lt_trichotomy i records.length with short | rfl | long
    · rw [List.getElem?_append_left short] at here
      exact turns i x here
    · rw [List.getElem?_concat_length] at here
      cases here
      exact last
    · have beyond : (records ++ [r]).length ≤ i := by
        rw [List.length_append, List.length_singleton]
        exact long
      rw [List.getElem?_eq_none beyond] at here
      cases here

/-- The entries of a switch come by turns and are all there, and it runs while the last is a
launch. -/
structure Account (switch : String) (b : Books) : Prop where
  inTurn : Record.InTurn (b.recordsOf switch)
  total : (b.recordsOf switch).length = b.state.launchesOf switch + b.state.shutdownsOf switch
  running : switch ∈ b.state.running → b.state.launchesOf switch = b.state.shutdownsOf switch + 1
  resting : switch ∉ b.state.running → b.state.launchesOf switch = b.state.shutdownsOf switch

namespace Account

variable {switch : String} {b c : Books}

theorem running_iff (account : Account switch b) :
    switch ∈ b.state.running ↔
      b.state.launchesOf switch = b.state.shutdownsOf switch + 1 := by
  refine ⟨account.running, fun more => ?_⟩
  by_contra rests
  have same := account.resting rests
  omega

theorem same (account : Account switch b) (records : c.recordsOf switch = b.recordsOf switch)
    (launches : c.state.launchesOf switch = b.state.launchesOf switch)
    (shutdowns : c.state.shutdownsOf switch = b.state.shutdownsOf switch)
    (running : switch ∈ c.state.running ↔ switch ∈ b.state.running) : Account switch c := by
  refine ⟨?_, ?_, fun runs => ?_, fun rests => ?_⟩
  · rw [records]
    exact account.inTurn
  · rw [records, launches, shutdowns]
    exact account.total
  · rw [launches, shutdowns]
    exact account.running (running.mp runs)
  · rw [launches, shutdowns]
    exact account.resting (mt running.mpr rests)

theorem launched (account : Account switch b) (rests : switch ∉ b.state.running) {l : Launch}
    (records : c.recordsOf switch = b.recordsOf switch ++ [.launched l])
    (launches : c.state.launchesOf switch = b.state.launchesOf switch + 1)
    (shutdowns : c.state.shutdownsOf switch = b.state.shutdownsOf switch)
    (runs : switch ∈ c.state.running) : Account switch c := by
  have total := account.total
  have even := account.resting rests
  refine ⟨?_, ?_, fun _ => ?_, fun rests => absurd runs rests⟩
  · -- with as many launches as shutdowns before it, the entry has an even place
    rw [records, Record.inTurn_snoc]
    refine ⟨account.inTurn, ?_⟩
    simp only [Record.launch?, Option.isSome_some, true_iff]
    omega
  · rw [records, List.length_append, List.length_singleton]
    omega
  · omega

theorem ended (account : Account switch b) (runs : switch ∈ b.state.running)
    (records : c.recordsOf switch = b.recordsOf switch ++ [.ended switch])
    (launches : c.state.launchesOf switch = b.state.launchesOf switch)
    (shutdowns : c.state.shutdownsOf switch = b.state.shutdownsOf switch + 1)
    (rests : switch ∉ c.state.running) : Account switch c := by
  have total := account.total
  have odd := account.running runs
  refine ⟨?_, ?_, fun runs => absurd runs rests, fun _ => ?_⟩
  · rw [records, Record.inTurn_snoc]
    refine ⟨account.inTurn, ?_⟩
    simp only [Record.launch?, Option.isSome_none, Bool.false_eq_true, false_iff]
    omega
  · rw [records, List.length_append, List.length_singleton]
    omega
  · omega

theorem post (account : Account switch b) {j : Journaled AgentState} {entry : Option Record}
    (posted : Posted b.state j.inner entry) : Account switch ⟨j, b.records ++ entry.toList⟩ := by
  cases posted with
  | nothing launches shutdowns running =>
    apply account.same
    · simp [Books.recordsOf]
    · simp [AgentState.launchesOf, Books.state, launches]
    · simp [AgentState.shutdownsOf, Books.state, shutdowns]
    · simp [Books.state, running]
  | launched l rests launches shutdowns running =>
    by_cases its : l.switch = switch
    · subst its
      apply account.launched (l := l) rests
      · simp [Books.recordsOf, Record.switch]
      · simp [AgentState.launchesOf, Books.state, launches]
      · simp [AgentState.shutdownsOf, Books.state, shutdowns]
      · simp [Books.state, running]
    · apply account.same
      · simp [Books.recordsOf, Record.switch, its]
      · simp [AgentState.launchesOf, Books.state, launches, its]
      · simp [AgentState.shutdownsOf, Books.state, shutdowns]
      · simp [Books.state, running, Ne.symm its]
  | ended name runs launches shutdowns running =>
    by_cases its : name = switch
    · subst its
      apply account.ended runs
      · simp [Books.recordsOf, Record.switch]
      · simp [AgentState.launchesOf, Books.state, launches]
      · simp [AgentState.shutdownsOf, Books.state, shutdowns]
      · simp [Books.state, running, mem_dropName]
    · apply account.same
      · simp [Books.recordsOf, Record.switch, its]
      · simp [AgentState.launchesOf, Books.state, launches]
      · simp [AgentState.shutdownsOf, Books.state, shutdowns, its]
      · simp [Books.state, running, mem_dropName, Ne.symm its]

end Account

namespace Books

theorem ofOrders_keeps {P : Books → Prop} (first : P fresh)
    (kept : ∀ b order, P b → P (b.carryOut setup order)) (orders : List Order) :
    P (ofOrders setup orders) := by
  induction orders using List.reverseRecOn with
  | nil => exact first
  | append_singleton orders order ih =>
    rw [ofOrders, List.foldl_append]
    exact kept _ order ih

/-- Nothing is recorded but what the entries say, and nothing is left out. -/
structure Complete (b : Books) : Prop where
  launches : b.records.filterMap Record.launch? = b.state.launches
  shutdowns : b.records.filterMap Record.shutdown? = b.state.shutdowns

theorem Complete.post {b : Books} (complete : b.Complete) {j : Journaled AgentState}
    {entry : Option Record} (posted : Posted b.state j.inner entry) :
    Complete ⟨j, b.records ++ entry.toList⟩ := by
  constructor
  · rw [List.filterMap_append, complete.launches]
    cases posted with
    | nothing launches => simp [state, launches]
    | launched l _ launches => simp [state, launches, Record.launch?]
    | ended switch _ launches => simp [state, launches, Record.launch?]
  · rw [List.filterMap_append, complete.shutdowns]
    cases posted with
    | nothing _ shutdowns => simp [state, shutdowns]
    | launched l _ _ shutdowns => simp [state, shutdowns, Record.shutdown?]
    | ended switch _ _ shutdowns => simp [state, shutdowns, Record.shutdown?]

theorem carryOut_posts (setup : AgentSetup) (b : Books) (order : Order) :
    ∃ entry, Posted b.state (order.act setup b.journal).inner entry ∧
      b.carryOut setup order = ⟨order.act setup b.journal, b.records ++ entry.toList⟩ := by
  obtain ⟨entry, posted⟩ := order.posts setup b.journal
  refine ⟨entry, posted, ?_⟩
  rw [carryOut, state, posted.between]

theorem ofOrders_complete (setup : AgentSetup) (orders : List Order) :
    (ofOrders setup orders).Complete := by
  refine ofOrders_keeps ⟨rfl, rfl⟩ (fun b order complete => ?_) orders
  obtain ⟨entry, posted, after⟩ := b.carryOut_posts setup order
  exact after ▸ complete.post posted

theorem ofOrders_account (setup : AgentSetup) (orders : List Order) (switch : String) :
    Account switch (ofOrders setup orders) := by
  refine ofOrders_keeps ⟨nofun, rfl, nofun, fun _ => rfl⟩ (fun b order account => ?_) orders
  obtain ⟨entry, posted, after⟩ := b.carryOut_posts setup order
  exact after ▸ account.post posted

theorem ofOrders_counted (setup : AgentSetup) (orders : List Order) :
    Counted (ofOrders setup orders).calls (ofOrders setup orders).state :=
  ofOrders_keeps (P := fun b => Counted b.calls b.state) counted_fresh
    (fun _ order counted => order.act_counted counted) orders

theorem ofOrders_tidy (setup : AgentSetup) (orders : List Order) :
    (ofOrders setup orders).state.Tidy :=
  ofOrders_keeps (P := fun b => b.state.Tidy) nofun (fun _ order tidy => order.act_tidy tidy) orders

end Books

theorem isGreatest_of_le_iff (count : List Launch → Nat) {most : Nat} {calls : List Call}
    (none : count [] = 0) (least : ∀ n, most ≤ n ↔ AtAllTimes (count · ≤ n) calls) :
    IsGreatest {n | ∃ before, before <+: calls ∧ count (pendingAfter before) = n} most := by
  have bounded := (least most).mp (Nat.le_refl most)
  constructor
  · -- were it not reached, one less would do
    by_contra unreached
    cases most with
    | zero => exact unreached ⟨[], List.nil_prefix, none⟩
    | succ m =>
      have lower : AtAllTimes (count · ≤ m) calls := by
        intro before begins
        have below := bounded before begins
        have other : count (pendingAfter before) ≠ m + 1 :=
          fun same => unreached ⟨before, begins, same⟩
        omega
      exact Nat.not_succ_le_self m ((least m).mpr lower)
  · rintro n ⟨before, begins, rfl⟩
    exact bounded before begins

/-- Whatever the agent is told, its books balance. The entries of a switch are launches and
shutdowns by turns, beginning with a launch, and it runs just if there is a launch more; what is
starting runs. A switch is starting from its launch until a wait for it is settled or it is shut
down, and the counters are the most switches that were starting at an instant, in total and for
each controller. -/
theorem books_balance (setup : AgentSetup) (orders : List Order) :
    let books := Books.ofOrders setup orders
    let s := books.state
    (books.records.filterMap Record.launch? = s.launches ∧
      books.records.filterMap Record.shutdown? = s.shutdowns) ∧
    (∀ switch, Record.InTurn (books.recordsOf switch) ∧
      (switch ∈ s.running ↔ s.launchesOf switch = s.shutdownsOf switch + 1)) ∧
    (∀ x ∈ s.starting, x.1 ∈ s.running) ∧
    s.starting = (pendingAfter books.calls).map (fun l => (l.switch, l.controller)) ∧
    (∀ before, before <+: books.calls → ((pendingAfter before).map (·.switch)).Nodup) ∧
    IsGreatest {n | ∃ before, before <+: books.calls ∧ (pendingAfter before).length = n}
      s.maxStarting ∧
    ∀ c, IsGreatest
      {n | ∃ before, before <+: books.calls ∧ (pendingFor c (pendingAfter before)).length = n}
      (s.maxStartsFor c) := by
  intro books s
  have complete := Books.ofOrders_complete setup orders
  have account := Books.ofOrders_account setup orders
  have counted := Books.ofOrders_counted setup orders
  refine ⟨⟨complete.launches, complete.shutdowns⟩, fun switch => ?_,
    Books.ofOrders_tidy setup orders, counted.starting,
    fun before _ => nodup_pendingAfter before, ?_, fun c => ?_⟩
  · exact ⟨(account switch).inTurn, (account switch).running_iff⟩
  · exact isGreatest_of_le_iff List.length rfl counted.most
  · exact isGreatest_of_le_iff (fun S => (pendingFor c S).length) rfl (counted.mostFor c)

def reluctant : AgentSetup := ⟨[("s1", .failShutdown)], .ofMillis 100, []⟩

def reluctantOrders : List Order :=
  [.launch ⟨"s1", 1, .any 9001, .any 6653, []⟩, .launch ⟨"s2", 2, .any 9002, .any 6653, []⟩,
    .launch ⟨"s3", 3, .any 9003, .any 6654, []⟩, .launch ⟨"s1", 1, .any 9001, .any 6653, []⟩,
    .wait ⟨"s1", 1, .any 9001, .any 6653, []⟩ 0 50, .shutdown "s1", .shutdown "s1",
    .launch ⟨"s1", 1, .any 9001, .any 6654, []⟩, .wait ⟨"s2", 2, .any 9002, .any 6653, []⟩ 50 200,
    .shutdown "s2"]

theorem reluctant_books_balance :
    let books := Books.ofOrders reluctant reluctantOrders
    (("s1", .any 6654) ∈ books.state.starting ∧ "s1" ∈ books.state.running) ∧
      (books.recordsOf "s1").length = 3 ∧ Record.InTurn (books.recordsOf "s1") ∧
      books.state.launchesOf "s1" = books.state.shutdownsOf "s1" + 1 ∧
      books.state.launchesOf "s2" ≠ books.state.shutdownsOf "s2" + 1 ∧
      IsGreatest {n | ∃ before, before <+: books.calls ∧ (pendingAfter before).length = n} 3 ∧
      IsGreatest {n | ∃ before, before <+: books.calls ∧
        (pendingFor (.any 6653) (pendingAfter before)).length = n} 2 := by
  intro books
  obtain ⟨_, account, tidy, _, _, most, mostFor⟩ := books_balance reluctant reluctantOrders
  have starting : ("s1", .any 6654) ∈ books.state.starting := by
    have listed : books.state.starting = [("s3", .any 6654), ("s1", .any 6654)] := by decide +kernel
    simp [listed]
  have runs := tidy _ starting
  have rests : "s2" ∉ books.state.running := by
    have listed : books.state.running = ["s3", "s1"] := by decide +kernel
    simp [listed]
  have length : (books.recordsOf "s1").length = 3 := by decide +kernel
  have counted : books.state.maxStarting = 3 := by decide +kernel
  have countedFor : books.state.maxStartsFor (.any 6653) = 2 := by decide +kernel
  have single := mostFor (.any 6653)
  rw [counted] at most
  rw [countedFor] at single
  exact ⟨⟨starting, runs⟩, length, (account "s1").1, (account "s1").2.mp runs,
    fun more => rests ((account "s2").2.mpr more), most, single⟩

end InMemory

end Testbed
