import Testbed.Plan.Operation

namespace Testbed

/-- The interface that the node hands out after `k` others. -/
def Node.interfaceAt (n : Node) (k : Nat) : Interface :=
  ⟨n.name, n.kind.firstOrdinal + UInt32.ofNat k⟩

/-- The interfaces are numbered in the order in which they were handed out. -/
def Node.Numbered (n : Node) : Prop :=
  n.interfaces = (List.range n.interfaces.length).map n.interfaceAt

namespace Node

theorem numbered_of_bare {n : Node} (bare : n.interfaces = []) : n.Numbered := by
  unfold Numbered
  rw [bare]
  rfl

theorem Numbered.allocate {n : Node} (numbered : n.Numbered) : n.allocate.Numbered := by
  have next : n.nextInterface = n.interfaceAt n.interfaces.length := rfl
  have same : n.allocate.interfaceAt = n.interfaceAt := rfl
  unfold Numbered at numbered ⊢
  rw [same, Node.allocate, List.length_append, List.length_singleton, List.range_succ,
    List.map_append, ← numbered, next]
  rfl

theorem Numbered.owns_iff {n : Node} (numbered : n.Numbered) {i : Interface} :
    n.owns i = true ↔ ∃ k < n.interfaces.length, i = n.interfaceAt k := by
  have member : i ∈ n.interfaces ↔ ∃ k < n.interfaces.length, n.interfaceAt k = i := by
    conv => lhs; rw [numbered]
    simp
  simp only [owns, Bool.and_eq_true, beq_iff_eq, List.contains_iff_mem, member]
  constructor
  · rintro ⟨_, k, less, rfl⟩
    exact ⟨k, less, rfl⟩
  · rintro ⟨k, less, rfl⟩
    exact ⟨rfl, k, less, rfl⟩

end Node

namespace Plan

def linked (p : Plan) (a b : String) : Plan :=
  { (p.allocate a).allocate b with links := p.links ++ [⟨p.nextInterface a, p.nextInterface b⟩] }

/-- What an operation that succeeds does to the plan. -/
inductive Change (p : Plan) : Operation → Plan → Prop
  | declared {op} (n : Node) (bare : n.interfaces = []) (absent : p.node? n.name = none) :
      Change p op { p with
        nodes := p.nodes ++ [n]
        switchesDeclared := if n.isHost then p.switchesDeclared else p.switchesDeclared + 1 }
  | linked {a b} (apart : a ≠ b) (first : p.checkEnd a b a = .ok ())
      (second : p.checkEnd a b b = .ok ()) : Change p (.addLink a b) (p.linked a b)
  | removed {name n} (present : p.node? name = some n) :
      Change p (.removeNode name) { p with nodes := p.nodes.filter (·.name != name) }

section Cases

variable {p q : Plan}

theorem declare_cases {n : Node} (h : p.declare n = .ok q) :
    p.node? n.name = none ∧ q = { p with nodes := p.nodes ++ [n] } := by
  unfold declare at h
  split at h
  next => cases h
  next absent =>
    cases h
    exact ⟨by simpa [has] using absent, rfl⟩

theorem addSwitchSpec_cases {name : String} {spec : SwitchSpec}
    (h : p.addSwitchSpec name spec = .ok q) :
    p.node? name = none ∧ q = { p with
      nodes := p.nodes ++ [.switch name spec]
      switchesDeclared := p.switchesDeclared + 1 } := by
  unfold addSwitchSpec at h
  cases declared : p.declare (.switch name spec) with
  | error e => simp [declared, Except.map] at h
  | ok r =>
    obtain ⟨absent, rfl⟩ := declare_cases declared
    simp only [declared, Except.map, Except.ok.injEq] at h
    exact ⟨absent, h.symm⟩

theorem addSwitchSpec_change {op : Operation} {name : String} {spec : SwitchSpec}
    (h : p.addSwitchSpec name spec = .ok q) : p.Change op q := by
  obtain ⟨absent, rfl⟩ := addSwitchSpec_cases h
  exact .declared (.switch name spec) rfl absent

theorem addLink_cases {a b : String} {l : Link} (h : p.addLink a b = .ok (l, q)) :
    a ≠ b ∧ p.checkEnd a b a = .ok () ∧ p.checkEnd a b b = .ok () ∧
      l = ⟨p.nextInterface a, p.nextInterface b⟩ ∧ q = p.linked a b := by
  unfold addLink at h
  split at h
  next => cases h
  next apart =>
    cases first : p.checkEnd a b a with
    | error e => simp [first, bind, Except.bind] at h
    | ok =>
      cases second : p.checkEnd a b b with
      | error e => simp [first, second, bind, Except.bind] at h
      | ok =>
        simp only [first, second, bind, Except.bind, pure, Except.pure, Except.ok.injEq,
          Prod.mk.injEq] at h
        obtain ⟨rfl, rfl⟩ := h
        exact ⟨apart, rfl, rfl, rfl, rfl⟩

theorem attempt_addLink_cases {a b : String} (h : p.attempt (.addLink a b) = .ok q) :
    a ≠ b ∧ p.checkEnd a b a = .ok () ∧ p.checkEnd a b b = .ok () ∧ q = p.linked a b := by
  simp only [attempt] at h
  cases linked : p.addLink a b with
  | error e => simp [linked, Except.map] at h
  | ok out =>
    obtain ⟨apart, first, second, _, rest⟩ := addLink_cases (l := out.1) (q := out.2) linked
    simp only [linked, Except.map, Except.ok.injEq] at h
    exact ⟨apart, first, second, h ▸ rest⟩

theorem attempt_removeNode_cases {name : String} (h : p.attempt (.removeNode name) = .ok q) :
    (∃ n, p.node? name = some n) ∧ q = { p with nodes := p.nodes.filter (·.name != name) } := by
  simp only [attempt, removeNode] at h
  cases present : p.node? name with
  | none => simp [present, Except.map] at h
  | some n =>
    simp only [present, Except.map, Except.ok.injEq] at h
    exact ⟨⟨n, rfl⟩, h.symm⟩

theorem attempt_change {op : Operation} (h : p.attempt op = .ok q) : p.Change op q := by
  cases op with
  | addHost name =>
    obtain ⟨absent, rfl⟩ := declare_cases h
    exact .declared (.host name) rfl absent
  | addSwitch name dataPlane => exact addSwitchSpec_change h
  | addSwitchWithId name dataPlane deviceId => exact addSwitchSpec_change h
  | addSwitchSpec name spec => exact addSwitchSpec_change h
  | addLink a b =>
    obtain ⟨apart, first, second, rfl⟩ := attempt_addLink_cases h
    exact .linked apart first second
  | removeNode name =>
    obtain ⟨⟨n, present⟩, rfl⟩ := attempt_removeNode_cases h
    exact .removed present

end Cases

theorem performAll_induction {P : Plan → Prop} {p : Plan} (start : P p) (ops : List Operation)
    (change : ∀ q op r, op ∈ ops → Change q op r → P q → P r) : P (p.performAll ops) := by
  induction ops generalizing p with
  | nil => exact start
  | cons op rest ih =>
    refine ih ?_ fun q op' r member => change q op' r (List.mem_cons_of_mem _ member)
    unfold perform
    split
    next done => exact change _ _ _ List.mem_cons_self (attempt_change done) start
    next => exact start

section Outcomes

variable {α β : Type} {x : Except Error α}

theorem map_error_iff {f : α → β} {err : Error} : x.map f = .error err ↔ x = .error err := by
  cases x <;> simp [Except.map]

theorem map_ok_iff {f : α → β} : (∃ b, x.map f = .ok b) ↔ ∃ a, x = .ok a := by
  cases x <;> simp [Except.map]

theorem bind_ok_iff {f : α → Except Error β} {b : β} :
    x >>= f = .ok b ↔ ∃ a, x = .ok a ∧ f a = .ok b := by
  cases x <;> simp [bind, Except.bind]

end Outcomes

theorem foldlM_cons_ok {p q : Plan} {op : Operation} {ops : List Operation}
    (done : (op :: ops).foldlM attempt p = .ok q) :
    ∃ r, p.attempt op = .ok r ∧ ops.foldlM attempt r = .ok q := by
  rw [List.foldlM_cons] at done
  exact bind_ok_iff.mp done

theorem foldlM_concat_ok_iff {p q : Plan} {op : Operation} {ops : List Operation} :
    (ops ++ [op]).foldlM attempt p = .ok q ↔
      ∃ r, ops.foldlM attempt p = .ok r ∧ r.attempt op = .ok q := by
  simp only [List.foldlM_append, List.foldlM_cons, List.foldlM_nil, bind_pure, bind_ok_iff]

theorem attempt_of_foldlM_error {p : Plan} {ops : List Operation} {e : Error}
    (failed : ops.foldlM attempt p = .error e) :
    ∃ op ∈ ops, ∃ r : Plan, r.attempt op = .error e := by
  induction ops generalizing p with
  | nil => cases failed
  | cons op rest ih =>
    rw [List.foldlM_cons] at failed
    cases tried : p.attempt op with
    | error e' =>
      rw [tried] at failed
      cases failed
      exact ⟨op, List.mem_cons_self, p, tried⟩
    | ok q =>
      rw [tried] at failed
      obtain ⟨other, member, r, refused⟩ := ih failed
      exact ⟨other, List.mem_cons_of_mem op member, r, refused⟩

theorem performAll_of_ok {p q : Plan} {ops : List Operation}
    (done : ops.foldlM attempt p = .ok q) : p.performAll ops = q := by
  induction ops generalizing p with
  | nil =>
    cases done
    rfl
  | cons op rest ih =>
    obtain ⟨r, first, others⟩ := foldlM_cons_ok done
    have performed : p.perform op = r := by simp [perform, first]
    rw [performAll, List.foldl_cons, performed]
    exact ih others

theorem linked_nodes (p : Plan) {a b : String} (apart : a ≠ b) :
    (p.linked a b).nodes =
      p.nodes.map fun n => if n.name = a ∨ n.name = b then n.allocate else n := by
  simp only [linked, allocate, List.map_map]
  refine List.map_congr_left fun n _ => ?_
  have kept : n.allocate.name = n.name := rfl
  by_cases first : n.name = a
  · simp [first, kept, apart]
  · simp [first]

theorem mem_of_node? {p : Plan} {name : String} {n : Node} (found : p.node? name = some n) :
    n ∈ p.nodes ∧ n.name = name :=
  ⟨List.mem_of_find?_eq_some found, by simpa using List.find?_some found⟩

theorem nextInterface_of_node? {p : Plan} {name : String} {n : Node}
    (found : p.node? name = some n) : p.nextInterface name = n.nextInterface := by
  simp [nextInterface, found]

end Plan

end Testbed
