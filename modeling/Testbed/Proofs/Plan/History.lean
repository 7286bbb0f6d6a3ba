import Mathlib.Data.List.Dedup
import Testbed.Plan.History
import Testbed.Proofs.Plan.Ends

namespace Testbed

namespace Plan.Event

variable (past : List Event) (e : Event)

theorem filterMap_concat {α : Type} (part : Event → Option α) :
    (past ++ [e]).filterMap part = past.filterMap part ++ (part e).toList := by
  cases seen : part e <;> simp [seen]

@[simp]
theorem links_concat : links (past ++ [e]) = links past ++ e.joined?.toList :=
  filterMap_concat past e _

@[simp]
theorem declarations_concat :
    declarations (past ++ [e]) = declarations past ++ e.declared?.toList :=
  filterMap_concat past e _

@[simp]
theorem removals_concat : removals (past ++ [e]) = removals past ++ e.removed?.toList :=
  filterMap_concat past e _

theorem linksSince_sublist (name : String) : (linksSince name past).Sublist (links past) := by
  refine List.Sublist.filterMap _ ?_
  rw [← List.reverse_sublist, List.reverse_reverse]
  exact List.takeWhile_sublist _

theorem linksSince_declared (name : String) : linksSince name (past ++ [.declared name]) = [] := by
  simp [linksSince, links]

variable {past e} in
theorem linksSince_concat {name : String} (other : e ≠ .declared name) :
    linksSince name (past ++ [e]) = linksSince name past ++ e.joined?.toList := by
  simp [linksSince, other]

/-- What becomes of the names of a plan. -/
def renames (names : List String) : Event → List String
  | declared name => names ++ [name]
  | joined _ => names
  | removed name => names.filter (· != name)

end Plan.Event

theorem dedup_concat (xs : List String) (x : String) :
    (xs ++ [x]).dedup = xs.dedup.filter (· != x) ++ [x] := by
  induction xs with
  | nil => rfl
  | cons y rest ih =>
    by_cases later : y ∈ rest
    · rw [List.cons_append, List.dedup_cons_of_mem (List.mem_append_left _ later),
        List.dedup_cons_of_mem later, ih]
    · by_cases same : y = x
      · subst same
        rw [List.cons_append, List.dedup_cons_of_mem (by simp), List.dedup_cons_of_notMem later, ih]
        simp
      · rw [List.cons_append, List.dedup_cons_of_notMem (by simp [later, same]),
          List.dedup_cons_of_notMem later, ih]
        simp [same]

namespace Plan

/-- What a event makes of the plan. -/
inductive Brings (p : Plan) : Event → Plan → Prop
  | declared (n : Node) (bare : n.interfaces = []) (absent : p.node? n.name = none) :
      Brings p (.declared n.name) { p with
        nodes := p.nodes ++ [n]
        switchesDeclared := if n.isHost then p.switchesDeclared else p.switchesDeclared + 1 }
  | joined {a b} (apart : a ≠ b) (first : p.checkEnd a b a = .ok ())
      (second : p.checkEnd a b b = .ok ()) : Brings p (.joined (p.joint a b)) (p.linked a b)
  | removed {name n} (present : p.node? name = some n) :
      Brings p (.removed name) { p with nodes := p.nodes.filter (·.name != name) }

section Steps

variable {p q : Plan}

theorem addSwitchSpec_brings {name : String} {spec : SwitchSpec}
    (done : p.addSwitchSpec name spec = .ok q) : p.Brings (.declared name) q := by
  obtain ⟨absent, rfl⟩ := addSwitchSpec_cases done
  exact .declared (.switch name spec) rfl absent

theorem attempt_brings {op : Operation} (done : p.attempt op = .ok q) :
    ∃ e, p.event op = .ok e ∧ p.Brings e q := by
  have noted {outcome : Except Error Plan} {name : String} (ok : outcome = .ok q) :
      (outcome.map fun _ => Event.declared name) = .ok (.declared name) := by
    rw [ok]
    rfl
  cases op with
  | addHost name =>
    obtain ⟨absent, rfl⟩ := declare_cases done
    exact ⟨_, noted done, .declared (.host name) rfl absent⟩
  | addSwitch name dataPlane => exact ⟨_, noted done, addSwitchSpec_brings done⟩
  | addSwitchWithId name dataPlane deviceId => exact ⟨_, noted done, addSwitchSpec_brings done⟩
  | addSwitchSpec name spec => exact ⟨_, noted done, addSwitchSpec_brings done⟩
  | addLink a b =>
    simp only [attempt] at done
    cases linked : p.addLink a b with
    | error err => simp [linked, Except.map] at done
    | ok out =>
      obtain ⟨apart, first, second, same, rest⟩ := addLink_cases (l := out.1) (q := out.2) linked
      simp only [linked, Except.map, Except.ok.injEq] at done
      rw [← done, rest]
      exact ⟨.joined out.1, by rw [event, linked]; rfl, same ▸ .joined apart first second⟩
  | removeNode name =>
    obtain ⟨⟨n, present⟩, rfl⟩ := attempt_removeNode_cases done
    exact ⟨.removed name, by simp [event, removeNode, present, Except.map], .removed present⟩

theorem event_of_failure {op : Operation} {e : Error} (failed : p.attempt op = .error e) :
    p.event op = .error e := by
  cases op with
  | addLink a b =>
    simp only [attempt] at failed
    cases linked : p.addLink a b <;> simp_all [event, Except.map]
  | removeNode name =>
    simp only [attempt] at failed
    cases removed : p.removeNode name <;> simp_all [event, Except.map]
  | _ =>
    simp only [attempt] at failed
    simp only [event, failed, Except.map]

theorem Brings.names {e : Event} (brings : p.Brings e q) : q.names = e.renames p.names := by
  cases brings with
  | declared => exact List.map_append
  | joined apart => exact names_linked p apart
  | removed =>
    rw [Event.renames, Plan.names, Plan.names, List.filter_map]
    rfl

theorem Brings.not_mem_names {name : String} (brings : p.Brings (.declared name) q) :
    name ∉ p.names := by
  cases brings with
  | declared n bare absent => exact Plan.not_mem_names absent

end Steps

variable {past : List Event} {p : Plan}

theorem Came.built (came : p.Came past) : p.Built := by
  induction came with
  | empty => exact .empty
  | limited _ limit ih => exact ih.limited limit
  | performed _ op ih => exact ih.performed op

/-- An event brought the plan about in the course of its history. -/
structure Came.Step (past : List Event) (p : Plan) (e : Event) (q : Plan) : Prop where
  came : p.Came past
  brings : p.Brings e q
  later : q.Came (past ++ [e])

theorem Came.by_events {P : List Event → Plan → Prop} (came : p.Came past) (empty : P [] .empty)
    (limited : ∀ past q limit, P past q → P past (q.withInterfaceLimit limit))
    (step : ∀ past q e r, Came.Step past q e r → P past q → P (past ++ [e]) r) : P past p := by
  induction came with
  | empty => exact empty
  | limited _ limit ih => exact limited _ _ limit ih
  | @performed past p came op ih =>
    cases tried : p.attempt op with
    | error e =>
      have nothing : p.events op = [] := by simp [events, event_of_failure tried, Except.toOption]
      have same : p.perform op = p := by simp [perform, tried]
      rw [nothing, same, List.append_nil]
      exact ih
    | ok q =>
      obtain ⟨e, left, brings⟩ := attempt_brings tried
      have one : p.events op = [e] := by simp [events, left, Except.toOption]
      have next : p.perform op = q := by simp [perform, tried]
      have later := came.performed op
      rw [one, next] at later ⊢
      exact step past p e q ⟨came, brings, later⟩ ih

theorem Came.links (came : p.Came past) : p.links = Event.links past := by
  refine came.by_events (P := fun past p => p.links = Event.links past) rfl (fun _ _ _ same => same)
    fun past q e r step same => ?_
  rw [Event.links_concat, ← same]
  cases step.brings with
  | declared => exact (List.append_nil _).symm
  | joined => rfl
  | removed => exact (List.append_nil _).symm

theorem Came.order (came : p.Came past) :
    p.names = (Event.declarations past).dedup.filter p.names.contains := by
  refine came.by_events
    (P := fun past p => p.names = (Event.declarations past).dedup.filter p.names.contains)
    rfl (fun _ _ _ same => same) fun past q e r step same => ?_
  rw [step.brings.names, Event.declarations_concat]
  cases e with
  | declared name =>
    have new := step.brings.not_mem_names
    -- earlier declarations of the name belong to nodes that are gone
    have kept :
      ((Event.declarations past).dedup.filter (· != name)).filter (q.names ++ [name]).contains =
        (Event.declarations past).dedup.filter q.names.contains := by
      rw [List.filter_filter]
      refine List.filter_congr fun other _ => ?_
      by_cases again : other = name
      · simp [again, new]
      · simp [again]
    rw [Event.renames, Event.declared?, Option.toList_some, dedup_concat, List.filter_append, kept,
      ← same]
    simp
  | joined l =>
    rw [Event.declared?, Option.toList_none, List.append_nil]
    exact same
  | removed name =>
    have kept : (Event.declarations past).dedup.filter (q.names.filter (· != name)).contains =
        ((Event.declarations past).dedup.filter q.names.contains).filter (· != name) := by
      rw [List.filter_filter]
      refine List.filter_congr fun other _ => ?_
      rw [Bool.eq_iff_iff]
      simp [and_comm]
    rw [Event.renames, Event.declared?, Option.toList_none, List.append_nil, kept, ← same]

theorem Came.interfaces (came : p.Came past) : ∀ n ∈ p.nodes,
    n.interfaces =
      ((Event.linksSince n.name past).flatMap Link.ends).filter (·.node == n.name) := by
  refine came.by_events (P := fun past p => ∀ n ∈ p.nodes, n.interfaces =
      ((Event.linksSince n.name past).flatMap Link.ends).filter (·.node == n.name))
    nofun (fun _ _ _ same => same) fun past q e r step same => ?_
  cases step.brings with
  | declared n bare absent =>
    refine List.forall_mem_append.mpr ⟨fun m member => ?_, List.forall_mem_singleton.mpr ?_⟩
    · have other : n.name ≠ m.name := fun named =>
        not_mem_names absent (named ▸ List.mem_map_of_mem member)
      rw [Event.linksSince_concat (by simpa using other)]
      simpa [Event.joined?] using same m member
    · rw [Event.linksSince_declared, bare]
      rfl
  | joined apart =>
    intro n member
    obtain ⟨m, listed, named, handed⟩ := mem_nodes_linked step.came.built apart member
    rw [named, Event.linksSince_concat (by simp), handed, same m listed]
    simp [Event.joined?]
  | removed =>
    intro n member
    rw [Event.linksSince_concat (by simp)]
    simpa [Event.joined?] using same n (List.mem_of_mem_filter member)

end Plan

end Testbed
