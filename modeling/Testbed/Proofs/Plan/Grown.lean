import Testbed.Proofs.Plan.Lasting

namespace Testbed.Plan

def Operation.removes : Operation → Bool
  | .removeNode _ => true
  | _ => false

/-- The plans that come about by declaring nodes and adding links. -/
inductive Grown : Plan → Prop
  | empty : Grown .empty
  | limited {p : Plan} (grown : Grown p) (limit : Nat) : Grown (p.withInterfaceLimit limit)
  | performed {p : Plan} (grown : Grown p) (op : Operation) (adds : op.removes = false) :
      Grown (p.perform op)

theorem Grown.built {p : Plan} (grown : p.Grown) : p.Built := by
  induction grown with
  | empty => exact .empty
  | limited _ limit ih => exact ih.limited limit
  | performed _ op _ ih => exact ih.performed op

theorem Grown.performAll {p : Plan} (grown : p.Grown) {ops : List Operation}
    (adds : ∀ op ∈ ops, op.removes = false) : (p.performAll ops).Grown := by
  induction ops generalizing p with
  | nil => exact grown
  | cons op rest ih =>
    exact ih (grown.performed op (adds op List.mem_cons_self))
      fun op' member => adds op' (List.mem_cons_of_mem _ member)

theorem grown_pair : pair.Grown := Grown.empty.performAll (by decide)

theorem events_map {α : Type} (outcome : Except Error α) (event : α → Event)
    (unremoved : ∀ x, (event x).removed? = none) :
    Event.removals (outcome.map event).toOption.toList = [] := by
  cases outcome with
  | error e => rfl
  | ok x => simpa [Except.map, Except.toOption, Event.removals] using unremoved x

theorem removals_events {op : Operation} (adds : op.removes = false) (p : Plan) :
    Event.removals (p.events op) = [] := by
  cases op with
  | removeNode name => cases adds
  | _ => exact events_map _ _ fun _ => rfl

theorem Grown.came {p : Plan} (grown : p.Grown) :
    ∃ past, p.Came past ∧ Event.removals past = [] := by
  induction grown with
  | empty => exact ⟨[], .empty, rfl⟩
  | limited _ limit ih =>
    obtain ⟨past, came, none⟩ := ih
    exact ⟨past, came.limited limit, none⟩
  | @performed p _ op adds ih =>
    obtain ⟨past, came, none⟩ := ih
    refine ⟨_, came.performed op, ?_⟩
    rw [Event.removals, List.filterMap_append]
    exact List.append_eq_nil_iff.mpr ⟨none, removals_events adds p⟩

/-- The nodes have handed out just the interfaces that the links have at them. -/
structure Wired (p : Plan) : Prop where
  interfaces : ∀ n ∈ p.nodes, n.interfaces = p.ends.filter (·.node == n.name)
  owners : ∀ i ∈ p.ends, i.node ∈ p.names
  apart : ∀ l ∈ p.links, l.a.node ≠ l.b.node

theorem Grown.rooted {p : Plan} (grown : p.Grown) :
    ∃ past, Rooted past p ∧ Event.removals past = [] := by
  obtain ⟨past, came, none⟩ := grown.came
  exact ⟨past, came.rooted (Event.lasting_of_no_removals none), none⟩

theorem Grown.wired {p : Plan} (grown : p.Grown) : p.Wired := by
  obtain ⟨past, rooted, none⟩ := grown.rooted
  refine ⟨rooted.interfaces, fun i member => ?_,
    fun l listed => (grown.built.proper l listed).apart⟩
  simpa [none] using rooted.owners i member

theorem Wired.owner {p : Plan} (wired : p.Wired) {i : Interface} (member : i ∈ p.ends) :
    ∃ n ∈ p.nodes, n.name = i.node ∧ i ∈ n.interfaces := by
  obtain ⟨n, listed, named⟩ := List.mem_map.mp (wired.owners i member)
  refine ⟨n, listed, named, ?_⟩
  rw [wired.interfaces n listed]
  exact List.mem_filter.mpr ⟨member, by simpa using named.symm⟩

theorem Grown.nodup_ends {p : Plan} (grown : p.Grown)
    (few : ∀ n ∈ p.nodes, (p.links.filter (·.touches n.name)).length < 4294967296) :
    p.ends.Nodup := by
  obtain ⟨past, rooted, none⟩ := grown.rooted
  refine rooted.nodup_ends grown.built fun name => ?_
  by_cases present : name ∈ p.names
  · obtain ⟨n, listed, rfl⟩ := List.mem_map.mp present
    exact Nat.le_of_lt (few n listed)
  · rw [← Link.length_ends_at grown.built.proper, ← Plan.ends,
      rooted.no_ends present (by simp [none])]
    exact Nat.zero_le _

theorem Grown.orphanLinks_eq_nil {p : Plan} (grown : p.Grown) : p.orphanLinks = [] := by
  obtain ⟨past, rooted, none⟩ := grown.rooted
  rw [rooted.orphanLinks_eq, none]
  exact List.filter_eq_nil_iff.mpr fun _ _ => Bool.false_ne_true

theorem Grown.valid {p : Plan} (grown : p.Grown) : p.validate = .ok () := by
  simp [validate, grown.orphanLinks_eq_nil]

end Testbed.Plan
