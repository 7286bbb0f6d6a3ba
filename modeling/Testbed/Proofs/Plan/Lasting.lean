import Testbed.Proofs.Plan.History

namespace Testbed

namespace Plan.Event

variable {past : List Event} {e : Event}

theorem lasting_concat :
    Lasting (past ++ [e]) ↔ Lasting past ∧ ∀ name ∈ removals past, e ≠ .declared name := by
  simp only [Lasting, List.pairwise_append, List.pairwise_singleton, List.mem_singleton,
    forall_eq, true_and, removals, List.mem_filterMap]
  refine and_congr_right fun _ => ⟨?_, ?_⟩
  · rintro kept name ⟨e, member, seen⟩
    exact kept e member name seen
  · exact fun kept e member name seen => kept name ⟨e, member, seen⟩

theorem lasting_of_no_removals (none : removals past = []) : Lasting past := by
  refine List.pairwise_iff_forall_sublist.mpr fun {earlier later} sublist name seen => ?_
  have member : name ∈ removals past :=
    List.mem_filterMap.mpr ⟨earlier, sublist.subset List.mem_cons_self, seen⟩
  rw [none] at member
  cases member

end Plan.Event

namespace Plan

variable {past : List Event} {e : Event} {p q : Plan}

/-- The ends of the links at a name are what its node has handed out, be it still there or not. -/
structure Rooted (past : List Event) (p : Plan) : Prop where
  interfaces : ∀ n ∈ p.nodes, n.interfaces = p.ends.filter (·.node == n.name)
  owners : ∀ i ∈ p.ends, i.node ∈ p.names ∨ i.node ∈ Event.removals past
  gone : ∀ name ∈ Event.removals past, name ∉ p.names
  holders : ∀ name, ∃ n : Node, n.name = name ∧ n.Numbered ∧
    n.interfaces = p.ends.filter (·.node == name)

theorem Brings.ends (brings : p.Brings e q) :
    q.ends = p.ends ++ e.joined?.toList.flatMap Link.ends := by
  cases brings with
  | declared => exact (List.append_nil _).symm
  | @joined a b => simp [ends_linked, Event.joined?]
  | removed => exact (List.append_nil _).symm

theorem Brings.new_owners (brings : p.Brings e q) :
    ∀ i ∈ e.joined?.toList.flatMap Link.ends, i.node ∈ q.names := by
  intro i member
  cases brings with
  | declared => cases member
  | @joined a b apart first second =>
    rw [names_linked p apart]
    have new : i ∈ (p.joint a b).ends := by simpa [Event.joined?] using member
    rcases mem_ends_joint new with same | same
    · exact same ▸ (mem_of_checkEnd first).1
    · exact same ▸ (mem_of_checkEnd second).1
  | removed => cases member

theorem Brings.kept_or_removed (brings : p.Brings e q) {name : String} (listed : name ∈ p.names) :
    name ∈ q.names ∨ e = .removed name := by
  rw [brings.names]
  cases e with
  | declared new => exact .inl (List.mem_append_left _ listed)
  | joined => exact .inl listed
  | removed other =>
    by_cases same : name = other
    · exact .inr (same ▸ rfl)
    · exact .inl (List.mem_filter.mpr ⟨listed, by simpa using same⟩)

theorem Rooted.no_ends (rooted : Rooted past p) {name : String} (absent : name ∉ p.names)
    (unremoved : name ∉ Event.removals past) : p.ends.filter (·.node == name) = [] := by
  refine List.filter_eq_nil_iff.mpr fun i member at_name => ?_
  have same : i.node = name := by simpa using at_name
  rcases rooted.owners i member with listed | removed
  · exact absent (same ▸ listed)
  · exact unremoved (same ▸ removed)

theorem Rooted.interfaces_after (rooted : Rooted past p) (step : Came.Step past p e q)
    (lasting : ∀ name ∈ Event.removals past, e ≠ .declared name) :
    ∀ n ∈ q.nodes, n.interfaces = q.ends.filter (·.node == n.name) := by
  cases step.brings with
  | declared n bare absent =>
    refine List.forall_mem_append.mpr ⟨rooted.interfaces, List.forall_mem_singleton.mpr ?_⟩
    rw [bare]
    exact (rooted.no_ends (not_mem_names absent) fun removed => lasting _ removed rfl).symm
  | joined apart =>
    intro n member
    obtain ⟨m, listed, named, handed⟩ := mem_nodes_linked step.came.built apart member
    rw [ends_linked, List.filter_append, handed, named, rooted.interfaces m listed]
  | removed => exact fun n member => rooted.interfaces n (List.mem_of_mem_filter member)

theorem Rooted.step (rooted : Rooted past p) (step : Came.Step past p e q)
    (lasting : ∀ name ∈ Event.removals past, e ≠ .declared name) : Rooted (past ++ [e]) q := by
  have interfaces := rooted.interfaces_after step lasting
  refine ⟨interfaces, fun i member => ?_, fun name member => ?_, fun name => ?_⟩
  · rw [step.brings.ends] at member
    rw [Event.removals_concat]
    rcases List.mem_append.mp member with old | new
    · rcases rooted.owners i old with listed | removed
      · rcases step.brings.kept_or_removed listed with kept | rfl
        · exact .inl kept
        · exact .inr (List.mem_append_right _ (by simp [Event.removed?]))
      · exact .inr (List.mem_append_left _ removed)
    · exact .inl (step.brings.new_owners i new)
  · rw [Event.removals_concat] at member
    rw [step.brings.names]
    rcases List.mem_append.mp member with old | new
    · have absent := rooted.gone name old
      cases e with
      | declared other =>
        have differ : name ≠ other := fun same => lasting name old (same ▸ rfl)
        simp [Event.renames, absent, differ]
      | joined => exact absent
      | removed => simp [Event.renames, absent]
    · cases e <;> simp_all [Event.removed?, Event.renames]
  · -- a node that is there holds its ends itself, and at a name that is gone there is no new end
    by_cases present : name ∈ q.names
    · obtain ⟨n, listed, rfl⟩ := List.mem_map.mp present
      exact ⟨n, rfl, step.later.built.numbered n listed, interfaces n listed⟩
    · obtain ⟨n, named, numbered, own⟩ := rooted.holders name
      have none_new : (e.joined?.toList.flatMap Link.ends).filter (·.node == name) = [] := by
        refine List.filter_eq_nil_iff.mpr fun i new at_name => ?_
        have same : i.node = name := by simpa using at_name
        exact present (same ▸ step.brings.new_owners i new)
      refine ⟨n, named, numbered, own.trans ?_⟩
      rw [step.brings.ends, List.filter_append, none_new, List.append_nil]

theorem Came.rooted (came : p.Came past) (lasting : Event.Lasting past) : Rooted past p := by
  revert lasting
  refine came.by_events (P := fun past p => Event.Lasting past → Rooted past p) (fun _ => ?_)
    (fun _ _ _ ih lasting => ?_) fun past q e r step ih lasting => ?_
  · exact ⟨nofun, nofun, nofun, fun name => ⟨.host name, rfl, Node.numbered_of_bare rfl, rfl⟩⟩
  · exact ⟨(ih lasting).interfaces, (ih lasting).owners, (ih lasting).gone, (ih lasting).holders⟩
  · obtain ⟨before, unremoved⟩ := Event.lasting_concat.mp lasting
    exact (ih before).step step unremoved

theorem Rooted.nodup_ends (rooted : Rooted past p) (built : p.Built)
    (few : ∀ name, (p.links.filter (·.touches name)).length ≤ 4294967296) : p.ends.Nodup := by
  refine List.nodup_iff_count_le_one.mpr fun i => ?_
  obtain ⟨n, named, numbered, own⟩ := rooted.holders i.node
  have fewer : n.interfaces.length ≤ 4294967296 := by
    rw [own, Plan.ends, Link.length_ends_at built.proper]
    exact few i.node
  have at_node : (i.node == i.node) = true := by simp
  rw [← List.count_filter (p := (·.node == i.node)) at_node, ← own]
  exact List.nodup_iff_count_le_one.mp (numbered.nodup fewer) i

theorem Rooted.owned_iff (rooted : Rooted past p) {i : Interface}
    (member : i ∈ p.ends) : p.owned i = true ↔ i.node ∉ Event.removals past := by
  unfold owned
  cases found : p.node? i.node with
  | none =>
    rcases rooted.owners i member with listed | removed
    · exact absurd listed (not_mem_names found)
    · simp [removed]
  | some n =>
    obtain ⟨listed, named⟩ := mem_of_node? found
    have handed : i ∈ n.interfaces := by
      rw [rooted.interfaces n listed]
      exact List.mem_filter.mpr ⟨member, by simpa using named.symm⟩
    have unremoved : i.node ∉ Event.removals past := fun removed =>
      rooted.gone i.node removed (named ▸ List.mem_map_of_mem listed)
    simp [Node.owns, named, handed, unremoved]

theorem Rooted.orphanLinks_eq (rooted : Rooted past p) :
    p.orphanLinks = p.links.filter fun l => (Event.removals past).any l.touches := by
  refine List.filter_congr fun l member => ?_
  have owned {i : Interface} (isEnd : i ∈ l.ends) :=
    rooted.owned_iff (mem_ends.mpr ⟨l, member, isEnd⟩)
  rw [Bool.eq_iff_iff, List.any_eq_true, List.any_eq_true]
  constructor
  · rintro ⟨i, isEnd, lost⟩
    refine ⟨i.node, ?_, Link.touches_iff.mpr ⟨i, isEnd, rfl⟩⟩
    by_contra unremoved
    simp [(owned isEnd).mpr unremoved] at lost
  · rintro ⟨name, removed, touched⟩
    obtain ⟨i, isEnd, rfl⟩ := Link.touches_iff.mp touched
    refine ⟨i, isEnd, ?_⟩
    by_contra found
    exact (owned isEnd).mp (by simpa using found) removed

end Plan

end Testbed
