import Testbed.Proofs.Plan.Built
import Testbed.Proofs.Session.Takedown

namespace Testbed

theorem Plan.namespaceAt_of_owned {p : Plan} {i : Interface} (sound : p.owned i = true) :
    ∃ n, p.node? i.node = some n ∧ n.owns i = true ∧
      namespaceAt p.nodes i = if n.isHost then some n.name else none := by
  unfold owned at sound
  cases found : p.node? i.node with
  | none => simp [found] at sound
  | some n =>
    rw [found] at sound
    refine ⟨n, rfl, sound, ?_⟩
    unfold node? at found
    rw [namespaceAt, found, Option.bind_some]
    cases kind : n.kind <;> simp [Node.namespace?, Node.isHost, kind]

theorem Plan.owned_of_whole {p : Plan} (whole : p.orphanLinks = []) :
    ∀ l ∈ p.links, ∀ i ∈ l.ends, p.owned i = true := by
  intro l listed i isEnd
  have kept := List.filter_eq_nil_iff.mp whole l listed
  simp only [List.any_eq_true, not_exists, not_and] at kept
  simpa using kept i isEnd

namespace Session

variable {σ : Type}

namespace Call

def made? : Call → Option (Node ⊕ Link)
  | .createNode n (.ok ()) => some (.inl n)
  | .createLink l _ _ (.ok ()) => some (.inr l)
  | _ => none

def unmade? : Call → Option (Node ⊕ Link)
  | .teardownLink l _ _ => some (.inr l)
  | .destroyNode n _ => some (.inl n)
  | _ => none

def linking (p : Plan) (l : Link) (result : Except Error Unit) : Call :=
  .createLink l (namespaceAt p.nodes l.a) (namespaceAt p.nodes l.b) result

end Call

/-- The steps take the links and then the nodes down, the latest first. -/
structure Takedown.Undoes (d : Takedown) (nodes : List Node) (links : List Link) : Prop where
  stops : d.stops = []
  unlinks : d.unlinks.map Prod.fst = links.reverse
  removals : d.removals.map Prod.fst = nodes.reverse

/-- The calls by which a plan is set up, with their results, and what comes of it. -/
inductive SettingUp (p : Plan) : List Call → Except Error Topology → Prop
  | unmade {made n after e d} (nodes : p.nodes = made ++ n :: after)
      (undone : Takedown.Undoes d made []) :
      SettingUp p (made.map (.createNode · (.ok ())) ++ [.createNode n (.error e)] ++
        d.calls p.nodes) (.error e)
  | unlinked {made l after e d} (links : p.links = made ++ l :: after)
      (undone : Takedown.Undoes d p.nodes made) :
      SettingUp p (p.nodes.map (.createNode · (.ok ())) ++ made.map (Call.linking p · (.ok ())) ++
        [Call.linking p l (.error e)] ++ d.calls p.nodes) (.error e)
  | whole : SettingUp p (p.nodes.map (.createNode · (.ok ())) ++
        p.links.map (Call.linking p · (.ok ()))) (.ok ⟨p.nodes, p.links, false⟩)

theorem Takedown.Undoes.mirrors {d : Takedown} {nodes : List Node} {links : List Link}
    (undone : d.Undoes nodes links) (all : List Node) :
    (d.calls all).map Call.unmade? =
      ((nodes.map Sum.inl ++ links.map Sum.inr).reverse : List (Node ⊕ Link)).map some := by
  have unlinks : (d.unlinks.map fun step =>
        Call.teardownLink step.1 (namespaceAt all step.1.a) step.2).map Call.unmade? =
      (d.unlinks.map Prod.fst).map fun l => some (.inr l) := by
    rw [List.map_map, List.map_map]
    rfl
  have removals : (d.removals.map fun step => Call.destroyNode step.1 step.2).map Call.unmade? =
      (d.removals.map Prod.fst).map fun n => some (.inl n) := by
    rw [List.map_map, List.map_map]
    rfl
  rw [Takedown.calls, undone.stops, List.map_nil, List.nil_append, List.map_append, unlinks,
    removals, undone.unlinks, undone.removals, List.reverse_append, List.map_append,
    ← List.map_reverse, ← List.map_reverse, List.map_map, List.map_map]
  rfl

namespace Journaled

theorem release_undoes (f : Fabric σ) (nodes created : List Node) (links : List Link)
    (j : Journaled σ) : ∃ d : Takedown, d.Undoes created links ∧
      ((fabric f).release nodes created links j).1 = d.release ∧
      ((fabric f).release nodes created links j).2.calls = j.calls ++ d.calls nodes := by
  obtain ⟨d, stops, unlinks, removals, released, calls⟩ := release_steps f nodes created links [] j
  refine ⟨d, ⟨stops, unlinks, removals⟩, released, ?_⟩
  rw [calls, Takedown.calls, stops, List.map_nil, List.nil_append, List.append_assoc]

theorem materialize_settingUp (f : Fabric σ) {p : Plan} (whole : p.orphanLinks = []) (s : σ) :
    SettingUp p (p.materialize (fabric f) ⟨[], s⟩).2.calls
      (p.materialize (fabric f) ⟨[], s⟩).1 := by
  have set_up : p.SetUp (fabric f) ⟨[], s⟩ (p.materialize (fabric f) ⟨[], s⟩) :=
    Plan.materialize_setUp
  generalize p.materialize (fabric f) ⟨[], s⟩ = out at set_up
  cases set_up with
  | invalid refused =>
    rw [Plan.validate_ok_iff.mpr whole] at refused
    cases refused
  | unmade _ refused =>
    obtain ⟨n, after, nodes, calls⟩ := untilFailure_some Call.createNode f.createNode refused
    obtain ⟨d, undone, -, written⟩ := release_undoes f p.nodes _ [] _
    rw [written, calls]
    exact .unmade nodes undone
  | unlinked _ made refused =>
    have first := untilFailure_all Call.createNode f.createNode made
    obtain ⟨l, after, links, calls⟩ :=
      untilFailure_some (Call.linking p) (f.connect p.nodes) refused
    obtain ⟨d, undone, -, written⟩ := release_undoes f p.nodes p.nodes _ _
    rw [written, calls, first]
    exact .unlinked links undone
  | whole _ made linked =>
    have first := untilFailure_all Call.createNode f.createNode made
    have second := untilFailure_all (Call.linking p) (f.connect p.nodes) linked
    rw [second, first]
    exact .whole

theorem release_mirrors (f : Fabric σ) {t : Topology} (held : t.released = false)
    (j : Journaled σ) : ∃ d : Takedown, d.Undoes t.nodes t.links ∧
      t.release (fabric f) j = (d.release, { t with released := true },
        ⟨j.calls ++ d.calls t.nodes, (t.release f j.inner).2.2⟩) := by
  obtain ⟨d, undone, released, written⟩ := release_undoes f t.nodes t.nodes t.links j
  have same := release_maps (fabric_maps f) t.nodes t.nodes t.links j
  refine ⟨d, undone, ?_⟩
  rw [release_of_held _ held, release_of_held _ held, released,
    eq_mk written (congrArg Prod.snd same).symm]

end Journaled

theorem SettingUp.made {p : Plan} {calls : List Call} {t : Topology}
    (set_up : SettingUp p calls (.ok t)) : t = ⟨p.nodes, p.links, false⟩ ∧
      calls.filterMap Call.made? = p.nodes.map Sum.inl ++ p.links.map Sum.inr := by
  cases set_up with
  | whole =>
    refine ⟨rfl, ?_⟩
    rw [List.filterMap_append, List.filterMap_map, List.filterMap_map]
    refine congrArg₂ (· ++ ·) ?_ ?_ <;> rw [← List.filterMap_eq_map] <;> rfl

/-- A plan with orphans is refused without a call; any other is set up by calls for its nodes and
then its links, each link in the namespaces of the nodes that own its ends, and whatever was made
before a failure is taken down again. A release undoes all the calls, the last one first, and is
the last. -/
theorem materialize_mirrored (f : Fabric σ) (p : Plan) (s : σ) : ∃ calls,
    p.materialize (Journaled.fabric f) ⟨[], s⟩ =
      ((p.materialize f s).1, ⟨calls, (p.materialize f s).2⟩) ∧
    (p.orphanLinks ≠ [] → calls = [] ∧
      (p.materialize f s).1 = .error (.incompleteTopology (p.orphanLinks.map Link.text))) ∧
    (p.orphanLinks = [] → SettingUp p calls (p.materialize f s).1 ∧
      ∀ l ∈ p.links, ∀ i ∈ l.ends, ∃ n, p.node? i.node = some n ∧ n.owns i = true ∧
        namespaceAt p.nodes i = if n.isHost then some n.name else none) ∧
    ∀ t, (p.materialize f s).1 = .ok t → ∀ j : Journaled σ, ∃ d : Takedown,
      d.Undoes p.nodes p.links ∧
      t.release (Journaled.fabric f) j = (d.release, { t with released := true },
        ⟨j.calls ++ d.calls p.nodes, (t.release f j.inner).2.2⟩) ∧
      (d.calls p.nodes).map Call.unmade? = (calls.filterMap Call.made?).reverse.map some ∧
      ∀ k, ({ t with released := true } : Topology).release (Journaled.fabric f) k =
        (.empty, { t with released := true }, k) := by
  have same := materialize_maps (Journaled.fabric_maps f) p ⟨[], s⟩
  have seen : p.materialize (Journaled.fabric f) ⟨[], s⟩ = ((p.materialize f s).1,
      ⟨(p.materialize (Journaled.fabric f) ⟨[], s⟩).2.calls, (p.materialize f s).2⟩) := by
    rw [same]
  have set_up := fun whole => Journaled.materialize_settingUp f (p := p) whole s
  rw [congrArg Prod.fst seen] at set_up
  refine ⟨_, seen, fun orphans => ?_, fun whole => ⟨set_up whole, ?_⟩, fun t made j => ?_⟩
  · rw [Plan.materialize_of_orphans orphans, Plan.materialize_of_orphans orphans]
    exact ⟨rfl, rfl⟩
  · exact fun l listed i isEnd =>
      Plan.namespaceAt_of_owned (Plan.owned_of_whole whole l listed i isEnd)
  · have whole : p.orphanLinks = [] := (Plan.materialize_ok_steps.mp ⟨t, made⟩).1
    have finished := set_up whole
    rw [made] at finished
    obtain ⟨rfl, all⟩ := finished.made
    obtain ⟨d, undone, released⟩ :=
      Journaled.release_mirrors f (t := ⟨p.nodes, p.links, false⟩) rfl j
    refine ⟨d, undone, released, ?_, fun _ => rfl⟩
    rw [undone.mirrors, all]

def brittle : Fabric Unit where
  name := "brittle"
  createNode _ s := (.ok (), s)
  createLink l _ _ s := (.error (.fabric "create_link" l.text), s)
  teardownLink l _ s := (.error (.fabric "teardown_link" l.text), s)
  destroyNode n s := (.error (.fabric "destroy_node" n.name), s)

theorem brittle_mirrored : Plan.pair.orphanLinks = [] ∧ ∃ calls,
    SettingUp Plan.pair calls (.error (.fabric "create_link" "h1-eth0 <-> s1-eth1")) ∧
    calls.filterMap Call.made? = Plan.pair.nodes.map Sum.inl ∧
    calls.filterMap Call.unmade? = Plan.pair.nodes.reverse.map Sum.inl := by
  have whole : Plan.pair.orphanLinks = [] := by decide
  obtain ⟨calls, seen, -, set_up, -⟩ := materialize_mirrored brittle Plan.pair ()
  have written := congrArg (fun out => out.2.calls) seen
  have refused : (Plan.pair.materialize brittle ()).1 =
      .error (.fabric "create_link" "h1-eth0 <-> s1-eth1") := by rfl
  refine ⟨whole, calls, refused ▸ (set_up whole).1, ?_, ?_⟩
  · exact (congrArg (List.filterMap Call.made?) written).symm
  · exact (congrArg (List.filterMap Call.unmade?) written).symm

end Session

end Testbed
