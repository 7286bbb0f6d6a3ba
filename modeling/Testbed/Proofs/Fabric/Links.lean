import Testbed.Fabric.Topology
import Testbed.Proofs.Fabric.Laying
import Testbed.Proofs.Fabric.Nodes

namespace Testbed.Namespaces

open Host

def placedEnd (nodes : List Node) (i : Interface) : PairEnd :=
  ⟨bare i.name, (namespaceAt nodes i).map bare, true⟩

def placedPair (nodes : List Node) (l : Link) : PairEnd × PairEnd :=
  (placedEnd nodes l.a, placedEnd nodes l.b)

def linkCommands (nodes : List Node) (l : Link) : List Command :=
  laying l.a.name l.b.name (namespaceAt nodes l.a) (namespaceAt nodes l.b)

theorem connect_eq {σ : Type} (sh : Shell σ) (nodes : List Node) (l : Link) :
    (fabric sh).connect nodes l = Action.sequence ((linkCommands nodes l).map (run sh)) := by
  unfold Fabric.connect linkCommands laying
  simp only [fabric, createLink]

theorem heard_linkCommands (nodes : List Node) (l : Link) :
    (linkCommands nodes l).map Command.heard =
      laying (bare l.a.name) (bare l.b.name) ((namespaceAt nodes l.a).map bare)
        ((namespaceAt nodes l.b).map bare) :=
  heard_laying _ _ _ _

theorem bare_name_proper (i : Interface) : bare i.name ≠ Network.loopback := by
  intro same
  have dash : '-' ∈ (bare i.name).toList := by
    simp [bare, Interface.name, interfaceName]
  rw [same] at dash
  exact absurd dash (by decide)

theorem namespaceAt_mem {nodes : List Node} {i : Interface} {ns : String}
    (named : namespaceAt nodes i = some ns) : ∃ n ∈ nodes, n.namespace? = some ns := by
  obtain ⟨n, found, named⟩ := Option.bind_eq_some_iff.mp named
  exact ⟨n, List.mem_of_find?_eq_some found, named⟩

theorem mem_spaces_of_end {nodes : List Node} {i : Interface} :
    ∀ s ∈ ((namespaceAt nodes i).map bare).toList, s ∈ spaces nodes := by
  intro s member
  obtain ⟨ns, named, rfl⟩ := Option.map_eq_some_iff.mp (Option.mem_toList.mp member)
  obtain ⟨n, listed, named⟩ := namespaceAt_mem named
  exact mem_spaces.mpr ⟨n, listed, ns, named, rfl⟩

/-- The host has none of the namespaces of the nodes, and none of the interfaces of the links. -/
structure Foreign (nodes : List Node) (links : List Link) (n : Network) : Prop where
  namespaces : ∀ s ∈ spaces nodes, s ∉ n.namespaces
  interfaces : ∀ l ∈ links, ∀ i ∈ l.ends, ∀ e ∈ n.ends, e.name ≠ bare i.name

theorem mem_placement {c : Command} {interface : String} {ns : Option String} :
    c ∈ placement interface ns ↔
      (∃ s, ns = some s ∧ c = .moveToNamespace interface s) ∨ c = .raise ns interface := by
  cases ns <;> simp [placement]

theorem names_placement {interface : String} {ns : Option String} {c : Command} {name : String}
    (listed : c ∈ placement interface ns) (member : name ∈ c.names) :
    name = interface ∨ name ∈ ns.toList := by
  rcases mem_placement.mp listed with ⟨s, rfl, rfl⟩ | rfl
  · simpa [eq_comm] using member
  · simpa [or_comm] using member

theorem apart_placement {n : Network} {interface : String} {ns : Option String}
    (namespaces : ∀ s ∈ ns.toList, s ∉ n.namespaces)
    (interfaces : ∀ e ∈ n.ends, e.name ≠ interface) : ∀ c ∈ placement interface ns, n.Apart c := by
  intro c member
  rcases mem_placement.mp member with ⟨s, rfl, rfl⟩ | rfl
  · exact ⟨by simpa [Command.places] using namespaces,
      by simpa [Command.interfaces] using interfaces, by simp⟩
  · exact ⟨by simpa [Command.places] using namespaces,
      by simpa [Command.interfaces] using interfaces, by simp⟩

theorem apart_laying {n : Network} {a b : String} {nsA nsB : Option String}
    (namespaces : ∀ s ∈ nsA.toList ++ nsB.toList, s ∉ n.namespaces)
    (interfaces : ∀ e ∈ n.ends, e.name ≠ a ∧ e.name ≠ b) : ∀ c ∈ laying a b nsA nsB, n.Apart c := by
  intro c member
  simp only [laying, List.cons_append, List.mem_cons, List.mem_append] at member
  rcases member with rfl | first | second
  · refine ⟨by simp [Command.places], fun name listed e there => ?_, by simp⟩
    simp only [Command.interfaces, List.mem_cons, List.not_mem_nil, or_false] at listed
    rcases listed with rfl | rfl
    · exact (interfaces e there).1
    · exact (interfaces e there).2
  · exact apart_placement (fun s listed => namespaces s (List.mem_append_left _ listed))
      (fun e there => (interfaces e there).1) c first
  · exact apart_placement (fun s listed => namespaces s (List.mem_append_right _ listed))
      (fun e there => (interfaces e there).2) c second

theorem ofNetwork_laying {a b : String} {nsA nsB : Option String} :
    ∀ c ∈ laying a b nsA nsB, c.ofNetwork = true := by
  intro c member
  simp only [laying, List.cons_append, List.mem_cons, List.mem_append, mem_placement] at member
  rcases member with rfl | (⟨s, _, rfl⟩ | rfl) | ⟨s, _, rfl⟩ | rfl <;> rfl

section Links

variable {refused : Nat → Command → Option Refusal} {base m : Network} {nodes : List Node}
  {links : List Link}

theorem Foreign.apart {l : Link} (foreign : Foreign nodes links base) (listed : l ∈ links) :
    ∀ c ∈ (linkCommands nodes l).map Command.heard, base.Apart c := by
  rw [heard_linkCommands]
  refine apart_laying (fun s member => ?_) fun e there => ?_
  · rcases List.mem_append.mp member with first | second
    · exact foreign.namespaces s (mem_spaces_of_end s first)
    · exact foreign.namespaces s (mem_spaces_of_end s second)
  · exact ⟨foreign.interfaces l listed l.a (by simp [Link.ends]) e there,
      foreign.interfaces l listed l.b (by simp [Link.ends]) e there⟩

def takedownNames (nodes : List Node) (l : Link) : List String :=
  (Command.deleteInterface (namespaceAt nodes l.a) l.a.name).names

theorem takedownNames_clean {l : Link}
    (clean : ∀ c ∈ linkCommands nodes l, ∀ name ∈ c.names, Clean name) :
    ∀ name ∈ takedownNames nodes l, Clean name := by
  have raised := clean (.raise (namespaceAt nodes l.a) l.a.name)
    (by simp [linkCommands, laying, mem_placement])
  rw [Command.names_raise] at raised
  rw [takedownNames, Command.names_deleteInterface]
  exact raised

def withLinks (m : Network) (nodes : List Node) (links : List Link) : Network :=
  m.plus ⟨[], links.map (placedPair nodes)⟩

theorem withLinks_cons (m : Network) (nodes : List Node) (l : Link) (links : List Link) :
    withLinks m nodes (l :: links) =
      withLinks (withPair m (placedEnd nodes l.a) (placedEnd nodes l.b)) nodes links := by
  simp [withLinks, withPair, Network.plus, placedPair]

/-- What can come of making links beside what the host has anyway. -/
inductive LinksMade (base m : Network) (nodes : List Node) (links : List Link) :
    List Link × Option Error × NetworkHost → Prop
  | all {h'} (clean : ∀ l ∈ links, ∀ name ∈ takedownNames nodes l, Clean name)
      (sound : (withLinks m nodes links).Sound)
      (network : h'.network = base.plus (withLinks m nodes links)) :
      LinksMade base m nodes links (links, none, h')
  | stopped {linked l rest begun c more e h' m'} (split : links = linked ++ l :: rest)
      (commands : linkCommands nodes l = begun ++ c :: more) (at_command : FailedAt c e)
      (clean : ∀ l ∈ linked, ∀ name ∈ takedownNames nodes l, Clean name)
      (applied : (withLinks m nodes linked).applyAll (begun.map Command.heard) = some m')
      (network : h'.network = base.plus m') (sound : m'.Sound) (placed : m'.Placed) :
      LinksMade base m nodes links (linked, some e, h')

theorem LinksMade.cons {l : Link} {out : List Link × Option Error × NetworkHost}
    (clean : ∀ name ∈ takedownNames nodes l, Clean name)
    (made :
      LinksMade base (withPair m (placedEnd nodes l.a) (placedEnd nodes l.b)) nodes links out) :
    LinksMade base m nodes (l :: links) (l :: out.1, out.2.1, out.2.2) := by
  cases made with
  | all clean' sound network =>
    rw [← withLinks_cons] at sound network
    exact .all (List.forall_mem_cons.mpr ⟨clean, clean'⟩) sound network
  | stopped split commands at_command clean' applied network sound placed =>
    rw [← withLinks_cons] at applied
    exact .stopped (congrArg (l :: ·) split) commands at_command
      (List.forall_mem_cons.mpr ⟨clean, clean'⟩) applied network sound placed

theorem connectAll_made (refused : Nat → Command → Option Refusal)
    (foreign : Foreign nodes links base) (sound : m.Sound) (placed : m.Placed)
    {h : NetworkHost} (start : h.network = base.plus m) :
    LinksMade base m nodes links
      (Action.untilFailure ((fabric (NetworkHost.shell refused)).connect nodes) links h) := by
  induction links generalizing m h with
  | nil =>
    have same : withLinks m nodes [] = m := Network.plus_empty m
    exact .all (by simp) (same.symm ▸ sound) (by rw [same]; exact start)
  | cons l rest ih =>
    have foreign' : Foreign nodes rest base :=
      ⟨foreign.namespaces, fun l listed => foreign.interfaces l (List.mem_cons_of_mem _ listed)⟩
    have went : Went (linkCommands nodes l) h
        ((fabric (NetworkHost.shell refused)).connect nodes l h) := by
      rw [connect_eq]
      exact sequence_went ofNetwork_laying h
    have apart := foreign.apart (l := l) List.mem_cons_self
    rw [Action.untilFailure]
    generalize (fabric (NetworkHost.shell refused)).connect nodes l h = out at went
    cases went with
    | @through h' clean applied =>
      rw [start, Network.applyAll_plus apart] at applied
      obtain ⟨m', laid, network⟩ := Option.map_eq_some_iff.mp applied
      have sound' := Network.applyAll_keeps Network.apply_sound sound laid
      have placed' := Network.applyAll_keeps Network.apply_placed placed laid
      rw [heard_linkCommands] at laid
      have pair := applyAll_laying (bare_name_proper l.a) (bare_name_proper l.b) laid
      subst pair
      exact (ih foreign' sound' placed' network.symm).cons (takedownNames_clean clean)
    | @stopped begun c more e h' split at_command clean applied =>
      have apart' : ∀ c ∈ begun.map Command.heard, base.Apart c := fun c member =>
        apart c (by rw [split, List.map_append]; exact List.mem_append_left _ member)
      rw [start, Network.applyAll_plus apart'] at applied
      obtain ⟨m', laid, network⟩ := Option.map_eq_some_iff.mp applied
      have first : l :: rest = [] ++ l :: rest := rfl
      refine .stopped first split at_command (by simp) ?_ network.symm
        (Network.applyAll_keeps Network.apply_sound sound laid)
        (Network.applyAll_keeps Network.apply_placed placed laid)
      rw [withLinks, List.map_nil]
      exact (congrArg (Network.applyAll · _) (Network.plus_empty m)).trans laid

theorem disconnectAll (yields : Yielding refused) {Y : List String}
    (known : ∀ s ∈ spaces nodes, s ∈ Y) {tail : List (PairEnd × PairEnd)}
    (clean : ∀ l ∈ links, ∀ name ∈ takedownNames nodes l, Clean name)
    (foreign : Foreign nodes links base)
    (sound : (Network.mk Y (links.reverse.map (placedPair nodes) ++ tail)).Sound) {h : NetworkHost}
    (start : h.network = base.plus ⟨Y, links.reverse.map (placedPair nodes) ++ tail⟩) :
    ∃ h', Action.onEach ((fabric (NetworkHost.shell refused)).disconnect nodes) links h =
        (links.map fun l => (l, none), h') ∧ h'.network = base.plus ⟨Y, tail⟩ := by
  induction links generalizing h with
  | nil => exact ⟨h, rfl, start⟩
  | cons l rest ih =>
    have foreign' : Foreign nodes rest base :=
      ⟨foreign.namespaces, fun l listed => foreign.interfaces l (List.mem_cons_of_mem _ listed)⟩
    rw [List.reverse_cons, List.map_append, List.append_assoc, List.map_singleton,
      List.singleton_append] at sound start
    let others := rest.reverse.map (placedPair nodes) ++ tail
    let N : Network := ⟨Y, rest.reverse.map (placedPair nodes) ++ placedPair nodes l :: tail⟩
    have gone :
      N.removePairs (Network.isAt (placedEnd nodes l.a).place (placedEnd nodes l.a).name) =
        ⟨Y, others⟩ := sound.removePairs_one
    have apart : base.Apart (.deleteInterface (placedEnd nodes l.a).place (bare l.a.name)) := by
      refine ⟨fun s member => foreign.namespaces s (mem_spaces_of_end s member),
        fun name listed => ?_, by simp⟩
      rw [List.mem_singleton.mp listed]
      exact foreign.interfaces l List.mem_cons_self l.a (by simp [Link.ends])
    have deleted : N.apply (.deleteInterface (placedEnd nodes l.a).place (bare l.a.name)) =
        some ⟨Y, others⟩ := by
      have there : N.hasPlace (placedEnd nodes l.a).place = true :=
        Network.hasPlace_iff.mpr fun s member => known s (mem_spaces_of_end s member)
      have held : N.holds (placedEnd nodes l.a).place (placedEnd nodes l.a).name = true :=
        Network.holds_iff.mpr ⟨placedEnd nodes l.a, Network.mem_ends.mpr
          ⟨placedPair nodes l, by simp [N], .inl rfl⟩, rfl⟩
      rw [Network.apply, Network.deleteInterface, there, ← gone]
      exact if_pos held
    have applied :
      h.network.apply (Command.deleteInterface (namespaceAt nodes l.a) l.a.name).heard =
        some (base.plus ⟨Y, others⟩) := by
      rw [start]
      exact (Network.apply_plus apart N).trans (congrArg (Option.map base.plus) deleted)
    have ran := run_done refused (c := .deleteInterface (namespaceAt nodes l.a) l.a.name) rfl
      (clean l List.mem_cons_self) (yields.interfaces _ _ _) applied
    have sound' : (Network.mk Y others).Sound := gone ▸ sound.removePairs _
    obtain ⟨h', stepped, network⟩ := ih (fun l member => clean l (List.mem_cons_of_mem _ member))
      foreign' sound' (h := ⟨base.plus ⟨Y, others⟩, h.commands + 1⟩) rfl
    have first : (fabric (NetworkHost.shell refused)).disconnect nodes l h =
        (.ok (), ⟨base.plus ⟨Y, others⟩, h.commands + 1⟩) := ran
    refine ⟨h', ?_, network⟩
    simp only [Action.onEach, first, stepped, List.map_cons]
    rfl

end Links

end Testbed.Namespaces
