import Testbed.Proofs.Fabric.Links
import Testbed.Proofs.Fabric.Setup
import Testbed.Proofs.Plan.Grown
import Testbed.Proofs.Plan.InterfaceName

namespace Testbed.Namespaces

open Host

section Stages

variable {nodes : List Node} {links : List Link}

theorem renewed_stale (base : Network) {X : List String} {s : String} (fresh : s ∉ X) :
    ∃ base' : Network, renewed (base.plus ⟨X, []⟩) s = base'.plus ⟨X ++ [s], []⟩ ∧
      base'.namespaces = base.namespaces.filter (· != s) ∧ base'.ends.Sublist base.ends := by
  let cleared := (base.plus ⟨X, []⟩).cleared s
  refine ⟨⟨base.namespaces.filter (· != s), cleared.pairs⟩, ?_, rfl, ?_⟩
  · have kept : X.filter (· != s) = X := List.filter_eq_self.mpr fun t member => by
      simpa using fun same : t = s => fresh (same ▸ member)
    simp [renewed, Network.plus, kept, cleared]
  · have fewer := Network.ends_cleared (base.plus ⟨X, []⟩) s
    have same : (base.plus ⟨X, []⟩).ends = base.ends := by
      rw [Network.ends_plus]
      exact List.append_nil _
    rw [same] at fewer
    exact fewer

theorem createNodes_done (clean : ∀ n ∈ nodes, ∀ ns, n.namespace? = some ns → Clean ns)
    (nodup : (spaces nodes).Nodup) {base : Network} {X : List String}
    (fresh : ∀ s ∈ spaces nodes, s ∉ X) {h : NetworkHost} (start : h.network = base.plus ⟨X, []⟩) :
    ∃ (h' : NetworkHost) (base' : Network),
      Action.untilFailure (createNode (NetworkHost.shell willing)) nodes h = (nodes, none, h') ∧
      h'.network = base'.plus ⟨X ++ spaces nodes, []⟩ ∧
      base'.namespaces = base.namespaces.filter (!(spaces nodes).contains ·) ∧
      base'.ends.Sublist base.ends := by
  induction nodes generalizing base X h with
  | nil =>
    exact ⟨h, base, rfl, by simpa [spaces] using start, by simp [spaces], .refl _⟩
  | cons n rest ih =>
    have clean' : ∀ m ∈ rest, ∀ ns, m.namespace? = some ns → Clean ns :=
      fun m member => clean m (List.mem_cons_of_mem _ member)
    cases named : n.namespace? with
    | none =>
      have same : spaces (n :: rest) = spaces rest := by simp [spaces, named]
      rw [same] at nodup fresh ⊢
      obtain ⟨h', base', made, network, namespaces, fewer⟩ := ih clean' nodup fresh start
      have created : createNode (NetworkHost.shell willing) n h = (.ok (), h) := by
        simp only [createNode, named]
        rfl
      refine ⟨h', base', ?_, network, namespaces, fewer⟩
      simp only [Action.untilFailure, created, made]
    | some ns =>
      have split : spaces (n :: rest) = bare ns :: spaces rest := by simp [spaces, named]
      rw [split] at nodup fresh ⊢
      obtain ⟨h₁, created, renewal⟩ := createNode_done named (clean n List.mem_cons_self ns named) h
      obtain ⟨base₁, same, namespaces₁, fewer₁⟩ :=
        renewed_stale base (fresh (bare ns) List.mem_cons_self)
      rw [start, same] at renewal
      have fresh' : ∀ s ∈ spaces rest, s ∉ X ++ [bare ns] := by
        intro s member listed
        rcases List.mem_append.mp listed with old | new
        · exact fresh s (List.mem_cons_of_mem _ member) old
        · exact (List.nodup_cons.mp nodup).1 (List.mem_singleton.mp new ▸ member)
      obtain ⟨h', base', made, network, namespaces, fewer⟩ :=
        ih clean' (List.nodup_cons.mp nodup).2 fresh' renewal
      refine ⟨h', base', ?_, ?_, ?_, fewer.trans fewer₁⟩
      · simp only [Action.untilFailure, created, made]
      · simpa using network
      · rw [namespaces, namespaces₁, List.filter_filter]
        refine List.filter_congr fun t _ => ?_
        by_cases same : t = bare ns <;> simp [same]

theorem connectAll_done {base m : Network} (foreign : Foreign nodes links base)
    (clean : ∀ l ∈ links, ∀ c ∈ linkCommands nodes l, ∀ name ∈ c.names, Clean name)
    (known : ∀ s ∈ spaces nodes, s ∈ m.namespaces)
    (nodup : ((links.flatMap Link.ends).map fun i => bare i.name).Nodup)
    (free : ∀ i ∈ links.flatMap Link.ends, ∀ e ∈ m.ends, e.name ≠ bare i.name) {h : NetworkHost}
    (start : h.network = base.plus m) :
    (Action.untilFailure ((fabric (NetworkHost.shell willing)).connect nodes) links h).2.1 =
      none := by
  induction links generalizing m h with
  | nil => rfl
  | cons l rest ih =>
    have foreign' : Foreign nodes rest base :=
      ⟨foreign.namespaces, fun l listed => foreign.interfaces l (List.mem_cons_of_mem _ listed)⟩
    rw [List.flatMap_cons, List.map_append, List.nodup_append] at nodup
    obtain ⟨own, nodup', apart⟩ := nodup
    have other : bare l.a.name ≠ bare l.b.name := by simpa [Link.ends] using own
    have laid : m.applyAll ((linkCommands nodes l).map Command.heard) =
        some (withPair m (placedEnd nodes l.a) (placedEnd nodes l.b)) := by
      rw [heard_linkCommands]
      refine applyAll_laying_some (bare_name_proper l.a) (bare_name_proper l.b) other
        (fun e there =>
          ⟨free l.a (by simp [Link.ends]) e there, free l.b (by simp [Link.ends]) e there⟩)
        fun s member => known s ?_
      rcases List.mem_append.mp member with first | second
      · exact mem_spaces_of_end s first
      · exact mem_spaces_of_end s second
    have applied : h.network.applyAll ((linkCommands nodes l).map Command.heard) =
        some (base.plus (withPair m (placedEnd nodes l.a) (placedEnd nodes l.b))) := by
      rw [start, Network.applyAll_plus (foreign.apart List.mem_cons_self), laid]
      rfl
    obtain ⟨h₁, connected, network⟩ := sequence_done willing ofNetwork_laying
      (clean l List.mem_cons_self) (fun _ _ _ => rfl) applied
    rw [← linkCommands, ← connect_eq] at connected
    have free' : ∀ i ∈ rest.flatMap Link.ends,
        ∀ e ∈ (withPair m (placedEnd nodes l.a) (placedEnd nodes l.b)).ends,
          e.name ≠ bare i.name := by
      intro i member e there
      have listed : bare i.name ∈ (rest.flatMap Link.ends).map fun i => bare i.name :=
        List.mem_map_of_mem member
      rw [ends_withPair] at there
      rcases List.mem_append.mp there with old | new
      · exact free i (by rw [List.flatMap_cons]; exact List.mem_append_right _ member) e old
      · refine apart e.name ?_ _ listed
        simp only [List.mem_cons, List.not_mem_nil, or_false] at new
        rcases new with rfl | rfl <;> simp [Link.ends, placedEnd]
    have others := ih foreign' (fun l member => clean l (List.mem_cons_of_mem _ member))
      (by simpa using known) nodup' free' network
    simp only [Action.untilFailure, connected]
    exact others

end Stages

section Realized

variable {p : Plan}

/-- The names that a shell reads as they are written. -/
structure Plain (p : Plan) : Prop where
  no_newline : ∀ n ∈ p.nodes, '\n' ∉ n.name.toList
  no_nul : ∀ n ∈ p.nodes, '\x00' ∉ n.name.toList

theorem namespaceAt_owner (built : p.Built) {n : Node} (member : n ∈ p.nodes) {i : Interface}
    (named : n.name = i.node) : namespaceAt p.nodes i = n.namespace? := by
  have found := built.node?_of_mem member
  rw [named] at found
  unfold Plan.node? at found
  rw [namespaceAt, found]
  rfl

theorem namespace?_eq {n : Node} {ns : String} (named : n.namespace? = some ns) : ns = n.name := by
  unfold Node.namespace? at named
  split at named
  next => exact (Option.some.inj named).symm
  next => cases named

theorem spaces_sublist (nodes : List Node) :
    (spaces nodes).Sublist (nodes.map fun n => bare n.name) := by
  induction nodes with
  | nil => exact .slnil
  | cons n rest ih =>
    cases named : n.namespace? with
    | none =>
      have same : spaces (n :: rest) = spaces rest := by simp [spaces, named]
      rw [same]
      exact ih.cons _
    | some ns =>
      have same : spaces (n :: rest) = bare n.name :: spaces rest := by
        simp [spaces, named, namespace?_eq named]
      rw [same]
      exact ih.cons_cons _

theorem Plain.nodup_spaces (plain : Plain p) (built : p.Built) : (spaces p.nodes).Nodup := by
  have same : (p.nodes.map fun n => bare n.name) = p.names :=
    List.map_congr_left fun n member => bare_of_plain (plain.no_newline n member)
  exact (same ▸ spaces_sublist p.nodes).nodup built.nodup_names

theorem Plain.clean_node (plain : Plain p) :
    ∀ n ∈ p.nodes, ∀ ns, n.namespace? = some ns → Clean ns := by
  intro n member ns named
  rw [namespace?_eq named]
  exact plain.no_nul n member

theorem Plain.letter (plain : Plain p) (grown : p.Grown) {i : Interface} (member : i ∈ p.ends) :
    bare i.name = i.name ∧ Clean i.name := by
  obtain ⟨n, listed, named, _⟩ := grown.wired.owner member
  constructor
  · refine bare_of_plain fun newline => ?_
    rcases mem_interfaceName newline with node | fixed | digit
    · exact plain.no_newline n listed (named ▸ node)
    · exact absurd fixed (by decide)
    · exact absurd digit (by decide)
  · intro nul
    rcases mem_interfaceName nul with node | fixed | digit
    · exact plain.no_nul n listed (named ▸ node)
    · exact absurd fixed (by decide)
    · exact absurd digit (by decide)

theorem Plain.clean_link (plain : Plain p) (grown : p.Grown) :
    ∀ l ∈ p.links, ∀ c ∈ linkCommands p.nodes l, ∀ name ∈ c.names, Clean name := by
  intro l member c listed name given
  have interface {i : Interface} (isEnd : i ∈ l.ends) : Clean i.name :=
    (plain.letter grown (List.mem_flatMap.mpr ⟨l, member, isEnd⟩)).2
  have namespaces {i : Interface} (inside : name ∈ (namespaceAt p.nodes i).toList) :
    Clean name := by
    obtain ⟨n, there, named⟩ := namespaceAt_mem (Option.mem_toList.mp inside)
    exact plain.clean_node n there name named
  simp only [linkCommands, laying, List.cons_append, List.mem_cons, List.mem_append] at listed
  rcases listed with rfl | first | second
  · simp only [Command.names_addPair, List.mem_cons, List.not_mem_nil, or_false] at given
    rcases given with rfl | rfl
    · exact interface (by simp [Link.ends])
    · exact interface (by simp [Link.ends])
  · rcases names_placement first given with rfl | inside
    · exact interface (by simp [Link.ends])
    · exact namespaces inside
  · rcases names_placement second given with rfl | inside
    · exact interface (by simp [Link.ends])
    · exact namespaces inside

theorem Plain.nodup_ends (plain : Plain p) (grown : p.Grown)
    (few : ∀ n ∈ p.nodes, (p.links.filter (·.touches n.name)).length < 4294967295) :
    ((p.links.flatMap Link.ends).map fun i => bare i.name).Nodup := by
  have distinct : p.ends.Nodup := grown.nodup_ends fun n member => by
    have bound := few n member
    omega
  refine List.Nodup.map_on (fun i member j member' same => ?_) distinct
  rw [(plain.letter grown member).1, (plain.letter grown member').1] at same
  exact Interface.name_injective same

theorem grown_setUp (grown : p.Grown) (plain : Plain p)
    (few : ∀ n ∈ p.nodes, (p.links.filter (·.touches n.name)).length < 4294967295)
    {h : NetworkHost} (free : ∀ l ∈ p.links, ∀ i ∈ l.ends, ∀ e ∈ h.network.ends, e.name ≠ i.name) :
    ∃ (h' : NetworkHost) (base : Network),
      p.materialize (fabric (NetworkHost.shell willing)) h = (.ok ⟨p.nodes, p.links, false⟩, h') ∧
      h'.network = base.plus (withLinks ⟨spaces p.nodes, []⟩ p.nodes p.links) ∧
      Foreign p.nodes p.links base ∧ (withLinks ⟨spaces p.nodes, []⟩ p.nodes p.links).Sound := by
  obtain ⟨h₁, base, made, network₁, namespaces, fewer⟩ := createNodes_done plain.clean_node
    (plain.nodup_spaces grown.built) (X := []) (by simp) (Network.plus_empty h.network).symm
  rw [List.nil_append] at network₁
  have foreign : Foreign p.nodes p.links base := by
    refine ⟨fun s member listed => ?_, fun l member i isEnd e there => ?_⟩
    · rw [namespaces] at listed
      simpa [member] using (List.mem_filter.mp listed).2
    · rw [(plain.letter grown (List.mem_flatMap.mpr ⟨l, member, isEnd⟩)).1]
      exact free l member i isEnd e (fewer.subset there)
  have through := connectAll_done foreign (plain.clean_link grown) (m := ⟨spaces p.nodes, []⟩)
    (fun s member => member) (plain.nodup_ends grown few) (by simp [Network.ends]) network₁
  have linked := connectAll_made willing (m := ⟨spaces p.nodes, []⟩) foreign
    (by simp [Network.Sound, Network.ends]) (by simp [Network.Placed, Network.ends]) network₁
  generalize connected : Action.untilFailure ((fabric (NetworkHost.shell willing)).connect p.nodes)
    p.links h₁ = out at through linked
  cases linked with
  | @all h₂ clean sound network₂ =>
    refine ⟨h₂, base, ?_, network₂, foreign, sound⟩
    have made' : Action.untilFailure (fabric (NetworkHost.shell willing)).createNode p.nodes h =
      (p.nodes, none, h₁) := made
    unfold Plan.materialize
    rw [grown.valid]
    simp only [made', connected]
  | stopped => cases through

theorem ofSteps_smooth {links : List Link} {nodes : List (Node × Option Error)}
    (smooth : ∀ step ∈ nodes, step.2 = none) :
    Release.ofSteps (links.map fun l => (l, none)) nodes = ⟨links.map Link.text, []⟩ := by
  have reported : (Release.ofSteps (links.map fun l => (l, none)) nodes).links =
      links.map Link.text := by
    simp [Release.ofSteps, List.filterMap_map]
  have errors : (Release.ofSteps (links.map fun l => (l, none)) nodes).errors = [] := by
    refine List.append_eq_nil_iff.mpr ⟨by simp [List.filterMap_map], ?_⟩
    refine List.filterMap_eq_nil_iff.mpr fun step member => ?_
    simp [smooth step member]
  exact congrArg₂ Release.mk reported errors

theorem grown_release (grown : p.Grown) (plain : Plain p) {base : Network} {h : NetworkHost}
    (foreign : Foreign p.nodes p.links base)
    (sound : (withLinks ⟨spaces p.nodes, []⟩ p.nodes p.links).Sound)
    (start : h.network = base.plus (withLinks ⟨spaces p.nodes, []⟩ p.nodes p.links)) :
    ((⟨p.nodes, p.links, false⟩ : Topology).release (fabric (NetworkHost.shell willing)) h).1 =
      ⟨p.links.reverse.map Link.text, []⟩ := by
  have pairs : withLinks ⟨spaces p.nodes, []⟩ p.nodes p.links =
      ⟨spaces p.nodes, p.links.reverse.reverse.map (placedPair p.nodes) ++ []⟩ := by
    simp [withLinks, Network.plus]
  rw [pairs] at sound start
  have foreign' : Foreign p.nodes p.links.reverse base := ⟨foreign.namespaces, fun l member =>
    foreign.interfaces l (List.mem_reverse.mp member)⟩
  obtain ⟨h₁, unlinked, network₁⟩ := disconnectAll willing_yields (fun s member => member)
    (fun l member => takedownNames_clean (plain.clean_link grown l (List.mem_reverse.mp member)))
    foreign' sound start
  have clean : ∀ n ∈ p.nodes.reverse, ∀ ns, n.namespace? = some ns → Clean ns :=
    fun n member => plain.clean_node n (List.mem_reverse.mp member)
  obtain ⟨_, destroyed⟩ := destroyNodes_cleared willing_yields clean h₁
  have reversed : spaces p.nodes.reverse = (spaces p.nodes).reverse := by
    simp [spaces, List.filterMap_reverse]
  have no_failure := destroyed
    (by rw [reversed]; exact List.nodup_reverse.mpr (plain.nodup_spaces grown.built))
    (fun s member => by
      rw [network₁]
      exact List.mem_append_right _ (List.mem_reverse.mp (reversed ▸ member)))
  have released : ((⟨p.nodes, p.links, false⟩ : Topology).release
      (fabric (NetworkHost.shell willing)) h).1 =
      .ofSteps (p.links.reverse.map fun l => (l, none))
        (Action.onEach (destroyNode (NetworkHost.shell willing)) p.nodes.reverse h₁).1 := by
    simp only [Topology.release, Fabric.release, unlinked]
    rfl
  rw [released, ofSteps_smooth no_failure]

theorem Plain.placedEnd_eq (plain : Plain p) (grown : p.Grown) {i : Interface} (isEnd : i ∈ p.ends)
    {n : Node} (member : n ∈ p.nodes) (named : n.name = i.node) :
    placedEnd p.nodes i = ⟨i.name, n.namespace?, true⟩ := by
  have space : n.namespace?.map bare = n.namespace? := by
    cases owned : n.namespace? with
    | none => rfl
    | some ns =>
      rw [namespace?_eq owned, Option.map_some, bare_of_plain (plain.no_newline n member)]
  rw [placedEnd, (plain.letter grown isEnd).1, namespaceAt_owner grown.built member named, space]

/-- A plan that was only added to is set up on a host that has none of its interfaces, whatever
stale namespaces there are: every host then has one namespace, every link its two ends up in the
namespaces of the nodes that handed them out, and the release reports all links and no error. -/
theorem grown_realized (grown : p.Grown) (plain : Plain p)
    (few : ∀ n ∈ p.nodes, (p.links.filter (·.touches n.name)).length < 4294967295)
    {h : NetworkHost} (free : ∀ l ∈ p.links, ∀ i ∈ l.ends, ∀ e ∈ h.network.ends, e.name ≠ i.name) :
    ∃ (t : Topology) (h' : NetworkHost),
      p.materialize (fabric (NetworkHost.shell willing)) h = (.ok t, h') ∧
      (∀ n ∈ p.nodes, ∀ ns, n.namespace? = some ns → h'.network.namespaces.count ns = 1) ∧
      (∀ l ∈ p.links, ∃ na ∈ p.nodes, ∃ nb ∈ p.nodes, l.a ∈ na.interfaces ∧ l.b ∈ nb.interfaces ∧
        (⟨l.a.name, na.namespace?, true⟩, ⟨l.b.name, nb.namespace?, true⟩) ∈ h'.network.pairs) ∧
      (t.release (fabric (NetworkHost.shell willing)) h').1 =
        ⟨p.links.reverse.map Link.text, []⟩ := by
  obtain ⟨h', base, set_up, network, foreign, sound⟩ := grown_setUp grown plain few free
  refine ⟨_, h', set_up, fun n member ns named => ?_, fun l member => ?_,
    grown_release grown plain foreign sound network⟩
  · have space : ns ∈ spaces p.nodes := by
      refine mem_spaces.mpr ⟨n, member, ns, named, ?_⟩
      rw [namespace?_eq named, bare_of_plain (plain.no_newline n member)]
    have once : (spaces p.nodes).count ns = 1 :=
      List.count_eq_one_of_mem (plain.nodup_spaces grown.built) space
    have others : base.namespaces.count ns = 0 :=
      List.count_eq_zero_of_not_mem (foreign.namespaces ns space)
    simp [network, withLinks, Network.plus, List.count_append, once, others]
  · have isEndA : l.a ∈ p.ends := List.mem_flatMap.mpr ⟨l, member, by simp [Link.ends]⟩
    have isEndB : l.b ∈ p.ends := List.mem_flatMap.mpr ⟨l, member, by simp [Link.ends]⟩
    obtain ⟨na, listedA, namedA, ownA⟩ := grown.wired.owner isEndA
    obtain ⟨nb, listedB, namedB, ownB⟩ := grown.wired.owner isEndB
    refine ⟨na, listedA, nb, listedB, ownA, ownB, ?_⟩
    rw [← plain.placedEnd_eq grown isEndA listedA namedA,
      ← plain.placedEnd_eq grown isEndB listedB namedB, network]
    refine List.mem_append_right _ (List.mem_append_right _ ?_)
    exact List.mem_map.mpr ⟨l, member, rfl⟩

def stale : NetworkHost := ⟨⟨["h1"], []⟩, 0⟩

theorem pair_realized :
    (Plan.pair.Grown ∧ Plain Plan.pair ∧
      (∀ n ∈ Plan.pair.nodes, (Plan.pair.links.filter (·.touches n.name)).length < 4294967295) ∧
      ∀ l ∈ Plan.pair.links, ∀ i ∈ l.ends, ∀ e ∈ stale.network.ends, e.name ≠ i.name) ∧
    ∃ (t : Topology) (h' : NetworkHost),
      Plan.pair.materialize (fabric (NetworkHost.shell willing)) stale = (.ok t, h') ∧
      (∀ n ∈ Plan.pair.nodes, ∀ ns, n.namespace? = some ns → h'.network.namespaces.count ns = 1) ∧
      (∀ l ∈ Plan.pair.links, ∃ na ∈ Plan.pair.nodes, ∃ nb ∈ Plan.pair.nodes,
        l.a ∈ na.interfaces ∧ l.b ∈ nb.interfaces ∧
        (⟨l.a.name, na.namespace?, true⟩, ⟨l.b.name, nb.namespace?, true⟩) ∈ h'.network.pairs) ∧
      (t.release (fabric (NetworkHost.shell willing)) h').1 =
        ⟨Plan.pair.links.reverse.map Link.text, []⟩ := by
  have plain : Plain Plan.pair := ⟨by decide, by decide⟩
  have few : ∀ n ∈ Plan.pair.nodes,
      (Plan.pair.links.filter (·.touches n.name)).length < 4294967295 := by decide
  have free : ∀ l ∈ Plan.pair.links, ∀ i ∈ l.ends, ∀ e ∈ stale.network.ends, e.name ≠ i.name := by
    decide
  exact ⟨⟨Plan.grown_pair, plain, few, free⟩, grown_realized Plan.grown_pair plain few free⟩

end Realized

end Testbed.Namespaces
