import Testbed.Fabric.Topology
import Testbed.Proofs.Fabric.Runs

namespace Testbed

def spaces (nodes : List Node) : List String :=
  nodes.filterMap fun n => n.namespace?.map Host.bare

theorem mem_spaces {nodes : List Node} {s : String} :
    s ∈ spaces nodes ↔ ∃ n ∈ nodes, ∃ ns, n.namespace? = some ns ∧ s = Host.bare ns := by
  simp only [spaces, List.mem_filterMap, Option.map_eq_some_iff, eq_comm (a := s)]

theorem spaces_append (nodes more : List Node) :
    spaces (nodes ++ more) = spaces nodes ++ spaces more :=
  List.filterMap_append

namespace Namespaces

open Host

/-- What deletes a namespace or an interface is not refused. -/
structure Yielding (refused : Nat → Command → Option Refusal) : Prop where
  namespaces : ∀ k ns, refused k (.deleteNamespace ns) = none
  interfaces : ∀ k place interface, refused k (.deleteInterface place interface) = none

def renewed (n : Network) (ns : String) : Network :=
  ⟨n.namespaces.filter (· != ns) ++ [ns], (n.cleared ns).pairs⟩

theorem addNamespace_cleared (n : Network) (ns : String) :
    (n.cleared ns).addNamespace ns = some (renewed n ns) := by
  have gone : (n.cleared ns).namespaces.contains ns = false := by
    simp [Network.namespaces_cleared]
  rw [Network.addNamespace, gone, if_neg (by simp), renewed, Network.namespaces_cleared]

theorem raise_renewed (n : Network) (ns : String) :
    (renewed n ns).raise (some ns) Network.loopback = some (renewed n ns) := by
  simp [renewed, Network.raise, Network.hasPlace]

section Nodes

variable {refused : Nat → Command → Option Refusal}

theorem deleteNamespace_run (yields : Yielding refused) {ns : String} (clean : Clean ns)
    (h : NetworkHost) : ∃ result h',
      run (NetworkHost.shell refused) (.deleteNamespace ns) h = (result, h') ∧
      h'.network = h.network.cleared (bare ns) ∧
      (h.network.namespaces.contains (bare ns) = true → result = .ok ()) := by
  have cleanNames : ∀ name ∈ (Command.deleteNamespace ns).names, Clean name := by
    simpa using clean
  cases applied : h.network.apply (Command.deleteNamespace ns).heard with
  | some network =>
    refine ⟨.ok (), _, run_done refused rfl cleanNames (yields.namespaces _ _) applied, ?_,
      fun _ => rfl⟩
    have deleted : h.network.deleteNamespace (bare ns) = some network := applied
    rw [Network.cleared, deleted]
    rfl
  | none =>
    have deleted : h.network.deleteNamespace (bare ns) = none := applied
    have ran := run_ran refused (c := .deleteNamespace ns) rfl h
    generalize run (NetworkHost.shell refused) (.deleteNamespace ns) h = out at ran
    cases ran with
    | done _ done => rw [applied] at done; cases done
    | @failed e h' _ same =>
      refine ⟨_, _, rfl, ?_, fun there => ?_⟩
      · rw [Network.cleared, deleted, same]
        rfl
      · rw [Network.deleteNamespace, if_pos there] at deleted
        cases deleted

/-- What can come of making a node. -/
inductive Made (n : Node) (h : NetworkHost) : Except Error Unit × NetworkHost → Prop
  | root (switch : n.namespace? = none) : Made n h (.ok (), h)
  | host {ns h'} (named : n.namespace? = some ns) (clean : Clean ns)
      (network : h'.network = renewed h.network (bare ns)) :
      Made n h (.ok (), h')
  | unadded {ns e h'} (named : n.namespace? = some ns) (at_command : FailedAt (.addNamespace ns) e)
      (same : h'.network = h.network ∨ h'.network = h.network.cleared (bare ns)) :
      Made n h (.error e, h')
  | unraised {ns e h'} (named : n.namespace? = some ns)
      (at_command : FailedAt (.raiseLoopback ns) e)
      (network : h'.network = renewed h.network (bare ns)) :
      Made n h (.error e, h')

theorem attempt_deleteNamespace (yields : Yielding refused) (ns : String) (h : NetworkHost) :
    ∃ h', attempt (NetworkHost.shell refused) (.deleteNamespace ns) h = (.ok (), h') ∧
      (Clean ns → h'.network = h.network.cleared (bare ns)) ∧
      (h'.network = h.network ∨ h'.network = h.network.cleared (bare ns)) := by
  refine ⟨(run (NetworkHost.shell refused) (.deleteNamespace ns) h).2, rfl, ?_⟩
  by_cases clean : Clean ns
  · obtain ⟨result, h', ran, network, _⟩ := deleteNamespace_run yields clean h
    rw [ran]
    exact ⟨fun _ => network, .inr network⟩
  · have ran := run_ran refused (c := .deleteNamespace ns) rfl h
    generalize run (NetworkHost.shell refused) (.deleteNamespace ns) h = out at ran
    cases ran with
    | done cleanNames => exact absurd (cleanNames ns (by simp)) clean
    | failed _ same => exact ⟨fun claimed => absurd claimed clean, .inl same⟩

theorem createNode_made (yields : Yielding refused) (n : Node) (h : NetworkHost) :
    Made n h (createNode (NetworkHost.shell refused) n h) := by
  cases named : n.namespace? with
  | none =>
    simp only [createNode, named]
    exact .root named
  | some ns =>
    obtain ⟨h₁, attempted, cleared, either⟩ := attempt_deleteNamespace yields ns h
    have went : Went [.addNamespace ns, .raiseLoopback ns] h₁
        (createNode (NetworkHost.shell refused) n h) := by
      have same : createNode (NetworkHost.shell refused) n h = Action.sequence
          ([.addNamespace ns, .raiseLoopback ns].map (run (NetworkHost.shell refused))) h₁ := by
        simp only [createNode, named, Action.sequence, attempted, List.map_cons, List.map_nil]
      rw [same]
      exact sequence_went (by simp [Command.ofNetwork]) h₁
    generalize createNode (NetworkHost.shell refused) n h = out at went
    cases went with
    | @through h' clean applied =>
      have cleanName : Clean ns := clean (.addNamespace ns) (by simp) ns (by simp)
      rw [cleared cleanName] at applied
      have both : ((h.network.cleared (bare ns)).addNamespace (bare ns)).bind (fun m =>
          (m.raise (some (bare ns)) Network.loopback).bind some) = some h'.network := applied
      rw [addNamespace_cleared, Option.bind_some, raise_renewed] at both
      exact .host named cleanName (Option.some.inj both).symm
    | @stopped done c rest e h' split at_command clean applied =>
      cases done with
      | nil =>
        have same : h'.network = h₁.network := (Option.some.inj applied).symm
        cases split
        exact .unadded named at_command (same ▸ either)
      | cons d more =>
        rw [List.cons_append, List.cons.injEq] at split
        obtain ⟨rfl, split⟩ := split
        have cleanName : Clean ns :=
          clean (.addNamespace ns) (by simp) ns (by simp)
        rw [cleared cleanName] at applied
        cases more with
        | nil =>
          cases split
          have first : ((h.network.cleared (bare ns)).addNamespace (bare ns)).bind some =
            some h'.network := applied
          rw [addNamespace_cleared] at first
          exact .unraised named at_command (Option.some.inj first).symm
        | cons => simp at split

def willing : Nat → Command → Option Refusal := fun _ _ => none

theorem willing_yields : Yielding willing := ⟨fun _ _ => rfl, fun _ _ _ => rfl⟩

theorem createNode_done {n : Node} {ns : String} (named : n.namespace? = some ns) (clean : Clean ns)
    (h : NetworkHost) : ∃ h', createNode (NetworkHost.shell willing) n h = (.ok (), h') ∧
      h'.network = renewed h.network (bare ns) := by
  obtain ⟨h₁, attempted, cleared, _⟩ := attempt_deleteNamespace willing_yields ns h
  have add : h₁.network.apply (Command.addNamespace ns).heard =
      some (renewed h.network (bare ns)) := by
    rw [cleared clean]
    exact addNamespace_cleared h.network (bare ns)
  have add_run := run_done willing (c := .addNamespace ns) rfl
    (by simpa using clean) rfl add
  have raise_run := run_done willing (c := .raiseLoopback ns)
    (h := ⟨renewed h.network (bare ns), h₁.commands + 1⟩) rfl
    (by simpa using clean) rfl
    (raise_renewed h.network (bare ns))
  refine ⟨⟨renewed h.network (bare ns), h₁.commands + 1 + 1⟩, ?_, rfl⟩
  simp only [createNode, named, Action.sequence, attempted, add_run, raise_run]

def clearedAll (n : Network) (names : List String) : Network := names.foldl Network.cleared n

theorem clearedAll_plus {n : Network} {names : List String}
    (apart : ∀ s ∈ names, n.Apart (.deleteNamespace s)) (m : Network) :
    clearedAll (n.plus m) names = n.plus (clearedAll m names) := by
  induction names generalizing m with
  | nil => rfl
  | cons s rest ih =>
    have first := Network.cleared_plus (apart s List.mem_cons_self) m
    have others := ih (fun t member => apart t (List.mem_cons_of_mem _ member)) (m.cleared s)
    rw [clearedAll, List.foldl_cons, first]
    exact others

theorem namespaces_clearedAll (n : Network) (names : List String) :
    (clearedAll n names).namespaces = n.namespaces.filter (!names.contains ·) := by
  induction names generalizing n with
  | nil => simp [clearedAll]
  | cons s rest ih =>
    rw [clearedAll, List.foldl_cons, ← clearedAll, ih, Network.namespaces_cleared,
      List.filter_filter]
    refine List.filter_congr fun t _ => ?_
    by_cases same : t = s <;> simp [same]

theorem clearedAll_placed {n : Network} (placed : n.Placed) (names : List String) :
    clearedAll n names = ⟨n.namespaces.filter (!names.contains ·),
      (n.removePairs fun e => e.place.any names.contains).pairs⟩ := by
  induction names generalizing n with
  | nil =>
    have kept : n.removePairs (fun e => e.place.any ([] : List String).contains) = n :=
      Network.removePairs_of_none fun e _ => by cases e.place <;> rfl
    rw [kept]
    simp [clearedAll]
  | cons s rest ih =>
    have placed' : (n.cleared s).Placed := by
      unfold Network.cleared
      cases deleted : n.deleteNamespace s with
      | none => exact placed
      | some m => exact Network.apply_placed (c := .deleteNamespace s) placed deleted
    rw [clearedAll, List.foldl_cons, ← clearedAll, ih placed', placed.cleared]
    have spaces : (n.namespaces.filter (· != s)).filter (!rest.contains ·) =
        n.namespaces.filter (!(s :: rest).contains ·) := by
      rw [List.filter_filter]
      refine List.filter_congr fun t _ => ?_
      by_cases same : t = s <;> simp [same]
    have ends (e : PairEnd) : e.place.any (s :: rest).contains =
        (e.place == some s || e.place.any rest.contains) := by
      cases e.place with
      | none => rfl
      | some t => by_cases same : t = s <;> simp [same]
    refine congrArg₂ Network.mk spaces ?_
    simp only [Network.removePairs, List.filter_filter, ends]
    refine List.filter_congr fun p _ => ?_
    cases p.1.place == some s <;> cases p.2.place == some s <;> simp

theorem destroyNode_cleared (yields : Yielding refused) {n : Node}
    (clean : ∀ ns, n.namespace? = some ns → Clean ns) (h : NetworkHost) :
    ∃ result h', destroyNode (NetworkHost.shell refused) n h = (result, h') ∧
      h'.network = clearedAll h.network (spaces [n]) ∧
      ((∀ s ∈ spaces [n], s ∈ h.network.namespaces) → result = .ok ()) := by
  cases named : n.namespace? with
  | none =>
    refine ⟨.ok (), h, ?_, ?_, fun _ => rfl⟩
    · simp only [destroyNode, named]
      rfl
    · simp [spaces, named, clearedAll]
  | some ns =>
    obtain ⟨result, h', ran, network, ok⟩ := deleteNamespace_run yields (clean ns named) h
    refine ⟨result, h', ?_, ?_, fun there => ok ?_⟩
    · simp only [destroyNode, named, ran]
    · simpa [spaces, named, clearedAll] using network
    · simpa [spaces, named] using there

theorem destroyNodes_cleared (yields : Yielding refused) {nodes : List Node}
    (clean : ∀ n ∈ nodes, ∀ ns, n.namespace? = some ns → Clean ns) (h : NetworkHost) :
    (Action.onEach (destroyNode (NetworkHost.shell refused)) nodes h).2.network =
        clearedAll h.network (spaces nodes) ∧
      ((spaces nodes).Nodup → (∀ s ∈ spaces nodes, s ∈ h.network.namespaces) →
        ∀ step ∈ (Action.onEach (destroyNode (NetworkHost.shell refused)) nodes h).1,
          step.2 = none) := by
  induction nodes generalizing h with
  | nil => simp [Action.onEach, spaces, clearedAll]
  | cons n rest ih =>
    obtain ⟨result, h', destroyed, network, ok⟩ :=
      destroyNode_cleared yields (clean n List.mem_cons_self) h
    obtain ⟨network', others⟩ := ih (fun m member => clean m (List.mem_cons_of_mem _ member)) h'
    have split : spaces (n :: rest) = spaces [n] ++ spaces rest := spaces_append [n] rest
    rw [split]
    simp only [Action.onEach, destroyed]
    refine ⟨?_, fun nodup there => ?_⟩
    · rw [network', network, clearedAll, clearedAll, clearedAll, List.foldl_append]
    · obtain ⟨_, nodup', apart⟩ := List.nodup_append.mp nodup
      have first : result = .ok () := ok fun s member => there s (List.mem_append_left _ member)
      refine List.forall_mem_cons.mpr ⟨by rw [first]; rfl, others nodup' fun s member => ?_⟩
      rw [network, namespaces_clearedAll]
      refine List.mem_filter.mpr ⟨there s (List.mem_append_right _ member), ?_⟩
      simpa using fun listed => apart s listed s member rfl

/-- What can come of making nodes on a host that has none of their namespaces, beside those of
`X`. -/
inductive NodesMade (base : Network) (X : List String) (nodes : List Node) :
    List Node × Option Error × NetworkHost → Prop
  | all {h' Y} (clean : ∀ n ∈ nodes, ∀ ns, n.namespace? = some ns → Clean ns)
      (exact_spaces : ∀ s, s ∈ Y ↔ s ∈ X ∨ s ∈ spaces nodes)
      (network : h'.network = base.plus ⟨Y, []⟩) : NodesMade base X nodes (nodes, none, h')
  | unadded {created n rest ns e h' Y} (split : nodes = created ++ n :: rest)
      (named : n.namespace? = some ns) (at_command : FailedAt (.addNamespace ns) e)
      (clean : ∀ n ∈ created, ∀ ns, n.namespace? = some ns → Clean ns)
      (only : ∀ s ∈ Y, s ∈ X ∨ s ∈ spaces created) (network : h'.network = base.plus ⟨Y, []⟩) :
      NodesMade base X nodes (created, some e, h')
  | unraised {created n rest ns e h' Y} (split : nodes = created ++ n :: rest)
      (named : n.namespace? = some ns) (at_command : FailedAt (.raiseLoopback ns) e)
      (clean : ∀ n ∈ created, ∀ ns, n.namespace? = some ns → Clean ns)
      (only : ∀ s ∈ Y, s ∈ X ∨ s ∈ spaces created)
      (network : h'.network = base.plus ⟨Y ++ [bare ns], []⟩) :
      NodesMade base X nodes (created, some e, h')

theorem cleared_bare (X : List String) (s : String) :
    (Network.mk X []).cleared s = ⟨X.filter (· != s), []⟩ := by
  rw [Network.cleared_eq]
  simp [Network.removePairs]

theorem renewed_plus {base : Network} {s : String} (apart : base.Apart (.deleteNamespace s))
    (X : List String) :
    renewed (base.plus ⟨X, []⟩) s = base.plus ⟨X.filter (· != s) ++ [s], []⟩ := by
  have cleared := Network.cleared_plus apart ⟨X, []⟩
  rw [cleared_bare] at cleared
  have spaces : (base.plus ⟨X, []⟩).namespaces.filter (· != s) =
      base.namespaces ++ X.filter (· != s) := by
    rw [← Network.namespaces_cleared, cleared]
    rfl
  rw [renewed, spaces, cleared]
  simp [Network.plus]

theorem spaces_cons (n : Node) (rest : List Node) :
    spaces (n :: rest) = spaces [n] ++ spaces rest := spaces_append [n] rest

theorem NodesMade.cons {base : Network} {X X' : List String} {n : Node} {rest : List Node}
    {out : List Node × Option Error × NetworkHost}
    (clean : ∀ ns, n.namespace? = some ns → Clean ns)
    (next : ∀ s, s ∈ X' ↔ s ∈ X ∨ s ∈ spaces [n]) (made : NodesMade base X' rest out) :
    NodesMade base X (n :: rest) (n :: out.1, out.2.1, out.2.2) := by
  have grown {nodes : List Node} {s : String} :
      s ∈ X' ∨ s ∈ spaces nodes ↔ s ∈ X ∨ s ∈ spaces (n :: nodes) := by
    rw [spaces_cons, List.mem_append, next, or_assoc]
  cases made with
  | all clean' exact_spaces network =>
    exact .all (List.forall_mem_cons.mpr ⟨clean, clean'⟩) (fun s => (exact_spaces s).trans grown)
      network
  | unadded split named at_command clean' only network =>
    exact .unadded (congrArg (n :: ·) split) named at_command
      (List.forall_mem_cons.mpr ⟨clean, clean'⟩) (fun s member => grown.mp (only s member)) network
  | unraised split named at_command clean' only network =>
    exact .unraised (congrArg (n :: ·) split) named at_command
      (List.forall_mem_cons.mpr ⟨clean, clean'⟩) (fun s member => grown.mp (only s member)) network

theorem createNodes_made (yields : Yielding refused) {base : Network} {nodes : List Node}
    (foreign : ∀ s ∈ spaces nodes, base.Apart (.deleteNamespace s)) {X : List String}
    {h : NetworkHost} (start : h.network = base.plus ⟨X, []⟩) :
    NodesMade base X nodes
      (Action.untilFailure (createNode (NetworkHost.shell refused)) nodes h) := by
  induction nodes generalizing X h with
  | nil => exact .all (by simp) (by simp [spaces]) start
  | cons n rest ih =>
    have foreign' : ∀ s ∈ spaces rest, base.Apart (.deleteNamespace s) := fun s member =>
      foreign s (by rw [spaces_cons]; exact List.mem_append_right _ member)
    have apart {ns : String} (named : n.namespace? = some ns) :
        base.Apart (.deleteNamespace (bare ns)) := foreign _ (by simp [spaces, named])
    have made := createNode_made yields n h
    rw [Action.untilFailure]
    generalize createNode (NetworkHost.shell refused) n h = out at made
    cases made with
    | root switch =>
      exact (ih foreign' start).cons (by simp [switch]) (by simp [spaces, switch])
    | @host ns h₁ named clean network =>
      rw [start, renewed_plus (apart named)] at network
      refine (ih foreign' network).cons (by simpa [named] using clean) fun s => ?_
      by_cases same : s = bare ns <;> simp [spaces, named, same]
    | @unadded ns e h' named at_command same =>
      rw [start, Network.cleared_plus (apart named), cleared_bare] at same
      rcases same with same | same
      · exact .unadded rfl named at_command (by simp) (fun s => .inl) same
      · exact .unadded rfl named at_command (by simp)
          (fun s member => .inl (List.mem_of_mem_filter member)) same
    | @unraised ns e h' named at_command network =>
      rw [start, renewed_plus (apart named)] at network
      exact .unraised rfl named at_command (by simp)
        (fun s member => .inl (List.mem_of_mem_filter member)) network

end Nodes

end Namespaces

end Testbed
