import Testbed.Proofs.Fabric.Links
import Testbed.Proofs.Fabric.Setup
import Testbed.Proofs.Plan.Built

namespace Testbed.Namespaces

open Host

section Release

variable {refused : Nat → Command → Option Refusal} {base : Network} {nodes created : List Node}
  {links : List Link}

theorem Foreign.apart_delete (foreign : Foreign nodes links base) (placed : base.Placed) :
    ∀ s ∈ spaces nodes, base.Apart (.deleteNamespace s) := by
  intro s member
  have absent := foreign.namespaces s member
  refine ⟨by simpa [Command.places] using absent, by simp [Command.interfaces], ?_⟩
  rintro ns ⟨⟩ e there place
  have known := Network.hasPlace_iff.mp (placed e there) s (by simp [place])
  exact absent known

theorem mem_spaces_reverse {s : String} : s ∈ spaces nodes.reverse ↔ s ∈ spaces nodes := by
  simp [mem_spaces]

/-- What a host is left with when the namespaces of the nodes are deleted. -/
def Deserted (created : List Node) (Y : List String) (tail : List (PairEnd × PairEnd)) : Network :=
  ⟨Y.filter (!(spaces created).contains ·),
    ((Network.mk Y tail).removePairs fun e => e.place.any (spaces created).contains).pairs⟩

theorem destroyNodes_network (yields : Yielding refused) (foreign : Foreign nodes links base)
    (placed : base.Placed) (listed : ∀ n ∈ created, n ∈ nodes)
    (clean : ∀ n ∈ created, ∀ ns, n.namespace? = some ns → Clean ns) {Y : List String}
    {tail : List (PairEnd × PairEnd)} (placed_tail : (Network.mk Y tail).Placed) {h : NetworkHost}
    (start : h.network = base.plus ⟨Y, tail⟩) :
    (Action.onEach (destroyNode (NetworkHost.shell refused)) created.reverse h).2.network =
      base.plus (Deserted created Y tail) := by
  have apart : ∀ s ∈ spaces created.reverse, base.Apart (.deleteNamespace s) := by
    intro s member
    obtain ⟨n, made, named⟩ := mem_spaces.mp (mem_spaces_reverse.mp member)
    exact foreign.apart_delete placed s (mem_spaces.mpr ⟨n, listed n made, named⟩)
  have same (s : String) : (spaces created.reverse).contains s = (spaces created).contains s := by
    rw [Bool.eq_iff_iff, List.contains_iff_mem, List.contains_iff_mem, mem_spaces_reverse]
  rw [(destroyNodes_cleared yields (fun n member => clean n (List.mem_reverse.mp member)) h).1,
    start, clearedAll_plus apart, clearedAll_placed placed_tail, Deserted]
  simp only [same, funext same]

theorem release_network (yields : Yielding refused) (foreign : Foreign nodes links base)
    (placed : base.Placed) {Y : List String} (known : ∀ s ∈ spaces nodes, s ∈ Y)
    {tail : List (PairEnd × PairEnd)} {linked : List Link} (within : ∀ l ∈ linked, l ∈ links)
    (clean : ∀ l ∈ linked, ∀ name ∈ takedownNames nodes l, Clean name)
    (cleanNodes : ∀ n ∈ nodes, ∀ ns, n.namespace? = some ns → Clean ns)
    (sound : (Network.mk Y (linked.map (placedPair nodes) ++ tail)).Sound)
    (placed_tail : (Network.mk Y tail).Placed) {h : NetworkHost}
    (start : h.network = base.plus ⟨Y, linked.map (placedPair nodes) ++ tail⟩) :
    ((fabric (NetworkHost.shell refused)).release nodes nodes linked h).2.network =
      base.plus (Deserted nodes Y tail) := by
  have foreign' : Foreign nodes linked.reverse base := ⟨foreign.namespaces, fun l member =>
    foreign.interfaces l (within l (List.mem_reverse.mp member))⟩
  rw [← List.reverse_reverse linked] at sound start
  obtain ⟨h', unlinked, network⟩ := disconnectAll yields known
    (fun l member => clean l (List.mem_reverse.mp member)) foreign' sound start
  have destroyed := destroyNodes_network yields foreign placed (fun n member => member) cleanNodes
    placed_tail network
  simp only [Fabric.release, unlinked]
  exact destroyed

theorem deserted_none {Y : List String} (all : ∀ s ∈ Y, s ∈ spaces created) (X : List String)
    (tail : List (PairEnd × PairEnd)) :
    Deserted created (Y ++ X) tail = Deserted created X tail := by
  have gone : Y.filter (!(spaces created).contains ·) = [] :=
    List.filter_eq_nil_iff.mpr fun s member => by simpa using all s member
  simp only [Deserted, List.filter_append, gone, List.nil_append]
  rfl

end Release

/-- What a host is left with when a plan could not be set up, by the command that failed. -/
inductive Remains (p : Plan) (e : Error) : Network → Prop
  | invalid (refused : p.validate = .error e) : Remains p e .empty
  | unadded {created n rest ns} (split : p.nodes = created ++ n :: rest)
      (named : n.namespace? = some ns) (at_command : FailedAt (.addNamespace ns) e) :
      Remains p e .empty
  | unraised {created n rest ns} (split : p.nodes = created ++ n :: rest)
      (named : n.namespace? = some ns) (at_command : FailedAt (.raiseLoopback ns) e) :
      Remains p e ⟨[bare ns].filter (!(spaces created).contains ·), []⟩
  | unlinked {linked l rest begun c more} (split : p.links = linked ++ l :: rest)
      (commands : linkCommands p.nodes l = begun ++ c :: more) (at_command : FailedAt c e)
      (apart : begun = [] ∨ begun.any isMove = true) : Remains p e .empty
  | unplaced {linked l rest begun c more up} (split : p.links = linked ++ l :: rest)
      (commands : linkCommands p.nodes l = begun ++ c :: more) (at_command : FailedAt c e)
      (laid : begun ≠ []) (still : begun.any isMove = false) :
      Remains p e ⟨[], [(⟨bare l.a.name, none, up⟩, ⟨bare l.b.name, none, false⟩)]⟩

theorem any_isMove_heard (cs : List Command) :
    (cs.map Command.heard).any isMove = cs.any isMove := by
  rw [List.any_map]
  refine congrArg (cs.any ·) (funext fun c => ?_)
  cases c <;> rfl

section Materialize

variable {refused : Nat → Command → Option Refusal} {p : Plan} {h t : NetworkHost} {e : Error}

theorem unmade_remains (yields : Yielding refused) (foreign : Foreign p.nodes p.links h.network)
    (placed : h.network.Placed) {created : List Node}
    (stopped : Action.untilFailure (createNode (NetworkHost.shell refused)) p.nodes h =
      (created, some e, t)) :
    ∃ left, Remains p e left ∧
      ((fabric (NetworkHost.shell refused)).release p.nodes created [] t).2.network =
        h.network.plus left := by
  have made := createNodes_made yields (foreign.apart_delete placed) (X := [])
    (Network.plus_empty h.network).symm
  rw [stopped] at made
  have deserted {n : Node} {rest : List Node} (split : p.nodes = created ++ n :: rest)
      (clean : ∀ n ∈ created, ∀ ns, n.namespace? = some ns → Clean ns) {Y : List String}
      (network : t.network = h.network.plus ⟨Y, []⟩) :
      ((fabric (NetworkHost.shell refused)).release p.nodes created [] t).2.network =
        h.network.plus (Deserted created Y []) :=
    destroyNodes_network yields foreign placed
      (fun n member => split ▸ List.mem_append_left _ member) clean
      (by simp [Network.Placed, Network.ends]) network
  cases made with
  | unadded split named at_command clean only network =>
    have none_left := deserted_none (by simpa using only) [] []
    rw [List.append_nil] at none_left
    refine ⟨.empty, .unadded split named at_command, ?_⟩
    rw [deserted split clean network, none_left]
    rfl
  | unraised split named at_command clean only network =>
    refine ⟨_, .unraised split named at_command, ?_⟩
    rw [deserted split clean network, deserted_none (by simpa using only)]
    rfl

theorem unlinked_remains (yields : Yielding refused) (foreign : Foreign p.nodes p.links h.network)
    (placed : h.network.Placed) {Y : List String} (same_spaces : ∀ s, s ∈ Y ↔ s ∈ spaces p.nodes)
    (cleanNodes : ∀ n ∈ p.nodes, ∀ ns, n.namespace? = some ns → Clean ns)
    (start : t.network = h.network.plus ⟨Y, []⟩) {linked : List Link} {u : NetworkHost}
    (stopped :
      Action.untilFailure ((fabric (NetworkHost.shell refused)).connect p.nodes) p.links t =
        (linked, some e, u)) :
    ∃ left, Remains p e left ∧
      ((fabric (NetworkHost.shell refused)).release p.nodes p.nodes linked u).2.network =
        h.network.plus left := by
  have made := connectAll_made refused (m := ⟨Y, []⟩) foreign
    (by simp [Network.Sound, Network.ends]) (by simp [Network.Placed, Network.ends]) start
  rw [stopped] at made
  cases made with
  | @stopped _ l rest begun c more _ _ m split commands at_command clean applied network sound
      placed' =>
    let made_pairs := linked.map (placedPair p.nodes)
    have all_pairs : withLinks ⟨Y, []⟩ p.nodes linked = ⟨Y, made_pairs⟩ := by
      simp [withLinks, Network.plus, made_pairs]
    have one_more (ea eb : PairEnd) :
        withPair ⟨Y, made_pairs⟩ ea eb = ⟨Y, made_pairs ++ [(ea, eb)]⟩ := by
      simp [withPair, Network.plus]
    have deserted {tail : List (PairEnd × PairEnd)} (same : m = ⟨Y, made_pairs ++ tail⟩) :
        ((fabric (NetworkHost.shell refused)).release p.nodes p.nodes linked u).2.network =
          h.network.plus (Deserted p.nodes [] tail) := by
      subst same
      have fewer : (Network.mk Y tail).ends ⊆ (Network.mk Y (made_pairs ++ tail)).ends := by
        simp [Network.ends]
      have none_left := deserted_none (fun s => (same_spaces s).mp) [] tail
      rw [List.append_nil] at none_left
      rw [release_network yields foreign placed (fun s => (same_spaces s).mpr)
        (fun l member => split ▸ List.mem_append_left _ member) clean cleanNodes sound
        (placed'.of_subset fewer fun _ _ there => there) network, none_left]
    have heard : laying (bare l.a.name) (bare l.b.name) ((namespaceAt p.nodes l.a).map bare)
        ((namespaceAt p.nodes l.b).map bare) =
          begun.map Command.heard ++ c.heard :: more.map Command.heard := by
      rw [← heard_linkCommands, commands, List.map_append, List.map_cons]
    have left := laying_begun (bare_name_proper l.a) heard applied
    rw [all_pairs] at left
    cases left with
    | nothing unlaid =>
      refine ⟨.empty, .unlinked split commands at_command (.inl (List.map_eq_nil_iff.mp unlaid)),
        ?_⟩
      have none_more : Network.mk Y made_pairs = ⟨Y, made_pairs ++ []⟩ := by simp
      exact deserted none_more
    | @unmoved up laid still =>
      rw [any_isMove_heard] at still
      refine ⟨⟨[], [(⟨bare l.a.name, none, up⟩, ⟨bare l.b.name, none, false⟩)]⟩,
        .unplaced split commands at_command (by simpa using laid) still, ?_⟩
      exact deserted (one_more _ _)
    | @moved ea eb s away belongs there =>
      rw [any_isMove_heard] at away
      refine ⟨.empty, .unlinked split commands at_command (.inr away), ?_⟩
      rw [deserted (one_more ea eb)]
      have named : s ∈ spaces p.nodes := by
        rcases List.mem_append.mp belongs with first | second
        · exact mem_spaces_of_end s first
        · exact mem_spaces_of_end s second
      rcases there with first | second
      · simp [Deserted, Network.removePairs, first, named, Network.empty]
      · simp [Deserted, Network.removePairs, second, named, Network.empty]

/-- A plan that cannot be set up leaves on the host what `Remains` says, and all else is as it
was. -/
theorem materialize_remains (yields : Yielding refused) {h' : NetworkHost}
    (foreign : Foreign p.nodes p.links h.network) (placed : h.network.Placed)
    (failed : p.materialize (fabric (NetworkHost.shell refused)) h = (.error e, h')) :
    ∃ left, Remains p e left ∧ h'.network = h.network.plus left := by
  have set_up : p.SetUp (fabric (NetworkHost.shell refused)) h (.error e, h') :=
    failed ▸ Plan.materialize_setUp
  cases set_up with
  | invalid refused => exact ⟨.empty, .invalid refused, (Network.plus_empty _).symm⟩
  | unmade valid stopped => exact unmade_remains yields foreign placed stopped
  | @unlinked linked _ t u valid all_made stopped =>
    have made := createNodes_made yields (foreign.apart_delete placed) (X := [])
      (Network.plus_empty h.network).symm
    have same : Action.untilFailure (createNode (NetworkHost.shell refused)) p.nodes h =
      (p.nodes, none, t) := all_made
    rw [same] at made
    cases made with
    | all clean exact_spaces network =>
      exact unlinked_remains yields foreign placed (by simpa using exact_spaces) clean network
        stopped

end Materialize

def lone : Plan := Plan.empty.performAll [.addHost "h1"]

def loopbackRefused (_ : Nat) (c : Command) : Option Refusal :=
  if c = .raise (some "h1") "lo" then some (.failed 0) else none

theorem loopbackRefused_yields : Yielding loopbackRefused := by
  constructor
  · exact fun _ ns => if_neg (by simp)
  · exact fun _ place interface => if_neg (by simp)

def loneFailure : Error :=
  .command (.failed (Command.raiseLoopback "h1").text 1 "")

theorem lone_failed :
    lone.materialize (fabric (NetworkHost.shell loopbackRefused)) ⟨.empty, 0⟩ =
      (.error loneFailure, ⟨⟨["h1"], []⟩, 3⟩) := by
  rfl

theorem foreign_empty (nodes : List Node) (links : List Link) : Foreign nodes links .empty := by
  constructor
  · exact fun s _ => by simp [Network.empty]
  · exact fun l _ i _ e there => by simp [Network.ends, Network.empty] at there

theorem placed_empty : Network.empty.Placed := by simp [Network.Placed, Network.ends, Network.empty]

theorem lone_host_remains :
    (Yielding loopbackRefused ∧ Foreign lone.nodes lone.links .empty ∧ Network.empty.Placed ∧
      lone.materialize (fabric (NetworkHost.shell loopbackRefused)) ⟨.empty, 0⟩ =
        (.error loneFailure, ⟨⟨["h1"], []⟩, 3⟩)) ∧
    ∃ left, Remains lone loneFailure left ∧ Network.mk ["h1"] [] = Network.empty.plus left :=
  ⟨⟨loopbackRefused_yields, foreign_empty _ _, placed_empty, lone_failed⟩,
    materialize_remains loopbackRefused_yields (foreign_empty _ _) placed_empty lone_failed⟩

/-- The namespace of a host whose loopback cannot be raised stays behind. -/
theorem lone_host_left_behind :
    ¬ ∀ (p : Plan) (refused : Nat → Command → Option Refusal) (h h' : NetworkHost) (e : Error),
      p.Built → Yielding refused → Foreign p.nodes p.links h.network → h.network.Placed →
      p.materialize (fabric (NetworkHost.shell refused)) h = (.error e, h') →
      h'.network = h.network := by
  intro claimed
  have same := claimed lone loopbackRefused ⟨.empty, 0⟩ _ _ (Plan.Built.empty.performAll _)
    loopbackRefused_yields (foreign_empty _ _) placed_empty lone_failed
  exact absurd same (by decide)

end Testbed.Namespaces
