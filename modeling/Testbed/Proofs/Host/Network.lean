import Mathlib.Data.List.Flatten
import Mathlib.Data.List.Nodup
import Testbed.Host.Network

namespace Testbed.Host

def PairEnd.key (e : PairEnd) : Option String × String := (e.place, e.name)

def Command.places : Command → List String
  | .addNamespace ns | .deleteNamespace ns | .raiseLoopback ns | .moveToNamespace _ ns
  | .disableOffloads ns _ => [ns]
  | .raise place _ | .deleteInterface place _ => place.toList
  | .addPair .. | .findTool _ => []

def Command.interfaces : Command → List String
  | .addPair a b => [a, b]
  | .moveToNamespace interface _ | .raise _ interface | .deleteInterface _ interface
  | .disableOffloads _ interface => [interface]
  | .addNamespace _ | .deleteNamespace _ | .raiseLoopback _ | .findTool _ => []

namespace Network

def plus (n m : Network) : Network := ⟨n.namespaces ++ m.namespaces, n.pairs ++ m.pairs⟩

@[simp]
theorem ends_plus (n m : Network) : (n.plus m).ends = n.ends ++ m.ends := List.flatMap_append

@[simp]
theorem plus_empty (n : Network) : n.plus .empty = n := by simp [plus, empty]

theorem holds_iff {n : Network} {place : Option String} {name : String} :
    n.holds place name = true ↔ ∃ e ∈ n.ends, e.key = (place, name) := by
  simp [holds, isAt, PairEnd.key]

theorem isAt_iff {place : Option String} {name : String} {e : PairEnd} :
    isAt place name e = true ↔ e.key = (place, name) := by
  simp [isAt, PairEnd.key]

theorem not_holds_iff {n : Network} {place : Option String} {name : String} :
    n.holds place name = false ↔ ∀ e ∈ n.ends, e.key ≠ (place, name) := by
  rw [← Bool.not_eq_true, holds_iff]
  simp

theorem holds_plus (n m : Network) (place : Option String) (name : String) :
    (n.plus m).holds place name = (n.holds place name || m.holds place name) := by
  simp [holds]

theorem mem_ends {n : Network} {e : PairEnd} :
    e ∈ n.ends ↔ ∃ p ∈ n.pairs, e = p.1 ∨ e = p.2 := by
  simp [ends, List.mem_flatMap]

def mapEnds (n : Network) (f : PairEnd → PairEnd) : Network :=
  { n with pairs := n.pairs.map fun p => (f p.1, f p.2) }

def changeEnd (place : Option String) (name : String) (f : PairEnd → PairEnd) (e : PairEnd) :
    PairEnd :=
  if isAt place name e then f e else e

theorem change_eq (n : Network) (place : Option String) (name : String) (f : PairEnd → PairEnd) :
    n.change place name f = n.mapEnds (changeEnd place name f) := rfl

theorem mapEnds_congr {n : Network} {f g : PairEnd → PairEnd} (same : ∀ e ∈ n.ends, f e = g e) :
    n.mapEnds f = n.mapEnds g := by
  refine congrArg (Network.mk n.namespaces) (List.map_congr_left fun p member => ?_)
  rw [same p.1 (mem_ends.mpr ⟨p, member, .inl rfl⟩), same p.2 (mem_ends.mpr ⟨p, member, .inr rfl⟩)]

theorem mapEnds_id (n : Network) : n.mapEnds id = n := by
  simp [mapEnds]

theorem mapEnds_mapEnds (n : Network) (f g : PairEnd → PairEnd) :
    (n.mapEnds f).mapEnds g = n.mapEnds (g ∘ f) := by
  simp [mapEnds, Function.comp_def]

theorem not_isAt {n : Network} {place : Option String} {name : String}
    (absent : n.holds place name = false) {e : PairEnd} (member : e ∈ n.ends) :
    isAt place name e = false := by
  rw [← Bool.not_eq_true, isAt_iff]
  exact not_holds_iff.mp absent e member

theorem change_congr {n : Network} {place : Option String} {name : String}
    {f g : PairEnd → PairEnd} (same : ∀ e, isAt place name e = true → f e = g e) :
    n.change place name f = n.change place name g := by
  rw [change_eq, change_eq]
  refine mapEnds_congr fun e _ => ?_
  by_cases here : isAt place name e = true
  · simp [changeEnd, here, same e here]
  · simp [changeEnd, here]

theorem change_of_not_holds {n : Network} {place : Option String} {name : String}
    (absent : n.holds place name = false) (f : PairEnd → PairEnd) : n.change place name f = n := by
  rw [change_eq]
  refine (mapEnds_congr fun e member => ?_).trans n.mapEnds_id
  simp [changeEnd, not_isAt absent member]

theorem change_change {n : Network} {place place' : Option String} {name : String}
    {f : PairEnd → PairEnd}
    (arrives : ∀ e, isAt place name e = true → isAt place' name (f e) = true)
    (free : n.holds place' name = false) (g : PairEnd → PairEnd) :
    (n.change place name f).change place' name g = n.change place name (g ∘ f) := by
  rw [change_eq, change_eq, change_eq, mapEnds_mapEnds]
  refine mapEnds_congr fun e member => ?_
  by_cases here : isAt place name e = true
  · simp [changeEnd, here, arrives e here]
  · simp [changeEnd, here, not_isAt free member]

theorem change_plus (n m : Network) (place : Option String) (name : String)
    (f : PairEnd → PairEnd) :
    (n.plus m).change place name f = (n.change place name f).plus (m.change place name f) := by
  simp [change, plus]

theorem removePairs_plus (n m : Network) (gone : PairEnd → Bool) :
    (n.plus m).removePairs gone = (n.removePairs gone).plus (m.removePairs gone) := by
  simp [removePairs, plus]

theorem removePairs_of_none {n : Network} {gone : PairEnd → Bool}
    (kept : ∀ e ∈ n.ends, gone e = false) : n.removePairs gone = n := by
  refine congrArg (Network.mk n.namespaces) (List.filter_eq_self.mpr fun p member => ?_)
  have first := kept p.1 (mem_ends.mpr ⟨p, member, .inl rfl⟩)
  have second := kept p.2 (mem_ends.mpr ⟨p, member, .inr rfl⟩)
  simp [first, second]

theorem mem_ends_removePairs {n : Network} {gone : PairEnd → Bool} {e : PairEnd}
    (member : e ∈ (n.removePairs gone).ends) : e ∈ n.ends ∧ gone e = false := by
  obtain ⟨p, kept, isEnd⟩ := mem_ends.mp member
  obtain ⟨old, stays⟩ := List.mem_filter.mp kept
  refine ⟨mem_ends.mpr ⟨p, old, isEnd⟩, ?_⟩
  simp only [Bool.not_eq_true', Bool.or_eq_false_iff] at stays
  rcases isEnd with rfl | rfl
  · exact stays.1
  · exact stays.2

/-- The network has neither the namespaces nor the interfaces that the command is about. -/
structure Apart (n : Network) (c : Command) : Prop where
  namespaces : ∀ ns ∈ c.places, ns ∉ n.namespaces
  interfaces : ∀ name ∈ c.interfaces, ∀ e ∈ n.ends, e.name ≠ name
  emptied : ∀ ns, c = .deleteNamespace ns → ∀ e ∈ n.ends, e.place ≠ some ns

theorem Apart.not_holds {n : Network} {c : Command} (apart : n.Apart c) (name : String)
    (listed : name ∈ c.interfaces) (place : Option String) : n.holds place name = false := by
  by_contra held
  obtain ⟨e, member, key⟩ := holds_iff.mp (by simpa using held)
  exact apart.interfaces name listed e member (congrArg Prod.snd key)

theorem contains_plus {n : Network} {ns : String} (absent : ns ∉ n.namespaces) (m : Network) :
    (n.plus m).namespaces.contains ns = m.namespaces.contains ns := by
  simp [plus, absent]

theorem hasPlace_plus {n : Network} {place : Option String}
    (absent : ∀ ns ∈ place.toList, ns ∉ n.namespaces) (m : Network) :
    (n.plus m).hasPlace place = m.hasPlace place := by
  cases place with
  | none => rfl
  | some ns => exact contains_plus (absent ns (by simp)) m

theorem raise_plus {n : Network} {place : Option String} {interface : String}
    (absent : ∀ ns ∈ place.toList, ns ∉ n.namespaces)
    (free : interface ≠ loopback → n.holds place interface = false) (m : Network) :
    (n.plus m).raise place interface = (m.raise place interface).map n.plus := by
  unfold raise
  rw [hasPlace_plus absent]
  by_cases lo : interface = loopback
  · cases m.hasPlace place <;> simp [lo]
  · have clear := free lo
    rw [holds_plus, clear, change_plus, change_of_not_holds clear]
    cases m.hasPlace place <;> cases m.holds place interface <;> simp [lo]

theorem apply_plus {n : Network} {c : Command} (apart : n.Apart c) (m : Network) :
    (n.plus m).apply c = (m.apply c).map n.plus := by
  cases c with
  | addNamespace ns =>
    have absent := apart.namespaces ns (by simp [Command.places])
    simp only [apply, addNamespace, contains_plus absent]
    cases m.namespaces.contains ns <;> simp [plus]
  | deleteNamespace ns =>
    have absent := apart.namespaces ns (by simp [Command.places])
    have kept : n.removePairs (·.place == some ns) = n :=
      removePairs_of_none fun e member => by simpa using apart.emptied ns rfl e member
    have others : n.namespaces.filter (· != ns) = n.namespaces :=
      List.filter_eq_self.mpr fun other member => by
        simpa using fun same : other = ns => absent (same ▸ member)
    simp only [apply, deleteNamespace, contains_plus absent, removePairs_plus, kept]
    cases m.namespaces.contains ns <;> simp [plus, others]
  | raiseLoopback ns =>
    have absent := apart.namespaces ns (by simp [Command.places])
    exact raise_plus (by simpa using absent) (fun other => absurd rfl other) m
  | addPair a b =>
    have first := apart.not_holds a (by simp [Command.interfaces]) none
    have second := apart.not_holds b (by simp [Command.interfaces]) none
    simp only [apply, addPair, holds_plus, first, second, Bool.false_or]
    split <;> simp [plus]
  | moveToNamespace interface ns =>
    have absent := apart.namespaces ns (by simp [Command.places])
    have free := apart.not_holds interface (by simp [Command.interfaces])
    simp only [apply, moveToNamespace, holds_plus, free, contains_plus absent, Bool.false_or,
      change_plus, change_of_not_holds (free none)]
    split <;> simp
  | raise place interface =>
    exact raise_plus apart.namespaces
      (fun _ => apart.not_holds interface (by simp [Command.interfaces]) place) m
  | deleteInterface place interface =>
    have free := apart.not_holds interface (by simp [Command.interfaces]) place
    have kept : n.removePairs (isAt place interface) = n :=
      removePairs_of_none fun e member => by
        by_contra here
        refine apart.interfaces interface (by simp [Command.interfaces]) e member ?_
        exact congrArg Prod.snd (isAt_iff.mp (by simpa using here))
    simp only [apply, deleteInterface, hasPlace_plus apart.namespaces, holds_plus, free,
      Bool.false_or, removePairs_plus, kept]
    split <;> simp
  | disableOffloads ns interface =>
    have free := apart.not_holds interface (by simp [Command.interfaces]) (some ns)
    simp only [apply, holds_plus, free, Bool.false_or]
    split <;> simp
  | findTool tool => rfl

/-- No two interfaces have one name in one place. -/
def Sound (n : Network) : Prop := (n.ends.map PairEnd.key).Nodup

theorem ends_change (n : Network) (place : Option String) (name : String)
    (f : PairEnd → PairEnd) :
    (n.change place name f).ends = n.ends.map fun e => if isAt place name e then f e else e := by
  simp [ends, change, List.flatMap_map, List.map_flatMap]

theorem Sound.removePairs {n : Network} (sound : n.Sound) (gone : PairEnd → Bool) :
    (n.removePairs gone).Sound := by
  have fewer : (n.removePairs gone).ends.Sublist n.ends := List.filter_sublist.flatMap _
  exact sound.sublist (fewer.map _)

theorem Sound.raise {n n' : Network} {place : Option String} {interface : String}
    (sound : n.Sound) (raised : n.raise place interface = some n') : n'.Sound := by
  unfold Network.raise at raised
  split at raised
  next => cases raised
  next =>
    split at raised
    next =>
      cases raised
      exact sound
    next =>
      obtain ⟨_, ⟨⟩⟩ := Option.ite_none_right_eq_some.mp raised
      have keys : ((n.change place interface fun e => { e with isUp := true }).ends.map
          PairEnd.key) = n.ends.map PairEnd.key := by
        rw [ends_change, List.map_map]
        refine List.map_congr_left fun e _ => ?_
        simp only [Function.comp_apply]
        split <;> rfl
      unfold Sound
      rw [keys]
      exact sound

theorem Sound.moveToNamespace {n n' : Network} {interface ns : String} (sound : n.Sound)
    (moved : n.moveToNamespace interface ns = some n') : n'.Sound := by
  unfold Network.moveToNamespace at moved
  obtain ⟨allowed, ⟨⟩⟩ := Option.ite_none_right_eq_some.mp moved
  simp only [Bool.and_eq_true, Bool.not_eq_true'] at allowed
  have free := not_holds_iff.mp allowed.2
  let f (k : Option String × String) := if k = (none, interface) then (some ns, interface) else k
  have keys : (n.change none interface fun e => { e with place := some ns, isUp := false }).ends.map
      PairEnd.key = (n.ends.map PairEnd.key).map f := by
    rw [ends_change, List.map_map, List.map_map]
    refine List.map_congr_left fun e _ => ?_
    simp only [Function.comp_apply, f]
    by_cases here : isAt none interface e = true
    · have key := isAt_iff.mp here
      have named : e.name = interface := congrArg Prod.snd key
      rw [if_pos here, if_pos key, PairEnd.key, named]
    · have key : e.key ≠ (none, interface) := fun key => here (isAt_iff.mpr key)
      rw [if_neg here, if_neg key]
  unfold Sound
  rw [keys]
  refine List.Nodup.map_on ?_ sound
  -- the key that the moved interface gets is no other's
  intro k listed k' listed' same
  obtain ⟨e, member, rfl⟩ := List.mem_map.mp listed
  obtain ⟨e', member', rfl⟩ := List.mem_map.mp listed'
  have clear := free e member
  have clear' := free e' member'
  simp only [f] at same
  split at same <;> split at same <;> simp_all

theorem Sound.addPair {n n' : Network} {a b : String} (sound : n.Sound)
    (added : n.addPair a b = some n') : n'.Sound := by
  unfold Network.addPair at added
  obtain ⟨allowed, ⟨⟩⟩ := Option.ite_none_left_eq_some.mp added
  simp only [Bool.or_eq_true, beq_iff_eq, not_or, Bool.not_eq_true] at allowed
  obtain ⟨⟨other, first⟩, second⟩ := allowed
  have free {name : String} (absent : n.holds none name = false) :
      (none, name) ∉ n.ends.map PairEnd.key := by
    intro listed
    obtain ⟨e, member, key⟩ := List.mem_map.mp listed
    exact not_holds_iff.mp absent e member key
  have keys : (Network.mk n.namespaces (n.pairs ++ [(⟨a, none, false⟩, ⟨b, none, false⟩)])).ends.map
      PairEnd.key = n.ends.map PairEnd.key ++ [(none, a), (none, b)] := by
    simp [ends, PairEnd.key]
  unfold Sound
  rw [keys, List.nodup_append]
  refine ⟨sound, by simpa using other, ?_⟩
  intro k listed k' listed' same
  subst same
  simp only [List.mem_cons, List.not_mem_nil, or_false] at listed'
  rcases listed' with rfl | rfl
  · exact free first listed
  · exact free second listed

theorem apply_sound {n n' : Network} {c : Command} (sound : n.Sound)
    (applied : n.apply c = some n') : n'.Sound := by
  cases c with
  | addNamespace ns =>
    obtain ⟨_, ⟨⟩⟩ := Option.ite_none_left_eq_some.mp applied
    exact sound
  | deleteNamespace ns =>
    obtain ⟨_, ⟨⟩⟩ := Option.ite_none_right_eq_some.mp applied
    exact sound.removePairs (·.place == some ns)
  | raiseLoopback ns => exact sound.raise applied
  | addPair a b => exact sound.addPair applied
  | moveToNamespace interface ns => exact sound.moveToNamespace applied
  | raise place interface => exact sound.raise applied
  | deleteInterface place interface =>
    obtain ⟨_, ⟨⟩⟩ := Option.ite_none_right_eq_some.mp applied
    exact sound.removePairs _
  | disableOffloads ns interface =>
    obtain ⟨_, ⟨⟩⟩ := Option.ite_none_right_eq_some.mp applied
    exact sound
  | findTool tool =>
    cases applied
    exact sound

def cleared (n : Network) (ns : String) : Network := (n.deleteNamespace ns).getD n

theorem cleared_eq (n : Network) (ns : String) :
    n.cleared ns = ⟨n.namespaces.filter (· != ns),
      if n.namespaces.contains ns then (n.removePairs (·.place == some ns)).pairs
      else n.pairs⟩ := by
  unfold cleared deleteNamespace
  by_cases there : n.namespaces.contains ns = true
  · rw [if_pos there, if_pos there]
    rfl
  · have absent : n.namespaces.filter (· != ns) = n.namespaces :=
      List.filter_eq_self.mpr fun other member => by
        simpa using fun same : other = ns => there (by simpa using same ▸ member)
    rw [if_neg there, if_neg there, absent]
    rfl

theorem namespaces_cleared (n : Network) (ns : String) :
    (n.cleared ns).namespaces = n.namespaces.filter (· != ns) := by
  rw [cleared_eq]

theorem ends_cleared (n : Network) (ns : String) : (n.cleared ns).ends.Sublist n.ends := by
  rw [cleared_eq]
  split
  next => exact List.filter_sublist.flatMap _
  next => exact List.Sublist.refl _

theorem cleared_plus {n : Network} {ns : String} (apart : n.Apart (.deleteNamespace ns))
    (m : Network) : (n.plus m).cleared ns = n.plus (m.cleared ns) := by
  have framed : (n.plus m).deleteNamespace ns = (m.deleteNamespace ns).map n.plus :=
    apply_plus apart m
  unfold cleared
  rw [framed]
  cases m.deleteNamespace ns <;> rfl

/-- Every interface is in a namespace that is there. -/
def Placed (n : Network) : Prop := ∀ e ∈ n.ends, n.hasPlace e.place = true

theorem Placed.of_subset {n n' : Network} (placed : n.Placed) (fewer : n'.ends ⊆ n.ends)
    (spaces : ∀ e ∈ n'.ends, n.hasPlace e.place = true → n'.hasPlace e.place = true) : n'.Placed :=
  fun e member => spaces e member (placed e (fewer member))

theorem hasPlace_iff {n : Network} {place : Option String} :
    n.hasPlace place = true ↔ ∀ ns ∈ place.toList, ns ∈ n.namespaces := by
  cases place <;> simp [hasPlace]

theorem Placed.change {n : Network} (placed : n.Placed) {place : Option String} {name : String}
    {f : PairEnd → PairEnd}
    (arrives : ∀ e, n.hasPlace e.place = true → n.hasPlace (f e).place = true) :
    (n.change place name f).Placed := by
  intro e member
  rw [ends_change] at member
  obtain ⟨e, old, rfl⟩ := List.mem_map.mp member
  have there := placed e old
  split
  next => exact arrives e there
  next => exact there

theorem Placed.raise {n n' : Network} {place : Option String} {interface : String}
    (placed : n.Placed) (raised : n.raise place interface = some n') : n'.Placed := by
  unfold Network.raise at raised
  split at raised
  next => cases raised
  next =>
    split at raised
    next =>
      cases raised
      exact placed
    next =>
      obtain ⟨_, ⟨⟩⟩ := Option.ite_none_right_eq_some.mp raised
      exact placed.change fun _ there => there

theorem apply_placed {n n' : Network} {c : Command} (placed : n.Placed)
    (applied : n.apply c = some n') : n'.Placed := by
  have fewer (gone : PairEnd → Bool) : (n.removePairs gone).ends ⊆ n.ends :=
    fun _ member => (mem_ends_removePairs member).1
  cases c with
  | addNamespace ns =>
    obtain ⟨_, ⟨⟩⟩ := Option.ite_none_left_eq_some.mp applied
    refine placed.of_subset (List.Subset.refl _) fun e _ there => ?_
    rw [hasPlace_iff] at there ⊢
    exact fun s listed => List.mem_append_left _ (there s listed)
  | deleteNamespace ns =>
    obtain ⟨_, ⟨⟩⟩ := Option.ite_none_right_eq_some.mp applied
    refine placed.of_subset (fewer (·.place == some ns)) fun e member there => ?_
    have elsewhere := (@mem_ends_removePairs n (·.place == some ns) e member).2
    rw [hasPlace_iff] at there ⊢
    intro s listed
    refine List.mem_filter.mpr ⟨there s listed, ?_⟩
    rw [Option.mem_toList.mp listed] at elsewhere
    simpa using elsewhere
  | raiseLoopback ns => exact placed.raise applied
  | addPair a b =>
    obtain ⟨_, ⟨⟩⟩ := Option.ite_none_left_eq_some.mp applied
    intro e member
    simp only [ends, List.flatMap_append, List.mem_append] at member
    rcases member with old | new
    · exact placed e old
    · have root : e.place = none := by
        simp at new
        rcases new with rfl | rfl <;> rfl
      rw [root]
      rfl
  | moveToNamespace interface ns =>
    obtain ⟨allowed, ⟨⟩⟩ := Option.ite_none_right_eq_some.mp applied
    simp only [Bool.and_eq_true] at allowed
    exact placed.change fun _ _ => allowed.1.2
  | raise place interface => exact placed.raise applied
  | deleteInterface place interface =>
    obtain ⟨_, ⟨⟩⟩ := Option.ite_none_right_eq_some.mp applied
    exact placed.of_subset (fewer _) fun _ _ there => there
  | disableOffloads ns interface =>
    obtain ⟨_, ⟨⟩⟩ := Option.ite_none_right_eq_some.mp applied
    exact placed
  | findTool tool =>
    cases applied
    exact placed

theorem Placed.cleared {n : Network} (placed : n.Placed) (ns : String) :
    n.cleared ns = ⟨n.namespaces.filter (· != ns), (n.removePairs (·.place == some ns)).pairs⟩ := by
  rw [cleared_eq]
  split
  next => rfl
  next absent =>
    have kept : n.removePairs (·.place == some ns) = n := by
      refine removePairs_of_none fun e member => ?_
      have there := placed e member
      rw [← Bool.not_eq_true]
      intro here
      rw [beq_iff_eq.mp here] at there
      exact absent there
    rw [kept]

def applyAll (n : Network) (cs : List Command) : Option Network := cs.foldlM apply n

@[simp]
theorem applyAll_nil (n : Network) : n.applyAll [] = some n := rfl

@[simp]
theorem applyAll_cons (n : Network) (c : Command) (cs : List Command) :
    n.applyAll (c :: cs) = (n.apply c).bind (·.applyAll cs) := rfl

theorem applyAll_append (n : Network) (cs more : List Command) :
    n.applyAll (cs ++ more) = (n.applyAll cs).bind (·.applyAll more) :=
  List.foldlM_append

theorem applyAll_plus {n : Network} {cs : List Command} (apart : ∀ c ∈ cs, n.Apart c)
    (m : Network) : (n.plus m).applyAll cs = (m.applyAll cs).map n.plus := by
  induction cs generalizing m with
  | nil => rfl
  | cons c rest ih =>
    rw [applyAll_cons, applyAll_cons, apply_plus (apart c List.mem_cons_self)]
    cases m.apply c with
    | none => rfl
    | some m' => exact ih (fun d member => apart d (List.mem_cons_of_mem _ member)) m'

theorem applyAll_keeps {P : Network → Prop}
    (step : ∀ {n n' : Network} {c : Command}, P n → n.apply c = some n' → P n')
    {n n' : Network} {cs : List Command} (start : P n) (applied : n.applyAll cs = some n') :
    P n' := by
  induction cs generalizing n with
  | nil =>
    cases applied
    exact start
  | cons c rest ih =>
    rw [applyAll_cons] at applied
    obtain ⟨m, first, others⟩ := Option.bind_eq_some_iff.mp applied
    exact ih (step start first) others

theorem Sound.removePairs_one {spaces : List String} {first last : List (PairEnd × PairEnd)}
    {p : PairEnd × PairEnd} (sound : Sound ⟨spaces, first ++ p :: last⟩) :
    (Network.mk spaces (first ++ p :: last)).removePairs (isAt p.1.place p.1.name) =
      ⟨spaces, first ++ last⟩ := by
  have keys : (Network.mk spaces (first ++ p :: last)).ends.map PairEnd.key =
      ((Network.mk [] first).ends.map PairEnd.key ++ [p.1.key, p.2.key]) ++
        (Network.mk [] last).ends.map PairEnd.key := by
    simp [ends]
  unfold Sound at sound
  rw [keys, List.nodup_append, List.nodup_append] at sound
  obtain ⟨⟨_, _, before⟩, _, after⟩ := sound
  have other_first : (Network.mk spaces first).removePairs (isAt p.1.place p.1.name) =
      ⟨spaces, first⟩ := by
    refine removePairs_of_none fun e member => ?_
    rw [← Bool.not_eq_true, isAt_iff]
    exact before e.key (List.mem_map_of_mem member) p.1.key (by simp)
  have other_last : (Network.mk spaces last).removePairs (isAt p.1.place p.1.name) =
      ⟨spaces, last⟩ := by
    refine removePairs_of_none fun e member => ?_
    rw [← Bool.not_eq_true, isAt_iff]
    exact (after p.1.key (by simp) e.key (List.mem_map_of_mem member)).symm
  have gone : isAt p.1.place p.1.name p.1 = true := isAt_iff.mpr rfl
  have others := congrArg₂ (· ++ ·) (congrArg pairs other_first) (congrArg pairs other_last)
  refine congrArg (Network.mk spaces) (Eq.trans ?_ others)
  simp [Network.removePairs, gone]

end Network

end Testbed.Host
