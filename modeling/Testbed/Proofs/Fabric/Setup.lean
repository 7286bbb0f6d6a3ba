import Testbed.Fabric.Topology

namespace Testbed.Plan

variable {σ : Type} {f : Fabric σ} {p : Plan} {s : σ}

/-- The nodes are made first, and the links only when all nodes are there. -/
inductive SetUp (f : Fabric σ) (p : Plan) (s : σ) : Except Error Topology × σ → Prop
  | invalid {e} (refused : p.validate = .error e) : SetUp f p s (.error e, s)
  | unmade {created e t} (valid : p.validate = .ok ())
      (refused : Action.untilFailure f.createNode p.nodes s = (created, some e, t)) :
      SetUp f p s (.error e, (f.release p.nodes created [] t).2)
  | unlinked {linked e t u} (valid : p.validate = .ok ())
      (made : Action.untilFailure f.createNode p.nodes s = (p.nodes, none, t))
      (refused : Action.untilFailure (f.connect p.nodes) p.links t = (linked, some e, u)) :
      SetUp f p s (.error e, (f.release p.nodes p.nodes linked u).2)
  | whole {t u} (valid : p.validate = .ok ())
      (made : Action.untilFailure f.createNode p.nodes s = (p.nodes, none, t))
      (linked : Action.untilFailure (f.connect p.nodes) p.links t = (p.links, none, u)) :
      SetUp f p s (.ok ⟨p.nodes, p.links, false⟩, u)

theorem materialize_setUp : p.SetUp f s (p.materialize f s) := by
  have all_made := (Action.untilFailure_items f.createNode p.nodes s).2
  unfold materialize
  split
  next e refused => exact .invalid refused
  next valid =>
    split
    next created e t refused => exact .unmade valid refused
    next created t made =>
      have same : created = p.nodes := by simpa [made] using all_made
      subst same
      have all_linked := (Action.untilFailure_items (f.connect p.nodes) p.links t).2
      split
      next linked e u refused => exact .unlinked valid made refused
      next linked u connected =>
        have same : linked = p.links := by simpa [connected] using all_linked
        subst same
        exact .whole valid made connected

theorem SetUp.ok {topology : Topology} {u : σ} (set_up : p.SetUp f s (.ok topology, u)) :
    topology = ⟨p.nodes, p.links, false⟩ ∧ ∃ t,
      Action.untilFailure f.createNode p.nodes s = (p.nodes, none, t) ∧
      Action.untilFailure (f.connect p.nodes) p.links t = (p.links, none, u) := by
  cases set_up with
  | whole valid made linked => exact ⟨rfl, _, made, linked⟩

theorem validate_ok_iff : p.validate = .ok () ↔ p.orphanLinks = [] := by
  unfold validate
  by_cases whole : p.orphanLinks = [] <;> simp [whole]

theorem validate_of_orphans (some_orphan : p.orphanLinks ≠ []) :
    p.validate = .error (.incompleteTopology (p.orphanLinks.map Link.text)) := by
  have filled : p.orphanLinks.isEmpty = false := by simpa using some_orphan
  simp [validate, filled]

theorem materialize_of_orphans (some_orphan : p.orphanLinks ≠ []) :
    p.materialize f s = (.error (.incompleteTopology (p.orphanLinks.map Link.text)), s) := by
  unfold materialize
  rw [validate_of_orphans some_orphan]

theorem materialize_ok_steps :
    (∃ topology, (p.materialize f s).1 = .ok topology) ↔
      p.orphanLinks = [] ∧ (Action.untilFailure f.createNode p.nodes s).2.1 = none ∧
        (Action.untilFailure (f.connect p.nodes) p.links
          (Action.untilFailure f.createNode p.nodes s).2.2).2.1 = none := by
  have set_up : p.SetUp f s (p.materialize f s) := materialize_setUp
  rw [← validate_ok_iff]
  generalize p.materialize f s = out at set_up
  cases set_up with
  | invalid refused => simp [refused]
  | unmade valid refused => simp [refused]
  | unlinked valid made refused => simp [made, refused]
  | whole valid made linked => simp [valid, made, linked]

end Testbed.Plan
