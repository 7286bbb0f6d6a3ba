import Testbed.Proofs.Plan.Change

namespace Testbed.Plan

def HasRoom (p : Plan) (n : Node) : Prop :=
  ∀ limit, p.interfaceLimit = some limit → n.interfaces.length < limit

/-- The node is there and can hand out one more interface. -/
def Accepts (p : Plan) (name : String) : Prop :=
  ∃ n, p.node? name = some n ∧ p.HasRoom n ∧
    n.nextInterface.name.utf8ByteSize ≤ maxInterfaceNameLength

/-- Why the node at one end of a link between `a` and `b` cannot hand out an interface. -/
inductive Refuses (p : Plan) (a b name : String) : Error → Prop
  | unknown (absent : p.node? name = none) : Refuses p a b name (.unknownNode name)
  | exhausted {n limit} (present : p.node? name = some n) (limited : p.interfaceLimit = some limit)
      (full : limit ≤ n.interfaces.length) : Refuses p a b name (.interfaceExhaustion name limit)
  | longName {n} (present : p.node? name = some n) (room : p.HasRoom n)
      (long : maxInterfaceNameLength < n.nextInterface.name.utf8ByteSize) :
      Refuses p a b name
        (.invalidLink a b (LinkDefect.longName n.nextInterface.name).message)

inductive LinkRefused (p : Plan) (a b : String) : Error → Prop
  | selfLink (same : a = b) : LinkRefused p a b (.invalidLink a b LinkDefect.selfLink.message)
  | first {err} (apart : a ≠ b) (refused : p.Refuses a b a err) : LinkRefused p a b err
  | second {err} (apart : a ≠ b) (accepted : p.Accepts a) (refused : p.Refuses a b b err) :
      LinkRefused p a b err

variable {p : Plan} {a b name : String} {err : Error}

theorem exhausted?_eq_some {n : Node} {limit : Nat} :
    p.exhausted? n = some limit ↔ p.interfaceLimit = some limit ∧ limit ≤ n.interfaces.length := by
  simp [exhausted?, Option.filter_eq_some_iff]

theorem exhausted?_eq_none {n : Node} : p.exhausted? n = none ↔ p.HasRoom n := by
  simp [exhausted?, HasRoom, Option.filter_eq_none_iff]

theorem hasLongName_iff {n : Node} :
    hasLongName n = true ↔ maxInterfaceNameLength < n.nextInterface.name.utf8ByteSize := by
  rw [hasLongName, decide_eq_true_eq]

theorem Accepts.checked (accepted : p.Accepts name) : p.checkEnd a b name = .ok () := by
  obtain ⟨n, found, room, short⟩ := accepted
  rw [← Nat.not_lt, ← hasLongName_iff] at short
  simp [checkEnd, found, exhausted?_eq_none.mpr room, short]

theorem Refuses.checked (refused : p.Refuses a b name err) : p.checkEnd a b name = .error err := by
  cases refused with
  | unknown absent => simp [checkEnd, absent]
  | exhausted present limited full =>
    simp [checkEnd, present, exhausted?_eq_some.mpr ⟨limited, full⟩]
  | longName present room long =>
    simp [checkEnd, present, exhausted?_eq_none.mpr room, hasLongName_iff.mpr long]

theorem accepts_or_refuses (p : Plan) (a b name : String) :
    p.Accepts name ∨ ∃ err, p.Refuses a b name err := by
  cases found : p.node? name with
  | none => exact .inr ⟨_, .unknown found⟩
  | some n =>
    cases full : p.exhausted? n with
    | some limit =>
      obtain ⟨limited, full⟩ := exhausted?_eq_some.mp full
      exact .inr ⟨_, .exhausted found limited full⟩
    | none =>
      have room := exhausted?_eq_none.mp full
      by_cases long : maxInterfaceNameLength < n.nextInterface.name.utf8ByteSize
      · exact .inr ⟨_, .longName found room long⟩
      · exact .inl ⟨n, found, room, Nat.not_lt.mp long⟩

theorem checkEnd_ok_iff : p.checkEnd a b name = .ok () ↔ p.Accepts name := by
  rcases p.accepts_or_refuses a b name with accepted | ⟨err, refused⟩
  · exact ⟨fun _ => accepted, fun _ => accepted.checked⟩
  · refine ⟨fun checked => ?_, Accepts.checked⟩
    rw [refused.checked] at checked
    cases checked

theorem addLink_of_accepts (apart : a ≠ b) (first : p.Accepts a) (second : p.Accepts b) :
    p.addLink a b = .ok (⟨p.nextInterface a, p.nextInterface b⟩, p.linked a b) := by
  simp only [addLink, apart, ↓reduceIte, first.checked, second.checked]
  rfl

theorem LinkRefused.tried (refused : p.LinkRefused a b err) : p.addLink a b = .error err := by
  cases refused with
  | selfLink same => simp only [addLink, same, ↓reduceIte]
  | first apart refused =>
    simp only [addLink, apart, ↓reduceIte, refused.checked]
    rfl
  | second apart accepted refused =>
    simp only [addLink, apart, ↓reduceIte, accepted.checked, refused.checked]
    rfl

theorem joins_or_refused (p : Plan) (a b : String) :
    (a ≠ b ∧ p.Accepts a ∧ p.Accepts b) ∨ ∃ err, p.LinkRefused a b err := by
  by_cases apart : a = b
  · exact .inr ⟨_, .selfLink apart⟩
  · rcases p.accepts_or_refuses a b a with first | ⟨err, refused⟩
    · rcases p.accepts_or_refuses a b b with second | ⟨err, refused⟩
      · exact .inl ⟨apart, first, second⟩
      · exact .inr ⟨err, .second apart first refused⟩
    · exact .inr ⟨err, .first apart refused⟩

theorem addLink_ok_iff :
    (∃ out, p.addLink a b = .ok out) ↔ a ≠ b ∧ p.Accepts a ∧ p.Accepts b := by
  rcases p.joins_or_refused a b with ⟨apart, first, second⟩ | ⟨err, refused⟩
  · exact ⟨fun _ => ⟨apart, first, second⟩, fun _ => ⟨_, addLink_of_accepts apart first second⟩⟩
  · constructor
    · rintro ⟨out, joined⟩
      rw [refused.tried] at joined
      cases joined
    · rintro ⟨apart, first, second⟩
      exact ⟨_, addLink_of_accepts apart first second⟩

theorem addLink_error_iff : p.addLink a b = .error err ↔ p.LinkRefused a b err := by
  refine ⟨fun failed => ?_, LinkRefused.tried⟩
  rcases p.joins_or_refused a b with ⟨apart, first, second⟩ | ⟨err', refused⟩
  · rw [addLink_of_accepts apart first second] at failed
    cases failed
  · rw [refused.tried] at failed
    exact Except.error.inj failed ▸ refused

end Testbed.Plan
