import Testbed.Plan.Operation

namespace Testbed

inductive Plan.Event where
  | declared (name : String)
  | joined (l : Link)
  | removed (name : String)
deriving DecidableEq, Repr

namespace Plan.Event

def declared? : Event → Option String
  | declared name => some name
  | joined _ | removed _ => none

def joined? : Event → Option Link
  | joined l => some l
  | declared _ | removed _ => none

def removed? : Event → Option String
  | removed name => some name
  | declared _ | joined _ => none

def declarations (past : List Event) : List String := past.filterMap declared?

def links (past : List Event) : List Link := past.filterMap joined?

def removals (past : List Event) : List String := past.filterMap removed?

/-- The links that were added since the name was last declared. -/
def linksSince (name : String) (past : List Event) : List Link :=
  links (past.reverse.takeWhile (· != .declared name)).reverse

/-- No name is declared again after it was removed. -/
def Lasting (past : List Event) : Prop :=
  past.Pairwise fun earlier later => ∀ name ∈ earlier.removed?, later ≠ .declared name

instance (past : List Event) : Decidable (Lasting past) :=
  inferInstanceAs (Decidable (past.Pairwise fun earlier later =>
    ∀ name ∈ earlier.removed?, later ≠ .declared name))

end Plan.Event

namespace Plan

/-- What the operation does to the plan, if it does not fail. -/
def event (p : Plan) : Operation → Except Error Event
  | .addHost name => (p.addHost name).map fun _ => .declared name
  | .addSwitch name dataPlane => (p.addSwitch name dataPlane).map fun _ => .declared name
  | .addSwitchWithId name dataPlane deviceId =>
    (p.addSwitchWithId name dataPlane deviceId).map fun _ => .declared name
  | .addSwitchSpec name spec => (p.addSwitchSpec name spec).map fun _ => .declared name
  | .addLink a b => (p.addLink a b).map fun out => .joined out.1
  | .removeNode name => (p.removeNode name).map fun _ => .removed name

def events (p : Plan) (op : Operation) : List Event := (p.event op).toOption.toList

def history (p : Plan) : List Operation → List Event
  | [] => []
  | op :: rest => p.events op ++ (p.perform op).history rest

/-- The plan came about from the empty one by these events, with limits set in between. -/
inductive Came : List Event → Plan → Prop
  | empty : Came [] .empty
  | limited {past p} (came : Came past p) (limit : Nat) : Came past (p.withInterfaceLimit limit)
  | performed {past p} (came : Came past p) (op : Operation) :
      Came (past ++ p.events op) (p.perform op)

theorem Came.performAll {past : List Event} {p : Plan} (came : p.Came past) (ops : List Operation) :
    (p.performAll ops).Came (past ++ p.history ops) := by
  induction ops generalizing past p with
  | nil => simpa [history, Plan.performAll] using came
  | cons op rest ih => simpa [history, Plan.performAll] using ih (came.performed op)

end Plan

end Testbed
