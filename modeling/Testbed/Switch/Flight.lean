import Testbed.Switch.Binding

namespace Testbed

inductive Binding.Operation where
  | bind (e : Endpoint)
  | attach (controller : Endpoint)
  | start
  | stop
deriving DecidableEq, Repr

inductive Request where
  | checkEndpoint (e : Endpoint)
  | launch (l : Launch)
  | awaitReady (l : Launch)
  | shutdown (switch : String)
deriving DecidableEq, Repr

inductive Answer where
  | checked (result : Except IoError Unit)
  | launched (result : Except Error Unit)
  /-- Nothing, if the startup timeout was over first. -/
  | awaited (outcome : Option (Except Error Unit))
  | shutDown (result : Except Error Unit)

inductive Turn where
  | returns (result : Except Error Unit)
  | asks (request : Request)
  | givesUp (request : Request)

def Turn.request? : Turn → Option Request
  | .asks request => some request
  | _ => none

/-- How something goes through the operations of a switch: what each does until it asks the agent
for the first time, and what it does after an answer. There is no answer but to what was asked. -/
structure Seat.Machine (β : Type) where
  begin : Binding.Operation → β → PortRegistry → Turn × β × PortRegistry
  resume : Request → Answer → β → PortRegistry → Option (Turn × β × PortRegistry)

namespace Binding

def begin (op : Operation) (b : Binding) (r : PortRegistry) : Turn × Binding × PortRegistry :=
  match op with
  | .bind e =>
    match b.beginBind e r with
    | (.ok (), b, r) => (.asks (.checkEndpoint e), b, r)
    | (.error err, b, r) => (.returns (.error err), b, r)
  | .attach controller =>
    let (result, b) := b.attach controller
    (.returns result, b, r)
  | .start =>
    match b.beginStart with
    | .ok (l, b) => (.asks (.launch l), b, r)
    | .error err => (.returns (.error err), b, r)
  | .stop =>
    match b.phase with
    | .stopped => (.returns (.ok ()), b, r)
    | _ =>
      if b.launched then (.asks (.shutdown b.switch), b, r)
      else
        let (b, r) := b.endStop r
        (.returns (.ok ()), b, r)

def resume (request : Request) (answer : Answer) (b : Binding) (r : PortRegistry) :
    Option (Turn × Binding × PortRegistry) :=
  match request, answer with
  | .checkEndpoint e, .checked result =>
    let (result, b, r) := b.endBind e result r
    some (.returns result, b, r)
  | .launch l, .launched (.ok ()) => some (.asks (.awaitReady l), b, r)
  | .launch l, .launched (.error err) =>
    let (result, b) := b.endStart l (.error err)
    some (.returns result, b, r)
  | .awaitReady l, .awaited outcome =>
    let (result, b) := b.endStart l (outcome.getD (.error (b.timedOut l)))
    some (.returns result, b, r)
  | .shutdown _, .shutDown result =>
    let (b, r) := b.endStop r
    some (.returns result, b, r)
  | _, _ => none

def machine : Seat.Machine Binding := ⟨begin, resume⟩

end Binding

/-- What happens to a switch: an operation begins, is answered or, while in flight, is given up. -/
inductive SwitchEvent where
  | call (op : Binding.Operation)
  | answer (answer : Answer)
  | giveUp

structure Seat (β : Type) where
  switch : β
  asked : Option Request
deriving DecidableEq, Repr

namespace Seat

variable {β : Type}

def idle (switch : β) : Seat β := ⟨switch, none⟩

@[simp]
theorem idle_switch (switch : β) : (idle switch).switch = switch := rfl

@[simp]
theorem idle_asked (switch : β) : (idle switch).asked = none := rfl

def settle (out : Turn × β × PortRegistry) : Turn × Seat β × PortRegistry :=
  (out.1, ⟨out.2.1, out.1.request?⟩, out.2.2)

/-- The step of the seat with the event, unless it cannot happen there. -/
def step (m : Machine β) (t : Seat β) (r : PortRegistry) :
    SwitchEvent → Option (Turn × Seat β × PortRegistry)
  | .call op =>
    match t.asked with
    | some _ => none
    | none => some (settle (m.begin op t.switch r))
  | .answer answer =>
    match t.asked with
    | some request => (m.resume request answer t.switch r).map settle
    | none => none
  | .giveUp => t.asked.map fun request => (.givesUp request, idle t.switch, r)

structure Moment where
  event : SwitchEvent
  turn : Turn

/-- What a seat can go through, and with which registry it is then left. Between its steps others
may change the registry as `others` lets them. -/
inductive Run (m : Machine β) (others : PortRegistry → PortRegistry → Prop) (first : Seat β)
    (start : PortRegistry) : List Moment → Seat β → PortRegistry → Prop
  | start : Run m others first start [] first start
  | step {past : List Moment} {t t' : Seat β} {r r' : PortRegistry} {event : SwitchEvent}
      {turn : Turn} :
      Run m others first start past t r → t.step m r event = some (turn, t', r') →
      Run m others first start (past ++ [⟨event, turn⟩]) t' r'
  | elsewhere {past : List Moment} {t : Seat β} {r r' : PortRegistry} :
      Run m others first start past t r → others r r' → Run m others first start past t r'

def replay (m : Machine β) :
    List SwitchEvent → Seat β → PortRegistry → Option (List Moment × Seat β × PortRegistry)
  | [], t, r => some ([], t, r)
  | event :: rest, t, r =>
    match t.step m r event with
    | none => none
    | some (turn, t, r) =>
      (replay m rest t r).map fun (later, t, r) => (⟨event, turn⟩ :: later, t, r)

theorem Run.replayed {m : Machine β} {others : PortRegistry → PortRegistry → Prop} {first : Seat β}
    {start : PortRegistry} {events : List SwitchEvent} {past later : List Moment} {t t' : Seat β}
    {r r' : PortRegistry} (run : Run m others first start past t r)
    (replayed : replay m events t r = some (later, t', r')) :
    Run m others first start (past ++ later) t' r' := by
  induction events generalizing past t r later with
  | nil =>
    cases replayed
    rwa [List.append_nil]
  | cons event rest ih =>
    unfold replay at replayed
    split at replayed
    next => cases replayed
    next turn u q taken =>
      obtain ⟨out, rest_replayed, same⟩ := Option.map_eq_some_iff.mp replayed
      cases same
      have longer := ih (.step run taken) rest_replayed
      rwa [List.append_assoc] at longer

end Seat

structure Floor where
  seats : List (Seat Binding)
  registry : PortRegistry

namespace Floor

def step (f : Floor) (place : Nat) (event : SwitchEvent) : Option (Turn × Floor) :=
  match f.seats[place]? with
  | none => none
  | some t =>
    (t.step Binding.machine f.registry event).map fun (turn, t, registry) =>
      (turn, ⟨f.seats.set place t, registry⟩)

/-- What can come about where the turns are as `allowed` has them. -/
inductive Reaches (allowed : Turn → Prop) (first : Floor) : Floor → Prop
  | start : Reaches allowed first first
  | step {f g : Floor} {turn : Turn} (place : Nat) (event : SwitchEvent) :
      Reaches allowed first f → f.step place event = some (turn, g) → allowed turn →
      Reaches allowed first g

end Floor

end Testbed
