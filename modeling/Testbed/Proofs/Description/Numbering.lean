import Testbed.Proofs.Description.Plan

namespace Testbed

namespace Plan

def Operation.declaresSwitch : Operation → Bool
  | .addSwitch _ _ | .addSwitchWithId _ _ _ | .addSwitchSpec _ _ => true
  | .addHost _ | .addLink _ _ | .removeNode _ => false

def newSwitches (p : Plan) (op : Operation) : Nat :=
  if op.declaresSwitch && (p.attempt op).isOk then 1 else 0

/-- The plan came about from the empty one, and a switch was declared `count` times on the way. -/
inductive Counted : Nat → Plan → Prop
  | empty : Counted 0 .empty
  | limited {count p} (counted : Counted count p) (limit : Nat) :
      Counted count (p.withInterfaceLimit limit)
  | performed {count p} (counted : Counted count p) (op : Operation) :
      Counted (count + p.newSwitches op) (p.perform op)

variable {p q : Plan} {op : Operation} {ops : List Operation} {count : Nat}

theorem switchesDeclared_attempt (done : p.attempt op = .ok q) : q.switchesDeclared =
    if op.declaresSwitch then p.switchesDeclared + 1 else p.switchesDeclared := by
  cases op with
  | addHost name =>
    obtain ⟨-, rfl⟩ := declare_cases done
    rfl
  | addSwitch name dataPlane =>
    obtain ⟨-, rfl⟩ := addSwitchSpec_cases done
    rfl
  | addSwitchWithId name dataPlane deviceId =>
    obtain ⟨-, rfl⟩ := addSwitchSpec_cases done
    rfl
  | addSwitchSpec name spec =>
    obtain ⟨-, rfl⟩ := addSwitchSpec_cases done
    rfl
  | addLink a b =>
    obtain ⟨-, -, -, rfl⟩ := attempt_addLink_cases done
    rfl
  | removeNode name =>
    obtain ⟨-, rfl⟩ := attempt_removeNode_cases done
    rfl

theorem switchesDeclared_of_ok (none_new : ∀ op ∈ ops, op.declaresSwitch = false)
    (done : ops.foldlM attempt p = .ok q) : q.switchesDeclared = p.switchesDeclared := by
  induction ops generalizing p with
  | nil =>
    cases done
    rfl
  | cons op rest ih =>
    obtain ⟨first, others⟩ := List.forall_mem_cons.mp none_new
    obtain ⟨r, attempted, done⟩ := foldlM_cons_ok done
    rw [ih others done, switchesDeclared_attempt attempted, first]
    rfl

theorem Counted.switchesDeclared (counted : p.Counted count) :
    p.switchesDeclared = UInt64.ofNat count := by
  induction counted with
  | empty => rfl
  | limited _ _ ih => exact ih
  | @performed count p _ op ih =>
    cases tried : p.attempt op with
    | error e =>
      have same : p.perform op = p := by simp [perform, tried]
      have none_new : p.newSwitches op = 0 := by
        simp [newSwitches, tried, Except.isOk, Except.toBool]
      rw [same, none_new, ih, Nat.add_zero]
    | ok q =>
      have next : p.perform op = q := by simp [perform, tried]
      rw [next, switchesDeclared_attempt tried, ih]
      cases switch : op.declaresSwitch <;>
        simp [newSwitches, tried, switch, Except.isOk, Except.toBool, UInt64.ofNat_add]

theorem Counted.addSwitch (counted : p.Counted count) {name : String} {dataPlane : Endpoint}
    (done : p.addSwitch name dataPlane = .ok q) :
    q.node? name = some (.switch name ⟨dataPlane, 1 + UInt64.ofNat count, none⟩) := by
  obtain ⟨absent, rfl⟩ := addSwitchSpec_cases done
  have found : p.nodes.find? (·.name == name) = none := absent
  rw [← counted.switchesDeclared, UInt64.add_comm]
  simp [node?, List.find?_append, found, Node.switch]

end Plan

def SwitchEntry.operation (s : SwitchEntry) : Plan.Operation :=
  match s.deviceId with
  | none => .addSwitch s.name s.dataPlane
  | some deviceId => .addSwitchWithId s.name s.dataPlane deviceId

namespace Description

/-- The description put down by hand: hosts, switches and links by the operations that are there for
them, without a thought for places in the file. -/
def byHand (d : Description) : List Plan.Operation :=
  d.hosts.map .addHost ++ d.switches.map SwitchEntry.operation ++
    d.links.map fun pair => .addLink pair.1 pair.2

theorem attempt_operation {p : Plan} {place : Nat} {s : SwitchEntry} (plain : s.controller = none)
    (counted : p.switchesDeclared = UInt64.ofNat place) :
    p.attempt s.operation = p.addSwitchSpec s.name (specOf place s) := by
  unfold SwitchEntry.operation specOf
  cases number : s.deviceId with
  | none =>
    rw [plain, ← counted]
    rfl
  | some deviceId =>
    rw [plain]
    rfl

theorem declareSwitches_byHand {switches : List SwitchEntry} {p : Plan} {place : Nat}
    (plain : ∀ s ∈ switches, s.controller = none)
    (counted : p.switchesDeclared = UInt64.ofNat place) :
    declareSwitches place switches p =
      (switches.map SwitchEntry.operation).foldlM Plan.attempt p := by
  induction switches generalizing place p with
  | nil => rfl
  | cons s rest ih =>
    obtain ⟨first, others⟩ := List.forall_mem_cons.mp plain
    have same := attempt_operation first counted
    rw [declareSwitches, List.map_cons, List.foldlM_cons, same]
    cases declared : p.addSwitchSpec s.name (specOf place s) with
    | error e => rfl
    | ok q =>
      obtain ⟨-, rfl⟩ := Plan.addSwitchSpec_cases declared
      apply ih others
      show p.switchesDeclared + 1 = UInt64.ofNat (place + 1)
      rw [counted, UInt64.ofNat_add]
      rfl

theorem toPlan_byHand {d : Description} (plain : ∀ s ∈ d.switches, s.controller = none) :
    d.toPlan = d.byHand.foldlM Plan.attempt d.startingPlan := by
  have hosts : (d.hosts.map Plan.Operation.addHost).foldlM Plan.attempt d.startingPlan =
      d.hosts.foldlM Plan.addHost d.startingPlan := List.foldlM_map ..
  have uncounted : d.startingPlan.switchesDeclared = 0 := by
    unfold startingPlan
    split <;> rfl
  rw [toPlan, byHand, List.foldlM_append, List.foldlM_append, hosts]
  cases declared : d.hosts.foldlM Plan.addHost d.startingPlan with
  | error e => rfl
  | ok p =>
    rw [← hosts] at declared
    have counted : p.switchesDeclared = UInt64.ofNat 0 := by
      rw [Plan.switchesDeclared_of_ok (by simp [Plan.Operation.declaresSwitch]) declared, uncounted]
      rfl
    show (declareSwitches 0 d.switches p >>= _) = _
    rw [declareSwitches_byHand plain counted]
    simp only [List.foldlM_map]
    rfl

/-- A switch without a number gets the one after the switches declared before it, and so do the
switches of a description that is put down by hand. -/
theorem numbering_agrees :
    (∀ {count : Nat} {p q : Plan} {name : String} {dataPlane : Endpoint}, p.Counted count →
      p.addSwitch name dataPlane = .ok q →
      ∃ deviceId, q.node? name = some (.switch name ⟨dataPlane, deviceId, none⟩) ∧
        deviceId.toNat = (1 + count) % UInt64.size) ∧
    ∀ d : Description, (∀ s ∈ d.switches, s.controller = none) →
      d.toPlan = d.byHand.foldlM Plan.attempt d.startingPlan := by
  constructor
  · intro count p q name dataPlane counted done
    refine ⟨_, counted.addSwitch done, ?_⟩
    rw [UInt64.toNat_add, UInt64.toNat_ofNat']
    exact Nat.add_mod_mod ..
  · intro d plain
    exact toPlan_byHand plain

def unsteady : List Plan.Operation :=
  [.addHost "h1", .addSwitch "s1" (.any 50051), .addSwitchWithId "s2" (.any 50052) 9,
    .addSwitch "h1" (.any 50053), .removeNode "s1"]

def numbered : Description where
  controller := default.controller
  settings := { Settings.default with maxInterfacesPerNode := some 2 }
  agent := .default
  hosts := ["h1"]
  switches := [⟨"s1", .any 50051, none, none⟩, ⟨"s2", .any 50052, some 9, none⟩,
    ⟨"s3", .any 50053, none, none⟩]
  links := [("s1", "h1"), ("s3", "h1")]

theorem unsteady_numbered :
    (∃ p q, p = Plan.empty.performAll unsteady ∧ p.Counted 2 ∧
      p.addSwitch "s3" (.any 50053) = .ok q ∧
      ∃ deviceId, q.node? "s3" = some (.switch "s3" ⟨.any 50053, deviceId, none⟩) ∧
        deviceId.toNat = 3) ∧
    (∀ s ∈ numbered.switches, s.controller = none) ∧
    numbered.toPlan = numbered.byHand.foldlM Plan.attempt numbered.startingPlan ∧
    ∃ p, numbered.toPlan = .ok p ∧
      p.nodes.filterMap (fun n => n.spec?.map SwitchSpec.deviceId) = [1, 9, 3] := by
  have counted : (Plan.empty.performAll unsteady).Counted 2 :=
    (((((Plan.Counted.empty.performed (.addHost "h1")).performed
      (.addSwitch "s1" (.any 50051))).performed (.addSwitchWithId "s2" (.any 50052) 9)).performed
        (.addSwitch "h1" (.any 50053))).performed (.removeNode "s1") :)
  have plain : ∀ s ∈ numbered.switches, s.controller = none := by decide
  exact ⟨⟨_, _, rfl, counted, rfl, numbering_agrees.1 counted rfl⟩, plain,
    numbering_agrees.2 numbered plain, _, rfl, by decide⟩

end Description

end Testbed
