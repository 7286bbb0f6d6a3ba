import Testbed.Description.Plan
import Testbed.Description.Read
import Testbed.Proofs.Description.Checks
import Testbed.Proofs.Plan.Grown

namespace Testbed

namespace Plan

def Operation.port? : Operation → Option UInt16
  | .addSwitch _ dataPlane => some dataPlane.port
  | .addSwitchWithId _ dataPlane _ => some dataPlane.port
  | .addSwitchSpec _ spec => some spec.dataPlane.port
  | _ => none

theorem switchPorts_append (nodes : List Node) (n : Node) (p : Plan) :
    switchPorts { p with nodes := nodes ++ [n] } =
      switchPorts { p with nodes } ++ (n.spec?.map fun spec => spec.dataPlane.port).toList := by
  cases kind : n.spec? <;> simp [switchPorts, kind]

theorem switchPorts_addSwitchSpec {p q : Plan} {name : String} {spec : SwitchSpec}
    (done : p.addSwitchSpec name spec = .ok q) :
    q.switchPorts = p.switchPorts ++ [spec.dataPlane.port] := by
  obtain ⟨-, rfl⟩ := addSwitchSpec_cases done
  exact switchPorts_append p.nodes (.switch name spec) p

theorem switchPorts_linked (p : Plan) {a b : String} (apart : a ≠ b) :
    (p.linked a b).switchPorts = p.switchPorts := by
  rw [switchPorts, linked_nodes p apart, List.filterMap_map]
  refine List.filterMap_congr fun n _ => ?_
  simp only [Function.comp_apply]
  split <;> rfl

theorem switchPorts_attempt {p q : Plan} {op : Operation} (adds : op.removes = false)
    (done : p.attempt op = .ok q) : q.switchPorts = p.switchPorts ++ op.port?.toList := by
  cases op with
  | addHost name =>
    obtain ⟨-, rfl⟩ := declare_cases done
    exact switchPorts_append p.nodes (.host name) p
  | addSwitch name dataPlane => exact switchPorts_addSwitchSpec done
  | addSwitchWithId name dataPlane deviceId => exact switchPorts_addSwitchSpec done
  | addSwitchSpec name spec => exact switchPorts_addSwitchSpec done
  | addLink a b =>
    obtain ⟨apart, -, -, rfl⟩ := attempt_addLink_cases done
    rw [switchPorts_linked p apart]
    exact (List.append_nil _).symm
  | removeNode name => cases adds

theorem switchPorts_of_ok {p q : Plan} {ops : List Operation}
    (adds : ∀ op ∈ ops, op.removes = false) (done : ops.foldlM attempt p = .ok q) :
    q.switchPorts = p.switchPorts ++ ops.filterMap Operation.port? := by
  induction ops generalizing p with
  | nil =>
    cases done
    exact (List.append_nil _).symm
  | cons op rest ih =>
    obtain ⟨first, others⟩ := List.forall_mem_cons.mp adds
    obtain ⟨r, attempted, done⟩ := foldlM_cons_ok done
    rw [ih others done, switchPorts_attempt first attempted, List.append_assoc]
    cases port : op.port? <;> simp [port]

end Plan

namespace Description

section Checks

theorem nodup_ports {d : Description} (sound : d.validate = .ok ()) :
    (d.switches.map fun s => s.dataPlane.port).Nodup :=
  (defect?_eq_none.mp (validate_ok_iff.mp sound)).ports

theorem validate_of_ofFile {file : Except IoError ByteArray} {d : Description}
    (read : ofFile file = .ok d) : d.validate = .ok () := by
  rw [validate_ok_iff]
  unfold ofFile at read
  split at read
  next => cases read
  next bytes =>
    split at read
    next => cases read
    next text _ =>
      unfold ofText at read
      split at read
      next => cases read
      next d' _ =>
        split at read
        next => cases read
        next sound =>
          cases read
          exact sound

end Checks

/-- The operations that make the plan of the description, in the order of the file. -/
def operations (d : Description) : List Plan.Operation :=
  d.hosts.map .addHost ++
    d.switches.mapIdx (fun place s => .addSwitchSpec s.name (specOf place s)) ++
    d.links.map fun (a, b) => .addLink a b

theorem operations_add (d : Description) : ∀ op ∈ d.operations, op.removes = false := by
  simp only [operations, List.forall_mem_append, List.forall_mem_map, List.mem_mapIdx]
  refine ⟨⟨fun _ _ => rfl, ?_⟩, fun _ _ => rfl⟩
  rintro op ⟨place, less, rfl⟩
  rfl

theorem operations_ports (d : Description) :
    d.operations.filterMap Plan.Operation.port? = d.switches.map fun s => s.dataPlane.port := by
  have switches : (d.switches.mapIdx fun place s => Plan.Operation.addSwitchSpec s.name
      (specOf place s)).filterMap Plan.Operation.port? =
      d.switches.map fun s => s.dataPlane.port := by
    have port : (fun x : SwitchEntry × Nat => some x.1.dataPlane.port) =
        some ∘ (fun s : SwitchEntry => s.dataPlane.port) ∘ Prod.fst := rfl
    rw [List.mapIdx_eq_zipIdx_map, List.filterMap_map]
    refine (congrArg (List.filterMap · d.switches.zipIdx) port).trans ?_
    rw [List.filterMap_eq_map, ← List.map_map, List.zipIdx_map_fst]
  simp only [operations, List.filterMap_append, List.filterMap_map, switches]
  simp [Plan.Operation.port?, Function.comp_def]

theorem declareSwitches_eq (place : Nat) (switches : List SwitchEntry) (p : Plan) :
    declareSwitches place switches p =
      (switches.mapIdx fun i s => Plan.Operation.addSwitchSpec s.name
        (specOf (place + i) s)).foldlM Plan.attempt p := by
  induction switches generalizing place p with
  | nil => rfl
  | cons s rest ih =>
    rw [declareSwitches, List.mapIdx_cons, List.foldlM_cons]
    refine congrArg (p.addSwitchSpec s.name (specOf place s) >>= ·) (funext fun q => ?_)
    rw [ih]
    simp only [Nat.add_assoc, Nat.add_comm 1]

theorem toPlan_eq (d : Description) :
    d.toPlan = d.operations.foldlM Plan.attempt d.startingPlan := by
  have switches (p : Plan) := declareSwitches_eq 0 d.switches p
  simp only [Nat.zero_add] at switches
  rw [toPlan, operations, List.foldlM_append, List.foldlM_append]
  simp only [List.foldlM_map, bind_assoc]
  refine congrArg (d.hosts.foldlM Plan.addHost d.startingPlan >>= ·) (funext fun p => ?_)
  rw [switches]
  rfl

theorem startingPlan_grown (d : Description) : d.startingPlan.Grown := by
  unfold startingPlan
  split
  next => exact .empty
  next limit _ => exact Plan.Grown.empty.limited limit

theorem toPlan_grown {d : Description} {p : Plan} (planned : d.toPlan = .ok p) : p.Grown := by
  rw [toPlan_eq] at planned
  rw [← Plan.performAll_of_ok planned]
  exact d.startingPlan_grown.performAll d.operations_add

theorem toPlan_switchPorts {d : Description} {p : Plan} (planned : d.toPlan = .ok p) :
    p.switchPorts = d.switches.map fun s => s.dataPlane.port := by
  rw [toPlan_eq] at planned
  have none_yet : d.startingPlan.switchPorts = [] := by
    unfold startingPlan
    split <;> rfl
  rw [Plan.switchPorts_of_ok d.operations_add planned, none_yet, operations_ports, List.nil_append]

end Description

end Testbed
