import Testbed.Description.Basic
import Testbed.Plan.Basic

namespace Testbed.Description

/-- A switch without a number gets the one of its place among the switches, counted from 1. -/
def specOf (place : Nat) (s : SwitchEntry) : SwitchSpec :=
  ⟨s.dataPlane, s.deviceId.getD (UInt64.ofNat place + 1), s.controller⟩

def startingPlan (d : Description) : Plan :=
  match d.settings.maxInterfacesPerNode with
  | none => .empty
  | some limit => Plan.empty.withInterfaceLimit limit

def declareSwitches : Nat → List SwitchEntry → Plan → Except Error Plan
  | _, [], p => .ok p
  | place, s :: rest, p => do
    let p ← p.addSwitchSpec s.name (specOf place s)
    declareSwitches (place + 1) rest p

def toPlan (d : Description) : Except Error Plan := do
  let p ← d.hosts.foldlM Plan.addHost d.startingPlan
  let p ← declareSwitches 0 d.switches p
  d.links.foldlM (fun p (a, b) => Prod.snd <$> p.addLink a b) p

end Testbed.Description
