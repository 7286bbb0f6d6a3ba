import Testbed.Description.Defect
import Testbed.Yaml.Decode
import Testbed.Yaml.Tree.Reader

namespace Testbed.Description

open Yaml

abbrev Reader (α : Type) := Tree → Decode Endpoint.Rejection α

def readEndpoint : Reader Endpoint := fun t => do
  match Endpoint.read (← Decode.text t) with
  | .ok e => return e
  | .error r => Decode.fail (.refused r)

def readUInt64 : Reader UInt64 := fun t => UInt64.ofNat <$> Decode.natural t

def readSettings : Reader Settings :=
  Decode.record ["startup_timeout_secs", "ready_poll_interval_ms", "max_interfaces_per_node"]
    .default fun s key t => do
      match key with
      | "startup_timeout_secs" => return { s with startupTimeoutSecs := ← readUInt64 t }
      | "ready_poll_interval_ms" => return { s with readyPollIntervalMs := ← readUInt64 t }
      | _ => return { s with maxInterfacesPerNode := ← Decode.optional Decode.natural t }

def readAgent : Reader AgentCommand :=
  Decode.record ["binary", "args"] .default fun c key t => do
    match key with
    | "binary" => return { c with binary := ← Decode.text t }
    | _ => return { c with args := ← Decode.list Decode.text t }

structure PartialSwitch where
  name : Option String
  dataPlane : Option Endpoint
  deviceId : Option UInt64
  controller : Option Endpoint

def readSwitch : Reader SwitchEntry := fun t => do
  let known ← Decode.record ["name", "data_plane", "device_id", "controller"]
    (⟨none, none, none, none⟩ : PartialSwitch) (fun s key t => do
      match key with
      | "name" => return { s with name := some (← Decode.text t) }
      | "data_plane" => return { s with dataPlane := some (← readEndpoint t) }
      | "device_id" => return { s with deviceId := ← Decode.optional readUInt64 t }
      | _ => return { s with controller := ← Decode.optional readEndpoint t }) t
  let name ← Decode.required "name" known.name
  let dataPlane ← Decode.required "data_plane" known.dataPlane
  return ⟨name, dataPlane, known.deviceId, known.controller⟩

def readDescription : Reader Description :=
  Decode.record ["controller", "settings", "agent", "hosts", "switches", "links"] .default
    fun d key t => do
      match key with
      | "controller" => return { d with controller := ← readEndpoint t }
      | "settings" => return { d with settings := ← readSettings t }
      | "agent" => return { d with agent := ← readAgent t }
      | "hosts" => return { d with hosts := ← Decode.list Decode.text t }
      | "switches" => return { d with switches := ← Decode.list readSwitch t }
      | _ => return { d with links := ← Decode.list (Decode.pair Decode.text) t }

inductive Rejection where
  | unreadable (cause : IoError)
  | formless (problem : Problem Endpoint.Rejection)
  | defective (defect : Defect)
deriving DecidableEq, Repr

def Rejection.error : Rejection → Error
  | .unreadable cause => .io cause
  | .formless problem =>
    .config "yaml" (problem.message fun r => (Error.ofRejection r).message)
  | .defective defect => defect.error

def decode (text : String) : Except (Problem Endpoint.Rejection) Description :=
  Decode.run readDescription .default (Document.ofText text)

def ofText (text : String) : Except Rejection Description :=
  match decode text with
  | .error problem => .error (.formless problem)
  | .ok d =>
    match d.defect? with
    | some defect => .error (.defective defect)
    | none => .ok d

def ofFile : Except IoError ByteArray → Except Rejection Description
  | .error cause => .error (.unreadable cause)
  | .ok bytes =>
    match String.fromUTF8? bytes with
    | none => .error (.unreadable .notUtf8)
    | some text => ofText text

end Testbed.Description
