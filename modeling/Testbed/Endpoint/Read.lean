import Testbed.Endpoint.Basic
import Testbed.Text.Blank
import Testbed.Text.Split

namespace Testbed.Endpoint

inductive Defect where
  | noColon
  | emptyHost
  | invalidPort
  | portZero
deriving DecidableEq, Repr

def Defect.message (quoted : String) : Defect → String
  | .noColon => s!"'{quoted}' is not host:port"
  | .emptyHost => s!"'{quoted}' has an empty host"
  | .invalidPort => s!"'{quoted}' has an invalid port"
  | .portZero => s!"'{quoted}' uses port 0"

structure Rejection where
  text : String
  defect : Defect
deriving DecidableEq, Repr

def Rejection.message (r : Rejection) : String := r.defect.message r.text

def stripBrackets (cs : List Char) : List Char :=
  ((cs.dropWhile (· == '[')).reverse.dropWhile (· == ']')).reverse

def digitValue (c : Char) : Nat := c.toNat - '0'.toNat

def decimalValue (digits : List Char) : Nat :=
  digits.foldl (fun n c => 10 * n + digitValue c) 0

/-- An optional plus sign and decimal digits; the value has to fit a port. -/
def readPort (cs : List Char) : Option UInt16 :=
  let digits := if cs.head? = some '+' then cs.tail else cs
  if digits.isEmpty || !digits.all Char.isDigit then none
  else
    let n := decimalValue digits
    if n < 65536 then some (UInt16.ofNat n) else none

def readTrimmed (cs : List Char) : Except Defect Endpoint :=
  match Text.splitAtLast ':' cs with
  | none => .error .noColon
  | some (left, right) =>
    let host := stripBrackets left
    if host.isEmpty then .error .emptyHost
    else
      match readPort right with
      | none => .error .invalidPort
      | some port => if port = 0 then .error .portZero else .ok ⟨String.ofList host, port⟩

def read (s : String) : Except Rejection Endpoint :=
  let cs := Text.trimList s.toList
  (readTrimmed cs).mapError fun defect => ⟨String.ofList cs, defect⟩

end Testbed.Endpoint
