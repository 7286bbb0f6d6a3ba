namespace Testbed

structure Endpoint where
  host : String
  port : UInt16
deriving DecidableEq, Repr, Inhabited

namespace Endpoint

def any (port : UInt16) : Endpoint := ⟨"0.0.0.0", port⟩

def before (a b : Endpoint) : Bool :=
  decide (a.host < b.host) || (a.host == b.host && decide (a.port < b.port))

/-- A host with a colon in it is put in brackets, unless it opens one itself. -/
def needsBrackets (host : String) : Bool :=
  host.toList.contains ':' && host.toList.head? != some '['

def text (e : Endpoint) : String :=
  if needsBrackets e.host then "[" ++ e.host ++ "]:" ++ toString e.port.toNat
  else e.host ++ ":" ++ toString e.port.toNat

/-- The address to dial: an endpoint that listens everywhere is reached at the loopback address. -/
def dialText (e : Endpoint) : String :=
  if e.host = "0.0.0.0" then "127.0.0.1:" ++ toString e.port.toNat
  else if e.host = "::" ∨ e.host = "[::]" then "[::1]:" ++ toString e.port.toNat
  else e.text

end Endpoint

end Testbed
