namespace Testbed.Text

def replacement : Char := '\uFFFD'

/-- A character of which some bytes are still owed: how many, the range of the next one, and the
bits read so far. -/
structure Unfinished where
  owed : Nat
  low : UInt8
  high : UInt8
  bits : Nat

def leadByte (b : UInt8) : Char ⊕ Unfinished :=
  if b < 0x80 then .inl (Char.ofNat b.toNat)
  else if 0xC2 ≤ b && b ≤ 0xDF then .inr ⟨1, 0x80, 0xBF, b.toNat - 0xC0⟩
  else if b == 0xE0 then .inr ⟨2, 0xA0, 0xBF, 0⟩
  else if b == 0xED then .inr ⟨2, 0x80, 0x9F, 0xD⟩
  else if 0xE1 ≤ b && b ≤ 0xEF then .inr ⟨2, 0x80, 0xBF, b.toNat - 0xE0⟩
  else if b == 0xF0 then .inr ⟨3, 0x90, 0xBF, 0⟩
  else if b == 0xF4 then .inr ⟨3, 0x80, 0x8F, 4⟩
  else if 0xF1 ≤ b && b ≤ 0xF3 then .inr ⟨3, 0x80, 0xBF, b.toNat - 0xF0⟩
  else .inl replacement

def lossyFrom : Option Unfinished → List UInt8 → List Char
  | none, [] => []
  | some _, [] => [replacement]
  | none, b :: rest =>
    match leadByte b with
    | .inl c => c :: lossyFrom none rest
    | .inr u => lossyFrom (some u) rest
  | some u, b :: rest =>
    if u.low ≤ b && b ≤ u.high then
      let bits := u.bits * 64 + (b.toNat - 0x80)
      if u.owed ≤ 1 then Char.ofNat bits :: lossyFrom none rest
      else lossyFrom (some ⟨u.owed - 1, 0x80, 0xBF, bits⟩) rest
    else
      match leadByte b with
      | .inl c => replacement :: c :: lossyFrom none rest
      | .inr v => replacement :: lossyFrom (some v) rest

def decodeLossy (bytes : List UInt8) : String := String.ofList (lossyFrom none bytes)

end Testbed.Text
