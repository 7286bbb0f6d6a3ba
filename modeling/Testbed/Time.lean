namespace Testbed

structure Duration where
  nanos : Nat
deriving DecidableEq, Repr, Inhabited

namespace Duration

def ofSeconds (n : Nat) : Duration := ⟨n * 1000000000⟩

def ofMillis (n : Nat) : Duration := ⟨n * 1000000⟩

/-- The clock ticks once a millisecond, and a wait ends on the first tick at which it is over. -/
def ticks (d : Duration) : Nat := (d.nanos + 999999) / 1000000

theorem ticks_ofMillis (n : Nat) : (ofMillis n).ticks = n := by
  simp only [ticks, ofMillis]
  omega

/-- The clock lets nobody wait longer than thirty years. -/
def longestWait : Duration := ofSeconds (30 * 365 * 86400)

/-- How long a wait for `d` lasts. -/
def waitTicks (d : Duration) : Nat :=
  if d.nanos ≤ longestWait.nanos then d.ticks else longestWait.ticks

theorem waitTicks_ofMillis (n : Nat) :
    (ofMillis n).waitTicks = min n longestWait.ticks := by
  have years : longestWait.ticks = 946080000000 := rfl
  unfold waitTicks
  split
  next short =>
    simp only [ofMillis, longestWait, ofSeconds] at short
    rw [ticks_ofMillis, years]
    omega
  next long =>
    simp only [ofMillis, longestWait, ofSeconds] at long
    rw [years]
    omega

theorem waitTicks_zero {d : Duration} (none : d.nanos = 0) : d.waitTicks = 0 := by
  simp [waitTicks, ticks, none]

theorem waitTicks_pos {d : Duration} (some : d.nanos ≠ 0) : 0 < d.waitTicks := by
  unfold waitTicks
  split
  · simp only [ticks]
    omega
  · decide

def units : List (Nat × String × Nat) :=
  [(1000000000, "s", 9), (1000000, "ms", 6), (1000, "µs", 3)]

def decimals (n places : Nat) : List Char :=
  let digits := Nat.toDigits 10 n
  let padded := List.replicate (places - digits.length) '0' ++ digits
  (padded.reverse.dropWhile (· == '0')).reverse

def textIn (d : Duration) (size : Nat) (unit : String) (places : Nat) : String :=
  let whole := toString (d.nanos / size)
  let fraction := decimals (d.nanos % size) places
  if fraction.isEmpty then whole ++ unit
  else whole ++ "." ++ String.ofList fraction ++ unit

def text (d : Duration) : String :=
  match units.find? (·.1 ≤ d.nanos) with
  | some (size, unit, places) => d.textIn size unit places
  | none => toString d.nanos ++ "ns"

end Duration

end Testbed
