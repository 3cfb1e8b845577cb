import TableMachine.Instant.Calendar

/-!
# Instants

A moment of universal time: whole seconds since the first moment of 1970, and nanoseconds within
the second. A leap second is told as more than a whole second of nanoseconds within the second
before it.
-/

namespace TableMachine

structure Instant where
  seconds : Int
  nanos : Nat
deriving DecidableEq, Inhabited

/-- A span of time, which is not negative. -/
structure Span where
  seconds : Nat
  nanos : Nat
deriving DecidableEq

namespace Instant

def epoch : Instant := ⟨0, 0⟩

def nanosPerSecond : Nat := 1000000000

def day (t : Instant) : Int := t.seconds / 86400

def secondOfDay (t : Instant) : Int := t.seconds % 86400

/-- A leap second lies between the two seconds of day. -/
def leapBetween (later earlier : Instant) : Int :=
  if earlier.secondOfDay < later.secondOfDay ∧ nanosPerSecond ≤ earlier.nanos then 1
  else if later.secondOfDay < earlier.secondOfDay ∧ nanosPerSecond ≤ later.nanos then -1
  else 0

/-- The time from `earlier` to `later`, unless it is negative. -/
def since? (later earlier : Instant) : Option Span :=
  let fraction : Int := later.nanos - earlier.nanos
  let seconds :=
    later.seconds - earlier.seconds + leapBetween later earlier + fraction / nanosPerSecond
  if 0 ≤ seconds then some ⟨seconds.toNat, (fraction % nanosPerSecond).toNat⟩ else none

/-- Decimal digits with zeros in front up to a width. -/
def padded (width n : Nat) : String :=
  let digits := toString n
  String.ofList (List.replicate (width - digits.length) '0') ++ digits

def yearText (year : Int) : String :=
  if 0 ≤ year ∧ year ≤ 9999 then padded 4 year.natAbs
  else (if year < 0 then "-" else "+") ++ padded 4 year.natAbs

/-- No digits, or the three, six or nine that lose nothing. -/
def fractionText (nanos : Nat) : String :=
  if nanos = 0 then ""
  else if nanos % 1000000 = 0 then "." ++ padded 3 (nanos / 1000000)
  else if nanos % 1000 = 0 then "." ++ padded 6 (nanos / 1000)
  else "." ++ padded 9 nanos

def text (t : Instant) : String :=
  let date := Date.ofDays t.day
  let time := t.secondOfDay.toNat
  let leap := nanosPerSecond ≤ t.nanos
  let second := time % 60 + (if leap then 1 else 0)
  yearText date.year ++ "-" ++ padded 2 date.month ++ "-" ++ padded 2 date.day ++ "T" ++
    padded 2 (time / 3600) ++ ":" ++ padded 2 (time / 60 % 60) ++ ":" ++ padded 2 second ++
    fractionText (t.nanos % nanosPerSecond) ++ "Z"

end Instant

end TableMachine
