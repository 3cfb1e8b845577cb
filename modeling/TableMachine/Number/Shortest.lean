import TableMachine.Number.Double

/-!
# Shortest decimals

The decimal with the fewest digits among those that are nearer to a double than to any other
double. Of several with that many digits the one nearest to the double is taken, and of two at the
same distance the one with the even last digit.
-/

namespace TableMachine

/-- The number `digits * 10 ^ exponent`. -/
structure Decimal where
  digits : Nat
  exponent : Int
deriving DecidableEq

namespace Decimal

def digitCount (n : Nat) : Nat :=
  (Nat.toDigits 10 n).length

/-- Drops the zeros at the end of the digits, `fuel` of them at most. -/
def trimmed : Nat → Decimal → Decimal
  | 0, x => x
  | fuel + 1, x =>
    if x.digits ≠ 0 ∧ x.digits % 10 = 0 then trimmed fuel ⟨x.digits / 10, x.exponent + 1⟩ else x

/-- The number in halves of the smallest step, as a quotient. -/
def halfUnits (x : Decimal) : Nat × Nat :=
  let halves := x.digits * (2 * Double.unitsPerOne)
  if 0 ≤ x.exponent then (halves * Nat.pow 10 x.exponent.toNat, 1)
  else (halves, Nat.pow 10 (-x.exponent).toNat)

/-- Whether the decimal lies in the interval of numbers that round to the magnitude of `rank`. The
ends belong to it when the rank is even. -/
def roundsTo (rank : Nat) (x : Decimal) : Bool :=
  let (num, den) := x.halfUnits
  let low := (Double.units (rank - 1) + Double.units rank) * den
  let high := (Double.units rank + Double.units (rank + 1)) * den
  if rank % 2 = 0 then low ≤ num && num ≤ high else low < num && num < high

/-- The least `k` with the magnitude of `rank` below `10 ^ k`. -/
def magnitude (rank : Nat) : Int :=
  (digitCount (Double.units rank * Nat.pow 10 400 / Double.unitsPerOne) : Int) - 400

/-- The multiples of `10 ^ exponent` on both sides of the magnitude of `rank`, nearest first. -/
def around (rank : Nat) (exponent : Int) : List Decimal :=
  let (num, den) :=
    if 0 ≤ exponent then (Double.units rank, Double.unitsPerOne * Nat.pow 10 exponent.toNat)
    else (Double.units rank * Nat.pow 10 (-exponent).toNat, Double.unitsPerOne)
  let below := num / den
  let nearest := Double.roundHalfEven num den
  [⟨nearest, exponent⟩, ⟨if nearest = below then below + 1 else below, exponent⟩]

/-- Every double is told from its neighbours by seventeen digits. -/
def shortest (rank : Nat) : Decimal :=
  let k := magnitude rank
  let tried := (List.range 17).flatMap fun n : Nat => around rank (k - (n : Int) - 1)
  trimmed 17 ((tried.find? (roundsTo rank)).getD ⟨0, 0⟩)

end Decimal

end TableMachine
