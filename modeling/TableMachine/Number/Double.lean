/-!
# Finite doubles

The finite numbers of the binary64 format, in exact arithmetic. A magnitude is named by its rank:
zero has rank 0, and the magnitude of rank `n + 1` is the next one above that of rank `n`. Ranks
below `2 ^ 52` step by the smallest positive magnitude `2 ^ -1074`; from there on the step doubles
every `2 ^ 52` ranks.
-/

namespace TableMachine

/-- The ranks over which the step stays the same: `2 ^ 52`. -/
def Double.binade : Nat := 0x10000000000000

/-- How many finite magnitudes there are. -/
def Double.rankCount : Nat := 2047 * Double.binade

structure Double where
  negative : Bool
  rank : Nat
  rank_lt : rank < Double.rankCount
deriving DecidableEq

namespace Double

/-- The number one in steps of `2 ^ -1074`. -/
def unitsPerOne : Nat := Nat.pow 2 1074

/-- The magnitude of a rank, counted in steps of `2 ^ -1074`. -/
def units (rank : Nat) : Nat :=
  if rank < binade then rank else (binade + rank % binade) * Nat.pow 2 (rank / binade - 1)

def isZero (x : Double) : Bool :=
  x.rank = 0

def zero (negative : Bool) : Double :=
  ⟨negative, 0, by decide⟩

/-- Sign included, except that the two zeros are the same number. -/
def same (x y : Double) : Bool :=
  x.rank = y.rank && (x.negative = y.negative || x.isZero)

/-- The whole number nearest to `num / den`; a half goes to the even neighbour. -/
def roundHalfEven (num den : Nat) : Nat :=
  let whole := num / den
  let twice := 2 * (num % den)
  if twice < den then whole
  else if den < twice then whole + 1
  else whole + whole % 2

/-- The pair `(n, d)` with `n / d = (num / den) / 2 ^ e`. -/
def shifted (num den : Nat) (e : Int) : Nat × Nat :=
  if 0 ≤ e then (num, den * Nat.pow 2 e.toNat) else (num * Nat.pow 2 (-e).toNat, den)

/-- The exponent of the step between the magnitudes around `num / den`: the quotient has 53 binary
digits in it, unless it lies where the step is smallest. -/
def stepExponent (num den : Nat) : Int :=
  let low : Int := (Nat.log2 num : Int) - Nat.log2 den - 53
  let (n, d) := shifted num den low
  max (-1074) (if n / d < 2 * binade then low else low + 1)

/-- The rank nearest to `num / den`, of two the even one. It is no rank of a finite double where
the quotient is too large. -/
def nearestRank (num den : Nat) : Nat :=
  if num = 0 then 0
  else
    let e := stepExponent num den
    let (n, d) := shifted num den e
    roundHalfEven n d + (e + 1074).toNat * binade

def ofRatio? (negative : Bool) (num den : Nat) : Option Double :=
  let rank := nearestRank num den
  if h : rank < rankCount then some ⟨negative, rank, h⟩ else none

def times? (x y : Double) : Option Double :=
  ofRatio? (x.negative != y.negative) (units x.rank * units y.rank)
    (unitsPerOne * unitsPerOne)

def over? (x y : Double) : Option Double :=
  if y.isZero then none
  else ofRatio? (x.negative != y.negative) (units x.rank) (units y.rank)

end Double

end TableMachine
