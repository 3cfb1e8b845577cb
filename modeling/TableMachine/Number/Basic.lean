import TableMachine.Number.Shortest

/-!
# Numbers

A number is an integer or a double, and a number of one kind never equals one of the other.
Integers read from text lie between `Number.least` and `Number.greatest`.
-/

namespace TableMachine

inductive Number where
  | int (value : Int)
  | double (value : Double)
deriving DecidableEq

namespace Number

/-- The least integer of 64 bits with a sign. -/
def least : Int := -9223372036854775808

/-- The greatest integer of 64 bits without a sign. -/
def greatest : Int := 18446744073709551615

def same : Number → Number → Bool
  | .int a, .int b => a = b
  | .double a, .double b => a.same b
  | _, _ => false

/-- The digits with a point among them, for a decimal below `10 ^ point`. -/
def positional (digits : List Char) (point : Int) : List Char :=
  if point ≤ 0 then
    ['0', '.'] ++ List.replicate (-point).toNat '0' ++ digits
  else
    let whole := digits.take point.toNat
    let fraction := digits.drop point.toNat
    let zeros := List.replicate (point.toNat - digits.length) '0'
    whole ++ zeros ++ ['.'] ++ (if fraction.isEmpty then ['0'] else fraction)

/-- One digit before the point, none after it where there is only one, and a signed exponent. -/
def scientific (digits : List Char) (point : Int) : List Char :=
  let fraction := digits.drop 1
  let power := point - 1
  digits.take 1 ++ (if fraction.isEmpty then [] else '.' :: fraction) ++
    ['e', if power < 0 then '-' else '+'] ++ (toString power.natAbs).toList

/-- Positional from `10 ^ -5` up to `10 ^ 16`, and scientific outside. -/
def doubleText (x : Double) : String :=
  let sign := if x.negative then ['-'] else []
  if x.isZero then String.ofList (sign ++ ['0', '.', '0'])
  else
    let decimal := Decimal.shortest x.rank
    let digits := (toString decimal.digits).toList
    let point : Int := digits.length + decimal.exponent
    String.ofList (sign ++
      (if -5 < point ∧ point ≤ 16 then positional digits point else scientific digits point))

def text : Number → String
  | .int value => toString value
  | .double x => doubleText x

end Number

end TableMachine
