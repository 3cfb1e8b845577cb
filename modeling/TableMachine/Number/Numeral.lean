import TableMachine.Number.Basic

/-!
# Numerals

How a written numeral is read. Its grammar is the one of JSON. A whole numeral in the range of the
integers is that integer; every other numeral is a double. The digits of a double are gathered into
a 64-bit significand as far as they fit, the significand is rounded to a double, and one
multiplication or division by a power of ten follows.
-/

namespace TableMachine

/-- A written numeral. The digits of a missing fraction or exponent are `none`. -/
structure Numeral where
  negative : Bool
  whole : List Nat
  fraction : Option (List Nat)
  exponent : Option (Bool × List Nat)

namespace Numeral

def digit? (c : Char) : Option Nat :=
  if c.isDigit then some (c.toNat - '0'.toNat) else none

/-- The digits at the front, and what follows them. -/
def digitsOf (cs : List Char) : List Nat × List Char :=
  ((cs.takeWhile Char.isDigit).filterMap digit?, cs.dropWhile Char.isDigit)

def value (digits : List Nat) : Nat :=
  digits.foldl (fun n d => 10 * n + d) 0

def exponent? : List Char → Option (Option (Bool × List Nat))
  | [] => some none
  | c :: rest =>
    if c = 'e' ∨ c = 'E' then
      let (negative, rest) := match rest with
        | '-' :: more => (true, more)
        | '+' :: more => (false, more)
        | more => (false, more)
      match digitsOf rest with
      | ([], _) => none
      | (digits, []) => some (some (negative, digits))
      | (_, _ :: _) => none
    else none

/-- A sign, a whole part without needless zeros, then perhaps a fraction and an exponent. -/
def ofChars? (cs : List Char) : Option Numeral :=
  let (negative, cs) := match cs with
    | '-' :: rest => (true, rest)
    | rest => (false, rest)
  match digitsOf cs with
  | ([], _) => none
  | (0 :: _ :: _, _) => none
  | (whole, '.' :: rest) =>
    match digitsOf rest with
    | ([], _) => none
    | (fraction, rest) => (exponent? rest).map fun e => ⟨negative, whole, some fraction, e⟩
  | (whole, rest) => (exponent? rest).map fun e => ⟨negative, whole, none, e⟩

/-- Appends digits to the significand until one of them would carry it past 64 bits; gives also how
many digits were taken. -/
def gather (significand : Nat) : List Nat → Nat × Nat
  | [] => (significand, 0)
  | d :: rest =>
    if 10 * significand + d ≤ Number.greatest then
      let (n, taken) := gather (10 * significand + d) rest
      (n, taken + 1)
    else (significand, 0)

/-- The significand and the power of ten it is scaled by. Whole digits that do not fit raise the
power; fraction digits that do not fit are dropped. -/
def scaled (n : Numeral) : Nat × Int :=
  let (whole, kept) := gather 0 n.whole
  let (significand, places) := gather whole (n.fraction.getD [])
  let power : Int := match n.exponent with
    | none => 0
    | some (true, digits) => -(value digits)
    | some (false, digits) => value digits
  (significand, (n.whole.length - kept : Nat) - (places : Int) + power)

def powerOfTen? (power : Nat) : Option Double :=
  Double.ofRatio? false (Nat.pow 10 power) 1

/-- Divides by `10 ^ 308` so many times, or until nothing is left. -/
def lowered? : Nat → Double → Option Double
  | 0, x => some x
  | count + 1, x =>
    if x.isZero then some x
    else ((powerOfTen? 308).bind x.over?).bind (lowered? count)

/-- Multiplies or divides once by a power of ten up to `10 ^ 308`. A smaller power is reached by
dividing by `10 ^ 308` first; a larger one has no result unless the number is zero. -/
def scale? (x : Double) (power : Int) : Option Double :=
  if x.isZero then some x
  else if 308 < power then none
  else if 0 ≤ power then (powerOfTen? power.toNat).bind x.times?
  else
    let down := power.natAbs - 1
    (lowered? (down / 308) x).bind fun y => (powerOfTen? (down % 308 + 1)).bind y.over?

def double? (n : Numeral) : Option Double :=
  let (significand, power) := n.scaled
  (Double.ofRatio? false significand 1).bind fun x =>
    (scale? x power).map fun y => { y with negative := n.negative }

/-- Has no result where the numeral is too large for a double. -/
def number? (n : Numeral) : Option Number :=
  let whole : Int := value n.whole
  if n.fraction.isSome ∨ n.exponent.isSome then n.double?.map .double
  else if !n.negative ∧ whole ≤ Number.greatest then some (.int whole)
  else if n.negative ∧ 0 < whole ∧ Number.least ≤ -whole then some (.int (-whole))
  else n.double?.map .double

end Numeral

end TableMachine
