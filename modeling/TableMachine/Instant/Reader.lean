import TableMachine.Instant.Basic
import TableMachine.Number.Numeral
import TableMachine.Text.Blank

/-!
# Written instants

A date, a time of day and an offset from universal time: `2024-05-01T10:00:00.250+02:00`. Numerals
need no zeros in front, blanks may stand around the marks, and the date is parted from the time by
a `T` or a blank. The fraction keeps nine digits. Second 60 is a leap second.
-/

namespace TableMachine

namespace Instant

/-- A numeral of one digit up to `width` digits, after blanks. -/
def numeral? (width : Nat) (cs : List Char) : Option (Nat × List Char) :=
  let cs := Text.skipBlanks cs
  let digits := (cs.takeWhile Char.isDigit).take width
  if digits.isEmpty then none
  else some (Numeral.value (digits.filterMap Numeral.digit?), cs.drop digits.length)

def mark? (c : Char) (cs : List Char) : Option (List Char) :=
  match Text.skipBlanks cs with
  | first :: rest => if first = c then some rest else none
  | [] => none

/-- Four digits at most, or a sign and any number of digits. -/
def year? (cs : List Char) : Option (Int × List Char) :=
  match Text.skipBlanks cs with
  | '-' :: rest => (signed rest).map fun (n, rest) => (-(n : Int), rest)
  | '+' :: rest => (signed rest).map fun (n, rest) => ((n : Int), rest)
  | rest => (numeral? 4 rest).map fun (n, rest) => ((n : Int), rest)
where
  signed (rest : List Char) : Option (Nat × List Char) :=
    match rest with
    | c :: _ => if c.isDigit then numeral? rest.length rest else none
    | [] => none

def date? (cs : List Char) : Option (Date × List Char) := do
  let (year, cs) ← year? cs
  let (month, cs) ← numeral? 2 (← mark? '-' cs)
  let (day, cs) ← numeral? 2 (← mark? '-' cs)
  return (⟨year, month, day⟩, cs)

/-- Nanoseconds after a point, if there is one. -/
def fraction? (cs : List Char) : Option (Nat × List Char) :=
  match cs with
  | '.' :: rest =>
    let digits := (rest.takeWhile Char.isDigit).take 9
    if digits.isEmpty then none
    else
      some (Numeral.value (digits.filterMap Numeral.digit?) * Nat.pow 10 (9 - digits.length),
        rest.dropWhile Char.isDigit)
  | rest => some (0, rest)

/-- The second of the day and the nanoseconds within it. -/
def time? (cs : List Char) : Option (Nat × Nat × List Char) := do
  let (hour, cs) ← numeral? 2 cs
  let (minute, cs) ← numeral? 2 (← mark? ':' cs)
  let (second, cs) ← numeral? 2 (← mark? ':' cs)
  let (nanos, cs) ← fraction? cs
  if hour ≤ 23 ∧ minute ≤ 59 ∧ second ≤ 60 then
    if second = 60 then
      return (hour * 3600 + minute * 60 + 59, nanosPerSecond + nanos, cs)
    else
      return (hour * 3600 + minute * 60 + second, nanos, cs)
  else
    none

def twoDigits? (cs : List Char) : Option (Nat × List Char) :=
  match cs with
  | a :: b :: rest =>
    match Numeral.digit? a, Numeral.digit? b with
    | some x, some y => some (10 * x + y, rest)
    | _, _ => none
  | _ => none

/-- Hours and minutes, with any colons and blanks between them, in seconds. -/
def hoursAndMinutes? (cs : List Char) : Option (Int × List Char) := do
  let (hours, cs) ← twoDigits? cs
  let (minutes, cs) ← twoDigits? (cs.dropWhile fun c => c = ':' || Text.isBlank c)
  if minutes ≤ 59 ∧ hours ≤ 23 then
    return ((hours * 3600 + minutes * 60 : Nat), cs)
  else
    none

/-- The seconds by which local time is ahead. -/
def offset? (cs : List Char) : Option (Int × List Char) :=
  match Text.skipBlanks cs with
  | 'Z' :: rest | 'z' :: rest => some (0, rest)
  | '+' :: rest => hoursAndMinutes? rest
  | '-' :: rest | '\u2212' :: rest =>
    (hoursAndMinutes? rest).map fun (seconds, rest) => (-seconds, rest)
  | u :: t :: c :: rest =>
    if u.toUpper = 'U' ∧ t.toUpper = 'T' ∧ c.toUpper = 'C' then some (0, rest) else none
  | _ => none

def ofText? (text : String) : Option Instant := do
  let (date, cs) ← date? text.toList
  match cs with
  | separator :: cs =>
    if separator = 'T' ∨ separator = 't' ∨ separator = ' ' then
      let (time, nanos, cs) ← time? cs
      let (offset, cs) ← offset? cs
      let instant : Instant := ⟨date.toDays * 86400 + time - offset, nanos⟩
      if (Text.skipBlanks cs).isEmpty ∧ date.isValid ∧ Date.inRange (Date.ofDays instant.day).year
      then return instant
      else none
    else none
  | [] => none

end Instant

end TableMachine
