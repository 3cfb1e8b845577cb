/-!
# The calendar

Days of the proleptic Gregorian calendar, counted from 1970-01-01. A year is counted from its
March on, so that the leap day comes last, and 400 years have 146097 days.
-/

namespace TableMachine

structure Date where
  year : Int
  month : Nat
  day : Nat
deriving DecidableEq

namespace Date

def isLeap (year : Int) : Bool :=
  year % 4 = 0 && (year % 100 ≠ 0 || year % 400 = 0)

def daysInMonth (year : Int) (month : Nat) : Nat :=
  if month = 2 then (if isLeap year then 29 else 28)
  else if month = 4 ∨ month = 6 ∨ month = 9 ∨ month = 11 then 30
  else 31

/-- The years that instants lie in. -/
def inRange (year : Int) : Bool :=
  -262143 ≤ year && year ≤ 262142

def isValid (d : Date) : Bool :=
  inRange d.year && 1 ≤ d.month && d.month ≤ 12 && 1 ≤ d.day && d.day ≤ daysInMonth d.year d.month

/-- Days from the first of March to the first of a month that lies `months` after it. -/
def daysFromMarch (months : Int) : Int :=
  (153 * months + 2) / 5

def toDays (d : Date) : Int :=
  let year := if d.month ≤ 2 then d.year - 1 else d.year
  let months : Int := if d.month ≤ 2 then d.month + 9 else d.month - 3
  let inCycle := year % 400
  let dayOfYear := daysFromMarch months + d.day - 1
  year / 400 * 146097 + (inCycle * 365 + inCycle / 4 - inCycle / 100 + dayOfYear) - 719468

def ofDays (days : Int) : Date :=
  let shifted := days + 719468
  let dayOfCycle := shifted % 146097
  let inCycle :=
    (dayOfCycle - dayOfCycle / 1460 + dayOfCycle / 36524 - dayOfCycle / 146096) / 365
  let dayOfYear := dayOfCycle - (365 * inCycle + inCycle / 4 - inCycle / 100)
  let months := (5 * dayOfYear + 2) / 153
  let day := dayOfYear - daysFromMarch months + 1
  let month := if months < 10 then months + 3 else months - 9
  let year := shifted / 146097 * 400 + inCycle
  ⟨if month ≤ 2 then year + 1 else year, month.toNat, day.toNat⟩

end Date

end TableMachine
