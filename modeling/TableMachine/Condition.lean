import TableMachine.Roster
import TableMachine.Json.Printer

/-!
# Conditions

A condition asks something of each of some keys of a data object, and of no other key. Unless it is
relaxed, the object has no keys but those.
-/

namespace TableMachine

/-- What is asked of the value under a key. -/
inductive Pattern where
  | any
  | exact (value : Json)
deriving Inhabited

namespace Pattern

def same : Pattern → Pattern → Bool
  | .any, .any => true
  | .exact a, .exact b => a.same b
  | _, _ => false

def accepts (pattern : Pattern) (value : Json) : Bool :=
  match pattern with
  | .any => true
  | .exact expected => expected.same value

/-- The mark of a pattern that any value meets. -/
def wildcard : String := "*"

def text : Pattern → String
  | .any => wildcard
  | .exact value => value.render

end Pattern

/-- How an object meets a condition: by its values alone, or with the help of a wildcard. -/
inductive Grade where
  | exact
  | wildcard
deriving DecidableEq

/-- The number of keys is counted when an entry comes, not when data are graded. -/
structure Condition where
  entries : Roster Pattern := []
  relaxed : Bool := false
  keyCount : Nat := 0
deriving Inhabited

namespace Condition

def require (key : String) (pattern : Pattern) (c : Condition) : Condition :=
  let entries := c.entries.put key pattern
  { c with entries := entries, keyCount := entries.length }

def requireValue (key : String) (value : Json) (c : Condition) : Condition :=
  c.require key (.exact value)

def requireKey (key : String) (c : Condition) : Condition :=
  c.require key .any

def relax (c : Condition) : Condition :=
  { c with relaxed := true }

/-- The entries in order, then the flag and the count. -/
def same (a b : Condition) : Bool :=
  sameEntries a.entries b.entries && a.relaxed == b.relaxed && a.keyCount == b.keyCount
where
  sameEntries : Roster Pattern → Roster Pattern → Bool
    | [], [] => true
    | (k, p) :: as, (l, q) :: bs => k == l && p.same q && sameEntries as bs
    | _, _ => false

/-- The number of entries met by a wildcard, if the members meet all of them. -/
def wildcardHits? (members : List (String × Json)) : Roster Pattern → Option Nat
  | [] => some 0
  | (key, pattern) :: rest => do
    let value ← members.lookup key
    match pattern with
    | .any => return (← wildcardHits? members rest) + 1
    | .exact _ => if pattern.accepts value then wildcardHits? members rest else none

/-- Data that is no object meets no condition. -/
def grade? (c : Condition) : Json → Option Grade
  | .object members =>
    match wildcardHits? members c.entries with
    | none => none
    | some hits =>
      if !c.relaxed && members.length ≠ c.keyCount then none
      else some (if hits = 0 then .exact else .wildcard)
  | _ => none

/-- The entries in braces; the wildcard as a key stands for the keys that a relaxed condition does
not name. -/
def text (c : Condition) : String :=
  let entries := c.entries.map fun entry => entry.1 ++ ": " ++ entry.2.text
  let rest := if c.relaxed then [Pattern.wildcard ++ ": .."] else []
  "\x7b" ++ ", ".intercalate (entries ++ rest) ++ "\x7d"

end Condition

end TableMachine
