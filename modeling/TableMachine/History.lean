import TableMachine.Trigger
import TableMachine.Instant.Basic

/-!
# Histories

The switches that a machine made, oldest first. Where a history has a limit, recording and setting
the limit drop the oldest records above it.
-/

namespace TableMachine

/-- One switch from a state to a state. -/
structure Record where
  source : String
  target : String
  trigger : Trigger
  time : Instant
deriving Inhabited

namespace Record

def same (a b : Record) : Bool :=
  a.source == b.source && a.target == b.target && a.trigger.same b.trigger && a.time == b.time

end Record

structure History where
  records : List Record := []
  limit : Option Nat := none
deriving Inhabited

namespace History

def unbounded : History := {}

def bounded (limit : Nat) : History := { limit := some limit }

/-- The last records, as many as the limit allows. -/
def trim (h : History) : History :=
  match h.limit with
  | none => h
  | some limit => { h with records := h.records.drop (h.records.length - limit) }

def setLimit (limit : Option Nat) (h : History) : History :=
  trim { h with limit := limit }

def record (r : Record) (h : History) : History :=
  trim { h with records := h.records ++ [r] }

/-- The limit stays. -/
def clear (h : History) : History :=
  { h with records := [] }

def size (h : History) : Nat :=
  h.records.length

/-- The state before the oldest record, then the state after each. -/
def path (h : History) : List String :=
  match h.records with
  | [] => []
  | first :: _ => first.source :: h.records.map Record.target

/-- The time from the oldest record to the newest, unless it is negative. -/
def duration? (h : History) : Option Span := do
  (← h.records.getLast?).time.since? (← h.records.head?).time

/-- The records agree one by one. -/
def sameRecords (a b : History) : Bool :=
  a.records.length == b.records.length &&
    (a.records.zip b.records).all fun pair => pair.1.same pair.2

end History

end TableMachine
