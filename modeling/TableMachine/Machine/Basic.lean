import TableMachine.Failure
import TableMachine.History
import TableMachine.Json.Printer
import TableMachine.Table.Compile

/-!
# Machines

A machine stands in one state of its table. A stimulus that the state answers moves the machine and
is recorded; the steps of the edge taken are run by whoever dispatched the stimulus.
-/

namespace TableMachine

variable {κ : Type}

/-- The version that a machine reports when it starts. -/
def version : String := "0.1.0"

/-- Records that a machine keeps unless it is told otherwise. -/
def defaultHistoryLimit : Nat := 256

/-- Whether the lines that a machine writes are kept. -/
inductive Logger where
  | silent
  | recording
deriving DecidableEq, Inhabited

namespace Logger

def isSilent (logger : Logger) : Bool :=
  logger = .silent

end Logger

/-- What a machine reacts to. -/
inductive Stimulus where
  | event (name : String)
  | data (value : Json)
deriving Inhabited

structure Machine (κ : Type) where
  table : Table κ
  current : Nat
  actions : Registry κ
  logger : Logger := .silent
  history : History := .bounded defaultHistoryLimit
  /-- The time that records get, which the owner of the machine sets. -/
  clock : Instant := .epoch

namespace Machine

/-- Stands in the initial state of the table. -/
def ofTable (table : Table κ) (actions : Registry κ) (logger : Logger) : Machine κ :=
  { table, current := table.initial, actions, logger }

def ofDraft (draft : Draft κ) (actions : Registry κ) (logger : Logger := .silent) :
    Except Fault (Machine κ) := do
  return ofTable (← draft.compile actions) actions logger

def state? (machine : Machine κ) : Option (State κ) :=
  machine.table.at? machine.current

/-- The name of the current state. -/
def status (machine : Machine κ) : String :=
  machine.table.nameAt machine.current

def handles (machine : Machine κ) (event : String) : Bool :=
  (machine.state?.bind (·.onEvent? event)).isSome

def register (name : String) (callback : κ) (machine : Machine κ) : Machine κ :=
  { machine with actions := machine.actions.put name callback }

def unregister (name : String) (machine : Machine κ) : Machine κ :=
  { machine with actions := machine.actions.drop name }

def setLogger (logger : Logger) (machine : Machine κ) : Machine κ :=
  { machine with logger }

def setClock (clock : Instant) (machine : Machine κ) : Machine κ :=
  { machine with clock }

def limitHistory (limit : Option Nat) (machine : Machine κ) : Machine κ :=
  { machine with history := machine.history.setLimit limit }

def clearHistory (machine : Machine κ) : Machine κ :=
  { machine with history := machine.history.clear }

/-- The edge by which the current state answers. -/
def answer? (machine : Machine κ) : Stimulus → Option (Edge κ)
  | .event name => machine.state?.bind (·.onEvent? name)
  | .data value => machine.state?.bind (·.onData? value)

/-- Moves along an edge and records the switch. -/
def take (edge : Edge κ) (machine : Machine κ) : Machine κ :=
  let record : Record := {
    source := machine.status
    target := machine.table.nameAt edge.targetIndex
    trigger := edge.trigger
    time := machine.clock }
  { machine with current := edge.targetIndex, history := machine.history.record record }

end Machine

end TableMachine
