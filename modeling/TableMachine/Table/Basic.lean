import TableMachine.Selection
import TableMachine.Action.Basic
import TableMachine.Trigger

/-!
# Tables

The compiled form of a draft. A state has one edge for each event that it answers to, and its
condition edges in the order of declaration. Each edge knows its target by name and by place.
-/

namespace TableMachine

variable {κ : Type}

structure Edge (κ : Type) where
  target : String
  trigger : Trigger
  steps : List (Step κ)
  targetIndex : Nat

namespace Edge

def hasAction (edge : Edge κ) : Bool :=
  !edge.steps.isEmpty

def condition? (edge : Edge κ) : Option Condition :=
  edge.trigger.condition?

end Edge

structure State (κ : Type) where
  name : String
  events : Roster (Edge κ) := []
  conditions : List (Edge κ) := []

namespace State

def onEvent? (state : State κ) (event : String) : Option (Edge κ) :=
  state.events.get? event

/-- The condition edge that wins for the data. -/
def onData? (state : State κ) (data : Json) : Option (Edge κ) :=
  Selection.winner? Edge.condition? data state.conditions

/-- The place of the winning edge among the condition edges. -/
def placeOnData? (state : State κ) (data : Json) : Option Nat :=
  Selection.place? Edge.condition? data state.conditions

end State

structure Table (κ : Type) where
  states : List (State κ)
  index : Roster Nat
  initial : Nat

namespace Table

def at? (table : Table κ) (place : Nat) : Option (State κ) :=
  table.states[place]?

def state? (table : Table κ) (name : String) : Option (State κ) :=
  (table.index.get? name).bind table.at?

def has (table : Table κ) (name : String) : Bool :=
  table.index.has name

/-- The name of the state at a place, and an empty name where there is none. -/
def nameAt (table : Table κ) (place : Nat) : String :=
  ((table.at? place).map State.name).getD ""

def initialName (table : Table κ) : String :=
  table.nameAt table.initial

def size (table : Table κ) : Nat :=
  table.states.length

end Table

end TableMachine
