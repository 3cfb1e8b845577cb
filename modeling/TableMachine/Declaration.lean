import TableMachine.Trigger
import TableMachine.Action.Basic

/-!
# Declarations

One line of a table as its author writes it: what to answer to, where to go and what to do there.
Nothing is checked before the table is compiled.
-/

namespace TableMachine

variable {κ : Type}

/-- Any of the events, or any of the conditions. -/
inductive Selector where
  | events (names : List String)
  | conditions (conditions : List Condition)
deriving Inhabited

structure Declaration (κ : Type) where
  selector : Option Selector := none
  target : Option String := none
  action : Option (Action κ) := none

namespace Declaration

def onEvents (names : List String) (d : Declaration κ) : Declaration κ :=
  { d with selector := some (.events names) }

def onConditions (conditions : List Condition) (d : Declaration κ) : Declaration κ :=
  { d with selector := some (.conditions conditions) }

def goTo (state : String) (d : Declaration κ) : Declaration κ :=
  { d with target := some state }

def perform (action : Action κ) (d : Declaration κ) : Declaration κ :=
  { d with action := some action }

def steps (d : Declaration κ) : List (Step κ) :=
  (d.action.map Action.steps).getD []

end Declaration

end TableMachine
