import TableMachine.Declaration

/-!
# Drafts

A table as its author writes it: the initial state, and the declarations of each state in order.
Declaring a state again replaces its declarations where they stand.
-/

namespace TableMachine

variable {κ : Type}

structure Draft (κ : Type) where
  initial : Option String := none
  states : Roster (List (Declaration κ)) := []

namespace Draft

def startAt (state : String) (draft : Draft κ) : Draft κ :=
  { draft with initial := some state }

def declare (state : String) (declarations : List (Declaration κ)) (draft : Draft κ) : Draft κ :=
  { draft with states := draft.states.put state declarations }

def declarations? (draft : Draft κ) (state : String) : Option (List (Declaration κ)) :=
  draft.states.get? state

/-- Adds one declaration to a state, which need not have been declared. -/
def extend (state : String) (declaration : Declaration κ) (draft : Draft κ) : Draft κ :=
  draft.declare state ((draft.declarations? state).getD [] ++ [declaration])

def has (draft : Draft κ) (state : String) : Bool :=
  draft.states.has state

def size (draft : Draft κ) : Nat :=
  draft.states.length

end Draft

end TableMachine
