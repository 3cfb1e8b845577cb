import TableMachine.Draft
import TableMachine.Table.Basic

/-!
# Compiling drafts

Compiling checks that the initial state and every target is declared, that every declaration has a
selector, and that every name it calls by is registered; it calls nothing. A declaration then gives
one edge for each of its events or conditions. `Draft.compile` stops at the first fault and
`Draft.faults` lists the first fault of every part.
-/

namespace TableMachine

variable {κ : Type}

/-- What is wrong with a draft. A declaration is told by its state and its position there. -/
inductive Fault where
  | undeclaredInitial (initial : String)
  | undeclaredTarget (state : String) (position : Nat) (target : String)
  | noSelector (state : String) (position : Nat)
  | unregisteredAction (state : String) (position : Nat) (name : String)
deriving DecidableEq, Inhabited

namespace Fault

def place (state : String) (position : Nat) : String :=
  "Transition #" ++ toString position ++ " of state '" ++ state ++ "'"

def message : Fault → String
  | .undeclaredInitial initial =>
    "Initial state (" ++ initial ++ ") not defined. Call .initial(state) with a declared state"
  | .undeclaredTarget state position target =>
    place state position ++ " targets undefined state '" ++ target ++ "'"
  | .noSelector state position => place state position ++ " has no event or condition"
  | .unregisteredAction state position name =>
    place state position ++ " uses action '" ++ name ++ "', which is not registered"

end Fault

/-- A declaration without fault. -/
structure Checked (κ : Type) where
  selector : Selector
  target : String
  targetIndex : Nat
  steps : List (Step κ)

namespace Checked

def edge (checked : Checked κ) (trigger : Trigger) : Edge κ :=
  { target := checked.target, trigger, steps := checked.steps, targetIndex := checked.targetIndex }

/-- Later edges for an event replace earlier ones; conditions line up. -/
def addTo (checked : Checked κ) (state : State κ) : State κ :=
  match checked.selector with
  | .events names =>
    { state with
      events := names.foldl (fun events name => events.put name (checked.edge (.event name)))
        state.events }
  | .conditions conditions =>
    { state with
      conditions := state.conditions ++ conditions.map fun c => checked.edge (.condition c) }

end Checked

namespace Draft

/-- The place of each declared state. -/
def index (draft : Draft κ) : Roster Nat :=
  draft.states.names.zipIdx

/-- A name that is missing or empty has no place. -/
def place? (index : Roster Nat) (name : Option String) : Option Nat :=
  match name with
  | none => none
  | some name => if name.isEmpty then none else index.get? name

def checkInitial (draft : Draft κ) : Except Fault Nat :=
  match place? draft.index draft.initial with
  | some place => .ok place
  | none => .error (.undeclaredInitial (draft.initial.getD ""))

def check (index : Roster Nat) (actions : Registry κ) (state : String) (position : Nat)
    (declaration : Declaration κ) : Except Fault (Checked κ) :=
  match declaration.selector with
  | none => .error (.noSelector state position)
  | some selector =>
    match place? index declaration.target with
    | none => .error (.undeclaredTarget state position (declaration.target.getD ""))
    | some targetIndex =>
      match Step.firstMissing? actions declaration.steps with
      | some name => .error (.unregisteredAction state position name)
      | none =>
        .ok {
          selector, targetIndex
          target := declaration.target.getD ""
          steps := declaration.steps }

def compileState (index : Roster Nat) (actions : Registry κ) (name : String)
    (declarations : List (Declaration κ)) : Except Fault (State κ) :=
  declarations.zipIdx.foldlM (fun state entry => do
    return (← check index actions name entry.2 entry.1).addTo state) { name }

def compile (draft : Draft κ) (actions : Registry κ) : Except Fault (Table κ) := do
  let initial ← draft.checkInitial
  let states ← draft.states.mapM fun entry => compileState draft.index actions entry.1 entry.2
  return { states, index := draft.index, initial }

def faultOf {α : Type} : Except Fault α → Option Fault
  | .ok _ => none
  | .error fault => some fault

/-- The fault of the initial state, then the first fault of each declaration. -/
def faults (draft : Draft κ) (actions : Registry κ) : List Fault :=
  (faultOf draft.checkInitial).toList ++
    draft.states.flatMap fun entry =>
      entry.2.zipIdx.filterMap fun declaration =>
        faultOf (check draft.index actions entry.1 declaration.2 declaration.1)

end Draft

end TableMachine
