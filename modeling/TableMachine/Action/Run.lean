import TableMachine.Action.Basic
import TableMachine.Failure

/-!
# Running steps

Steps run from left to right over a state. A name is looked up when its step is reached, so it
means what the steps before it have left registered. The first failure ends the run.
-/

namespace TableMachine

variable {κ σ : Type}

/-- What becomes of a state, and whether it failed. -/
abbrev Effect (σ : Type) := σ → σ × Except Failure Unit

namespace Effect

def succeed : Effect σ := fun s => (s, .ok ())

/-- The second effect follows if the first does not fail. -/
def andThen (first second : Effect σ) : Effect σ := fun s =>
  match first s with
  | (s, .ok ()) => second s
  | (s, .error why) => (s, .error why)

end Effect

/-- How a state finds and calls callbacks. -/
structure Calling (κ σ : Type) where
  lookup? : σ → String → Option κ
  call : κ → List Json → Effect σ

namespace Calling

def runStep (calling : Calling κ σ) (step : Step κ) : Effect σ := fun s =>
  match step.callable with
  | .callback callback => calling.call callback step.arguments s
  | .named name =>
    match calling.lookup? s name with
    | some callback => calling.call callback step.arguments s
    | none => (s, .error (.undefinedAction name))

def runSteps (calling : Calling κ σ) : List (Step κ) → Effect σ
  | [] => .succeed
  | step :: rest => (calling.runStep step).andThen (calling.runSteps rest)

end Calling

end TableMachine
