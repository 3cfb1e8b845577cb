import TableMachine.Json.Basic
import TableMachine.Roster

/-!
# Actions

An action is a tree of calls. A leaf calls a callback, or whatever is registered under a name when
the leaf is reached. `Action.steps` gives the leaves in order, each with its arguments.
-/

namespace TableMachine

variable {κ : Type}

inductive Callable (κ : Type) where
  | callback (callback : κ)
  | named (name : String)
deriving Inhabited

namespace Callable

def name? : Callable κ → Option String
  | .callback _ => none
  | .named name => some name

end Callable

inductive Action (κ : Type) where
  | call (callable : Callable κ)
  | apply (callable : Callable κ) (payload : Json)
  | sequence (members : List (Action κ))

structure Step (κ : Type) where
  callable : Callable κ
  arguments : List Json

/-- The arguments that a payload stands for: the items of an array, or the payload alone. -/
def Json.spread : Json → List Json
  | .array items => items
  | value => [value]

namespace Action

def named (name : String) : Action κ :=
  .call (.named name)

mutual

/-- Gives the payload to every leaf, in place of the one it had. -/
def withPayload (payload : Json) : Action κ → Action κ
  | .call callable => .apply callable payload
  | .apply callable _ => .apply callable payload
  | .sequence members => .sequence (withPayloads payload members)

def withPayloads (payload : Json) : List (Action κ) → List (Action κ)
  | [] => []
  | member :: rest => withPayload payload member :: withPayloads payload rest

end

mutual

def steps : Action κ → List (Step κ)
  | .call callable => [⟨callable, []⟩]
  | .apply callable payload => [⟨callable, payload.spread⟩]
  | .sequence members => stepsOfAll members

def stepsOfAll : List (Action κ) → List (Step κ)
  | [] => []
  | member :: rest => steps member ++ stepsOfAll rest

end

end Action

/-- Callbacks under the names by which actions call them. -/
abbrev Registry (κ : Type) := Roster κ

namespace Step

/-- The names that steps call by, in order. -/
def names (steps : List (Step κ)) : List String :=
  steps.filterMap fun step => step.callable.name?

/-- The first name called that is not registered; nothing is called to find it. -/
def firstMissing? (registry : Registry κ) (steps : List (Step κ)) : Option String :=
  (names steps).find? fun name => !registry.has name

theorem firstMissing?_eq_none_iff (registry : Registry κ) (steps : List (Step κ)) :
    firstMissing? registry steps = none ↔ ∀ name ∈ names steps, registry.has name = true := by
  simp [firstMissing?, List.find?_eq_none]

theorem firstMissing?_eq_some_iff (registry : Registry κ) (steps : List (Step κ)) (name : String) :
    firstMissing? registry steps = some name ↔ registry.has name = false ∧
      ∃ before after, names steps = before ++ name :: after ∧
        ∀ earlier ∈ before, registry.has earlier = true := by
  simp [firstMissing?, List.find?_eq_some_iff_append]

end Step

end TableMachine
