import TableMachine.Machine.Basic
import TableMachine.Proofs.Ranking

/-!
# What declarations answer

The declarations of a state say by themselves what it answers: an event by the last declaration
that lists it, data by the declaration of the condition that ranks first. Nothing compiled is needed
to read this off.
-/

namespace TableMachine

variable {κ : Type}

namespace Declaration

/-- Whether the declaration lists the event. -/
def listens (event : String) (d : Declaration κ) : Bool :=
  match d.selector with
  | some (.events names) => names.contains event
  | _ => false

/-- The conditions that the declaration lists. -/
def conditions (d : Declaration κ) : List Condition :=
  match d.selector with
  | some (.conditions conditions) => conditions
  | _ => []

def lastListening? (event : String) (declarations : List (Declaration κ)) :
    Option (Declaration κ) :=
  declarations.reverse.find? (listens event)

/-- Every condition beside the declaration that lists it, in the order of declaration. -/
def branches (declarations : List (Declaration κ)) : List (Condition × Declaration κ) :=
  declarations.flatMap fun d => d.conditions.map fun c => (c, d)

/-- The first branch that the data meets exactly; failing that, the first met through a wildcard. -/
def winningBranch? (data : Json) (declarations : List (Declaration κ)) :
    Option (Condition × Declaration κ) :=
  let first grade := Selection.firstMeeting? (fun branch => some branch.1) data grade
    (branches declarations)
  (first .exact).or (first .wildcard)

/-- The declaration that answers a stimulus, and what in it does. -/
def response? (declarations : List (Declaration κ)) : Stimulus → Option (Trigger × Declaration κ)
  | .event name => (lastListening? name declarations).map fun d => (.event name, d)
  | .data value => (winningBranch? value declarations).map fun b => (.condition b.1, b.2)

theorem lastListening?_concat (event : String) (declarations : List (Declaration κ))
    (d : Declaration κ) :
    lastListening? event (declarations ++ [d]) =
      if d.listens event then some d else lastListening? event declarations := by
  simp only [lastListening?, List.reverse_append, List.reverse_singleton, List.singleton_append,
    List.find?_cons]
  cases d.listens event <;> rfl

theorem lastListening?_mem {event : String} {declarations : List (Declaration κ)}
    {d : Declaration κ} (found : lastListening? event declarations = some d) :
    d ∈ declarations :=
  List.mem_reverse.mp (List.mem_of_find?_eq_some found)

theorem branches_concat (declarations : List (Declaration κ)) (d : Declaration κ) :
    branches (declarations ++ [d]) = branches declarations ++ d.conditions.map fun c => (c, d) := by
  simp [branches]

theorem branches_mem {declarations : List (Declaration κ)} {branch : Condition × Declaration κ}
    (member : branch ∈ branches declarations) : branch.2 ∈ declarations := by
  simp only [branches, List.mem_flatMap, List.mem_map] at member
  obtain ⟨d, listed, c, _, rfl⟩ := member
  exact listed

theorem winningBranch?_eq_winner? (data : Json) (declarations : List (Declaration κ)) :
    winningBranch? data declarations =
      Selection.winner? (fun branch => some branch.1) data (branches declarations) :=
  (Selection.winner?_eq_ranked _ data _).symm

theorem response?_mem {declarations : List (Declaration κ)} {stimulus : Stimulus}
    {trigger : Trigger} {d : Declaration κ}
    (answered : response? declarations stimulus = some (trigger, d)) : d ∈ declarations := by
  cases stimulus with
  | event name =>
    obtain ⟨_, found, same⟩ := Option.map_eq_some_iff.mp answered
    cases same
    exact lastListening?_mem found
  | data value =>
    obtain ⟨branch, won, same⟩ := Option.map_eq_some_iff.mp answered
    cases same
    rw [winningBranch?_eq_winner?] at won
    exact branches_mem (Selection.winner?_mem won)

end Declaration

end TableMachine
