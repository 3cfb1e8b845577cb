import TableMachine.Machine.Basic

/-!
# The lines that a machine writes

One line when it starts, one for each stimulus before anything is called, and one for each dispatch
that fails.
-/

namespace TableMachine

variable {κ : Type}

namespace Machine

def startLine (machine : Machine κ) : String :=
  "init(), initialized, v: " ++ version ++ ", init state: " ++ machine.status ++ ", nStates: " ++
    toString machine.table.size

def missLine (machine : Machine κ) : Stimulus → String
  | .event name => "on_event() no switch evt e: " ++ name ++ ", from: " ++ machine.status
  | .data value =>
    "on_condition() no switch cond d: " ++ value.render ++ ", from: " ++ machine.status

def hitLine (machine : Machine κ) (edge : Edge κ) (stimulus : Stimulus) : String :=
  let (opening, detail) := match stimulus with
    | .event name => ("on_event() > switching to: ", ", e: " ++ name)
    | .data value => ("on_condition() > switching to: ", ", d: " ++ value.render)
  opening ++ edge.target ++ detail ++ ", from: " ++ machine.status ++ ", action: " ++
    (if edge.hasAction then "true" else "false")

/-- Names the state that the machine is in by now. -/
def failureLine (machine : Machine κ) (why : Failure) : String :=
  "action failed after switching to: " ++ machine.status ++ ", error: " ++ why.message

end Machine

end TableMachine
