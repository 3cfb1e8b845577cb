import TableMachine.Machine.Report

/-!
# What lines say

The lines that a machine writes about dispatches, told by what they say: which stimulus hit and led
from where to where, which one missed and where, and what failed after a switch. Each line of the
machine is the text of one such notice.
-/

namespace TableMachine

variable {κ : Type}

inductive Notice where
  /-- The stimulus led from the source to the target, and the edge has an action or not. -/
  | hit (stimulus : Stimulus) (source target : String) (acts : Bool)
  | miss (stimulus : Stimulus) (status : String)
  | failure (status : String) (why : Failure)

namespace Notice

def text : Notice → String
  | .hit (.event name) source target acts =>
    "on_event() > switching to: " ++ target ++ (", e: " ++ name) ++ ", from: " ++ source ++
      ", action: " ++ (if acts then "true" else "false")
  | .hit (.data value) source target acts =>
    "on_condition() > switching to: " ++ target ++ (", d: " ++ value.render) ++ ", from: " ++
      source ++ ", action: " ++ (if acts then "true" else "false")
  | .miss (.event name) status =>
    "on_event() no switch evt e: " ++ name ++ ", from: " ++ status
  | .miss (.data value) status =>
    "on_condition() no switch cond d: " ++ value.render ++ ", from: " ++ status
  | .failure status why =>
    "action failed after switching to: " ++ status ++ ", error: " ++ why.message

end Notice

namespace Machine

theorem hitLine_eq (machine : Machine κ) (edge : Edge κ) (stimulus : Stimulus) :
    machine.hitLine edge stimulus =
      (Notice.hit stimulus machine.status edge.target edge.hasAction).text := by
  cases stimulus <;> rfl

theorem missLine_eq (machine : Machine κ) (stimulus : Stimulus) :
    machine.missLine stimulus = (Notice.miss stimulus machine.status).text := by
  cases stimulus <;> rfl

theorem failureLine_eq (machine : Machine κ) (why : Failure) :
    machine.failureLine why = (Notice.failure machine.status why).text :=
  rfl

end Machine

end TableMachine
