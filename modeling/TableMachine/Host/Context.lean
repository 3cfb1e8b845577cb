import TableMachine.Action.Run
import TableMachine.Machine.Report
import TableMachine.Script.Basic

/-!
# Contexts

Callbacks run against a context: data of its own, and the journal of what happened. A context does
not own the machine that calls from it, so a script that acts on a machine fails there.
-/

namespace TableMachine

variable {σ : Type}

inductive Entry where
  /-- A line that a machine wrote to its logger. -/
  | line (text : String)
  /-- A callback was called, while the machine of its context had this status. -/
  | call (label : String) (arguments : List Json) (status : Option String)
  /-- A dispatch that a callback made has ended. -/
  | nested (result : Except Failure Outcome)

structure Context (σ : Type) where
  data : σ
  journal : Array Entry := #[]

namespace Context

def note (entry : Entry) (context : Context σ) : Context σ :=
  { context with journal := context.journal.push entry }

/-- A silent logger keeps nothing. -/
def writeLine (logger : Logger) (text : String) (context : Context σ) : Context σ :=
  match logger with
  | .silent => context
  | .recording => context.note (.line text)

def noMachine : Failure := .failed "no machine"

/-- Runs a script in a context that owns no machine. -/
def run : Script σ → Effect (Context σ)
  | .done, context => (context, .ok ())
  | .fail why, context => (context, .error why)
  | .load next, context => run (next context.data) context
  | .store data next, context => run next { context with data }
  | .status next, context => run (next none) context
  | .history next, context => run (next none) context
  | .names next, context => run (next none) context
  | .mark label arguments next, context => run next (context.note (.call label arguments none))
  | .dispatch _ _, context
  | .register _ _ _, context
  | .unregister _ _, context
  | .limitHistory _ _, context
  | .clearHistory _, context => (context, .error noMachine)

/-- Names are looked up in a registry that no callback can reach. -/
def calling (actions : Registry (Callback σ)) : Calling (Callback σ) (Context σ) where
  lookup? := fun _ name => actions.get? name
  call := fun callback arguments => run (callback arguments)

end Context

namespace Machine

/-- Writes the line with which a machine starts. -/
def start (machine : Machine (Callback σ)) (context : Context σ) : Context σ :=
  context.writeLine machine.logger machine.startLine

/-- Dispatches a stimulus; the steps run against a context that the machine does not belong to. -/
def dispatchIn (stimulus : Stimulus) (machine : Machine (Callback σ)) (context : Context σ) :
    Machine (Callback σ) × Context σ × Except Failure Outcome :=
  match machine.answer? stimulus with
  | none =>
    (machine, context.writeLine machine.logger (machine.missLine stimulus), .ok .unmatched)
  | some edge =>
    let moved := machine.take edge
    let noted := context.writeLine machine.logger (machine.hitLine edge stimulus)
    match (Context.calling moved.actions).runSteps edge.steps noted with
    | (context, .ok ()) => (moved, context, .ok (.moved machine.status moved.status))
    | (context, .error why) =>
      (moved, context.writeLine moved.logger (moved.failureLine why), .error why)

end Machine

end TableMachine
