import TableMachine.Script.Basic

/-!
# Scripts written as instructions

A callback given as a label and a list of instructions. When it is called it marks the call, then
follows the instructions in order until one fails.
-/

namespace TableMachine

variable {σ : Type}

namespace Stimulus

/-- The event that an argument names, and the empty name where the argument is no text. -/
def eventArgument (place : Nat) (arguments : List Json) : Stimulus :=
  match arguments[place]? with
  | some (.text name) => .event name
  | _ => .event ""

/-- The argument as data; a missing argument is null. -/
def dataArgument (place : Nat) (arguments : List Json) : Stimulus :=
  .data (arguments[place]?.getD .null)

end Stimulus

inductive Instruction (σ : Type) where
  | fail (why : Failure)
  | failOn (value : Json) (why : Failure)
  /-- What is dispatched may depend on the arguments. -/
  | require (stimulus : List Json → Stimulus)
  | attempt (stimulus : List Json → Stimulus)
  | register (name : String) (callback : Callback σ)
  | unregister (name : String)
  | limitHistory (limit : Option Nat)
  | clearHistory

namespace Instruction

/-- The script that follows the instruction and goes on with `next`. -/
def before (arguments : List Json) (instruction : Instruction σ) (next : Script σ) : Script σ :=
  match instruction with
  | .fail why => .fail why
  | .failOn value why => if arguments.any value.same then .fail why else next
  | .require stimulus => .require (stimulus arguments) next
  | .attempt stimulus => .attempt (stimulus arguments) next
  | .register name callback => .register name callback next
  | .unregister name => .unregister name next
  | .limitHistory limit => .limitHistory limit next
  | .clearHistory => .clearHistory next

end Instruction

/-- The callback of a label and its instructions. -/
def Callback.ofInstructions (label : String) (instructions : List (Instruction σ)) : Callback σ :=
  fun arguments => .mark label arguments (instructions.foldr (·.before arguments) .done)

end TableMachine
