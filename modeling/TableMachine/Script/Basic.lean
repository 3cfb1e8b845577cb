import TableMachine.Machine.Basic

/-!
# Scripts

What a callback does is a script: one instruction at a time, where what follows may depend on what
came back. Instructions read and change the data of the context; where the context owns a machine,
they look at its status, its history and the names that it has registered, and act on it. Its table
never changes, so what a script would read there it can as well know beforehand. A callback gives
its script once it knows its arguments.
-/

namespace TableMachine

variable {σ : Type}

inductive Script (σ : Type) where
  | done
  | fail (why : Failure)
  /-- Reads the data of the context. -/
  | load (next : σ → Script σ)
  | store (data : σ) (next : Script σ)
  /-- Reads the status of the machine, if the context owns one. -/
  | status (next : Option String → Script σ)
  | history (next : Option History → Script σ)
  /-- Reads which names are registered, in the order of their characters. -/
  | names (next : Option (List String) → Script σ)
  /-- Notes in the journal that the callback of this label was called. -/
  | mark (label : String) (arguments : List Json) (next : Script σ)
  | dispatch (stimulus : Stimulus) (next : Except Failure Outcome → Script σ)
  | register (name : String) (callback : List Json → Script σ) (next : Script σ)
  | unregister (name : String) (next : Script σ)
  | limitHistory (limit : Option Nat) (next : Script σ)
  | clearHistory (next : Script σ)

abbrev Callback (σ : Type) := List Json → Script σ

namespace Script

/-- Dispatches, and fails where the dispatch fails. -/
def require (stimulus : Stimulus) (next : Script σ) : Script σ :=
  .dispatch stimulus fun
    | .ok _ => next
    | .error why => .fail why

/-- Dispatches, and goes on whatever comes of it. -/
def attempt (stimulus : Stimulus) (next : Script σ) : Script σ :=
  .dispatch stimulus fun _ => next

end Script

end TableMachine
