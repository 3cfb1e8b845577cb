import TableMachine.Host.Context

/-!
# Hosts

A host is a context that owns its machine. Callbacks run against the host, so their scripts may
look at the machine, dispatch again, change the registry and bound the history while the dispatch
that called them is under way. A dispatch moves the machine first and runs the steps of the edge
then; nothing that a step does takes the move back or changes which steps follow.
-/

namespace TableMachine

variable {σ : Type}

structure Host (σ : Type) extends Context σ where
  machine : Machine (Callback σ)

namespace Host

/-- How a host answers a dispatch. -/
abbrev Handler (σ : Type) := Stimulus → Host σ → Host σ × Except Failure Outcome

/-- The room that a program gives to a dispatch. A machine sets no bound to how deep callbacks
dispatch: this one only makes the program total, and what is proved of dispatches is proved for any
room. -/
def nestingLimit : Nat := 20

/-- How a script fails that dispatches where no room is left. -/
def tooDeep : Failure := .failed "too deep"

def status (host : Host σ) : String :=
  host.machine.status

def note (entry : Entry) (host : Host σ) : Host σ :=
  { host with toContext := host.toContext.note entry }

def writeLine (text : String) (host : Host σ) : Host σ :=
  { host with toContext := host.toContext.writeLine host.machine.logger text }

/-- Acts on the machine of the host. -/
def onMachine (change : Machine (Callback σ) → Machine (Callback σ)) (host : Host σ) : Host σ :=
  { host with machine := change host.machine }

/-- Runs a script. Where there is no handler left for dispatches, a script that dispatches fails. -/
def run (nested : Option (Handler σ)) : Script σ → Effect (Host σ)
  | .done, host => (host, .ok ())
  | .fail why, host => (host, .error why)
  | .load next, host => run nested (next host.data) host
  | .store data next, host => run nested next { host with data }
  | .status next, host => run nested (next (some host.status)) host
  | .history next, host => run nested (next (some host.machine.history)) host
  | .names next, host => run nested (next (some host.machine.actions.sortedNames)) host
  | .mark label arguments next, host =>
    run nested next (host.note (.call label arguments (some host.status)))
  | .dispatch stimulus next, host =>
    match nested with
    | none => (host, .error tooDeep)
    | some handler =>
      let (host, result) := handler stimulus host
      run nested (next result) (host.note (.nested result))
  | .register name callback next, host =>
    run nested next (host.onMachine (·.register name callback))
  | .unregister name next, host => run nested next (host.onMachine (·.unregister name))
  | .limitHistory limit next, host => run nested next (host.onMachine (·.limitHistory limit))
  | .clearHistory next, host => run nested next (host.onMachine (·.clearHistory))

/-- Names are looked up in the registry of the host's machine. -/
def calling (nested : Option (Handler σ)) : Calling (Callback σ) (Host σ) where
  lookup? := fun host name => host.machine.actions.get? name
  call := fun callback arguments => run nested (callback arguments)

/-- Answers a stimulus, where `nested` answers those that callbacks dispatch on the way. -/
def react (nested : Option (Handler σ)) : Handler σ := fun stimulus host =>
  match host.machine.answer? stimulus with
  | none => (host.writeLine (host.machine.missLine stimulus), .ok .unmatched)
  | some edge =>
    let noted := host.writeLine (host.machine.hitLine edge stimulus)
    let moved := noted.onMachine (·.take edge)
    match (calling nested).runSteps edge.steps moved with
    | (after, .ok ()) => (after, .ok (.moved host.status moved.status))
    | (after, .error why) => (after.writeLine (after.machine.failureLine why), .error why)

/-- Dispatches with room for so many dispatches one inside the other below this one. -/
def dispatchWithin : Nat → Handler σ
  | 0 => react none
  | depth + 1 => react (some (dispatchWithin depth))

def dispatch : Handler σ :=
  dispatchWithin nestingLimit

/-- A host of a new machine; the machine writes its first line. -/
def ofMachine (machine : Machine (Callback σ)) (data : σ) : Host σ :=
  { toContext := machine.start { data }, machine }

/-- Empties the journal. -/
def clearJournal (host : Host σ) : Host σ :=
  { host with journal := #[] }

end Host

end TableMachine
