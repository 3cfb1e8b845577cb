import TableMachine.Inspect.Layout
import TableMachine.Machine.Builder

/-!
# Inspected values

The text in which each kind of value is shown for inspection. Names that have no order of their own
are shown sorted.
-/

namespace TableMachine

open Inspect

variable {κ : Type}

namespace Json

mutual

def inspect : Json → String
  | .null => "Null"
  | .bool b => tuple "Bool" [Inspect.bool b]
  | .number n => tuple "Number" [n.text]
  | .text s => tuple "String" [Inspect.quoted s]
  | .array items => "Array " ++ Inspect.list (inspectItems items)
  | .object members => "Object " ++ Inspect.map (inspectMembers members)

def inspectItems : List Json → List String
  | [] => []
  | item :: rest => inspect item :: inspectItems rest

def inspectMembers : List (String × Json) → List (String × String)
  | [] => []
  | member :: rest => inspectMember member :: inspectMembers rest

def inspectMember : String × Json → String × String
  | (key, value) => (Inspect.quoted key, inspect value)

end

end Json

def Pattern.inspect : Pattern → String
  | .any => "Any"
  | .exact value => tuple "Exact" [value.inspect]

/-- The name under which the wildcard is shown. -/
def Pattern.wildcardName : String := "Wildcard"

def Condition.inspect (c : Condition) : String :=
  record "ConditionSpec"
    [("entries", list (c.entries.map fun entry => tuple "" [quoted entry.1, entry.2.inspect])),
      ("relaxed", bool c.relaxed), ("key_count", toString c.keyCount)]

def Trigger.inspect : Trigger → String
  | .event name => tuple "Event" [quoted name]
  | .condition c => tuple "Condition" [c.inspect]

def Callable.inspect : Callable κ → String
  | .callback _ => "Func(<callback>)"
  | .named name => tuple "Named" [quoted name]

namespace Action

mutual

def inspect : Action κ → String
  | .call callable => tuple "Call" [callable.inspect]
  | .apply callable payload =>
    record "Apply" [("func", callable.inspect), ("args", payload.inspect)]
  | .sequence members => tuple "Seq" [list (inspectAll members)]

def inspectAll : List (Action κ) → List String
  | [] => []
  | member :: rest => inspect member :: inspectAll rest

end

end Action

def Step.inspect (step : Step κ) : String :=
  record "ActionStep"
    [("callable", step.callable.inspect), ("args", list (step.arguments.map Json.inspect))]

def Registry.inspect (actions : Registry κ) : String :=
  record "ActionRegistry" [("actions", list (actions.sortedNames.map quoted))]

def Selector.inspect : Selector → String
  | .events names => tuple "Events" [list (names.map quoted)]
  | .conditions cs => tuple "Conditions" [list (cs.map Condition.inspect)]

def Declaration.inspect (d : Declaration κ) : String :=
  record "TransitionBuilder"
    [("selector", option Selector.inspect d.selector), ("to", option quoted d.target),
      ("action", option Action.inspect d.action)]

def Draft.inspect (draft : Draft κ) : String :=
  record "RawTable"
    [("initial", option quoted draft.initial),
      ("states", list (draft.states.map fun entry =>
        tuple "" [quoted entry.1, list (entry.2.map Declaration.inspect)]))]

def Edge.inspect (edge : Edge κ) : String :=
  record "Transition"
    [("target", quoted edge.target), ("trigger", edge.trigger.inspect),
      ("action", list (edge.steps.map Step.inspect))]

def State.inspect (state : State κ) : String :=
  record "CompiledState"
    [("name", quoted state.name),
      ("events", Inspect.map (state.events.map fun entry => (quoted entry.1, entry.2.inspect))),
      ("conditions", list (state.conditions.map Edge.inspect))]

def Table.inspect (table : Table κ) : String :=
  record "StateTable"
    [("initial", quoted table.initialName), ("states", list (table.states.map State.inspect))]

def Logger.inspect (logger : Logger) : String :=
  record "Logger" [("silent", bool logger.isSilent)]

def Machine.inspect (machine : Machine κ) : String :=
  record "Machine"
    [("status", quoted machine.status), ("states", toString machine.table.size),
      ("actions", Registry.inspect machine.actions), ("history", toString machine.history.size)]

/-- A machine that is the context of its own actions. -/
def Machine.inspectAlone (machine : Machine κ) : String :=
  record "StateMachine" [("machine", machine.inspect)]

def Builder.inspect (b : Builder κ) : String :=
  record "MachineBuilder"
    [("table", b.draft.inspect), ("actions", Registry.inspect b.actions),
      ("logger", b.logger.inspect), ("history_limit", option toString b.historyLimit)]

end TableMachine
