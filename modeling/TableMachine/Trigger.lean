import TableMachine.Condition

/-!
# Triggers

What a single edge of a machine answers to: an event of one name, or data that meets a condition.
-/

namespace TableMachine

inductive Trigger where
  | event (name : String)
  | condition (condition : Condition)
deriving Inhabited

namespace Trigger

def event? : Trigger → Option String
  | .event name => some name
  | .condition _ => none

def condition? : Trigger → Option Condition
  | .event _ => none
  | .condition c => some c

def same : Trigger → Trigger → Bool
  | .event a, .event b => a == b
  | .condition a, .condition b => a.same b
  | _, _ => false

def text : Trigger → String
  | .event name => "event '" ++ name ++ "'"
  | .condition c => "cond " ++ c.text

end Trigger

end TableMachine
