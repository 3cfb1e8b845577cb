import TableMachine.History
import TableMachine.Instant.Reader
import TableMachine.Json.Shape

/-!
# Reading exported forms

A form is read from a JSON value or from a JSON text. A record is an object, whose unknown members
do not matter, or the list of its fields in order; a field with a default may be missing. A choice
is an object with one member, or a bare name where the choice carries nothing.
-/

namespace TableMachine

namespace Form

/-- The values of the named fields, each of them if it is there. -/
def fields? (names : List String) : Json → Option (List (Option Json))
  | .object members => some (names.map fun name => members.lookup name)
  | .array items =>
    if items.length ≤ names.length then
      some (items.map some ++ List.replicate (names.length - items.length) none)
    else none
  | _ => none

/-- The name of the choice, and what it carries. -/
def choice? : Json → Option (String × Option Json)
  | .text name => some (name, none)
  | .object [(name, value)] => some (name, some value)
  | _ => none

def text? : Json → Option String
  | .text s => some s
  | _ => none

def bool? : Json → Option Bool
  | .bool b => some b
  | _ => none

def list? {α : Type} (item? : Json → Option α) : Json → Option (List α)
  | .array items => items.mapM item?
  | _ => none

def pair? {α β : Type} (first? : Json → Option α) (second? : Json → Option β) :
    Json → Option (α × β)
  | .array [a, b] => do return (← first? a, ← second? b)
  | _ => none

/-- An integer that is not negative. -/
def count? : Json → Option Nat
  | .number (.int n) => if 0 ≤ n then some n.toNat else none
  | _ => none

/-- A default for a field that is not there. -/
def orDefault {α : Type} (default : α) (read? : Json → Option α) : Option Json → Option α
  | none => some default
  | some value => read? value

end Form

open Form

def Pattern.ofJson? (form : Json) : Option Pattern := do
  match ← choice? form with
  | ("Any", none) | ("Any", some .null) => return .any
  | ("Exact", some value) => return .exact value
  | _ => none

/-- The entries are required one after the other, so that the last pattern of a key counts. -/
def Condition.ofEntries (entries : List (String × Pattern)) (relaxed : Bool) : Condition :=
  let c := entries.foldl (fun c entry => c.require entry.1 entry.2) {}
  if relaxed then c.relax else c

def Condition.ofJson? (form : Json) : Option Condition := do
  match ← fields? ["entries", "relaxed"] form with
  | [entries, relaxed] =>
    let entries ← list? (pair? text? Pattern.ofJson?) (← entries)
    return ofEntries entries (← orDefault false bool? relaxed)
  | _ => none

def Trigger.ofJson? (form : Json) : Option Trigger := do
  match ← choice? form with
  | ("Event", some name) => return .event (← text? name)
  | ("Condition", some c) => return .condition (← Condition.ofJson? c)
  | _ => none

def Record.ofJson? (form : Json) : Option Record := do
  match ← fields? ["from", "to", "trigger", "timestamp"] form with
  | [source, target, trigger, time] =>
    return {
      source := ← text? (← source)
      target := ← text? (← target)
      trigger := ← Trigger.ofJson? (← trigger)
      time := ← Instant.ofText? (← text? (← time)) }
  | _ => none

/-- The records are taken as they are, however many they are. -/
def History.ofJson? (form : Json) : Option History := do
  match ← fields? ["transitions", "limit"] form with
  | [records, limit] =>
    return {
      records := ← list? Record.ofJson? (← records)
      limit := ← orDefault none limit? limit }
  | _ => none
where
  limit? : Json → Option (Option Nat)
    | .null => some none
    | value => (count? value).map some

namespace Shape

def pattern : Shape := .choice [("Any", .any), ("Exact", .any)]

def condition : Shape :=
  .record [("entries", .list (.pair .any pattern)), ("relaxed", .any)]

def trigger : Shape := .choice [("Event", .any), ("Condition", condition)]

def switch : Shape :=
  .record [("from", .any), ("to", .any), ("trigger", trigger), ("timestamp", .any)]

def history : Shape := .record [("transitions", .list switch), ("limit", .any)]

end Shape

namespace Form

/-- Reads a text that holds one value of the shape. -/
def ofText? {α : Type} (shape : Shape) (ofJson? : Json → Option α) (text : String) : Option α :=
  (Document.ofText? text).bind fun document =>
    (document.read? Document.room shape).bind ofJson?

end Form

end TableMachine
