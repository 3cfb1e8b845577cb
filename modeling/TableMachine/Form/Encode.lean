import TableMachine.History

/-!
# Exported forms

The JSON values in which conditions, triggers and histories leave the library.
-/

namespace TableMachine

def Pattern.toJson : Pattern → Json
  | .any => .text "Any"
  | .exact value => Json.ofMembers [("Exact", value)]

def Condition.toJson (c : Condition) : Json :=
  Json.ofMembers
    [("entries", .array (c.entries.map fun entry => .array [.text entry.1, entry.2.toJson])),
      ("relaxed", .bool c.relaxed)]

def Trigger.toJson : Trigger → Json
  | .event name => Json.ofMembers [("Event", .text name)]
  | .condition c => Json.ofMembers [("Condition", c.toJson)]

def Record.toJson (r : Record) : Json :=
  Json.ofMembers
    [("from", .text r.source), ("to", .text r.target), ("trigger", r.trigger.toJson),
      ("timestamp", .text r.time.text)]

def History.toJson (h : History) : Json :=
  Json.ofMembers
    [("transitions", .array (h.records.map Record.toJson)),
      ("limit", (h.limit.map Json.nat).getD .null)]

end TableMachine
