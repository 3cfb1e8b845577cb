import TableMachine.Proofs.Histories
import TableMachine.Proofs.Likeness
import TableMachine.Proofs.Scripts

/-!
# Machines that ask the same

Machines of alike tables are counterparts. Data that are the same move them along alike edges, which
have the same steps, so whatever callbacks do finds counterparts again, unless one is shown a
trigger in the history and dispatches other data for how it prints. The lines that counterparts
write may differ, since the two zeros print differently; what they do does not.
-/

namespace TableMachine

variable {κ σ : Type}

/-- The histories have one limit, and their records are the same one by one. -/
structure History.Alike (h other : History) : Prop where
  limit : h.limit = other.limit
  records : List.Forall₂ (fun r s => Record.same r s = true) h.records other.records

namespace History.Alike

variable {h other : History}

theorem trim (alike : h.Alike other) : h.trim.Alike other.trim where
  limit := by rw [limit_trim, limit_trim, alike.limit]
  records := by
    unfold History.trim
    rw [alike.limit]
    cases other.limit with
    | none => exact alike.records
    | some bound =>
      simp only [alike.records.length_eq]
      exact List.forall₂_drop _ alike.records

theorem record (alike : h.Alike other) {r s : Record} (same : r.same s = true) :
    (h.record r).Alike (other.record s) :=
  trim ⟨alike.limit, List.rel_append alike.records (.cons same .nil)⟩

theorem setLimit (alike : h.Alike other) (limit : Option Nat) :
    (h.setLimit limit).Alike (other.setLimit limit) :=
  trim ⟨rfl, alike.records⟩

theorem clear (alike : h.Alike other) : h.clear.Alike other.clear :=
  ⟨alike.limit, .nil⟩

end History.Alike

inductive Stimulus.Alike : Stimulus → Stimulus → Prop
  | event (name : String) : Alike (.event name) (.event name)
  | data {data held : Json} (same : data.same held = true) : Alike (.data data) (.data held)

/-- In alike tables, alike stimuli are answered by alike edges. -/
theorem Machine.answer?_alike {machine other : Machine κ} (table : machine.table.Alike other.table)
    (current : machine.current = other.current) {stimulus counterpart : Stimulus}
    (asked : stimulus.Alike counterpart) :
    Option.Rel Edge.Alike (machine.answer? stimulus) (other.answer? counterpart) := by
  have here := table.at? machine.current
  rcases none_or_some_of_rel here with
    ⟨missing, missingToo⟩ | ⟨state, stateToo, found, foundToo, alike⟩
  · cases asked <;> simp only [answer?, state?, ← current, missing, missingToo] <;> exact .none
  · cases asked with
    | event name =>
      simp only [answer?, state?, ← current, found, foundToo]
      exact alike.onEvent? name
    | data same =>
      simp only [answer?, state?, ← current, found, foundToo]
      exact alike.onData? same

namespace Host

/-- The hosts differ by conditions that are the same, in their tables and in the triggers that their
histories keep, and by the lines written. -/
structure Counterparts (a b : Host σ) : Prop where
  data : a.data = b.data
  table : a.machine.table.Alike b.machine.table
  current : a.machine.current = b.machine.current
  actions : a.machine.actions = b.machine.actions
  clock : a.machine.clock = b.machine.clock
  history : a.machine.history.Alike b.machine.history
  calls : a.calls = b.calls

namespace Counterparts

variable {a b : Host σ}

theorem status (pair : Counterparts a b) : a.status = b.status := by
  unfold Host.status Machine.status
  rw [pair.table.nameAt, pair.current]

theorem writeLine (pair : Counterparts a b) (text other : String) :
    Counterparts (a.writeLine text) (b.writeLine other) :=
  { pair with
    data := by
      simp only [Host.writeLine, Context.data_writeLine]
      exact pair.data
    calls := by
      simp only [Host.writeLine, Context.calls_writeLine]
      exact pair.calls }

theorem note (pair : Counterparts a b) {entry : Entry} (other : entry.line? = none) :
    Counterparts (a.note entry) (b.note entry) :=
  { pair with
    calls := by
      simp only [Host.note, Context.calls_note other]
      exact congrArg (· ++ [entry]) pair.calls }

theorem store (pair : Counterparts a b) (data : σ) :
    Counterparts { a with data } { b with data } :=
  { pair with data := rfl }

theorem take (pair : Counterparts a b) {edge counterpart : Edge (Callback σ)}
    (alike : edge.Alike counterpart) :
    Counterparts (a.onMachine (·.take edge)) (b.onMachine (·.take counterpart)) := by
  have switches : (a.machine.switchAlong edge).same (b.machine.switchAlong counterpart) = true := by
    have status : a.machine.status = b.machine.status := pair.status
    simp [Machine.switchAlong, Record.same, status, pair.clock, pair.table.nameAt,
      alike.targetIndex, alike.trigger]
  exact { pair with current := alike.targetIndex, history := pair.history.record switches }

theorem edit (pair : Counterparts a b) (change : Edit (Callback σ)) :
    Counterparts (a.onMachine change.apply) (b.onMachine change.apply) := by
  cases change with
  | register name callback =>
    exact { pair with actions := congrArg (Roster.put name callback) pair.actions }
  | unregister name =>
    exact { pair with actions := congrArg (Roster.drop name) pair.actions }
  | limitHistory limit => exact { pair with history := pair.history.setLimit limit }
  | clearHistory => exact { pair with history := pair.history.clear }
  | setLogger logger => exact { pair with }
  | setClock clock => exact { pair with clock := rfl }

end Counterparts

theorem indistinct_counterparts :
    Indistinct (Counterparts : Host σ → Host σ → Prop) History.Alike Stimulus.Alike where
  status := Counterparts.status
  answers := fun pair asked => by
    rcases none_or_some_of_rel (Machine.answer?_alike pair.table pair.current asked) with
      ⟨missed, missedToo⟩ | ⟨edge, counterpart, answered, answeredToo, alike⟩
    · rw [missed, missedToo]
      exact .none
    · rw [answered, answeredToo]
      exact .some ⟨alike.steps, (pair.writeLine _ _).take alike⟩
  missed := fun pair _ => pair.writeLine _ _
  failed := fun _ pair => pair.writeLine _ _
  data := Counterparts.data
  actions := Counterparts.actions
  history := Counterparts.history
  stored := fun data pair => pair.store data
  noted := fun _ other pair => pair.note other
  edited := fun change pair => pair.edit change

theorem counterparts_ofMachine {table counterpart : Table (Callback σ)}
    (alike : table.Alike counterpart) (actions : Registry (Callback σ)) (logger : Logger)
    (limit : Option Nat) (data : σ) :
    Counterparts (ofMachine ((Machine.ofTable table actions logger).limitHistory limit) data)
      (ofMachine ((Machine.ofTable counterpart actions logger).limitHistory limit) data) where
  data := by simp only [ofMachine, Machine.start, Context.data_writeLine]
  table := alike
  current := alike.initial
  actions := rfl
  clock := rfl
  history := History.Alike.setLimit ⟨rfl, .nil⟩ limit
  calls := by simp only [ofMachine, Machine.start, Context.calls_writeLine]

/-- The requests have come to the same: they switched between the same states by triggers that are
the same, if at all, and called the same callbacks with the same arguments. -/
structure Served.SameSwitches (one two : Served σ) : Prop where
  result : one.result = two.result
  called : one.called = two.called
  status : one.host.status = two.host.status
  history : one.host.machine.history.Alike two.host.machine.history
  calls : one.host.calls = two.host.calls

end Host

/-- Conditions that are the same grade data that are the same alike, and candidates that ask the
same one by one have their winner in the same place. So drafts that differ by nothing but conditions
that are the same compile to tables that do, and in the same state, machines of such tables answer
data that are the same by alike edges. They take the same switches request by request, when they are
asked the same by data that are the same, by callbacks too when these are shown alike histories. -/
theorem matching_respects_sameness :
    (∀ (c d : Condition) (data held : Json), c.same d = true → data.same held = true →
        c.grade? data = d.grade? held) ∧
      (∀ (α β : Type) (conditionOf : α → Option Condition) (other : β → Option Condition)
        (as : List α) (bs : List β) (data held : Json),
        List.Forall₂ (Selection.AskSame conditionOf other) as bs → data.same held = true →
          Selection.place? conditionOf data as = Selection.place? other held bs) ∧
      (∀ (draft other : Draft (Callback σ)) (actions : Registry (Callback σ))
        (table : Table (Callback σ)), draft.Alike other → draft.compile actions = .ok table →
          ∃ counterpart, other.compile actions = .ok counterpart ∧ table.Alike counterpart) ∧
      (∀ (machine other : Machine (Callback σ)) (stimulus counterpart : Stimulus),
        machine.table.Alike other.table → machine.current = other.current →
          stimulus.Alike counterpart →
            Option.Rel Edge.Alike (machine.answer? stimulus) (other.answer? counterpart)) ∧
      ∀ (table counterpart : Table (Callback σ)) (actions : Registry (Callback σ))
        (logger : Logger) (limit : Option Nat) (data : σ) (first second : List (Host.Request σ)),
        table.Alike counterpart →
          table.CallsOnly actions (Callback.Steady History.Alike Stimulus.Alike) →
          (∀ request ∈ first,
            request.act.Brings (Callback.Steady History.Alike Stimulus.Alike)) →
          List.Forall₂ (Host.Request.Asks Stimulus.Alike) first second →
          List.Forall₂ Host.Served.SameSwitches
            (Host.session (fun _ => true) first
              (Host.ofMachine ((Machine.ofTable table actions logger).limitHistory limit) data))
            (Host.session (fun _ => true) second
              (Host.ofMachine ((Machine.ofTable counterpart actions logger).limitHistory limit)
                data)) := by
  refine ⟨fun _ _ _ _ => Condition.grade?_congr, fun _ _ _ _ _ _ _ _ => Selection.place?_congr,
    fun _ _ _ _ alike => alike.compile,
    fun _ _ _ _ table current asked => Machine.answer?_alike table current asked, ?_⟩
  intro table counterpart actions logger limit data first second alike steady brings asks
  have pair := Host.counterparts_ofMachine alike actions logger limit data
  have agree := Host.indistinct_counterparts.session asks brings ⟨pair, steady⟩
  exact agree.imp fun one two served => ⟨served.result, served.called, served.host.related.status,
    served.host.related.history, served.host.related.calls⟩

/-! A valve: it is at rest when nothing flows, and a turn lets it flow again. It drips on the turn,
which shuts it once more. -/

namespace Valve

/-- No flow, as a double of either sign. -/
def flow (negative : Bool) : Json :=
  .number (.double (.zero negative))

def report (negative : Bool) : Json :=
  .object [("flow", flow negative)]

def still (negative : Bool) : Condition :=
  Condition.requireValue "flow" (flow negative) {}

/-- Reports no flow, with the sign with which the history prints it. -/
def drip : Callback Unit := fun arguments =>
  .history fun seen => .mark "drip" arguments <|
    .require (.data (report (seen.any fun history =>
      history.records.any fun record => record.trigger.text = (still true).text))) .done

def actions : Registry (Callback Unit) := [("drip", drip)]

def draft (negative : Bool) : Draft (Callback Unit) where
  initial := some "open"
  states := [
    ("open", [Declaration.onConditions [still negative] (Declaration.goTo "shut" {})]),
    ("shut", [Declaration.onEvents ["turn"]
      (Declaration.goTo "open" (Declaration.perform (.named "drip") {}))])]

def table (negative : Bool) : Table (Callback Unit) where
  states := [
    { name := "open", conditions := [⟨"shut", .condition (still negative), [], 1⟩] },
    { name := "shut"
      events := [("turn", ⟨"open", .event "turn", [⟨.named "drip", []⟩], 0⟩)] }]
  index := [("open", 0), ("shut", 1)]
  initial := 0

def host (negative : Bool) : Host Unit :=
  Host.ofMachine ((Machine.ofTable (table negative) actions .recording).limitHistory none) ()

def shutting (negative : Bool) : List (Host.Request Unit) := [
  .dispatch (.owned 0) (.data (report negative)),
  .dispatch (.owned 1) (.event "turn"),
  .dispatch .apart (.event "turn")]

theorem still_same : (still false).same (still true) = true := by
  decide +kernel

theorem draft_alike : (draft false).Alike (draft true) where
  initial := rfl
  states := .cons ⟨rfl, .cons ⟨.some (.conditions (.cons still_same .nil)), rfl, rfl⟩ .nil⟩
    (.cons ⟨rfl, .cons ⟨.some (.events _), rfl, rfl⟩ .nil⟩ .nil)

theorem compiled (negative : Bool) : (draft negative).compile actions = .ok (table negative) := rfl

theorem report_same (negative other : Bool) :
    (report negative).same (report other) = true := by
  cases negative <;> cases other <;> decide +kernel

theorem drip_steady : Callback.Steady History.Alike Stimulus.Alike drip :=
  fun arguments => .history fun seen shown _ =>
    .mark _ _ (.dispatch (.data (report_same _ _)) fun result => by
      cases result with
      | ok _ => exact .done
      | error why => exact .fail why)

theorem steady (negative : Bool) :
    (table negative).CallsOnly actions (Callback.Steady History.Alike Stimulus.Alike) := by
  refine .of_named (fun entry member => ?_) ?_
  · cases List.mem_singleton.mp member
    exact drip_steady
  · cases negative <;> decide

end Valve

/-- A condition that prints otherwise shuts the valve as well, and so does what then drips. -/
theorem valve_shuts_alike :
    (Valve.still false).text = "\x7bflow: 0.0\x7d" ∧
      (Valve.still true).text = "\x7bflow: -0.0\x7d" ∧
      (Valve.still false).same (Valve.still true) = true ∧
      (Valve.still false).grade? (Valve.report true) = some .exact ∧
      (Valve.table false).CallsOnly Valve.actions
        (Callback.Steady History.Alike Stimulus.Alike) ∧
      (Host.session (fun _ => true) (Valve.shutting false) (Valve.host false)).map
          (fun served => (served.result, served.host.status)) =
        [(some (.ok (.moved "open" "shut")), "shut"), (some (.ok (.moved "shut" "open")), "shut"),
          (some (.error (.failed "no machine")), "open")] ∧
      List.Forall₂ Host.Served.SameSwitches
        (Host.session (fun _ => true) (Valve.shutting false) (Valve.host false))
        (Host.session (fun _ => true) (Valve.shutting true) (Valve.host true)) := by
  obtain ⟨grades, _, compiles, _, sessions⟩ := matching_respects_sameness (σ := Unit)
  obtain ⟨counterpart, compiled, alike⟩ :=
    compiles _ _ Valve.actions _ Valve.draft_alike (Valve.compiled false)
  cases (Valve.compiled true).symm.trans compiled
  have brings : ∀ request ∈ Valve.shutting false,
      request.act.Brings (Callback.Steady History.Alike Stimulus.Alike) := by
    simp [Valve.shutting, Host.Request.act, Act.Brings]
  refine ⟨by decide +kernel, by decide +kernel, Valve.still_same, ?_, Valve.steady false,
    by decide +kernel, ?_⟩
  · rw [grades _ _ _ _ (Valve.still false).same_refl (Valve.report_same true false)]
    decide +kernel
  · exact sessions _ _ Valve.actions .recording none () _ _ alike (Valve.steady false) brings
      (.cons (.dispatch _ (.data (Valve.report_same false true)))
        (.cons (.dispatch _ (.event _)) (.cons (.dispatch _ (.event _)) .nil)))

end TableMachine
