import TableMachine.Proofs.Scripts

/-!
# Logs and histories only observe

Whether a machine keeps its lines, how many records it keeps, what time it gives them and when they
are cleared decides nothing, where callbacks do not depend on what the history tells. Hosts that
differ in no more than this are twins. A dispatch in any mode keeps them twins and comes to the same
on both, since the history is all of it that scripts can read.
-/

namespace TableMachine

variable {κ σ : Type}

/-- Whether the edit concerns no more than what is told of the machine. -/
def Edit.observing : Edit κ → Bool
  | .limitHistory _ | .clearHistory | .setLogger _ | .setClock _ => true
  | .register _ _ | .unregister _ => false

theorem Edit.brings_of_observing {fine : κ → Prop} {change : Edit κ}
    (observing : change.observing = true) : (Act.edit change).Brings fine := by
  cases change with
  | register | unregister => cases observing
  | limitHistory | clearHistory | setLogger | setClock => trivial

/-- The callback does the same whatever history it is shown. -/
abbrev Callback.Blind : Callback σ → Prop :=
  Callback.Steady (fun _ _ => True) Eq

namespace Host

/-- The hosts differ in their loggers, histories and clocks only, and by the lines written. -/
structure Twins (a b : Host σ) : Prop where
  data : a.data = b.data
  table : a.machine.table = b.machine.table
  current : a.machine.current = b.machine.current
  actions : a.machine.actions = b.machine.actions
  calls : a.calls = b.calls

namespace Twins

variable {a b : Host σ}

theorem status (twins : Twins a b) : a.status = b.status := by
  unfold Host.status Machine.status
  rw [twins.table, twins.current]

theorem writeLine (twins : Twins a b) (text other : String) :
    Twins (a.writeLine text) (b.writeLine other) where
  data := by
    simp only [Host.writeLine, Context.data_writeLine]
    exact twins.data
  table := twins.table
  current := twins.current
  actions := twins.actions
  calls := by
    simp only [Host.writeLine, Context.calls_writeLine]
    exact twins.calls

theorem note (twins : Twins a b) {entry : Entry} (other : entry.line? = none) :
    Twins (a.note entry) (b.note entry) where
  data := twins.data
  table := twins.table
  current := twins.current
  actions := twins.actions
  calls := by
    simp only [Host.note, Context.calls_note other]
    exact congrArg (· ++ [entry]) twins.calls

theorem store (twins : Twins a b) (data : σ) : Twins { a with data } { b with data } :=
  ⟨rfl, twins.table, twins.current, twins.actions, twins.calls⟩

theorem take (twins : Twins a b) (edge : Edge (Callback σ)) :
    Twins (a.onMachine (·.take edge)) (b.onMachine (·.take edge)) :=
  ⟨twins.data, twins.table, rfl, twins.actions, twins.calls⟩

theorem edit (twins : Twins a b) (change : Edit (Callback σ)) :
    Twins (a.onMachine change.apply) (b.onMachine change.apply) := by
  cases change with
  | register name callback =>
    exact ⟨twins.data, twins.table, twins.current,
      congrArg (Roster.put name callback) twins.actions, twins.calls⟩
  | unregister name =>
    exact ⟨twins.data, twins.table, twins.current, congrArg (Roster.drop name) twins.actions,
      twins.calls⟩
  | limitHistory | clearHistory | setLogger | setClock =>
    exact ⟨twins.data, twins.table, twins.current, twins.actions, twins.calls⟩

theorem symm (twins : Twins a b) : Twins b a :=
  ⟨twins.data.symm, twins.table.symm, twins.current.symm, twins.actions.symm, twins.calls.symm⟩

/-- A host is still a twin when only what is told of its machine has been edited. -/
theorem observed (twins : Twins a b) {change : Edit (Callback σ)}
    (observing : change.observing = true) : Twins a (b.onMachine change.apply) := by
  cases change with
  | register | unregister => cases observing
  | limitHistory | clearHistory | setLogger | setClock =>
    exact ⟨twins.data, twins.table, twins.current, twins.actions, twins.calls⟩

end Twins

theorem correlates_twins : Correlates (Twins : Host σ → Host σ → Prop) where
  table := Twins.table
  current := Twins.current
  missed := fun _ twins => twins.writeLine _ _
  moved := fun _ edge twins => (twins.writeLine _ _).take edge
  failed := fun _ twins => twins.writeLine _ _

theorem indistinct_twins :
    Indistinct (Twins : Host σ → Host σ → Prop) (fun _ _ => True) Eq where
  toCorresponds := correlates_twins.corresponds
  data := Twins.data
  actions := Twins.actions
  history := fun _ => trivial
  stored := fun data twins => twins.store data
  noted := fun _ other twins => twins.note other
  edited := fun change twins => twins.edit change

/-- Twins on which only callbacks are called that do not depend on the history. -/
abbrev BlindTwins : Host σ → Host σ → Prop :=
  Matched Twins (fun _ _ => True) Eq

theorem serve_twins {request : Request σ} (blind : request.act.Brings Callback.Blind)
    {a b : Host σ} (twins : BlindTwins a b) :
    Served.Alike BlindTwins (a.serve request) (b.serve request) := by
  refine indistinct_twins.serve ?_ blind twins
  cases request with
  | dispatch mode stimulus => exact .dispatch mode rfl
  | edit change => exact .edit change

/-- Whether the request concerns no more than what is told of the machine. -/
def Request.observing : Request σ → Bool
  | .dispatch _ _ => false
  | .edit change => change.observing

theorem serve_observing {request : Request σ} (observing : request.observing = true) {a b : Host σ}
    (twins : BlindTwins a b) :
    BlindTwins (a.serve request).host b ∧ BlindTwins a (b.serve request).host := by
  cases request with
  | dispatch mode stimulus => cases observing
  | edit change =>
    exact ⟨⟨(twins.related.symm.observed observing).symm,
      twins.steady.apply (Edit.brings_of_observing observing)⟩,
      ⟨twins.related.observed observing, twins.steady⟩⟩

/-- The requests have come to the same, and neither their owner nor callbacks could tell the hosts
apart by what is registered, by the status, by the calls made or by how nested dispatches ended. -/
structure Served.SameBehaviour (one two : Served σ) : Prop where
  result : one.result = two.result
  called : one.called = two.called
  status : one.host.status = two.host.status
  names : Roster.names one.host.machine.actions = Roster.names two.host.machine.actions
  calls : one.host.calls = two.host.calls

theorem twins_ofMachine (table : Table (Callback σ)) (actions : Registry (Callback σ))
    (logger other : Logger) (limit bound : Option Nat) (data : σ) :
    Twins (ofMachine ((Machine.ofTable table actions logger).limitHistory limit) data)
      (ofMachine ((Machine.ofTable table actions other).limitHistory bound) data) where
  data := by simp only [ofMachine, Machine.start, Context.data_writeLine]
  table := rfl
  current := rfl
  actions := rfl
  calls := by simp only [ofMachine, Machine.start, Context.calls_writeLine]

end Host

/-- Two machines of one table and one registry, all of whose callbacks do the same whatever history
they are shown, behave alike request by request, in whatever modes they are dispatched to, however
their lines are kept and their histories bounded, and whatever requests are put in between that only
bound or clear a history, or set a logger or a clock. -/
theorem observers_decide_nothing (table : Table (Callback σ)) (actions : Registry (Callback σ))
    (blind : table.CallsOnly actions Callback.Blind) (logger other : Logger)
    (limit bound : Option Nat) (data : σ) (first second : List (Host.Request σ))
    (brings : ∀ request ∈ first, request.act.Brings Callback.Blind)
    (same : first.filter (!·.observing) = second.filter (!·.observing)) :
    List.Forall₂ Host.Served.SameBehaviour
      (Host.session (!·.observing) first
        (Host.ofMachine ((Machine.ofTable table actions logger).limitHistory limit) data))
      (Host.session (!·.observing) second
        (Host.ofMachine ((Machine.ofTable table actions other).limitHistory bound) data)) := by
  have twins : Host.BlindTwins _ _ :=
    ⟨Host.twins_ofMachine table actions logger other limit bound data, blind⟩
  have hidden : ∀ request : Host.Request σ, (!request.observing) = false →
      request.observing = true := fun request hide => by simpa using hide
  have agree := Host.session_agree id (·.act.Brings Callback.Blind) twins
    (fun request hide a b twins => (Host.serve_observing (hidden request hide) twins).1)
    (fun request hide a b twins => (Host.serve_observing (hidden request hide) twins).2)
    (fun request other blind asks a b twins => by
      cases (show request = other from asks)
      exact Host.serve_twins blind twins)
    brings (congrArg (List.map id) same)
  refine agree.imp fun one two served =>
    ⟨served.result, served.called, served.host.related.status, ?_, served.host.related.calls⟩
  rw [served.host.related.actions]

namespace Door

/-- Tells the names that are registered, and overlooks the history that it is shown. -/
def census : Callback Unit := fun _ =>
  .history fun _ => .names fun names => .mark "census" ((names.getD []).map .text) .done

/-- The door is pushed, loses its bell, and is pushed again by someone outside. Then it is given
another bell, and is slammed and knocked at. -/
def visits : List (Host.Request Unit) := [
  .dispatch (.owned 1) (.event "push"),
  .edit (.unregister "ring"),
  .dispatch .apart (.event "push"),
  .edit (.register "ring" census),
  .dispatch (.owned 0) (.event "slam"),
  .dispatch (.owned 0) (.event "knock")]

/-- The same visits, while someone tampers with what the door remembers. -/
def watchedVisits : List (Host.Request Unit) := [
  .edit (.limitHistory (some 1)),
  .dispatch (.owned 1) (.event "push"),
  .edit .clearHistory,
  .edit (.unregister "ring"),
  .edit (.limitHistory none),
  .dispatch .apart (.event "push"),
  .edit (.register "ring" census),
  .dispatch (.owned 0) (.event "slam"),
  .edit (.setLogger .silent),
  .dispatch (.owned 0) (.event "knock")]

theorem bell_blind : Callback.Blind bell :=
  fun _ => .mark _ _ (.dispatch rfl fun _ => .fail _)

theorem census_blind : Callback.Blind census :=
  fun _ => .history fun _ _ _ => .names fun _ => .mark _ _ .done

theorem blind : table.CallsOnly actions Callback.Blind := by
  refine .of_named (fun entry member => ?_) (by decide)
  cases List.mem_singleton.mp member
  exact bell_blind

end Door

theorem watched_door_behaves :
    Door.table.CallsOnly Door.actions Callback.Blind ∧
      (∀ request ∈ Door.visits, request.act.Brings Callback.Blind) ∧
      Door.visits.filter (!·.observing) = Door.watchedVisits.filter (!·.observing) ∧
      (Host.session (!·.observing) Door.visits
          (Host.ofMachine ((Machine.ofTable Door.table Door.actions .silent).limitHistory (some 0))
            ())).map Host.Served.result =
        [some (.error (.failed "cracked")), none, some (.error (.undefinedAction "ring")), none,
          some (.ok (.moved "open" "shut")), some (.ok (.moved "shut" "open"))] ∧
      List.Forall₂ Host.Served.SameBehaviour
        (Host.session (!·.observing) Door.visits
          (Host.ofMachine ((Machine.ofTable Door.table Door.actions .silent).limitHistory (some 0))
            ()))
        (Host.session (!·.observing) Door.watchedVisits
          (Host.ofMachine ((Machine.ofTable Door.table Door.actions .recording).limitHistory none)
            ())) := by
  have brings : ∀ request ∈ Door.visits, request.act.Brings Callback.Blind := by
    simp [Door.visits, Host.Request.act, Act.Brings, Door.census_blind]
  exact ⟨Door.blind, brings, rfl, rfl,
    observers_decide_nothing Door.table Door.actions Door.blind .silent .recording (some 0) none ()
      Door.visits Door.watchedVisits brings rfl⟩

end TableMachine
