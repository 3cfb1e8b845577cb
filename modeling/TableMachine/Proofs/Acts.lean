import TableMachine.Proofs.Integrity

/-!
# What befalls a machine

A machine answers stimuli and is edited by its owner or by callbacks; nothing else changes it.
Answering is only the first half of a dispatch: the steps run later, and all that they do to the
machine is a list of such acts again.
-/

namespace TableMachine

variable {κ : Type}

/-- A change that no stimulus makes. -/
inductive Edit (κ : Type) where
  | register (name : String) (callback : κ)
  | unregister (name : String)
  | limitHistory (limit : Option Nat)
  | clearHistory
  | setLogger (logger : Logger)
  | setClock (clock : Instant)

def Edit.apply : Edit κ → Machine κ → Machine κ
  | .register name callback, machine => machine.register name callback
  | .unregister name, machine => machine.unregister name
  | .limitHistory limit, machine => machine.limitHistory limit
  | .clearHistory, machine => machine.clearHistory
  | .setLogger logger, machine => machine.setLogger logger
  | .setClock clock, machine => machine.setClock clock

inductive Act (κ : Type) where
  /-- The current state answers, or does not. -/
  | answer (stimulus : Stimulus)
  | edit (change : Edit κ)

namespace Machine

/-- The record of the switch along an edge. -/
def switchAlong (edge : Edge κ) (machine : Machine κ) : Record :=
  { source := machine.status
    target := machine.table.nameAt edge.targetIndex
    trigger := edge.trigger
    time := machine.clock }

/-- The switch with which the machine answers, if it does. -/
def switch? (stimulus : Stimulus) (machine : Machine κ) : Option Record :=
  (machine.answer? stimulus).map (machine.switchAlong ·)

/-- Moves if the current state answers. -/
def answer (stimulus : Stimulus) (machine : Machine κ) : Machine κ :=
  match machine.answer? stimulus with
  | none => machine
  | some edge => machine.take edge

theorem take_eq (edge : Edge κ) (machine : Machine κ) : machine.take edge =
    { machine with
      current := edge.targetIndex
      history := machine.history.record (machine.switchAlong edge) } := rfl

end Machine

namespace Act

def apply : Act κ → Machine κ → Machine κ
  | .answer stimulus, machine => machine.answer stimulus
  | .edit change, machine => change.apply machine

def switch? : Act κ → Machine κ → Option Record
  | .answer stimulus, machine => machine.switch? stimulus
  | .edit _, _ => none

/-- Whether the act leaves the history alone, but for the switch that it makes. -/
def sparesHistory : Act κ → Bool
  | .edit (.limitHistory _) => false
  | .edit .clearHistory => false
  | _ => true

end Act

namespace Machine

/-- The machine that acts make of another. -/
def after (acts : List (Act κ)) (machine : Machine κ) : Machine κ :=
  acts.foldl (fun machine act => act.apply machine) machine

/-- The switches that acts make, in order. -/
def switches : List (Act κ) → Machine κ → List Record
  | [], _ => []
  | act :: rest, machine => (act.switch? machine).toList ++ switches rest (act.apply machine)

theorem after_append (first second : List (Act κ)) (machine : Machine κ) :
    machine.after (first ++ second) = (machine.after first).after second :=
  List.foldl_append

theorem switches_append (first second : List (Act κ)) (machine : Machine κ) :
    switches (first ++ second) machine =
      switches first machine ++ switches second (machine.after first) := by
  induction first generalizing machine with
  | nil => rfl
  | cons act rest ih =>
    rw [List.cons_append, switches, switches, ih, List.append_assoc]
    rfl

/-- What every act keeps, any list of acts keeps. -/
theorem after_keeps {P : Machine κ → Prop}
    (kept : ∀ (act : Act κ) (machine : Machine κ), P machine → P (act.apply machine))
    (acts : List (Act κ)) {machine : Machine κ} (before : P machine) : P (machine.after acts) := by
  induction acts generalizing machine with
  | nil => exact before
  | cons act rest ih => exact ih (kept act machine before)

/-- An edit leaves the table and the current state as they are. -/
theorem edit_apply_stays (change : Edit κ) (machine : Machine κ) :
    (change.apply machine).table = machine.table ∧
      (change.apply machine).current = machine.current := by
  cases change <;> exact ⟨rfl, rfl⟩

theorem status_edit_apply (change : Edit κ) (machine : Machine κ) :
    (change.apply machine).status = machine.status := by
  obtain ⟨same, stays⟩ := edit_apply_stays change machine
  rw [status, status, same, stays]

/-- An edge that answers is one of the current state. -/
theorem answer?_mem_edges {machine : Machine κ} {stimulus : Stimulus} {edge : Edge κ}
    (answered : machine.answer? stimulus = some edge) :
    ∃ state, machine.state? = some state ∧ edge ∈ state.edges := by
  cases stimulus with
  | event name =>
    obtain ⟨state, standing, chosen⟩ := Option.bind_eq_some_iff.mp answered
    exact ⟨state, standing, State.onEvent?_mem_edges chosen⟩
  | data value =>
    obtain ⟨state, standing, chosen⟩ := Option.bind_eq_some_iff.mp answered
    exact ⟨state, standing, List.mem_append_right _ (State.onData?_mem_conditions chosen)⟩

/-- The machine has the table, and stands in a state of it that has a name. -/
structure Stands (table : Table κ) (machine : Machine κ) : Prop where
  table_eq : machine.table = table
  standing : ∃ state, table.at? machine.current = some state ∧ state.name ≠ ""

theorem Stands.current {table : Table κ} {machine : Machine κ} (stands : Stands table machine) :
    ∃ state, table.at? machine.current = some state ∧ machine.state? = some state ∧
      machine.status = state.name ∧ state.name ≠ "" := by
  obtain ⟨same, state, standing, filled⟩ := stands
  have here : machine.state? = some state := by rw [state?, same, standing]
  exact ⟨state, standing, here, Table.nameAt_eq here, filled⟩

theorem stands_ofTable {table : Table κ} (intact : table.Intact) (actions : Registry κ)
    (logger : Logger) : Stands table (ofTable table actions logger) :=
  ⟨rfl, intact.initial_named⟩

/-- An edge that answers leads to a state of the table that has the name of its target. -/
theorem Stands.target_at? {table : Table κ} (intact : table.Intact) {machine : Machine κ}
    (stands : Stands table machine) {stimulus : Stimulus} {edge : Edge κ}
    (answered : machine.answer? stimulus = some edge) :
    ∃ target, table.at? edge.targetIndex = some target ∧ target.name = edge.target ∧
      edge.target ≠ "" := by
  obtain ⟨state, standing, leaving⟩ := answer?_mem_edges answered
  rw [state?, stands.table_eq] at standing
  exact intact.targets state (List.mem_of_getElem? standing) edge leaving

theorem Stands.nameAt_target {table : Table κ} (intact : table.Intact) {machine : Machine κ}
    (stands : Stands table machine) {stimulus : Stimulus} {edge : Edge κ}
    (answered : machine.answer? stimulus = some edge) :
    machine.table.nameAt edge.targetIndex = edge.target := by
  obtain ⟨target, reached, named, _⟩ := stands.target_at? intact answered
  rw [stands.table_eq, Table.nameAt_eq reached, named]

theorem stands_apply {table : Table κ} (intact : table.Intact) (act : Act κ)
    (machine : Machine κ) (stands : Stands table machine) : Stands table (act.apply machine) := by
  cases act with
  | edit change =>
    obtain ⟨same, stays⟩ := edit_apply_stays change machine
    exact ⟨same.trans stands.table_eq, by rw [Act.apply, stays]; exact stands.standing⟩
  | answer stimulus =>
    simp only [Act.apply, answer]
    split
    · exact stands
    next edge answered =>
      obtain ⟨target, reached, named, filled⟩ := stands.target_at? intact answered
      exact ⟨stands.table_eq, target, reached, named ▸ filled⟩

theorem Stands.take {table : Table κ} (intact : table.Intact) {machine : Machine κ}
    (stands : Stands table machine) {stimulus : Stimulus} {edge : Edge κ}
    (answered : machine.answer? stimulus = some edge) : Stands table (machine.take edge) := by
  have applied := stands_apply intact (.answer stimulus) machine stands
  simpa only [Act.apply, answer, answered] using applied

end Machine

end TableMachine
