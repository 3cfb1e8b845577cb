import Mathlib.Data.List.Chain
import TableMachine.Proofs.Histories
import TableMachine.Proofs.Life

/-!
# The history is a walk

The records that a machine keeps follow edges of its table, each from where the last one led, and
the newest leads to the state in which the machine stands. Dropping the oldest records leaves a
walk, and switching extends one; this is all that ever happens to a history, in whatever order
dispatches, limits and clearing come.
-/

namespace TableMachine

variable {κ σ : Type}

namespace Table

/-- The state of one name answers what triggers the edge by going to the state of the other. -/
def Links (table : Table κ) (source : String) (trigger : Trigger) (target : String) : Prop :=
  ∃ state, table.state? source = some state ∧
    match trigger with
    | .event name => ∃ edge, state.onEvent? name = some edge ∧ edge.target = target
    | .condition c => ∃ edge ∈ state.conditions, edge.trigger = .condition c ∧ edge.target = target

/-- The records lead along edges of the table to the state of this name, each from where the one
before it led. -/
structure Walk (table : Table κ) (status : String) (records : List Record) : Prop where
  joined : records.IsChain fun first second => first.target = second.source
  ends : ∀ last ∈ records.getLast?, last.target = status
  along : ∀ record ∈ records, table.Links record.source record.trigger record.target

theorem walk_nil (table : Table κ) (status : String) : table.Walk status [] :=
  ⟨.nil, by simp, by simp⟩

theorem Walk.suffix {table : Table κ} {status : String} {records kept : List Record}
    (walk : table.Walk status records) (suffix : kept <:+ records) : table.Walk status kept := by
  obtain ⟨dropped, rfl⟩ := suffix
  refine ⟨walk.joined.right_of_append, ?_, ?_⟩
  · intro last newest
    apply walk.ends last
    rw [List.getLast?_append, Option.mem_def.mp newest]
    rfl
  · intro record member
    exact walk.along record (List.mem_append_right dropped member)

theorem Walk.extend {table : Table κ} {records : List Record} {record : Record}
    (walk : table.Walk record.source records)
    (link : table.Links record.source record.trigger record.target) :
    table.Walk record.target (records ++ [record]) := by
  refine ⟨walk.joined.append (.singleton record) ?_, ?_, ?_⟩
  · intro last newest next first
    cases first
    exact walk.ends last newest
  · intro last newest
    rw [List.getLast?_concat] at newest
    cases newest
    rfl
  · intro taken member
    rcases List.mem_append.mp member with before | now
    · exact walk.along taken before
    · cases List.mem_singleton.mp now
      exact link

end Table

namespace History

theorem path_eq_nil_iff (history : History) : history.path = [] ↔ history.records = [] := by
  unfold path
  cases history.records <;> simp

theorem length_path {history : History} (filled : history.records ≠ []) :
    history.path.length = history.records.length + 1 := by
  unfold path
  cases records : history.records with
  | nil => exact absurd records filled
  | cons first rest => simp

theorem path_of_joined {history : History}
    (joined : history.records.IsChain fun first second => first.target = second.source)
    {place : Nat} {record : Record} (kept : history.records[place]? = some record) :
    history.path[place]? = some record.source ∧ history.path[place + 1]? = some record.target := by
  unfold path
  generalize history.records = records at joined kept
  cases records with
  | nil => simp at kept
  | cons first rest =>
    refine ⟨?_, by rw [List.getElem?_cons_succ, List.getElem?_map, kept]; rfl⟩
    cases place with
    | zero =>
      cases kept
      rfl
    | succ place =>
      obtain ⟨inside, rfl⟩ := List.getElem?_eq_some_iff.mp kept
      have before := List.isChain_iff_getElem.mp joined place inside
      have bound : place < (first :: rest).length := Nat.lt_of_succ_lt inside
      simp only [List.getElem?_cons_succ, List.getElem?_map, List.getElem?_eq_getElem bound,
        Option.map_some, before]

end History

namespace Machine

/-- The machine stands in its table at the end of the walk that its history tells. -/
structure Roams (table : Table κ) (machine : Machine κ) : Prop extends Stands table machine where
  walk : table.Walk machine.status machine.history.records

theorem links_of_answer {table : Table κ} (intact : table.Intact) {machine : Machine κ}
    (stands : Stands table machine) {stimulus : Stimulus} {edge : Edge κ}
    (answered : machine.answer? stimulus = some edge) :
    table.Links machine.status edge.trigger edge.target := by
  obtain ⟨state, standing, here, status, _⟩ := stands.current
  have member := List.mem_of_getElem? standing
  refine ⟨state, status ▸ intact.state?_name standing, ?_⟩
  cases stimulus with
  | event name =>
    have chosen : state.onEvent? name = some edge := by
      simpa only [answer?, here, Option.bind_some] using answered
    rw [intact.event_triggers state member _ (Roster.mem_of_get?_eq_some chosen)]
    exact ⟨edge, chosen, rfl⟩
  | data value =>
    have chosen : state.onData? value = some edge := by
      simpa only [answer?, here, Option.bind_some] using answered
    have listed := State.onData?_mem_conditions chosen
    obtain ⟨c, triggered⟩ := intact.condition_triggers state member edge listed
    rw [triggered]
    exact ⟨edge, listed, triggered, rfl⟩

theorem roams_take {table : Table κ} (intact : table.Intact) {machine : Machine κ}
    (roams : Roams table machine) {stimulus : Stimulus} {edge : Edge κ}
    (answered : machine.answer? stimulus = some edge) : Roams table (machine.take edge) := by
  refine ⟨roams.toStands.take intact answered, ?_⟩
  have link : table.Links (machine.switchAlong edge).source (machine.switchAlong edge).trigger
      (machine.switchAlong edge).target := by
    rw [switchAlong, roams.toStands.nameAt_target intact answered]
    exact links_of_answer intact roams.toStands answered
  -- Recording may drop the oldest records, so what is kept is a suffix of the longer walk.
  have extended : table.Walk (machine.switchAlong edge).target
      (machine.history.records ++ [machine.switchAlong edge]) := roams.walk.extend link
  exact extended.suffix (History.record_suffix _ _)

theorem roams_apply {table : Table κ} (intact : table.Intact) (act : Act κ)
    (machine : Machine κ) (roams : Roams table machine) : Roams table (act.apply machine) := by
  cases act with
  | answer stimulus =>
    cases answered : machine.answer? stimulus with
    | none => simpa only [Act.apply, answer, answered] using roams
    | some edge => simpa only [Act.apply, answer, answered] using roams_take intact roams answered
  | edit change =>
    refine ⟨stands_apply intact (.edit change) machine roams.toStands, ?_⟩
    rw [Act.apply, status_edit_apply]
    cases change with
    | limitHistory limit => exact roams.walk.suffix (History.setLimit_suffix limit _)
    | clearHistory => exact table.walk_nil _
    | register name callback => exact roams.walk
    | unregister name => exact roams.walk
    | setLogger logger => exact roams.walk
    | setClock clock => exact roams.walk

theorem Reachable.roams {table : Table (Callback σ)} (intact : table.Intact)
    {machine : Machine (Callback σ)} (reachable : Reachable table machine) :
    Roams table machine :=
  reachable.keeps
    (fun actions logger => ⟨stands_ofTable intact actions logger, table.walk_nil _⟩)
    (roams_apply intact)

/-- Each record starts where the one before it ended, the newest ends in the current state, and each
follows an edge; the path goes through the states that the records name. -/
theorem history_is_walk (calls : List (Draft.Call (Callback σ)))
    (actions : Registry (Callback σ)) (table : Table (Callback σ))
    (compiled : (Draft.ofCalls calls).compile actions = .ok table)
    (machine : Machine (Callback σ)) (reachable : Reachable table machine) :
    let records := machine.history.records
    let path := machine.history.path
    (∀ place first second, records[place]? = some first → records[place + 1]? = some second →
        first.target = second.source) ∧
      (∀ last, records.getLast? = some last → last.target = machine.status) ∧
      (∀ record ∈ records, table.Links record.source record.trigger record.target) ∧
      (path = [] ↔ records = []) ∧
      (records ≠ [] → path.length = records.length + 1 ∧ path.getLast? = some machine.status ∧
        ∀ place record, records[place]? = some record →
          path[place]? = some record.source ∧ path[place + 1]? = some record.target) := by
  have walk := (reachable.roams (Draft.compile_intact compiled)).walk
  intro records path
  refine ⟨?_, walk.ends, walk.along, machine.history.path_eq_nil_iff, ?_⟩
  · intro place first second found next
    obtain ⟨inside, rfl⟩ := List.getElem?_eq_some_iff.mp next
    have joined := List.isChain_iff_getElem.mp walk.joined place inside
    rw [List.getElem?_eq_getElem (Nat.lt_of_succ_lt inside)] at found
    cases found
    exact joined
  · intro filled
    have length : path.length = records.length + 1 := History.length_path filled
    refine ⟨length, ?_, fun _ _ kept => History.path_of_joined walk.joined kept⟩
    have newest := List.getLast?_eq_some_getLast filled
    have arrived := walk.ends _ newest
    rw [List.getLast?_eq_getElem?] at newest
    have reached := (History.path_of_joined walk.joined newest).2
    have positive : 0 < records.length := List.length_pos_iff.mpr filled
    rw [Nat.sub_add_cancel positive, arrived] at reached
    rw [List.getLast?_eq_getElem?, length]
    exact reached

theorem pushed_door_walk :
    (Draft.ofCalls Door.calls).compile Door.actions = .ok Door.table ∧
      Reachable Door.table Door.pushed.machine ∧
      Door.pushed.machine.history.path = ["shut", "open", "shut"] ∧
      ∀ record ∈ Door.pushed.machine.history.records,
        Door.table.Links record.source record.trigger record.target := by
  obtain ⟨_, _, along, _⟩ := history_is_walk Door.calls Door.actions Door.table Door.compiled
    Door.pushed.machine Door.pushed_reachable
  exact ⟨Door.compiled, Door.pushed_reachable, rfl, along⟩

end Machine

end TableMachine
