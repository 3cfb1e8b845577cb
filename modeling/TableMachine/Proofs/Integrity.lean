import TableMachine.Proofs.Compiled
import TableMachine.Proofs.Drafts

/-!
# Tables whose parts refer to each other rightly

A table names its states twice: by place and by name. In an intact table the two agree, in the index
and in every edge, and no state is reached that has an empty name. Compiling gives intact tables
only.
-/

namespace TableMachine

variable {κ : Type}

namespace State

def edges (state : State κ) : List (Edge κ) :=
  state.events.map Prod.snd ++ state.conditions

theorem onEvent?_mem_edges {state : State κ} {event : String} {edge : Edge κ}
    (answered : state.onEvent? event = some edge) : edge ∈ state.edges := by
  have listed := Roster.mem_of_get?_eq_some answered
  exact List.mem_append_left _ (List.mem_map.mpr ⟨(event, edge), listed, rfl⟩)

theorem onData?_mem_conditions {state : State κ} {data : Json} {edge : Edge κ}
    (answered : state.onData? data = some edge) : edge ∈ state.conditions :=
  Selection.winner?_mem answered

/-- What the declarations of a state answer is what the state answers. -/
theorem Compiles.onData?_eq {index : Roster Nat} {actions : Registry κ}
    {declarations : List (Declaration κ)} {state : State κ}
    (compiles : state.Compiles index actions declarations) (data : Json) :
    state.onData? data = (Declaration.winningBranch? data declarations).map
      fun b => b.2.edge index (.condition b.1) := by
  rw [onData?, compiles.conditions_eq, Selection.winner?_map,
    Declaration.winningBranch?_eq_winner?]
  rfl

theorem Compiles.edges_mem {index : Roster Nat} {actions : Registry κ}
    {declarations : List (Declaration κ)} {state : State κ}
    (compiles : state.Compiles index actions declarations) {edge : Edge κ}
    (member : edge ∈ state.edges) :
    ∃ d ∈ declarations, edge = d.edge index edge.trigger := by
  rcases List.mem_append.mp member with event | condition
  · obtain ⟨entry, listed, rfl⟩ := List.mem_map.mp event
    obtain ⟨d, declared, same⟩ := compiles.events_mem entry listed
    exact ⟨d, declared, by rw [same]; rfl⟩
  · rw [compiles.conditions_eq] at condition
    obtain ⟨branch, listed, rfl⟩ := List.mem_map.mp condition
    exact ⟨branch.2, Declaration.branches_mem listed, rfl⟩

end State

namespace Table

structure Intact (table : Table κ) : Prop where
  names_distinct : (table.states.map State.name).Nodup
  index_iff : ∀ name place, table.index.get? name = some place ↔
    (table.at? place).map State.name = some name
  initial_named : ∃ state, table.at? table.initial = some state ∧ state.name ≠ ""
  targets : ∀ state ∈ table.states, ∀ edge ∈ state.edges,
    ∃ target, table.at? edge.targetIndex = some target ∧ target.name = edge.target ∧
      edge.target ≠ ""
  event_triggers : ∀ state ∈ table.states, ∀ entry ∈ state.events,
    entry.2.trigger = .event entry.1
  condition_triggers : ∀ state ∈ table.states, ∀ edge ∈ state.conditions,
    ∃ c, edge.trigger = .condition c

theorem Intact.state?_name {table : Table κ} (intact : table.Intact) {place : Nat}
    {state : State κ} (standing : table.at? place = some state) :
    table.state? state.name = some state := by
  have placed : table.index.get? state.name = some place :=
    (intact.index_iff state.name place).mpr (by rw [standing]; rfl)
  rw [state?, placed]
  exact standing

theorem nameAt_eq {table : Table κ} {place : Nat} {state : State κ}
    (standing : table.at? place = some state) : table.nameAt place = state.name := by
  rw [nameAt, standing]
  rfl

end Table

namespace Draft

theorem place?_eq_some {index : Roster Nat} {name : Option String} {place : Nat}
    (placed : place? index name = some place) :
    ∃ known, name = some known ∧ known ≠ "" ∧ index.get? known = some place := by
  unfold place? at placed
  split at placed
  · cases placed
  · next known =>
    split at placed
    · cases placed
    · next filled => exact ⟨known, rfl, by simpa using filled, placed⟩

namespace CompilesTo

variable {draft : Draft κ} {actions : Registry κ} {table : Table κ}

theorem names_eq (compiles : draft.CompilesTo actions table) :
    table.states.map State.name = draft.states.names := by
  have same : List.Forall₂ (· = ·) draft.states.names (table.states.map State.name) := by
    rw [Roster.names, List.forall₂_map_left_iff, List.forall₂_map_right_iff]
    exact compiles.states.imp fun _ _ made => made.1.symm
  rw [List.forall₂_eq_eq_eq] at same
  exact same.symm

theorem name_at? (compiles : draft.CompilesTo actions table) (place : Nat) :
    (table.at? place).map State.name = draft.states.names[place]? := by
  rw [Table.at?, ← List.getElem?_map, compiles.names_eq]

/-- A state of the table was declared under its name, with the declarations it is made of. -/
theorem declared (compiles : draft.CompilesTo actions table)
    (distinct : draft.states.names.Nodup) {state : State κ} (member : state ∈ table.states) :
    ∃ declarations, draft.declarations? state.name = some declarations ∧
      state.Compiles draft.index actions declarations := by
  obtain ⟨place, inside, rfl⟩ := List.mem_iff_getElem.mp member
  have bound : place < draft.states.length := compiles.states.length_eq ▸ inside
  obtain ⟨named, made⟩ := compiles.states.get bound inside
  refine ⟨draft.states[place].2, ?_, made⟩
  refine (Roster.get?_eq_some_iff_mem distinct _ _).mpr ?_
  have named : table.states[place].name = draft.states[place].1 := named
  rw [named]
  exact List.getElem_mem bound

theorem has_name (compiles : draft.CompilesTo actions table)
    (distinct : draft.states.names.Nodup) {place : Nat} {state : State κ}
    (standing : table.at? place = some state) : draft.has state.name = true := by
  obtain ⟨declarations, found, _⟩ :=
    compiles.declared distinct (List.mem_of_getElem? standing)
  rw [declarations?] at found
  rw [has, Roster.has, found]
  rfl

/-- A place that the index gives to a name is the place of the state of that name. -/
theorem at?_of_place? (compiles : draft.CompilesTo actions table)
    (distinct : draft.states.names.Nodup) {name : Option String} {place : Nat}
    (placed : place? draft.index name = some place) :
    ∃ state, table.at? place = some state ∧ name = some state.name ∧ state.name ≠ "" := by
  obtain ⟨known, rfl, filled, found⟩ := place?_eq_some placed
  have named := compiles.name_at? place
  rw [(Roster.get?_zipIdx distinct known place).mp found] at named
  obtain ⟨state, standing, rfl⟩ := Option.map_eq_some_iff.mp named
  exact ⟨state, standing, rfl, filled⟩

theorem target_at? (compiles : draft.CompilesTo actions table)
    (distinct : draft.states.names.Nodup) {d : Declaration κ}
    (faultless : d.Faultless draft.index actions) (trigger : Trigger) :
    ∃ target, table.at? (d.edge draft.index trigger).targetIndex = some target ∧
      d.target = some target.name ∧ target.name ≠ "" := by
  obtain ⟨place, placed⟩ := Option.isSome_iff_exists.mp faultless.placed
  have reached : (d.edge draft.index trigger).targetIndex = place := by
    simp [Declaration.edge, placed]
  rw [reached]
  exact compiles.at?_of_place? distinct placed

theorem intact (compiles : draft.CompilesTo actions table)
    (distinct : draft.states.names.Nodup) : table.Intact where
  names_distinct := compiles.names_eq ▸ distinct
  index_iff := by
    intro name place
    rw [compiles.index_eq, compiles.name_at?]
    exact Roster.get?_zipIdx distinct name place
  initial_named := by
    obtain ⟨state, standing, _, filled⟩ := compiles.at?_of_place? distinct compiles.initial_eq
    exact ⟨state, standing, filled⟩
  targets := by
    intro state member edge leaving
    obtain ⟨declarations, _, made⟩ := compiles.declared distinct member
    obtain ⟨d, listed, same⟩ := made.edges_mem leaving
    obtain ⟨target, standing, named, filled⟩ :=
      compiles.target_at? distinct (made.faultless d listed) edge.trigger
    have told : edge.target = target.name := by
      rw [same]
      simp [Declaration.edge, named]
    exact ⟨target, same ▸ standing, told.symm, told ▸ filled⟩
  event_triggers := by
    intro state member entry listed
    obtain ⟨declarations, _, made⟩ := compiles.declared distinct member
    obtain ⟨d, _, same⟩ := made.events_mem entry listed
    rw [same]
    rfl
  condition_triggers := by
    intro state member edge listed
    obtain ⟨declarations, _, made⟩ := compiles.declared distinct member
    rw [made.conditions_eq] at listed
    obtain ⟨branch, _, rfl⟩ := List.mem_map.mp listed
    exact ⟨branch.1, rfl⟩

end CompilesTo

/-- Whatever calls made the draft. -/
theorem compile_intact {calls : List (Call κ)} {actions : Registry κ} {table : Table κ}
    (compiled : (ofCalls calls).compile actions = .ok table) : table.Intact :=
  (compile_ok compiled).intact (nodup_names_ofCalls calls)

end Draft

end TableMachine
