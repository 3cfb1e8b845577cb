import TableMachine.Proofs.Compiled
import TableMachine.Proofs.Sameness

/-!
# Tables that ask the same

Drafts are alike when they differ by nothing but conditions that are the same, and so are tables.
Alike drafts compile to alike tables, because nothing that compiling checks depends on what the
conditions ask.
-/

namespace TableMachine

variable {κ : Type}

theorem exists_left_of_forall₂ {α β : Type} {R : α → β → Prop} {as : List α} {bs : List β}
    (paired : List.Forall₂ R as bs) {b : β} (member : b ∈ bs) : ∃ a ∈ as, R a b := by
  induction paired with
  | nil => cases member
  | cons first _ ih =>
    rcases List.mem_cons.mp member with rfl | later
    · exact ⟨_, List.mem_cons_self, first⟩
    · obtain ⟨a, held, related⟩ := ih later
      exact ⟨a, List.mem_cons_of_mem _ held, related⟩

theorem Trigger.same_refl (trigger : Trigger) : trigger.same trigger = true := by
  cases trigger with
  | event name => exact beq_self_eq_true name
  | condition c => exact c.same_refl

/-- The edges do the same and lead to the same place, and their triggers are the same. -/
structure Edge.Alike (edge other : Edge κ) : Prop where
  target : edge.target = other.target
  trigger : edge.trigger.same other.trigger = true
  steps : edge.steps = other.steps
  targetIndex : edge.targetIndex = other.targetIndex

theorem Edge.Alike.refl (edge : Edge κ) : edge.Alike edge :=
  ⟨rfl, edge.trigger.same_refl, rfl, rfl⟩

theorem Edge.Alike.askSame {edge other : Edge κ} (alike : edge.Alike other) :
    Selection.AskSame Edge.condition? Edge.condition? edge other := by
  have same := alike.trigger
  unfold Selection.AskSame Edge.condition?
  revert same
  cases edge.trigger <;> cases other.trigger <;> intro same <;>
    simp only [Trigger.same, Bool.false_eq_true] at same
  · exact .none
  · exact .some same

/-- The event edges are the same, and the condition edges pair off. -/
structure State.Alike (state other : State κ) : Prop where
  name : state.name = other.name
  events : state.events = other.events
  conditions : List.Forall₂ Edge.Alike state.conditions other.conditions

theorem State.Alike.onEvent? {state other : State κ} (alike : state.Alike other)
    (event : String) : Option.Rel Edge.Alike (state.onEvent? event) (other.onEvent? event) := by
  rw [State.onEvent?, State.onEvent?, alike.events]
  cases other.events.get? event with
  | none => exact .none
  | some edge => exact .some (.refl edge)

theorem State.Alike.onData? {state other : State κ} (alike : state.Alike other)
    {data held : Json} (agree : data.same held = true) :
    Option.Rel Edge.Alike (state.onData? data) (other.onData? held) :=
  Selection.winner?_rel alike.conditions (fun _ _ => Edge.Alike.askSame) agree

structure Table.Alike (table other : Table κ) : Prop where
  states : List.Forall₂ State.Alike table.states other.states
  index : table.index = other.index
  initial : table.initial = other.initial

namespace Table.Alike

variable {table other : Table κ} (alike : table.Alike other)

include alike

theorem at? (place : Nat) : Option.Rel State.Alike (table.at? place) (other.at? place) :=
  getElem?_rel_of_forall₂ alike.states place

theorem nameAt (place : Nat) : table.nameAt place = other.nameAt place := by
  unfold Table.nameAt
  rcases none_or_some_of_rel (alike.at? place) with
    ⟨missing, missingToo⟩ | ⟨state, counterpart, found, foundToo, same⟩
  · rw [missing, missingToo]
  · rw [found, foundToo, Option.map_some, Option.map_some, same.name]

end Table.Alike

inductive Selector.Alike : Selector → Selector → Prop
  | events (names : List String) : Alike (.events names) (.events names)
  | conditions {conditions others : List Condition}
      (paired : List.Forall₂ (fun c d => Condition.same c d = true) conditions others) :
      Alike (.conditions conditions) (.conditions others)

structure Declaration.Alike (d other : Declaration κ) : Prop where
  selector : Option.Rel Selector.Alike d.selector other.selector
  target : d.target = other.target
  action : d.action = other.action

structure Draft.Alike (draft other : Draft κ) : Prop where
  initial : draft.initial = other.initial
  states : List.Forall₂ (fun entry counterpart => entry.1 = counterpart.1 ∧
    List.Forall₂ Declaration.Alike entry.2 counterpart.2) draft.states other.states

namespace Declaration.Alike

variable {d other : Declaration κ} (alike : d.Alike other)

include alike

theorem steps : d.steps = other.steps := by
  rw [Declaration.steps, Declaration.steps, alike.action]

theorem edge_eq (index : Roster Nat) (trigger : Trigger) :
    d.edge index trigger = other.edge index trigger := by
  rw [Declaration.edge, Declaration.edge, alike.steps, alike.target]

theorem edge (index : Roster Nat) {trigger counterpart : Trigger}
    (same : trigger.same counterpart = true) :
    (d.edge index trigger).Alike (other.edge index counterpart) := by
  rw [alike.edge_eq]
  exact ⟨rfl, same, rfl, rfl⟩

theorem faultless {index : Roster Nat} {actions : Registry κ}
    (faultless : d.Faultless index actions) : other.Faultless index actions where
  selected := by
    have selected := faultless.selected
    rcases none_or_some_of_rel alike.selector with ⟨missing, _⟩ | ⟨_, _, _, found, _⟩
    · simp [missing] at selected
    · rw [found]
      rfl
  placed := alike.target ▸ faultless.placed
  registered := alike.steps ▸ faultless.registered

theorem addTo {index : Roster Nat} {state counterpart : State κ} (before : state.Alike counterpart) :
    (d.addTo index state).Alike (other.addTo index counterpart) := by
  unfold Declaration.addTo
  rcases none_or_some_of_rel alike.selector with
    ⟨missing, missingToo⟩ | ⟨_, _, found, foundToo, selectors⟩
  · rw [missing, missingToo]
    exact before
  · rw [found, foundToo]
    cases selectors with
    | events names =>
      refine ⟨before.name, ?_, before.conditions⟩
      simp only [alike.edge_eq, before.events]
    | conditions paired =>
      refine ⟨before.name, before.events, List.rel_append before.conditions ?_⟩
      exact List.forall₂_map_left_iff.mpr (List.forall₂_map_right_iff.mpr
        (paired.imp fun _ _ same => alike.edge index same))

end Declaration.Alike

theorem State.ofDeclarations_alike (index : Roster Nat) (name : String)
    {declarations others : List (Declaration κ)}
    (paired : List.Forall₂ Declaration.Alike declarations others) :
    (State.ofDeclarations index name declarations).Alike
      (State.ofDeclarations index name others) := by
  -- The induction starts from any two states that are alike.
  have folded : ∀ {state counterpart : State κ}, state.Alike counterpart →
      (declarations.foldl (fun state d => d.addTo index state) state).Alike
        (others.foldl (fun state d => d.addTo index state) counterpart) := by
    induction paired with
    | nil => exact id
    | cons alike _ ih => exact fun before => ih (alike.addTo before)
  exact folded ⟨rfl, rfl, .nil⟩

namespace Draft.Alike

variable {draft other : Draft κ} (alike : draft.Alike other)

include alike

theorem index : draft.index = other.index := by
  have names : List.Forall₂ Eq (draft.states.map Prod.fst) (other.states.map Prod.fst) :=
    List.forall₂_map_left_iff.mpr (List.forall₂_map_right_iff.mpr
      (alike.states.imp fun _ _ paired => paired.1))
  rw [List.forall₂_eq_eq_eq] at names
  rw [Draft.index, Draft.index, Roster.names, Roster.names, names]

/-- Alike drafts compile to alike tables. -/
theorem compile {actions : Registry κ} {table : Table κ}
    (compiled : draft.compile actions = .ok table) :
    ∃ counterpart, other.compile actions = .ok counterpart ∧ table.Alike counterpart := by
  obtain ⟨initial, faultless, states, index⟩ := Draft.compile_eq_ok_iff.mp compiled
  refine ⟨{ table with states := other.states.map fun entry =>
    State.ofDeclarations other.index entry.1 entry.2 },
    Draft.compile_eq_ok_iff.mpr ⟨?_, ?_, rfl, ?_⟩, ?_, rfl, rfl⟩
  · rw [← alike.index, ← alike.initial]
    exact initial
  · intro counterpart listed e declared
    obtain ⟨entry, listedToo, _, paired⟩ := exists_left_of_forall₂ alike.states listed
    obtain ⟨d, declaredToo, same⟩ := exists_left_of_forall₂ paired declared
    exact alike.index ▸ same.faultless (faultless entry listedToo d declaredToo)
  · exact index.trans alike.index
  · rw [states, ← alike.index]
    refine List.forall₂_map_left_iff.mpr (List.forall₂_map_right_iff.mpr
      (alike.states.imp fun entry counterpart paired => ?_))
    rw [paired.1]
    exact State.ofDeclarations_alike _ _ paired.2

end Draft.Alike

end TableMachine
