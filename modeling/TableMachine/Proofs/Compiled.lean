import Mathlib.Data.List.Forall2
import Mathlib.Data.List.Induction
import TableMachine.Proofs.Responses
import TableMachine.Proofs.Rosters

/-!
# What a compiled draft is made of

Every declaration is checked by itself, and what is built does not depend on the checks: a state
starts without edges, and its declarations add theirs one after the other. So compiling succeeds
just if no part of the draft has a fault, and the draft alone tells the table. There the event edges
answer as `Declaration.lastListening?` says, and the condition edges line up like
`Declaration.branches`.
-/

namespace TableMachine

variable {κ : Type}

section Success

variable {ε α β : Type}

theorem bind_eq_ok_iff {x : Except ε α} {f : α → Except ε β} {b : β} :
    x >>= f = .ok b ↔ ∃ a, x = .ok a ∧ f a = .ok b := by
  cases x with
  | error why => exact ⟨nofun, nofun⟩
  | ok a =>
    constructor
    · exact fun succeeded => ⟨a, rfl, succeeded⟩
    · rintro ⟨_, same, succeeded⟩
      cases same
      exact succeeded

/-- A fold that checks each element before it adds it. -/
theorem foldlM_eq_ok_iff {step : β → α → Except ε β} {Passes : α → Prop} {add : β → α → β}
    (agree : ∀ b x c, step b x = .ok c ↔ Passes x ∧ c = add b x) (xs : List α) (b c : β) :
    xs.foldlM step b = .ok c ↔ (∀ x ∈ xs, Passes x) ∧ c = xs.foldl add b := by
  induction xs generalizing b with
  | nil => simp [pure, Except.pure, eq_comm]
  | cons x rest ih =>
    rw [List.foldlM_cons, bind_eq_ok_iff, List.forall_mem_cons, List.foldl_cons]
    constructor
    · rintro ⟨next, first, later⟩
      obtain ⟨passes, rfl⟩ := (agree b x next).mp first
      obtain ⟨others, made⟩ := (ih _).mp later
      exact ⟨⟨passes, others⟩, made⟩
    · rintro ⟨⟨passes, others⟩, made⟩
      exact ⟨add b x, (agree b x _).mpr ⟨passes, rfl⟩, (ih _).mpr ⟨others, made⟩⟩

theorem mapM_eq_ok_iff {f : α → Except ε β} {Passes : α → Prop} {make : α → β}
    (agree : ∀ x y, f x = .ok y ↔ Passes x ∧ y = make x) (xs : List α) (ys : List β) :
    xs.mapM f = .ok ys ↔ (∀ x ∈ xs, Passes x) ∧ ys = xs.map make := by
  induction xs generalizing ys with
  | nil => simp [pure, Except.pure, eq_comm]
  | cons x rest ih =>
    rw [List.mapM_cons, bind_eq_ok_iff, List.forall_mem_cons, List.map_cons]
    constructor
    · rintro ⟨y, first, later⟩
      obtain ⟨passes, rfl⟩ := (agree x y).mp first
      obtain ⟨made, mapped, same⟩ := bind_eq_ok_iff.mp later
      obtain ⟨others, rfl⟩ := (ih made).mp mapped
      cases same
      exact ⟨⟨passes, others⟩, rfl⟩
    · rintro ⟨⟨passes, others⟩, rfl⟩
      refine ⟨make x, (agree x _).mpr ⟨passes, rfl⟩, ?_⟩
      exact bind_eq_ok_iff.mpr ⟨rest.map make, (ih _).mpr ⟨others, rfl⟩, rfl⟩

end Success

namespace Declaration

/-- The edge that the declaration stands for, where the trigger is one that it lists. -/
def edge (index : Roster Nat) (trigger : Trigger) (d : Declaration κ) : Edge κ :=
  { target := d.target.getD "", trigger, steps := d.steps,
    targetIndex := (Draft.place? index d.target).getD 0 }

/-- Nothing is wrong with the declaration. -/
structure Faultless (index : Roster Nat) (actions : Registry κ) (d : Declaration κ) : Prop where
  selected : d.selector.isSome
  placed : (Draft.place? index d.target).isSome
  registered : Step.firstMissing? actions d.steps = none

/-- The state with the edges of the declaration: later edges for an event replace earlier ones, and
conditions line up. -/
def addTo (index : Roster Nat) (d : Declaration κ) (state : State κ) : State κ :=
  match d.selector with
  | some (.events names) =>
    { state with
      events := Roster.putAll (fun name => d.edge index (.event name)) names state.events }
  | some (.conditions conditions) =>
    { state with
      conditions := state.conditions ++ conditions.map fun c => d.edge index (.condition c) }
  | none => state

theorem name_addTo (index : Roster Nat) (d : Declaration κ) (state : State κ) :
    (d.addTo index state).name = state.name := by
  unfold addTo
  split <;> rfl

end Declaration

namespace Draft

section Checking

variable {index : Roster Nat} {actions : Registry κ} {name : String} {position : Nat}
  {d : Declaration κ}

theorem check_ok {checked : Checked κ}
    (passed : check index actions name position d = .ok checked) :
    d.Faultless index actions ∧ ∀ state, checked.addTo state = d.addTo index state := by
  unfold check at passed
  split at passed
  · cases passed
  · next selector selected =>
    split at passed
    · cases passed
    · next place placed =>
      split at passed
      · cases passed
      · next registered =>
        cases passed
        refine ⟨⟨by simp [selected], by simp [placed], registered⟩, fun state => ?_⟩
        have edge_eq : Checked.edge ⟨selector, d.target.getD "", place, d.steps⟩ =
            fun trigger => d.edge index trigger := by
          funext trigger
          simp [Checked.edge, Declaration.edge, placed]
        simp only [Checked.addTo, Declaration.addTo, selected, edge_eq]
        cases selector <;> rfl

theorem check_of_faultless (faultless : d.Faultless index actions) (name : String)
    (position : Nat) : ∃ checked, check index actions name position d = .ok checked := by
  obtain ⟨selector, selected⟩ := Option.isSome_iff_exists.mp faultless.selected
  obtain ⟨place, placed⟩ := Option.isSome_iff_exists.mp faultless.placed
  unfold check
  rw [selected, placed, faultless.registered]
  exact ⟨_, rfl⟩

/-- What compiling does with one declaration. -/
theorem check_addTo_eq_ok_iff {before after : State κ} :
    (do return (← check index actions name position d).addTo before) = Except.ok after ↔
      d.Faultless index actions ∧ after = d.addTo index before := by
  rw [bind_eq_ok_iff]
  constructor
  · rintro ⟨checked, passed, same⟩
    obtain ⟨faultless, added⟩ := check_ok passed
    cases same
    exact ⟨faultless, added before⟩
  · rintro ⟨faultless, rfl⟩
    obtain ⟨checked, passed⟩ := check_of_faultless faultless name position
    exact ⟨checked, passed, congrArg Except.ok ((check_ok passed).2 before)⟩

end Checking

end Draft

namespace State

/-- The state of this name that has the edges of the declarations. -/
def ofDeclarations (index : Roster Nat) (name : String) (declarations : List (Declaration κ)) :
    State κ :=
  declarations.foldl (fun state d => d.addTo index state) { name }

theorem name_ofDeclarations (index : Roster Nat) (name : String)
    (declarations : List (Declaration κ)) :
    (ofDeclarations index name declarations).name = name := by
  induction declarations using List.reverseRecOn with
  | nil => rfl
  | append_singleton declarations d ih =>
    rw [ofDeclarations, List.foldl_append, List.foldl_cons, List.foldl_nil, Declaration.name_addTo]
    exact ih

/-- The state has the edges of the declarations and no other. -/
structure Compiles (index : Roster Nat) (actions : Registry κ)
    (declarations : List (Declaration κ)) (state : State κ) : Prop where
  faultless : ∀ d ∈ declarations, d.Faultless index actions
  conditions_eq : state.conditions =
    (Declaration.branches declarations).map fun b => b.2.edge index (.condition b.1)
  onEvent?_eq : ∀ event, state.onEvent? event =
    (Declaration.lastListening? event declarations).map (·.edge index (.event event))
  events_mem : ∀ entry ∈ state.events, ∃ d ∈ declarations, entry.2 = d.edge index (.event entry.1)

theorem compiles_empty (index : Roster Nat) (actions : Registry κ) (name : String) :
    Compiles index actions [] { name } where
  faultless := by simp
  conditions_eq := rfl
  onEvent?_eq := fun _ => rfl
  events_mem := by simp

section OneMore

variable {index : Roster Nat} {actions : Registry κ} {declarations : List (Declaration κ)}
  {state : State κ} {d : Declaration κ}

theorem Compiles.faultless_concat (compiles : Compiles index actions declarations state)
    (faultless : d.Faultless index actions) :
    ∀ e ∈ declarations ++ [d], e.Faultless index actions := by
  intro e member
  rcases List.mem_append.mp member with before | last
  · exact compiles.faultless e before
  · exact List.mem_singleton.mp last ▸ faultless

theorem Compiles.events_mem_concat (compiles : Compiles index actions declarations state)
    {entry : String × Edge κ} (member : entry ∈ state.events) :
    ∃ e ∈ declarations ++ [d], entry.2 = e.edge index (.event entry.1) := by
  obtain ⟨e, listed, same⟩ := compiles.events_mem entry member
  exact ⟨e, List.mem_append_left _ listed, same⟩

/-- The events of one more declaration overwrite those of the others. -/
theorem Compiles.addEvents (compiles : Compiles index actions declarations state)
    (faultless : d.Faultless index actions) {names : List String}
    (lists : d.selector = some (.events names)) :
    Compiles index actions (declarations ++ [d]) { state with
      events := Roster.putAll (fun name => d.edge index (.event name)) names state.events } where
  faultless := compiles.faultless_concat faultless
  conditions_eq := by
    simp [Declaration.branches_concat, Declaration.conditions, lists, compiles.conditions_eq]
  onEvent?_eq := by
    intro event
    have before := compiles.onEvent?_eq event
    simp only [onEvent?] at before ⊢
    rw [Roster.get?_putAll, Declaration.lastListening?_concat, before]
    simp only [Declaration.listens, lists]
    cases names.contains event <;> rfl
  events_mem := by
    intro entry member
    rcases Roster.mem_putAll member with ⟨_, held⟩ | old
    · exact ⟨d, by simp, held⟩
    · exact compiles.events_mem_concat old

/-- The conditions of one more declaration follow those of the others. -/
theorem Compiles.addConditions (compiles : Compiles index actions declarations state)
    (faultless : d.Faultless index actions) {conditions : List Condition}
    (lists : d.selector = some (.conditions conditions)) :
    Compiles index actions (declarations ++ [d]) { state with
      conditions := state.conditions ++ conditions.map fun c => d.edge index (.condition c) } where
  faultless := compiles.faultless_concat faultless
  conditions_eq := by
    simp [Declaration.branches_concat, Declaration.conditions, lists, compiles.conditions_eq]
  onEvent?_eq := by
    intro event
    have before := compiles.onEvent?_eq event
    simp only [onEvent?] at before ⊢
    rw [Declaration.lastListening?_concat, before]
    simp [Declaration.listens, lists]
  events_mem := fun _ member => compiles.events_mem_concat member

theorem Compiles.addTo (compiles : Compiles index actions declarations state)
    (faultless : d.Faultless index actions) :
    Compiles index actions (declarations ++ [d]) (d.addTo index state) := by
  obtain ⟨selector, selected⟩ := Option.isSome_iff_exists.mp faultless.selected
  unfold Declaration.addTo
  cases selector with
  | events names =>
    rw [selected]
    exact compiles.addEvents faultless selected
  | conditions conditions =>
    rw [selected]
    exact compiles.addConditions faultless selected

end OneMore

theorem compiles_ofDeclarations {index : Roster Nat} {actions : Registry κ} (name : String)
    {declarations : List (Declaration κ)}
    (faultless : ∀ d ∈ declarations, d.Faultless index actions) :
    (ofDeclarations index name declarations).Compiles index actions declarations := by
  induction declarations using List.reverseRecOn with
  | nil => exact compiles_empty index actions name
  | append_singleton declarations d ih =>
    rw [List.forall_mem_append, List.forall_mem_singleton] at faultless
    rw [ofDeclarations, List.foldl_append]
    exact (ih faultless.1).addTo faultless.2

end State

namespace Draft

theorem compileState_eq_ok_iff {index : Roster Nat} {actions : Registry κ} {name : String}
    {declarations : List (Declaration κ)} {state : State κ} :
    compileState index actions name declarations = .ok state ↔
      (∀ d ∈ declarations, d.Faultless index actions) ∧
        state = State.ofDeclarations index name declarations := by
  have agree : ∀ (before : State κ) (entry : Declaration κ × Nat) (after : State κ),
      (do return (← check index actions name entry.2 entry.1).addTo before) = Except.ok after ↔
        entry.1.Faultless index actions ∧ after = entry.1.addTo index before :=
    fun _ _ _ => check_addTo_eq_ok_iff
  -- The positions in the list only serve to tell a fault.
  have kept : declarations.zipIdx.map Prod.fst = declarations := List.zipIdx_map_fst 0 _
  have passed : (∀ d ∈ declarations, d.Faultless index actions) ↔
      ∀ entry ∈ declarations.zipIdx, entry.1.Faultless index actions := by
    conv_lhs => rw [← kept]
    exact List.forall_mem_map
  have made : State.ofDeclarations index name declarations =
      declarations.zipIdx.foldl (fun state entry => entry.1.addTo index state) { name } := by
    conv_lhs => rw [State.ofDeclarations, ← kept]
    exact List.foldl_map
  rw [compileState, foldlM_eq_ok_iff agree, passed, made]

/-- Compiling succeeds just if the initial state is placed and no declaration has a fault, and the
table that it gives is told by the draft alone. -/
theorem compile_eq_ok_iff {draft : Draft κ} {actions : Registry κ} {table : Table κ} :
    draft.compile actions = .ok table ↔
      place? draft.index draft.initial = some table.initial ∧
        (∀ entry ∈ draft.states, ∀ d ∈ entry.2, d.Faultless draft.index actions) ∧
        table.states = draft.states.map (fun entry =>
          State.ofDeclarations draft.index entry.1 entry.2) ∧
        table.index = draft.index := by
  have checked : ∀ place, draft.checkInitial = .ok place ↔
      place? draft.index draft.initial = some place := by
    intro place
    unfold checkInitial
    split <;> simp_all
  have agree : ∀ (entry : String × List (Declaration κ)) (state : State κ),
      compileState draft.index actions entry.1 entry.2 = .ok state ↔
        (∀ d ∈ entry.2, d.Faultless draft.index actions) ∧
          state = State.ofDeclarations draft.index entry.1 entry.2 :=
    fun _ _ => compileState_eq_ok_iff
  simp only [compile, bind_eq_ok_iff, checked, mapM_eq_ok_iff agree]
  constructor
  · rintro ⟨initial, placed, states, ⟨faultless, rfl⟩, same⟩
    cases same
    exact ⟨placed, faultless, rfl, rfl⟩
  · rintro ⟨placed, faultless, states, index⟩
    refine ⟨_, placed, _, ⟨faultless, rfl⟩, ?_⟩
    rw [← states, ← index]
    rfl

/-- A table that compiling gives has one state for each of the draft, made of its declarations. -/
structure CompilesTo (draft : Draft κ) (actions : Registry κ) (table : Table κ) : Prop where
  initial_eq : place? draft.index draft.initial = some table.initial
  index_eq : table.index = draft.index
  states : List.Forall₂
    (fun entry state => state.name = entry.1 ∧ state.Compiles draft.index actions entry.2)
    draft.states table.states

theorem compile_ok {draft : Draft κ} {actions : Registry κ} {table : Table κ}
    (compiled : draft.compile actions = .ok table) : draft.CompilesTo actions table := by
  obtain ⟨initial, faultless, states, index⟩ := compile_eq_ok_iff.mp compiled
  refine ⟨initial, index, ?_⟩
  rw [states, List.forall₂_map_right_iff, List.forall₂_same]
  exact fun entry listed => ⟨State.name_ofDeclarations _ _ _,
    State.compiles_ofDeclarations entry.1 (faultless entry listed)⟩

end Draft

end TableMachine
