import TableMachine.Proofs.Faults

/-!
# Which drafts compile, and to what

Said without the index: a draft compiles just if its initial state and every target are declared,
every declaration has a selector, and every name that an action calls by is registered. The table
has the states of the draft in their order. Each answers an event by the last declaration that lists
it, and data by all conditions in the order of declaration.
-/

namespace TableMachine

variable {κ : Type}

namespace Declaration

/-- The declaration has an empty list of events, or of conditions. -/
def ListsNothing (d : Declaration κ) : Prop :=
  d.selector = some (.events []) ∨ d.selector = some (.conditions [])

end Declaration

namespace Draft

/-- Nothing about the declaration keeps the draft from compiling. -/
structure Accepts (draft : Draft κ) (actions : Registry κ) (d : Declaration κ) : Prop where
  selected : d.selector ≠ none
  declared : draft.Declares d.target
  registered : ∀ name ∈ Step.names d.steps, actions.has name = true

/-- The edge that leads where the declaration goes. Its place is that of the target among the
states. -/
def edgeFor (draft : Draft κ) (trigger : Trigger) (d : Declaration κ) : Edge κ :=
  { target := d.target.getD "", trigger, steps := d.steps,
    targetIndex := draft.states.names.idxOf (d.target.getD "") }

theorem faultless_iff_accepts {draft : Draft κ} {actions : Registry κ} {d : Declaration κ} :
    d.Faultless draft.index actions ↔ draft.Accepts actions d := by
  constructor
  · rintro ⟨selected, placed, registered⟩
    exact ⟨Option.isSome_iff_ne_none.mp selected, (place?_isSome_iff draft _).mp placed,
      (Step.firstMissing?_eq_none_iff actions _).mp registered⟩
  · rintro ⟨selected, declared, registered⟩
    exact ⟨Option.isSome_iff_ne_none.mpr selected, (place?_isSome_iff draft _).mpr declared,
      (Step.firstMissing?_eq_none_iff actions _).mpr registered⟩

theorem compiles_iff_accepts (draft : Draft κ) (actions : Registry κ) :
    (∃ table, draft.compile actions = .ok table) ↔
      draft.Declares draft.initial ∧
        ∀ entry ∈ draft.states, ∀ d ∈ entry.2, draft.Accepts actions d := by
  simp only [compile_eq_ok_iff, faultless_iff_accepts, ← place?_isSome_iff,
    Option.isSome_iff_exists]
  constructor
  · rintro ⟨table, placed, accepts, _⟩
    exact ⟨⟨table.initial, placed⟩, accepts⟩
  · rintro ⟨⟨initial, placed⟩, accepts⟩
    exact ⟨⟨_, draft.index, initial⟩, placed, accepts, rfl, rfl⟩

theorem edge_eq_edgeFor {draft : Draft κ} (distinct : draft.states.names.Nodup)
    {d : Declaration κ} (declared : draft.Declares d.target) (trigger : Trigger) :
    d.edge draft.index trigger = draft.edgeFor trigger d := by
  obtain ⟨place, placed⟩ := Option.isSome_iff_exists.mp ((place?_isSome_iff draft _).mpr declared)
  obtain ⟨known, given, _, found⟩ := place?_eq_some placed
  obtain ⟨inside, named⟩ :=
    List.getElem?_eq_some_iff.mp ((Roster.get?_zipIdx distinct known place).mp found)
  have first : draft.states.names.idxOf known = place := by
    rw [← named, distinct.idxOf_getElem place inside]
  rw [Declaration.edge, edgeFor, placed, given, Option.getD_some, Option.getD_some, first]

/-- Declaring a state again, by declarations that make the same edges, changes at most what has to
pass. -/
theorem compile_declare_iff {draft : Draft κ} {actions : Registry κ} {state : String}
    {old new : List (Declaration κ)} {Also : Prop} (declared : draft.declarations? state = some old)
    (passes : (∀ d ∈ old, d.Faultless draft.index actions) ↔
      Also ∧ ∀ d ∈ new, d.Faultless draft.index actions)
    (made : State.ofDeclarations draft.index state old = State.ofDeclarations draft.index state new)
    (table : Table κ) :
    draft.compile actions = .ok table ↔
      Also ∧ (draft.declare state new).compile actions = .ok table := by
  obtain ⟨before, after, states, replaced⟩ := Roster.exists_put_eq declared
  have redeclared : (draft.declare state new).states = before ++ (state, new) :: after :=
    replaced new
  have index : (draft.declare state new).index = draft.index := by
    rw [Draft.index, Draft.index, redeclared, states]
    simp [Roster.names]
  have initial : (draft.declare state new).initial = draft.initial := rfl
  rw [compile_eq_ok_iff, compile_eq_ok_iff, index, initial, redeclared, states]
  simp only [List.forall_mem_append, List.forall_mem_cons, List.map_append, List.map_cons, passes,
    made]
  tauto

theorem ofDeclarations_listsNothing {index : Roster Nat} {state : String}
    {before after : List (Declaration κ)} {d : Declaration κ} (nothing : d.ListsNothing) :
    State.ofDeclarations index state (before ++ d :: after) =
      State.ofDeclarations index state (before ++ after) := by
  have unchanged : ∀ made : State κ, d.addTo index made = made := by
    intro made
    unfold Declaration.addTo
    rcases nothing with none | none
    · rw [none]
      rfl
    · simp only [none, List.map_nil, List.append_nil]
  simp only [State.ofDeclarations, List.foldl_append, List.foldl_cons, unchanged]

/-- Compiling succeeds just if the initial state is declared and every declaration is acceptable.
The table has the states of the draft in order. In each the last declaration that lists an event
answers it, and every condition has an edge in the order of declaration. A declaration that lists
nothing must be acceptable all the same, and adds nothing. -/
theorem compile_follows_declarations (calls : List (Call κ)) (actions : Registry κ) :
    let draft := ofCalls calls
    ((∃ table, draft.compile actions = .ok table) ↔
        draft.Declares draft.initial ∧
          ∀ entry ∈ draft.states, ∀ d ∈ entry.2, draft.Accepts actions d) ∧
      (∀ table, draft.compile actions = .ok table →
        draft.initial = some table.initialName ∧
          table.states.map State.name = draft.states.names ∧
          ∀ state ∈ table.states, table.state? state.name = some state ∧
            ∃ declarations, draft.declarations? state.name = some declarations ∧
              (∀ event, state.onEvent? event =
                (Declaration.lastListening? event declarations).map
                  (draft.edgeFor (.event event))) ∧
              state.conditions = declarations.flatMap fun d =>
                d.conditions.map fun c => draft.edgeFor (.condition c) d) ∧
      ∀ state before d after, draft.declarations? state = some (before ++ d :: after) →
        d.ListsNothing → ∀ table, draft.compile actions = .ok table ↔
          draft.Accepts actions d ∧
            (draft.declare state (before ++ after)).compile actions = .ok table := by
  intro draft
  have distinct : draft.states.names.Nodup := nodup_names_ofCalls calls
  refine ⟨compiles_iff_accepts draft actions, fun table compiled => ?_, ?_⟩
  · have compiles := compile_ok compiled
    obtain ⟨initial, standing, named, _⟩ := compiles.at?_of_place? distinct compiles.initial_eq
    refine ⟨?_, compiles.names_eq, fun state member => ⟨?_, ?_⟩⟩
    · rw [named, Table.initialName, Table.nameAt_eq standing]
    · obtain ⟨place, standing⟩ := List.mem_iff_getElem?.mp member
      exact (compiles.intact distinct).state?_name standing
    · obtain ⟨declarations, declared, made⟩ := compiles.declared distinct member
      have edges : ∀ d ∈ declarations, ∀ trigger,
          d.edge draft.index trigger = draft.edgeFor trigger d := fun d listed =>
        edge_eq_edgeFor distinct (faultless_iff_accepts.mp (made.faultless d listed)).declared
      refine ⟨declarations, declared, fun event => ?_, ?_⟩
      · rw [made.onEvent?_eq]
        exact Option.map_congr fun d found =>
          edges d (Declaration.lastListening?_mem found) (.event event)
      · rw [made.conditions_eq, Declaration.branches, List.map_flatMap]
        refine List.flatMap_congr fun d listed => ?_
        rw [List.map_map]
        exact List.map_congr_left fun c _ => edges d listed (.condition c)
  · intro state before d after declared nothing table
    rw [← faultless_iff_accepts]
    refine compile_declare_iff declared ?_ (ofDeclarations_listsNothing nothing) table
    simp only [List.forall_mem_append, List.forall_mem_cons]
    tauto

/-! A ferry between two banks. Of the two declarations of the hail on the west bank the last counts,
and the one between them lists nothing. -/

namespace Ferry

def bell : Declaration Unit := Declaration.onEvents ["hail", "bell"] (Declaration.goTo "west" {})

def blank : Declaration Unit := Declaration.onEvents [] (Declaration.goTo "east" {})

def hail : Declaration Unit :=
  Declaration.onEvents ["hail"] (Declaration.goTo "east" (Declaration.perform (.named "row") {}))

def fog : Condition := Condition.requireKey "fog" {}

def ice : Condition := Condition.requireKey "ice" {}

def weather : Declaration Unit :=
  Declaration.onConditions [fog, ice] (Declaration.goTo "west" {})

def calls : List (Call Unit) := [
  .startAt "west",
  .declare "west" [bell, blank],
  .extend "west" hail,
  .extend "east" weather]

def actions : Registry Unit := [("row", ())]

def table : Table Unit where
  states := [
    { name := "west"
      events := [("hail", ⟨"east", .event "hail", [⟨.named "row", []⟩], 1⟩),
        ("bell", ⟨"west", .event "bell", [], 0⟩)] },
    { name := "east"
      conditions := [⟨"west", .condition fog, [], 0⟩, ⟨"west", .condition ice, [], 0⟩] }]
  index := [("west", 0), ("east", 1)]
  initial := 0

theorem compiled : (ofCalls calls).compile actions = .ok table := rfl

end Ferry

/-- Without the declaration that lists nothing the table is the same, and without the action there
is none. -/
theorem ferry_follows :
    (ofCalls Ferry.calls).compile Ferry.actions = .ok Ferry.table ∧
      (∃ west ∈ Ferry.table.states, west.onEvent? "hail" =
        some ((ofCalls Ferry.calls).edgeFor (.event "hail") Ferry.hail)) ∧
      ((ofCalls Ferry.calls).declare "west" [Ferry.bell, Ferry.hail]).compile Ferry.actions =
        .ok Ferry.table ∧
      ¬ ∃ table, (ofCalls Ferry.calls).compile [] = .ok table := by
  obtain ⟨_, follows, unchanged⟩ := compile_follows_declarations Ferry.calls Ferry.actions
  obtain ⟨accepted, _⟩ := compile_follows_declarations Ferry.calls []
  refine ⟨Ferry.compiled, ?_, ?_, fun compiles => ?_⟩
  · obtain ⟨_, _, states⟩ := follows Ferry.table Ferry.compiled
    obtain ⟨_, declarations, declared, events, _⟩ := states _ List.mem_cons_self
    cases declared
    exact ⟨_, List.mem_cons_self, events "hail"⟩
  · exact ((unchanged "west" [Ferry.bell] Ferry.blank [Ferry.hail] rfl (.inl rfl) Ferry.table).mp
      Ferry.compiled).2
  · obtain ⟨_, accepts⟩ := accepted.mp compiles
    have hail := accepts ("west", [Ferry.bell, Ferry.blank, Ferry.hail]) List.mem_cons_self
      Ferry.hail (by simp)
    cases hail.registered "row" List.mem_cons_self

end Draft

end TableMachine
