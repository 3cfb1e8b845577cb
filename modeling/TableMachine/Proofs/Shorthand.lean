import TableMachine.Proofs.Acceptance

/-!
# Groups are shorthand

A declaration that lists several events or conditions is short for as many declarations that list
one each, in its place and in the same order. They add the same edges, one after the other, whatever
edges there are by then; and since they differ only in what they list, one of them has a fault just
if all have.
-/

namespace TableMachine

variable {κ : Type}

namespace Declaration

/-- The declarations of one event or condition each that the declaration is short for. -/
def alternatives (d : Declaration κ) : List (Declaration κ) :=
  match d.selector with
  | some (.events names) => names.map fun name => d.onEvents [name]
  | some (.conditions conditions) => conditions.map fun c => d.onConditions [c]
  | none => []

theorem mem_alternatives {d a : Declaration κ} (member : a ∈ d.alternatives) :
    d.selector.isSome ∧ ∃ selector, a = { d with selector := some selector } := by
  unfold alternatives at member
  split at member
  next names lists =>
    obtain ⟨name, _, rfl⟩ := List.mem_map.mp member
    exact ⟨by rw [lists]; rfl, _, rfl⟩
  next conditions lists =>
    obtain ⟨c, _, rfl⟩ := List.mem_map.mp member
    exact ⟨by rw [lists]; rfl, _, rfl⟩
  · cases member

/-- What a declaration lists decides only whether it has a selector. -/
theorem faultless_iff_of_mem_alternatives {index : Roster Nat} {actions : Registry κ}
    {d a : Declaration κ} (member : a ∈ d.alternatives) :
    a.Faultless index actions ↔ d.Faultless index actions := by
  obtain ⟨selected, selector, rfl⟩ := mem_alternatives member
  exact ⟨fun ⟨_, placed, registered⟩ => ⟨selected, placed, registered⟩,
    fun ⟨_, placed, registered⟩ => ⟨rfl, placed, registered⟩⟩

theorem forall_alternatives_faultless_iff {index : Roster Nat} {actions : Registry κ}
    {d : Declaration κ} (listed : d.alternatives ≠ []) :
    (∀ a ∈ d.alternatives, a.Faultless index actions) ↔ d.Faultless index actions := by
  obtain ⟨first, member⟩ := List.exists_mem_of_ne_nil _ listed
  constructor
  · exact fun each => (faultless_iff_of_mem_alternatives member).mp (each first member)
  · exact fun faultless a listed => (faultless_iff_of_mem_alternatives listed).mpr faultless

/-- One event after the other, the alternatives put the edges that the group puts at once. -/
theorem foldl_addTo_events (index : Roster Nat) (d : Declaration κ) (names : List String)
    (state : State κ) :
    (names.map fun name => d.onEvents [name]).foldl (fun state a => a.addTo index state) state =
      (d.onEvents names).addTo index state := by
  induction names generalizing state with
  | nil => rfl
  | cons name rest ih =>
    rw [List.map_cons, List.foldl_cons, ih]
    rfl

theorem foldl_addTo_conditions (index : Roster Nat) (d : Declaration κ)
    (conditions : List Condition) (state : State κ) :
    (conditions.map fun c => d.onConditions [c]).foldl (fun state a => a.addTo index state) state =
      (d.onConditions conditions).addTo index state := by
  induction conditions generalizing state with
  | nil => simp [addTo, onConditions]
  | cons c rest ih =>
    rw [List.map_cons, List.foldl_cons, ih]
    simp [addTo, onConditions, edge, steps]

theorem foldl_addTo_alternatives (index : Roster Nat) (d : Declaration κ) (state : State κ) :
    d.alternatives.foldl (fun state a => a.addTo index state) state = d.addTo index state := by
  obtain ⟨selector, target, action⟩ := d
  cases selector with
  | none => rfl
  | some selector =>
    cases selector with
    | events names => exact foldl_addTo_events index _ names state
    | conditions conditions => exact foldl_addTo_conditions index _ conditions state

end Declaration

namespace Draft

theorem ofDeclarations_alternatives (index : Roster Nat) (state : String)
    (before after : List (Declaration κ)) (d : Declaration κ) :
    State.ofDeclarations index state (before ++ d :: after) =
      State.ofDeclarations index state (before ++ d.alternatives ++ after) := by
  simp only [State.ofDeclarations, List.foldl_append, List.foldl_cons,
    Declaration.foldl_addTo_alternatives]

/-- A declaration that lists events or conditions may be written as one declaration for each of them
in its place: the draft compiles just if it did, to the same table, and so the machines built from
the two drafts are the same. -/
theorem group_is_shorthand (draft : Draft κ) (actions : Registry κ) (state : String)
    (before after : List (Declaration κ)) (d : Declaration κ)
    (declared : draft.declarations? state = some (before ++ d :: after))
    (listed : d.alternatives ≠ []) :
    let written := draft.declare state (before ++ d.alternatives ++ after)
    (∀ table, draft.compile actions = .ok table ↔ written.compile actions = .ok table) ∧
      ∀ logger machine, Machine.ofDraft draft actions logger = .ok machine ↔
        Machine.ofDraft written actions logger = .ok machine := by
  intro written
  have passes : (∀ e ∈ before ++ d :: after, e.Faultless draft.index actions) ↔
      True ∧ ∀ e ∈ before ++ d.alternatives ++ after, e.Faultless draft.index actions := by
    simp only [List.forall_mem_append, List.forall_mem_cons, and_assoc, true_and,
      Declaration.forall_alternatives_faultless_iff listed]
  have compiles : ∀ table,
      draft.compile actions = .ok table ↔ written.compile actions = .ok table := by
    intro table
    rw [compile_declare_iff declared passes (ofDeclarations_alternatives _ _ _ _ _) table, true_and]
  refine ⟨compiles, fun logger machine => ?_⟩
  simp only [Machine.ofDraft, bind_eq_ok_iff, compiles]

/-- The ferry with its groups written out, the one whose first event is declared again later and the
one of conditions. -/
theorem ferry_written_out :
    ((ofCalls Ferry.calls).declare "west" [
        Declaration.onEvents ["hail"] Ferry.bell, Declaration.onEvents ["bell"] Ferry.bell,
        Ferry.blank, Ferry.hail]).compile Ferry.actions = .ok Ferry.table ∧
      ((ofCalls Ferry.calls).declare "east" [
        Declaration.onConditions [Ferry.fog] Ferry.weather,
        Declaration.onConditions [Ferry.ice] Ferry.weather]).compile Ferry.actions =
          .ok Ferry.table := by
  obtain ⟨events, _⟩ := group_is_shorthand (ofCalls Ferry.calls) Ferry.actions "west" []
    [Ferry.blank, Ferry.hail] Ferry.bell rfl (List.cons_ne_nil _ _)
  obtain ⟨conditions, _⟩ := group_is_shorthand (ofCalls Ferry.calls) Ferry.actions "east" [] []
    Ferry.weather rfl (List.cons_ne_nil _ _)
  exact ⟨(events Ferry.table).mp Ferry.compiled, (conditions Ferry.table).mp Ferry.compiled⟩

end Draft

end TableMachine
