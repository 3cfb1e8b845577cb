import TableMachine.Proofs.Modes

/-!
# What a machine can call

A machine calls the callbacks that its table declares and those that are registered with it. What is
true of all of them stays true as long as it is true of each that is registered later; so a property
of scripts need only be asked of the callbacks, to hold of whatever a dispatch calls in any mode.
-/

namespace TableMachine

variable {κ σ : Type} {fine : κ → Prop}

/-- Every callback that a machine of this table can call with this registry is fine. -/
structure Table.CallsOnly (table : Table κ) (actions : Registry κ) (fine : κ → Prop) : Prop where
  registered : ∀ name callback, actions.get? name = some callback → fine callback
  declared : ∀ state ∈ table.states, ∀ edge ∈ state.edges, ∀ step ∈ edge.steps,
    ∀ callback, step.callable = .callback callback → fine callback

/-- What the act registers, if anything, is fine. -/
def Act.Brings (fine : κ → Prop) : Act κ → Prop
  | .edit (.register _ callback) => fine callback
  | _ => True

namespace Table.CallsOnly

/-- Where the table names all that its steps call, only what is registered is called. -/
theorem of_named {table : Table κ} {actions : Registry κ}
    (registered : ∀ entry ∈ actions, fine entry.2)
    (named : ∀ state ∈ table.states, ∀ edge ∈ state.edges, ∀ step ∈ edge.steps,
      step.callable.name?.isSome) : table.CallsOnly actions fine where
  registered := fun _ _ found => registered _ (Roster.mem_of_get?_eq_some found)
  declared := fun state listed edge leaving step started callback given => by
    have called := named state listed edge leaving step started
    rw [given] at called
    cases called

theorem answer {machine : Machine κ} (calls : machine.table.CallsOnly machine.actions fine)
    {stimulus : Stimulus} {edge : Edge κ} (answered : machine.answer? stimulus = some edge) :
    ∀ step ∈ edge.steps, ∀ callback, step.callable = .callback callback → fine callback := by
  obtain ⟨state, standing, leaving⟩ := Machine.answer?_mem_edges answered
  exact calls.declared state (List.mem_of_getElem? standing) edge leaving

theorem apply {machine : Machine κ} (calls : machine.table.CallsOnly machine.actions fine)
    {change : Edit κ} (brings : (Act.edit change).Brings fine) :
    (change.apply machine).table.CallsOnly (change.apply machine).actions fine := by
  cases change with
  | register name callback =>
    refine ⟨fun other found same => ?_, calls.declared⟩
    simp only [Edit.apply, Machine.register, Roster.get?_put] at same
    split at same
    · cases same
      exact brings
    · exact calls.registered other found same
  | unregister name =>
    refine ⟨fun other found same => ?_, calls.declared⟩
    simp only [Edit.apply, Machine.unregister, Roster.get?_drop] at same
    split at same
    · cases same
    · exact calls.registered other found same
  | limitHistory | clearHistory | setLogger | setClock => exact ⟨calls.registered, calls.declared⟩

/-- What a step calls is either declared with it or registered by then. -/
theorem callee {host : Host σ} {fine : Callback σ → Prop}
    (calls : host.machine.table.CallsOnly host.machine.actions fine) (mode : Host.Mode)
    {step : Step (Callback σ)}
    (declared : ∀ callback, step.callable = .callback callback → fine callback)
    {callback : Callback σ} (found : mode.calling.callee? step host = some callback) :
    fine callback := by
  unfold Calling.callee? at found
  split at found
  next given named =>
    cases found
    exact declared callback named
  next name _ => exact calls.registered name callback found

end Table.CallsOnly

end TableMachine
