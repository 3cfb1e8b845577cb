import TableMachine.Proofs.Deeds

/-!
# The life of a machine

A machine lives from the table that it was built from, by acts and by dispatches in either mode.
Whatever acts keep is kept for life, in the middle of a dispatch too: there the machine has answered
and undergone some of the acts of the callbacks.
-/

namespace TableMachine

variable {σ : Type}

namespace Machine

/-- The machines that one built from the table can become. -/
inductive Reachable (table : Table (Callback σ)) : Machine (Callback σ) → Prop
  | built (actions : Registry (Callback σ)) (logger : Logger) :
      Reachable table (ofTable table actions logger)
  | act {machine : Machine (Callback σ)} (before : Reachable table machine)
      (act : Act (Callback σ)) : Reachable table (act.apply machine)
  | dispatched {host : Host σ} (before : Reachable table host.machine) (depth : Nat)
      (stimulus : Stimulus) : Reachable table (Host.dispatchWithin depth stimulus host).1.machine
  | dispatchedIn {machine : Machine (Callback σ)} (before : Reachable table machine)
      (stimulus : Stimulus) (context : Context σ) :
      Reachable table (machine.dispatchIn stimulus context).1

/-- To a machine that its context does not own, a dispatch does no more than to have it answer. -/
theorem dispatchIn_machine (stimulus : Stimulus) (machine : Machine (Callback σ))
    (context : Context σ) : (machine.dispatchIn stimulus context).1 = machine.answer stimulus := by
  unfold dispatchIn answer
  cases machine.answer? stimulus with
  | none => rfl
  | some edge =>
    dsimp only
    split <;> rfl

theorem Reachable.keeps {table : Table (Callback σ)} {P : Machine (Callback σ) → Prop}
    (built : ∀ actions logger, P (ofTable table actions logger))
    (kept : ∀ (act : Act (Callback σ)) machine, P machine → P (act.apply machine))
    {machine : Machine (Callback σ)} (reachable : Reachable table machine) : P machine := by
  induction reachable with
  | built actions logger => exact built actions logger
  | act _ act ih => exact kept act _ ih
  | dispatched _ depth stimulus ih =>
    -- However deep the callbacks went, the dispatch was a list of acts.
    rw [← (Host.recount_dispatchWithin depth stimulus _).replay]
    exact after_keeps kept _ ih
  | dispatchedIn _ stimulus context ih =>
    rw [dispatchIn_machine]
    exact kept (.answer stimulus) _ ih

theorem Reachable.stands {table : Table (Callback σ)} (intact : table.Intact)
    {machine : Machine (Callback σ)} (reachable : Reachable table machine) :
    Stands table machine :=
  reachable.keeps (stands_ofTable intact) (stands_apply intact)

end Machine

/-! A door: knocking or pushing opens it, slamming or wind shuts it. -/

namespace Door

/-- Slams the door as it rings, and breaks. -/
def bell : Callback Unit := fun arguments =>
  .mark "bell" arguments (.attempt (.event "slam") (.fail (.failed "cracked")))

def ring : Action (Callback Unit) := .named "ring"

def windy : Condition := Condition.requireKey "wind" {}

/-- The declaration of pushing also takes the knock away from the one before it. -/
def calls : List (Draft.Call (Callback Unit)) := [
  .startAt "shut",
  .declare "shut" [],
  .declare "shut" [
    Declaration.onEvents ["knock"] (Declaration.goTo "shut" {}),
    Declaration.onEvents ["push", "knock"] (Declaration.goTo "open" (Declaration.perform ring {}))],
  .extend "open" (Declaration.onEvents ["slam"] (Declaration.goTo "shut" {})),
  .extend "open" (Declaration.onConditions [windy] (Declaration.goTo "shut" {}))]

def actions : Registry (Callback Unit) := [("ring", bell)]

def table : Table (Callback Unit) where
  states := [
    { name := "shut"
      events := [("knock", ⟨"open", .event "knock", ring.steps, 1⟩),
        ("push", ⟨"open", .event "push", ring.steps, 1⟩)] },
    { name := "open"
      events := [("slam", ⟨"shut", .event "slam", [], 0⟩)]
      conditions := [⟨"shut", .condition windy, [], 0⟩] }]
  index := [("shut", 0), ("open", 1)]
  initial := 0

theorem compiled : (Draft.ofCalls calls).compile actions = .ok table := rfl

/-- The door as it was built, but with a history that keeps all. -/
def fresh : Host Unit :=
  Host.ofMachine ((Machine.ofTable table actions .recording).limitHistory none) ()

/-- The door after a push. Its bell has slammed it again. -/
def pushed : Host Unit :=
  (Host.dispatchWithin 1 (.event "push") fresh).1

theorem fresh_reachable : Machine.Reachable table fresh.machine :=
  .act (.built actions .recording) (.edit (.limitHistory none))

theorem pushed_reachable : Machine.Reachable table pushed.machine :=
  .dispatched fresh_reachable 1 (.event "push")

end Door

namespace Machine

/-- A compiled table is intact, and no machine on it ever stands outside of the states declared. -/
theorem integrity_for_life (calls : List (Draft.Call (Callback σ)))
    (actions : Registry (Callback σ)) (table : Table (Callback σ))
    (compiled : (Draft.ofCalls calls).compile actions = .ok table) :
    table.Intact ∧
      ((Draft.ofCalls calls).initial = some table.initialName ∧ table.initialName ≠ "" ∧
        (Draft.ofCalls calls).has table.initialName) ∧
      (∀ name place, table.index.get? name = some place → (table.at? place).isSome) ∧
      ∀ machine, Reachable table machine →
        machine.table = table ∧
          (∃ state, machine.state? = some state ∧ state.name = machine.status) ∧
          machine.status ≠ "" ∧ (Draft.ofCalls calls).has machine.status ∧
          ∀ stimulus edge, machine.answer? stimulus = some edge →
            (table.at? edge.targetIndex).map State.name = some edge.target := by
  have distinct := Draft.nodup_names_ofCalls calls
  have compiles := Draft.compile_ok compiled
  have intact := compiles.intact distinct
  obtain ⟨first, standing, named, filled⟩ :=
    compiles.at?_of_place? distinct compiles.initial_eq
  have initial : table.initialName = first.name := Table.nameAt_eq standing
  refine ⟨intact, ?_, ?_, ?_⟩
  · rw [initial]
    exact ⟨named, filled, compiles.has_name distinct standing⟩
  · intro name place found
    obtain ⟨state, standing, _⟩ :=
      Option.map_eq_some_iff.mp ((intact.index_iff name place).mp found)
    rw [standing]
    rfl
  intro machine reachable
  have stands := reachable.stands intact
  obtain ⟨state, standing, here, status, filled⟩ := stands.current
  refine ⟨stands.table_eq, ⟨state, here, status.symm⟩, status ▸ filled, ?_, ?_⟩
  · exact status ▸ compiles.has_name distinct standing
  · intro stimulus edge answered
    obtain ⟨_, found, leaving⟩ := answer?_mem_edges answered
    cases here.symm.trans found
    obtain ⟨target, reached, told, _⟩ :=
      intact.targets state (List.mem_of_getElem? standing) edge leaving
    rw [reached, Option.map_some, told]

theorem pushed_door_integrity :
    (Draft.ofCalls Door.calls).compile Door.actions = .ok Door.table ∧ Door.table.Intact ∧
      Reachable Door.table Door.pushed.machine ∧ Door.pushed.status = "shut" ∧
      Door.pushed.machine.state?.map State.name = some Door.pushed.status := by
  obtain ⟨intact, _, _, life⟩ :=
    integrity_for_life Door.calls Door.actions Door.table Door.compiled
  obtain ⟨_, ⟨state, standing, named⟩, _⟩ := life Door.pushed.machine Door.pushed_reachable
  refine ⟨Door.compiled, intact, Door.pushed_reachable, rfl, ?_⟩
  rw [standing, Option.map_some, named]
  rfl

end Machine

end TableMachine
