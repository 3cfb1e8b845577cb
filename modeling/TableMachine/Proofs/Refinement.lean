import TableMachine.Proofs.Life
import TableMachine.Proofs.Steps

/-!
# A machine does what its draft declares

Whatever has happened to a machine, a dispatch follows the declaration by which the draft answers
the stimulus in the current state. The draft has neither places nor edges: that compiling overwrites
event edges, lines up condition edges and goes to targets by place cannot be seen from outside.
-/

namespace TableMachine

variable {κ σ : Type}

namespace Machine

/-- The current state answers like the declarations that it was made of. -/
theorem answer?_of_compiles {machine : Machine κ} {index : Roster Nat} {actions : Registry κ}
    {declarations : List (Declaration κ)} {state : State κ} (standing : machine.state? = some state)
    (compiles : state.Compiles index actions declarations) (stimulus : Stimulus) :
    machine.answer? stimulus =
      (Declaration.response? declarations stimulus).map fun r => r.2.edge index r.1 := by
  cases stimulus with
  | event name =>
    rw [answer?, standing, Option.bind_some, compiles.onEvent?_eq, Declaration.response?,
      Option.map_map]
    rfl
  | data value =>
    rw [answer?, standing, Option.bind_some, compiles.onData?_eq, Declaration.response?,
      Option.map_map]
    rfl

/-- In its current state, a machine on a compiled table answers as the draft declares. -/
theorem answer?_of_draft {draft : Draft κ} {actions : Registry κ} {table : Table κ}
    (distinct : draft.states.names.Nodup) (compiles : draft.CompilesTo actions table)
    {machine : Machine κ} (stands : Stands table machine) :
    ∃ declarations, draft.declarations? machine.status = some declarations ∧
      (∀ d ∈ declarations, d.Faultless draft.index actions) ∧
      ∀ stimulus, machine.answer? stimulus =
        (Declaration.response? declarations stimulus).map fun r => r.2.edge draft.index r.1 := by
  obtain ⟨state, standing, here, status, _⟩ := stands.current
  obtain ⟨declarations, declared, made⟩ :=
    compiles.declared distinct (List.mem_of_getElem? standing)
  exact ⟨declarations, status ▸ declared, made.faultless, answer?_of_compiles here made⟩

end Machine

namespace Host

/-- The steps that the dispatch itself starts, each with how it ended. -/
def startedWithin (depth : Nat) (stimulus : Stimulus) (host : Host σ) :
    List (Step (Callback σ) × Except Failure Unit) :=
  match host.machine.answer? stimulus with
  | none => []
  | some edge => (calling (below depth)).started edge.steps (host.moved stimulus edge)

/-- The host has gone to another state and recorded it. Its machine is otherwise as it was, and so
are the data that callbacks share. -/
structure HasSwitched (trigger : Trigger) (target : String) (before after : Host σ) : Prop where
  status_eq : after.status = target
  machine_eq : after.machine = { before.machine with
    current := after.machine.current
    history := before.machine.history.record
      { source := before.status, target, trigger, time := before.machine.clock } }
  data_eq : after.data = before.data

/-- The dispatch takes the declaration: the host switches to its target, and from there the steps
of its action run until one fails. -/
def Takes (depth : Nat) (stimulus : Stimulus) (trigger : Trigger)
    (d : Declaration (Callback σ)) (host : Host σ) : Prop :=
  ∃ target moved, d.target = some target ∧ HasSwitched trigger target host moved ∧
    dispatchWithin depth stimulus host =
      settle (.moved host.status target) ((calling (below depth)).runSteps d.steps moved) ∧
    Step.UpToFailure d.steps (startedWithin depth stimulus host)
      ((dispatchWithin depth stimulus host).2.map fun _ => ())

theorem takes_of_answer {depth : Nat} {stimulus : Stimulus} {host : Host σ} {index : Roster Nat}
    {trigger : Trigger} {d : Declaration (Callback σ)}
    (answered : host.machine.answer? stimulus = some (d.edge index trigger))
    {target : String} (declared : d.target = some target)
    (reached : host.machine.table.nameAt (d.edge index trigger).targetIndex = target) :
    Takes depth stimulus trigger d host := by
  have ran := react_hit (below depth) answered
  rw [← dispatchWithin_eq_react] at ran
  refine ⟨target, host.moved stimulus (d.edge index trigger), declared, ?_, ?_, ?_⟩
  · refine ⟨reached, ?_, moved_data _ _ _⟩
    rw [← reached]
    rfl
  · rw [ran]
    have status : (host.moved stimulus (d.edge index trigger)).status = target := reached
    rw [status]
    rfl
  · rw [ran, settle_result, startedWithin, answered]
    exact Calling.started_upToFailure _ _ _

end Host

/-- A stimulus that the declarations of the current state answer is answered by their declaration;
any other leaves only a line. -/
theorem dispatch_follows_draft (calls : List (Draft.Call (Callback σ)))
    (actions : Registry (Callback σ)) (table : Table (Callback σ))
    (compiled : (Draft.ofCalls calls).compile actions = .ok table) (host : Host σ)
    (reachable : Machine.Reachable table host.machine) (depth : Nat) :
    ∃ declarations, (Draft.ofCalls calls).declarations? host.status = some declarations ∧
      ∀ stimulus, match Declaration.response? declarations stimulus with
        | some (trigger, d) => Host.Takes depth stimulus trigger d host
        | none =>
          Host.dispatchWithin depth stimulus host =
              (host.writeLine (host.machine.missLine stimulus), .ok .unmatched) ∧
            Host.startedWithin depth stimulus host = [] := by
  have distinct := Draft.nodup_names_ofCalls calls
  have compiles := Draft.compile_ok compiled
  have stands := reachable.stands (compiles.intact distinct)
  obtain ⟨declarations, declared, faultless, answers⟩ :=
    Machine.answer?_of_draft distinct compiles stands
  refine ⟨declarations, declared, fun stimulus => ?_⟩
  have answer := answers stimulus
  split
  next trigger d chosen =>
    rw [chosen, Option.map_some] at answer
    obtain ⟨target, reached, named, _⟩ :=
      compiles.target_at? distinct (faultless d (Declaration.response?_mem chosen)) trigger
    refine Host.takes_of_answer answer named ?_
    rw [stands.table_eq]
    exact Table.nameAt_eq reached
  next silent =>
    rw [silent, Option.map_none] at answer
    refine ⟨?_, by rw [Host.startedWithin, answer]⟩
    rw [Host.dispatchWithin_eq_react, Host.react_miss _ answer]

theorem knocked_door_follows_draft :
    (Draft.ofCalls Door.calls).compile Door.actions = .ok Door.table ∧
      Machine.Reachable Door.table Door.pushed.machine ∧
      ∃ d, d.target = some "open" ∧ d.steps = Door.ring.steps ∧
        Host.Takes 1 (.event "knock") (.event "knock") d Door.pushed := by
  obtain ⟨declarations, declared, follows⟩ := dispatch_follows_draft Door.calls Door.actions
    Door.table Door.compiled Door.pushed Door.pushed_reachable 1
  cases declared
  exact ⟨Door.compiled, Door.pushed_reachable, _, rfl, rfl, follows (.event "knock")⟩

end TableMachine
