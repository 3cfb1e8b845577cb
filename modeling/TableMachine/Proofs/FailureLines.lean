import TableMachine.Proofs.Log

/-!
# The state that a failure line names

A failure line is written when the callbacks have done all that they do, and names the state in
which the machine stands by then. That is the target of the edge taken unless a dispatch inside the
one that fails has moved the machine on; a callback that works in a context of its own cannot.
-/

namespace TableMachine

variable {κ σ : Type}

namespace Deed

theorem switchesOfAll_starts {τ : Type} (calling : Calling κ τ) (s : τ)
    (started : List (Step κ × Except Failure Unit)) :
    switchesOfAll (started.map (ofStart calling s)) = [] := by
  induction started with
  | nil => rfl
  | cons start rest ih =>
    rw [List.map_cons, switchesOfAll, ih, ofStart, switches, switchesOfAll]
    rfl

end Deed

namespace Host

theorem Mode.switches_apart (stimulus : Stimulus) (host : Host σ) :
    Deed.switchesOfAll (Mode.apart.deed stimulus host).inner = [] := by
  simp only [Mode.deed, Machine.deedIn, Deed.inner, Machine.innerDeedsIn]
  cases host.machine.answer? stimulus with
  | none => rfl
  | some edge => exact Deed.switchesOfAll_starts _ _ _

/-- A dispatch that hits leaves the machine where its last switch led: the last of those inside it,
or else its own. -/
theorem Mode.status_hit {table : Table (Callback σ)} (intact : table.Intact) (mode : Mode)
    {stimulus : Stimulus} {host : Host σ} (stands : Machine.Stands table host.machine)
    {edge : Edge (Callback σ)} (answered : host.machine.answer? stimulus = some edge) :
    (mode.handler stimulus host).1.status =
      Deed.arrival edge.target (mode.deed stimulus host).inner := by
  have arrives : host.machine.switch? stimulus = some (host.machine.switchAlong edge) := by
    rw [Machine.switch?, answered, Option.map_some]
  have target : (host.machine.switchAlong edge).target = edge.target :=
    stands.nameAt_target intact answered
  rw [Host.status, (mode.recount stimulus host).status, mode.deed_eq, Deed.arrival_dispatch,
    arrives, Option.map_some, Option.getD_some, target]
  rfl

/-- The last entry of a dispatch that fails is its failure line. -/
theorem Mode.getLast?_failed {table : Table (Callback σ)} (intact : table.Intact) (mode : Mode)
    {stimulus : Stimulus} {host : Host σ} (stands : Machine.Stands table host.machine)
    (recording : host.machine.logger = .recording) {why : Failure}
    (failed : (mode.handler stimulus host).2 = .error why) :
    let after := (mode.handler stimulus host).1
    after.journal.toList.getLast? = some (.line (Notice.failure after.status why).text) := by
  obtain ⟨between, split, _⟩ := mode.bracketed intact stimulus host stands recording
  rw [failed, Notice.closing, List.map_singleton, ← List.cons_append, ← List.append_assoc] at split
  intro after
  rw [split]
  exact List.getLast?_concat

end Host

/-- The last entry of a dispatch that fails is its failure line. It names where the last switch made
by a callback led, and only if there is none the target of the edge that the dispatch took. -/
theorem failure_line_names_last_target (calls : List (Draft.Call (Callback σ)))
    (actions : Registry (Callback σ)) (table : Table (Callback σ))
    (compiled : (Draft.ofCalls calls).compile actions = .ok table) (host : Host σ)
    (reachable : Machine.Reachable table host.machine)
    (recording : host.machine.logger = .recording) (mode : Host.Mode) (stimulus : Stimulus)
    (edge : Edge (Callback σ)) (answered : host.machine.answer? stimulus = some edge)
    (why : Failure) (failed : (mode.handler stimulus host).2 = .error why) :
    let after := (mode.handler stimulus host).1
    let inside := Deed.switchesOfAll (mode.deed stimulus host).inner
    let named := (inside.getLast?.map Record.target).getD edge.target
    after.journal.toList.getLast? = some (.line (Notice.failure named why).text) ∧
      after.status = named ∧ (inside = [] → named = edge.target) ∧
      (mode = .apart → inside = []) := by
  have intact := Draft.compile_intact compiled
  have stands := reachable.stands intact
  have status := mode.status_hit intact stands answered
  intro after inside named
  refine ⟨?_, status, ?_, ?_⟩
  · rw [← show after.status = named from status]
    exact mode.getLast?_failed intact stands recording failed
  · intro none
    simp only [named, none, List.getLast?_nil, Option.map_none, Option.getD_none]
  · rintro rfl
    exact Host.Mode.switches_apart stimulus host

/-- The push opened the door, but the bell has shut it again when the push fails. -/
theorem pushed_door_failure_line :
    (Draft.ofCalls Door.calls).compile Door.actions = .ok Door.table ∧
      Machine.Reachable Door.table Door.fresh.machine ∧
      Door.fresh.machine.logger = .recording ∧
      (Door.fresh.machine.answer? (.event "push")).map Edge.target = some "open" ∧
      (Host.dispatchWithin 1 (.event "push") Door.fresh).2 = .error (.failed "cracked") ∧
      Door.pushed.journal.toList.getLast? =
        some (.line (Notice.failure "shut" (.failed "cracked")).text) := by
  obtain ⟨last, _⟩ := failure_line_names_last_target Door.calls Door.actions Door.table
    Door.compiled Door.fresh Door.fresh_reachable rfl (.owned 1) (.event "push")
    ⟨"open", .event "push", Door.ring.steps, 1⟩ rfl (.failed "cracked") rfl
  exact ⟨Door.compiled, Door.fresh_reachable, rfl, rfl, rfl, last⟩

/-- It is not always the target of the edge that a failure line names. -/
theorem failure_line_may_name_another_state :
    ¬ ∀ (host : Host Unit) (stimulus : Stimulus) (edge : Edge (Callback Unit)) (why : Failure),
      Machine.Reachable Door.table host.machine → host.machine.logger = .recording →
      host.machine.answer? stimulus = some edge →
      (Host.dispatchWithin 1 stimulus host).2 = .error why →
      (Host.dispatchWithin 1 stimulus host).1.journal.toList.getLast? =
        some (.line (Notice.failure edge.target why).text) := by
  intro names
  have stands := Door.fresh_reachable.stands (Draft.compile_intact Door.compiled)
  have failed : ((Host.Mode.owned 1).handler (.event "push") Door.fresh).2 =
      .error (.failed "cracked") := rfl
  have written := Host.Mode.getLast?_failed (Draft.compile_intact Door.compiled) (.owned 1) stands
    rfl failed
  have claimed := names Door.fresh (.event "push") ⟨"open", .event "push", Door.ring.steps, 1⟩
    (.failed "cracked") Door.fresh_reachable rfl rfl failed
  have same := Entry.line.inj (Option.some.inj (written.symm.trans claimed))
  -- What was written names the state in which the bell has left the door.
  have wrong : (Notice.failure "shut" (.failed "cracked")).text =
      (Notice.failure "open" (.failed "cracked")).text := by
    rw [← show Door.pushed.status = "shut" from rfl]
    exact same
  exact absurd wrong (by decide)

end TableMachine
