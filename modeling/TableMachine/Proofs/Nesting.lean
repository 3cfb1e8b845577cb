import TableMachine.Proofs.Refinement

/-!
# Dispatches inside a dispatch

Whatever the callbacks of a dispatch do, dispatching to the same machine again included, the
dispatch that called them goes on as its edge says: it starts the steps of the edge, each once and
in order, up to the first one that fails, and comes to the outcome that was settled before any of
them ran.
-/

namespace TableMachine

variable {κ σ : Type}

namespace Deed

/-- The step and its end, if the deed is a step. -/
def start? : Deed κ → Option (Step κ × Except Failure Unit)
  | .step begun _ _ ended => some (begun, ended)
  | _ => none

/-- The steps that a dispatch started itself. Those of dispatches inside it hang further down. -/
def started : Deed κ → List (Step κ × Except Failure Unit)
  | .dispatch _ _ inner _ => inner.filterMap start?
  | _ => []

end Deed

namespace Host

theorem start?_deedsOfSteps (nested : Option (Account σ)) (steps : List (Step (Callback σ)))
    (host : Host σ) :
    (deedsOfSteps nested steps host).filterMap Deed.start? =
      (calling (handlerOf nested)).started steps host := by
  induction steps generalizing host with
  | nil => rfl
  | cons step rest ih =>
    simp only [deedsOfSteps, deedOfStep, Calling.started, List.filterMap_cons, Deed.start?]
    generalize (calling (handlerOf nested)).runStep step host = ran
    obtain ⟨after, ended⟩ := ran
    cases ended with
    | ok _ => exact congrArg (List.cons _) (ih after)
    | error why => rfl

theorem started_deedWithin (depth : Nat) (stimulus : Stimulus) (host : Host σ) :
    (deedWithin depth stimulus host).started = startedWithin depth stimulus host := by
  rw [deedWithin_eq, Deed.started, innerDeeds, startedWithin]
  cases host.machine.answer? stimulus with
  | none => rfl
  | some edge =>
    dsimp only
    rw [start?_deedsOfSteps, handlerOf_accountBelow]

end Host

/-- If a dispatch that hits succeeds, it has gone to the target of its edge and has started exactly
the steps of the edge, wherever the dispatches inside it have taken the machine. If it fails, it has
started those up to the first that failed, and fails as that one did. -/
theorem dispatch_undisturbed (calls : List (Draft.Call (Callback σ)))
    (actions : Registry (Callback σ)) (table : Table (Callback σ))
    (compiled : (Draft.ofCalls calls).compile actions = .ok table) (host : Host σ)
    (reachable : Machine.Reachable table host.machine) (depth : Nat) (stimulus : Stimulus)
    (edge : Edge (Callback σ)) (answered : host.machine.answer? stimulus = some edge) :
    let calling := Host.calling (Host.below depth)
    let moved := host.moved stimulus edge
    let after := (Host.dispatchWithin depth stimulus host).1
    let result := (Host.dispatchWithin depth stimulus host).2
    let started := (Host.deedWithin depth stimulus host).started
    host.machine.table = table ∧ after.machine.table = table ∧
      (∀ outcome, result = .ok outcome →
        outcome = .moved host.status edge.target ∧
          (started = edge.steps.map fun step => (step, .ok ())) ∧
          calling.Trail moved started after) ∧
      ∀ why, result = .error why → ∃ done failed rest between,
        edge.steps = done ++ failed :: rest ∧
          started = (done.map fun step => (step, .ok ())) ++ [(failed, .error why)] ∧
          calling.Trail moved (done.map fun step => (step, .ok ())) between ∧
          calling.Fails failed between why ∧
          let stopped := (calling.runStep failed between).1
          after = stopped.writeLine (stopped.machine.failureLine why) := by
  have intact := Draft.compile_intact compiled
  have stands := reachable.stands intact
  have later := (reachable.dispatched depth stimulus).stands intact
  have arrives : (host.moved stimulus edge).status = edge.target :=
    stands.nameAt_target intact answered
  intro calling moved after result started
  have began : started = calling.started edge.steps moved := by
    simp only [started, Host.started_deedWithin, Host.startedWithin, answered, calling, moved]
  have settled : (after, result) =
      Host.settle (.moved host.status edge.target) (calling.runSteps edge.steps moved) := by
    rw [← arrives, ← Host.react_hit (Host.below depth) answered, ← Host.dispatchWithin_eq_react]
  refine ⟨stands.table_eq, later.table_eq, ?_⟩
  rw [began]
  cases ran : calling.runSteps edge.steps moved with
  | mk stopped ended =>
    rw [ran] at settled
    cases ended with
    | ok _ =>
      obtain ⟨all, trail⟩ := Calling.runSteps_ok ran
      obtain ⟨reached, ended⟩ := Prod.mk.inj settled
      rw [reached, ended]
      refine ⟨?_, fun why failed => ?_⟩
      · rintro outcome ⟨⟩
        exact ⟨rfl, all, trail⟩
      · cases failed
    | error reason =>
      obtain ⟨done, failed, rest, between, split, told, before, last⟩ := Calling.runSteps_failed ran
      obtain ⟨reached, ended⟩ := Prod.mk.inj settled
      rw [reached, ended]
      refine ⟨fun outcome succeeded => ?_, ?_⟩
      · cases succeeded
      · rintro why ⟨⟩
        refine ⟨done, failed, rest, between, split, told, before, ?_, ?_⟩
        · exact Calling.runStep_failed (by rw [last])
        · rw [last]

namespace Door

/-- Slams the door as it rings, and thinks no more of it. -/
def softBell : Callback Unit := fun arguments =>
  .mark "bell" arguments (.attempt (.event "slam") .done)

/-- The door with the other bell. -/
def softened : Host Unit :=
  Host.ofMachine ((Machine.ofTable table actions .recording).register "ring" softBell) ()

theorem softened_reachable : Machine.Reachable table softened.machine :=
  .act (.built actions .recording) (.edit (.register "ring" softBell))

end Door

/-- Slammed again while its bell rings, the door says that it went open. -/
theorem softened_door_undisturbed :
    (Draft.ofCalls Door.calls).compile Door.actions = .ok Door.table ∧
      Machine.Reachable Door.table Door.softened.machine ∧
      (Host.dispatchWithin 1 (.event "push") Door.softened).1.status = "shut" ∧
      (Host.dispatchWithin 1 (.event "push") Door.softened).2 = .ok (.moved "shut" "open") ∧
      (Host.deedWithin 1 (.event "push") Door.softened).started =
        Door.ring.steps.map fun step => (step, .ok ()) := by
  obtain ⟨_, _, succeeds, _⟩ :=
    dispatch_undisturbed Door.calls Door.actions Door.table Door.compiled Door.softened
      Door.softened_reachable 1 (.event "push") ⟨"open", .event "push", Door.ring.steps, 1⟩ rfl
  obtain ⟨_, all, _⟩ := succeeds (.moved "shut" "open") rfl
  exact ⟨Door.compiled, Door.softened_reachable, rfl, rfl, all⟩

end TableMachine
