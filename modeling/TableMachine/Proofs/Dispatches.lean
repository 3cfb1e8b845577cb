import TableMachine.Host.Basic

/-!
# The two halves of a dispatch

A host that answers a dispatch moves first. The steps of the edge taken start from where that leaves
the host, and how they end settles how the dispatch ends.
-/

namespace TableMachine

variable {σ : Type}

namespace Host

/-- The host as the first step finds it. -/
def moved (stimulus : Stimulus) (edge : Edge (Callback σ)) (host : Host σ) : Host σ :=
  (host.writeLine (host.machine.hitLine edge stimulus)).onMachine (·.take edge)

theorem moved_data (stimulus : Stimulus) (edge : Edge (Callback σ)) (host : Host σ) :
    (host.moved stimulus edge).data = host.data := by
  simp only [moved, onMachine, writeLine, Context.writeLine]
  cases host.machine.logger <;> rfl

/-- What the end of the steps makes of the dispatch that ran them. -/
def settle (outcome : Outcome) :
    Host σ × Except Failure Unit → Host σ × Except Failure Outcome
  | (after, .ok ()) => (after, .ok outcome)
  | (after, .error why) => (after.writeLine (after.machine.failureLine why), .error why)

@[simp] theorem settle_machine (outcome : Outcome) (run : Host σ × Except Failure Unit) :
    (settle outcome run).1.machine = run.1.machine := by
  obtain ⟨after, result⟩ := run
  cases result <;> rfl

theorem settle_result (outcome : Outcome) (run : Host σ × Except Failure Unit) :
    (settle outcome run).2.map (fun _ => ()) = run.2 := by
  obtain ⟨after, result⟩ := run
  cases result <;> rfl

theorem settle_ne_unmatched (source target : String) (run : Host σ × Except Failure Unit) :
    (settle (.moved source target) run).2 ≠ .ok .unmatched := by
  obtain ⟨after, result⟩ := run
  cases result <;> simp [settle]

theorem react_miss (nested : Option (Handler σ)) {stimulus : Stimulus} {host : Host σ}
    (missed : host.machine.answer? stimulus = none) :
    react nested stimulus host =
      (host.writeLine (host.machine.missLine stimulus), .ok .unmatched) := by
  simp [react, missed]

theorem react_hit (nested : Option (Handler σ)) {stimulus : Stimulus} {host : Host σ}
    {edge : Edge (Callback σ)} (answered : host.machine.answer? stimulus = some edge) :
    react nested stimulus host =
      settle (.moved host.status (host.moved stimulus edge).status)
        ((calling nested).runSteps edge.steps (host.moved stimulus edge)) := by
  simp only [react, answered, moved]
  generalize (calling nested).runSteps edge.steps _ = run
  obtain ⟨after, result⟩ := run
  cases result <;> rfl

/-- The handler of the dispatches that callbacks make, with so much room below. -/
def below : Nat → Option (Handler σ)
  | 0 => none
  | depth + 1 => some (dispatchWithin depth)

theorem dispatchWithin_eq_react (depth : Nat) :
    (dispatchWithin depth : Handler σ) = react (below depth) := by
  cases depth <;> rfl

end Host

end TableMachine
