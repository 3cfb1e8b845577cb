import TableMachine.Proofs.Pairs
import TableMachine.Proofs.Runs

/-!
# Two modes of dispatch

The steps of the edge that a dispatch takes run either on a host that owns the machine, or in a
context that the machine does not belong to. Both modes are told of a host here: in the second, its
machine and its context stand side by side, and scripts find no machine. A dispatch that hits then
settles what its steps come to in either mode, and only how scripts run tells the modes apart.
-/

namespace TableMachine

variable {σ : Type}

namespace Host

/-- What a run in a context comes to, beside a machine that it cannot reach. -/
def beside (machine : Machine (Callback σ)) (ran : Context σ × Except Failure Unit) :
    Host σ × Except Failure Unit :=
  ({ toContext := ran.1, machine }, ran.2)

/-- Dispatches to the machine of the host as if its context did not own it. -/
def dispatchApart : Handler σ := fun stimulus host =>
  let (machine, context, result) := host.machine.dispatchIn stimulus host.toContext
  ({ toContext := context, machine }, result)

/-- How the steps of a dispatch run. -/
inductive Mode where
  /-- On the host, with room for so many dispatches one inside the other. -/
  | owned (room : Nat)
  | apart

namespace Mode

def handler : Mode → Handler σ
  | .owned room => dispatchWithin room
  | .apart => dispatchApart

def runScript : Mode → Script σ → Effect (Host σ)
  | .owned room, script => run (below room) script
  | .apart, script => fun host => beside host.machine (Context.run script host.toContext)

def calling (mode : Mode) : Calling (Callback σ) (Host σ) where
  lookup? := fun host name => host.machine.actions.get? name
  call := fun callback arguments => mode.runScript (callback arguments)

/-- In every mode, a name means what the registry of the machine says. -/
theorem callee?_eq (first second : Mode) (step : Step (Callback σ)) {a b : Host σ}
    (same : a.machine.actions = b.machine.actions) :
    first.calling.callee? step a = second.calling.callee? step b := by
  unfold Calling.callee?
  simp only [calling, same]

theorem runStep_apart (step : Step (Callback σ)) (host : Host σ) :
    Mode.apart.calling.runStep step host =
      beside host.machine ((Context.calling host.machine.actions).runStep step host.toContext) := by
  unfold Calling.runStep
  cases step.callable with
  | callback callback => rfl
  | named name =>
    simp only [calling, Context.calling]
    cases host.machine.actions.get? name <;> rfl

/-- No step reaches the machine, so each looks names up in the registry that the first one found. -/
theorem runSteps_apart (steps : List (Step (Callback σ))) (host : Host σ) :
    Mode.apart.calling.runSteps steps host =
      beside host.machine
        ((Context.calling host.machine.actions).runSteps steps host.toContext) := by
  induction steps generalizing host with
  | nil => rfl
  | cons step rest ih =>
    simp only [Calling.runSteps, Effect.andThen, runStep_apart]
    generalize (Context.calling host.machine.actions).runStep step host.toContext = ran
    obtain ⟨context, ended⟩ := ran
    cases ended with
    | ok _ => exact ih { toContext := context, machine := host.machine }
    | error why => rfl

theorem handler_miss (mode : Mode) {stimulus : Stimulus} {host : Host σ}
    (missed : host.machine.answer? stimulus = none) :
    mode.handler stimulus host =
      (host.writeLine (host.machine.missLine stimulus), .ok .unmatched) := by
  cases mode with
  | owned room =>
    rw [handler, dispatchWithin_eq_react]
    exact react_miss _ missed
  | apart =>
    simp only [handler, dispatchApart, Machine.dispatchIn, missed]
    rfl

theorem handler_hit (mode : Mode) {stimulus : Stimulus} {host : Host σ}
    {edge : Edge (Callback σ)} (answered : host.machine.answer? stimulus = some edge) :
    mode.handler stimulus host =
      settle (.moved host.status (host.moved stimulus edge).status)
        (mode.calling.runSteps edge.steps (host.moved stimulus edge)) := by
  cases mode with
  | owned room =>
    rw [handler, dispatchWithin_eq_react]
    exact react_hit _ answered
  | apart =>
    rw [runSteps_apart]
    simp only [handler, dispatchApart, Machine.dispatchIn, answered]
    have start : (host.moved stimulus edge).toContext =
      host.toContext.writeLine host.machine.logger (host.machine.hitLine edge stimulus) := rfl
    have machine : (host.moved stimulus edge).machine = host.machine.take edge := rfl
    rw [start, machine]
    generalize (Context.calling (host.machine.take edge).actions).runSteps edge.steps _ = ran
    obtain ⟨context, ended⟩ := ran
    cases ended <;> rfl

/-- The callbacks that the dispatch itself calls, each with its arguments. -/
def called (mode : Mode) (stimulus : Stimulus) (host : Host σ) :
    List (Callback σ × List Json) :=
  match host.machine.answer? stimulus with
  | none => []
  | some edge => mode.calling.called edge.steps (host.moved stimulus edge)

/-- The tree of what a dispatch does. -/
def deed : Mode → Stimulus → Host σ → Deed (Callback σ)
  | .owned room, stimulus, host => deedWithin room stimulus host
  | .apart, stimulus, host => host.machine.deedIn stimulus host.toContext

theorem deed_eq (mode : Mode) (stimulus : Stimulus) (host : Host σ) :
    mode.deed stimulus host = .dispatch stimulus (host.machine.switch? stimulus)
      (mode.deed stimulus host).inner (mode.handler stimulus host).2 := by
  cases mode with
  | owned room =>
    rw [deed, deedWithin_eq]
    rfl
  | apart => rfl

theorem recount (mode : Mode) (stimulus : Stimulus) (host : Host σ) :
    Deed.Recount [mode.deed stimulus host] host.machine (mode.handler stimulus host).1.machine := by
  cases mode with
  | owned room => exact recount_dispatchWithin room stimulus host
  | apart => exact Machine.recount_dispatchIn stimulus host.machine host.toContext

end Mode

end Host

end TableMachine
