import TableMachine.Proofs.Modes

/-!
# Actions as trees

An action can be performed without flattening it: a leaf calls what it stands for when it is
reached, and a sequence performs its members from left to right until one fails. Running the steps
of the action is the same, whatever callbacks do to what names mean on the way, because a run of
steps falls apart wherever the list of steps does.
-/

namespace TableMachine

variable {κ σ : Type}

namespace Effect

theorem andThen_succeed (effect : Effect σ) : effect.andThen succeed = effect := by
  funext s
  unfold andThen
  split
  next ran => exact ran.symm
  next ran => exact ran.symm

theorem andThen_assoc (first second third : Effect σ) :
    (first.andThen second).andThen third = first.andThen (second.andThen third) := by
  funext s
  simp only [andThen]
  cases ran : first s with
  | mk after ended => cases ended <;> rfl

end Effect

namespace Calling

variable (calling : Calling κ σ)

/-- Calls what the callable stands for in the state in which it is reached. -/
def performLeaf (callable : Callable κ) (arguments : List Json) (s : σ) :
    σ × Except Failure Unit :=
  match callable with
  | .callback callback => calling.call callback arguments s
  | .named name =>
    match calling.lookup? s name with
    | some callback => calling.call callback arguments s
    | none => (s, .error (.undefinedAction name))

mutual

/-- Performs the action from leaf to leaf. The items of an array are arguments of their own; any
other payload is one argument. -/
def perform : Action κ → σ → σ × Except Failure Unit
  | .call callable, s => calling.performLeaf callable [] s
  | .apply callable (.array items), s => calling.performLeaf callable items s
  | .apply callable payload, s => calling.performLeaf callable [payload] s
  | .sequence members, s => performAll members s

/-- The first member that fails ends the sequence with its failure. -/
def performAll : List (Action κ) → σ → σ × Except Failure Unit
  | [], s => (s, .ok ())
  | member :: rest, s =>
    match perform member s with
    | (after, .ok ()) => performAll rest after
    | (after, .error why) => (after, .error why)

end

theorem runSteps_append (first second : List (Step κ)) :
    calling.runSteps (first ++ second) =
      (calling.runSteps first).andThen (calling.runSteps second) := by
  induction first with
  | nil => rfl
  | cons step rest ih =>
    rw [List.cons_append, runSteps, ih, runSteps, Effect.andThen_assoc]

theorem runSteps_singleton (step : Step κ) : calling.runSteps [step] = calling.runStep step :=
  Effect.andThen_succeed _

theorem called_append (first second : List (Step κ)) (s : σ) :
    calling.called (first ++ second) s = calling.called first s ++
      match calling.runSteps first s with
      | (between, .ok ()) => calling.called second between
      | (_, .error _) => [] := by
  induction first generalizing s with
  | nil => rfl
  | cons step rest ih =>
    simp only [List.cons_append, called, runSteps, Effect.andThen, List.append_assoc]
    congr 1
    generalize calling.runStep step s = ran
    obtain ⟨after, ended⟩ := ran
    cases ended with
    | ok _ => exact ih after
    | error why => rfl

mutual

theorem runSteps_steps (action : Action κ) (s : σ) :
    calling.runSteps action.steps s = calling.perform action s := by
  cases action with
  | call callable =>
    rw [Action.steps, runSteps_singleton]
    rfl
  | apply callable payload =>
    rw [Action.steps, runSteps_singleton]
    cases payload <;> rfl
  | sequence members => exact runSteps_stepsOfAll members s

theorem runSteps_stepsOfAll (members : List (Action κ)) (s : σ) :
    calling.runSteps (Action.stepsOfAll members) s = calling.performAll members s := by
  cases members with
  | nil => rfl
  | cons member rest =>
    rw [Action.stepsOfAll, runSteps_append, Effect.andThen, runSteps_steps member s, performAll]
    generalize calling.perform member s = ran
    obtain ⟨after, ended⟩ := ran
    cases ended with
    | ok _ => exact runSteps_stepsOfAll rest after
    | error why => rfl

end

section Reached

variable {calling} {before later : List (Step κ)} {leaf : Step κ} {s between : σ}

/-- A step that a run has come to runs in the state that the steps before it left. -/
theorem runSteps_reached (reached : calling.runSteps before s = (between, .ok ())) :
    calling.runSteps (before ++ leaf :: later) s =
      (calling.runStep leaf).andThen (calling.runSteps later) between := by
  rw [runSteps_append, Effect.andThen, reached]
  rfl

theorem called_reached (reached : calling.runSteps before s = (between, .ok ())) :
    calling.called (before ++ leaf :: later) s =
      calling.called before s ++ calling.called (leaf :: later) between := by
  rw [called_append, reached]

/-- The step that fails is the last: the run ends as it does, and calls nothing more. -/
theorem runSteps_stopped (reached : calling.runSteps before s = (between, .ok ())) {after : σ}
    {why : Failure} (failed : calling.runStep leaf between = (after, .error why)) :
    calling.runSteps (before ++ leaf :: later) s = (after, .error why) ∧
      calling.called (before ++ leaf :: later) s = calling.called before s ++
        ((calling.callee? leaf between).map fun callback => (callback, leaf.arguments)).toList := by
  rw [runSteps_reached reached, called_reached reached]
  simp only [Effect.andThen, called, failed, List.append_nil, and_self]

end Reached

end Calling

/-- Running the steps of an action does what performing it as a tree does. A leaf that is reached
calls what it stands for by then, in the state that the leaves before it have left; where that fails,
or nothing is registered under its name by then, the run ends there and calls no further leaf. So
does a dispatch in any mode, where the registry of the machine tells what is registered. -/
theorem flattened_runs_like_tree :
    (∀ {κ σ : Type} (calling : Calling κ σ) (action : Action κ) (s : σ),
      calling.runSteps action.steps s = calling.perform action s ∧
        ∀ before leaf later between, action.steps = before ++ leaf :: later →
          calling.runSteps before s = (between, .ok ()) →
            (∀ callback, calling.callee? leaf between = some callback →
              calling.perform action s =
                  (calling.call callback leaf.arguments).andThen (calling.runSteps later) between ∧
                ∀ after why, calling.call callback leaf.arguments between = (after, .error why) →
                  calling.perform action s = (after, .error why) ∧
                    calling.called action.steps s =
                      calling.called before s ++ [(callback, leaf.arguments)]) ∧
            ∀ name, leaf.callable = .named name → calling.lookup? between name = none →
              calling.perform action s = (between, .error (.undefinedAction name)) ∧
                calling.called action.steps s = calling.called before s) ∧
      ∀ {σ : Type} (mode : Host.Mode) (stimulus : Stimulus) (host : Host σ)
        (edge : Edge (Callback σ)) (action : Action (Callback σ)),
        host.machine.answer? stimulus = some edge → edge.steps = action.steps →
          mode.handler stimulus host =
              Host.settle (.moved host.status (host.moved stimulus edge).status)
                (mode.calling.perform action (host.moved stimulus edge)) ∧
            ∀ (between : Host σ) (name : String),
              mode.calling.lookup? between name = between.machine.actions.get? name := by
  refine ⟨fun calling action s => ⟨calling.runSteps_steps action s, ?_⟩, ?_⟩
  · intro before leaf later between split reached
    rw [← calling.runSteps_steps, split]
    refine ⟨fun callback found => ⟨?_, fun after why failed => ?_⟩, fun name named missing => ?_⟩
    · rw [Calling.runSteps_reached reached]
      simp only [Effect.andThen, Calling.runStep_called found]
    · rw [← Calling.runStep_called found] at failed
      obtain ⟨ended, called⟩ := Calling.runSteps_stopped reached failed
      exact ⟨ended, by rw [called, found]; rfl⟩
    · have unfound : calling.callee? leaf between = none := by
        rw [Calling.callee?, named]
        exact missing
      obtain ⟨_, same, failed⟩ := Calling.runStep_missing unfound
      cases named.symm.trans same
      obtain ⟨ended, called⟩ := Calling.runSteps_stopped reached failed
      exact ⟨ended, by rw [called, unfound]; exact List.append_nil _⟩
  · intro σ mode stimulus host edge action answered resolved
    rw [mode.handler_hit answered, resolved, mode.calling.runSteps_steps]
    exact ⟨rfl, fun _ _ => rfl⟩

namespace Door

/-- Gets the door a chime. -/
def fit : Callback Unit := fun _ =>
  .register "chime" (fun arguments => .mark "chime" arguments .done) .done

/-- The door gets a chime and sounds it, and then wants a gong. -/
def fanfare : Action (Callback Unit) :=
  .sequence [
    .sequence [.sequence [], .call (.callback fit)],
    .apply (.named "chime") (.array [.nat 1, .nat 2]),
    .sequence [.named "gong", .apply (.named "chime") (.nat 3)]]

def pushEdge : Edge (Callback Unit) :=
  ⟨"open", .event "push", ring.steps, 1⟩

/-- The chime is not there when the fanfare begins. Pushing the door performs its bell. -/
theorem fanfare_runs_like_tree :
    let calling := Host.Mode.calling (.owned 0)
    let between := (calling.runSteps (fanfare.steps.take 2) fresh).1
    fresh.machine.actions.get? "chime" = none ∧
      between.machine.actions.get? "gong" = none ∧
      fanfare.steps = fanfare.steps.take 2 ++ ⟨.named "gong", []⟩ ::
        [⟨.named "chime", [.nat 3]⟩] ∧
      calling.runSteps (fanfare.steps.take 2) fresh = (between, .ok ()) ∧
      calling.runSteps fanfare.steps fresh = calling.perform fanfare fresh ∧
      calling.perform fanfare fresh = (between, .error (.undefinedAction "gong")) ∧
      (calling.called fanfare.steps fresh).map Prod.snd = [[], [.nat 1, .nat 2]] ∧
      fresh.machine.answer? (.event "push") = some pushEdge ∧
      Host.dispatchWithin 1 (.event "push") fresh =
        Host.settle (.moved "shut" "open") ((Host.Mode.calling (.owned 1)).perform ring
          (fresh.moved (.event "push") pushEdge)) := by
  intro calling between
  obtain ⟨same, reached⟩ := flattened_runs_like_tree.1 calling fanfare fresh
  obtain ⟨_, missing⟩ := reached (fanfare.steps.take 2) ⟨.named "gong", []⟩
    [⟨.named "chime", [.nat 3]⟩] between rfl rfl
  obtain ⟨ended, called⟩ := missing "gong" rfl rfl
  obtain ⟨performed, _⟩ :=
    flattened_runs_like_tree.2 (.owned 1) (.event "push") fresh pushEdge ring rfl rfl
  exact ⟨rfl, rfl, rfl, rfl, same, ended, by rw [called]; rfl, rfl, performed⟩

end Door

end TableMachine
