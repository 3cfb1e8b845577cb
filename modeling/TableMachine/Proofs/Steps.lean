import TableMachine.Action.Run

/-!
# The steps that a run starts

A run starts the steps it is given one by one and in order, each in the state that the one before it
left, and goes on only while they succeed. A step fails because nothing is registered under its name
when it is reached, or because what it called failed.
-/

namespace TableMachine

variable {κ σ : Type}

namespace Step

/-- These are the steps started, each with its end, by a run of all the steps that ends in the
result: either all of them, or those up to the first that failed. -/
def UpToFailure (steps : List (Step κ)) (started : List (Step κ × Except Failure Unit)) :
    Except Failure Unit → Prop
  | .ok () => started = steps.map fun step => (step, .ok ())
  | .error why => ∃ done step rest, steps = done ++ step :: rest ∧
      started = (done.map fun step => (step, .ok ())) ++ [(step, .error why)]

end Step

namespace Calling

/-- The steps that a run starts, each with how it ended. -/
def started (calling : Calling κ σ) : List (Step κ) → σ → List (Step κ × Except Failure Unit)
  | [], _ => []
  | step :: rest, s =>
    match calling.runStep step s with
    | (after, .ok ()) => (step, .ok ()) :: calling.started rest after
    | (_, .error why) => [(step, .error why)]

theorem started_upToFailure (calling : Calling κ σ) (steps : List (Step κ)) (s : σ) :
    Step.UpToFailure steps (calling.started steps s) (calling.runSteps steps s).2 := by
  induction steps generalizing s with
  | nil => rfl
  | cons step rest ih =>
    simp only [runSteps, Effect.andThen, started]
    cases ran : calling.runStep step s with
    | mk after ended =>
      cases ended with
      | error why => exact ⟨[], step, rest, rfl, rfl⟩
      | ok _ =>
        have later := ih after
        revert later
        dsimp only
        cases (calling.runSteps rest after).2 with
        | ok _ =>
          intro all
          exact congrArg (List.cons _) all
        | error why =>
          rintro ⟨done, failed, left, split, told⟩
          exact ⟨step :: done, failed, left, congrArg (List.cons step) split,
            congrArg (List.cons _) told⟩

theorem mem_of_mem_started {calling : Calling κ σ} {steps : List (Step κ)} {s : σ}
    {start : Step κ × Except Failure Unit} (member : start ∈ calling.started steps s) :
    start.1 ∈ steps := by
  induction steps generalizing s with
  | nil => cases member
  | cons step rest ih =>
    unfold started at member
    split at member
    next after _ =>
      rcases List.mem_cons.mp member with rfl | later
      · exact List.mem_cons_self
      · exact List.mem_cons_of_mem _ (ih later)
    next =>
      cases List.mem_singleton.mp member
      exact List.mem_cons_self

/-- The steps, started one after the other from the first state on, ended as told and led to the
other state. -/
inductive Trail (calling : Calling κ σ) : σ → List (Step κ × Except Failure Unit) → σ → Prop
  | nil (s : σ) : Trail calling s [] s
  | cons {s between after : σ} {step : Step κ} {ended : Except Failure Unit}
      {later : List (Step κ × Except Failure Unit)}
      (ran : calling.runStep step s = (between, ended)) (rest : Trail calling between later after) :
      Trail calling s ((step, ended) :: later) after

theorem started_trail (calling : Calling κ σ) (steps : List (Step κ)) (s : σ) :
    calling.Trail s (calling.started steps s) (calling.runSteps steps s).1 := by
  induction steps generalizing s with
  | nil => exact .nil s
  | cons step rest ih =>
    simp only [runSteps, Effect.andThen, started]
    cases ran : calling.runStep step s with
    | mk between ended =>
      cases ended with
      | ok _ => exact .cons ran (ih between)
      | error why => exact .cons ran (.nil between)

theorem Trail.of_append {calling : Calling κ σ} {s after : σ}
    {first second : List (Step κ × Except Failure Unit)}
    (trail : calling.Trail s (first ++ second) after) :
    ∃ between, calling.Trail s first between ∧ calling.Trail between second after := by
  induction first generalizing s with
  | nil => exact ⟨s, .nil s, trail⟩
  | cons entry rest ih =>
    cases trail with
    | cons ran later =>
      obtain ⟨between, before, beyond⟩ := ih later
      exact ⟨between, .cons ran before, beyond⟩

/-- What a step calls in a state: its callback, or what its name means by then. -/
def callee? (calling : Calling κ σ) (step : Step κ) (s : σ) : Option κ :=
  match step.callable with
  | .callback callback => some callback
  | .named name => calling.lookup? s name

theorem runStep_called {calling : Calling κ σ} {step : Step κ} {s : σ} {callback : κ}
    (found : calling.callee? step s = some callback) :
    calling.runStep step s = calling.call callback step.arguments s := by
  cases named : step.callable with
  | callback given =>
    simp only [callee?, named, Option.some.injEq] at found
    simp only [runStep, named, found]
  | named name =>
    simp only [callee?, named] at found
    simp only [runStep, named, found]

theorem runStep_missing {calling : Calling κ σ} {step : Step κ} {s : σ}
    (missing : calling.callee? step s = none) :
    ∃ name, step.callable = .named name ∧
      calling.runStep step s = (s, .error (.undefinedAction name)) := by
  cases named : step.callable with
  | callback given => simp only [callee?, named, reduceCtorEq] at missing
  | named name =>
    simp only [callee?, named] at missing
    exact ⟨name, rfl, by simp only [runStep, named, missing]⟩

/-- Why a step that is started in a state fails. -/
inductive Fails (calling : Calling κ σ) (step : Step κ) (s : σ) : Failure → Prop
  | unregistered {name : String} (named : step.callable = .named name)
      (missing : calling.lookup? s name = none) : Fails calling step s (.undefinedAction name)
  | called {callback : κ} {why : Failure} (found : calling.callee? step s = some callback)
      (failed : (calling.call callback step.arguments s).2 = .error why) : Fails calling step s why

theorem runStep_failed {calling : Calling κ σ} {step : Step κ} {s : σ} {why : Failure}
    (failed : (calling.runStep step s).2 = .error why) : calling.Fails step s why := by
  cases found : calling.callee? step s with
  | some callback =>
    rw [runStep_called found] at failed
    exact .called found failed
  | none =>
    obtain ⟨name, named, ran⟩ := runStep_missing found
    rw [ran] at failed
    cases failed
    simp only [callee?, named] at found
    exact .unregistered named found

theorem runSteps_ok {calling : Calling κ σ} {steps : List (Step κ)} {s after : σ}
    (ran : calling.runSteps steps s = (after, .ok ())) :
    (calling.started steps s = steps.map fun step => (step, .ok ())) ∧
      calling.Trail s (calling.started steps s) after := by
  have told := calling.started_upToFailure steps s
  have trail := calling.started_trail steps s
  rw [ran] at told trail
  exact ⟨told, trail⟩

/-- A run that fails leaves out the steps after the one that failed, and ends where that one did. -/
theorem runSteps_failed {calling : Calling κ σ} {steps : List (Step κ)} {s after : σ}
    {why : Failure} (ran : calling.runSteps steps s = (after, .error why)) :
    ∃ done failed rest between, steps = done ++ failed :: rest ∧
      calling.started steps s = (done.map fun step => (step, .ok ())) ++ [(failed, .error why)] ∧
      calling.Trail s (done.map fun step => (step, .ok ())) between ∧
      calling.runStep failed between = (after, .error why) := by
  have told := calling.started_upToFailure steps s
  have trail := calling.started_trail steps s
  rw [ran] at told trail
  obtain ⟨done, failed, rest, split, started⟩ := told
  rw [started] at trail
  obtain ⟨between, before, last⟩ := trail.of_append
  refine ⟨done, failed, rest, between, split, started, before, ?_⟩
  cases last with
  | cons ranLast nothing =>
    cases nothing
    exact ranLast

theorem mem_started_of_failed {calling : Calling κ σ} {steps : List (Step κ)} {s : σ}
    {why : Failure} (failed : (calling.runSteps steps s).2 = .error why) :
    ∃ step, (step, .error why) ∈ calling.started steps s := by
  have told := calling.started_upToFailure steps s
  rw [failed] at told
  obtain ⟨done, step, rest, _, started⟩ := told
  exact ⟨step, by simp [started]⟩

end Calling

end TableMachine
