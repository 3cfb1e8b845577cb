import TableMachine.Proofs.Steps

/-!
# Runs in pairs

Two ways of calling, compared by a relation between the states that they work on. If they find the
same callbacks for the same steps in related states, and these callbacks leave related states and
end alike, then so do whole runs, and the callbacks that they call are the same.
-/

namespace TableMachine

variable {κ σ τ α : Type}

/-- Two runs left related states and ended alike. -/
def Agree (R : σ → τ → Prop) (first : σ × Except Failure α) (second : τ × Except Failure α) :
    Prop :=
  R first.1 second.1 ∧ first.2 = second.2

namespace Calling

/-- The callbacks that a run of steps calls, each with its arguments. -/
def called (calling : Calling κ σ) : List (Step κ) → σ → List (κ × List Json)
  | [], _ => []
  | step :: rest, s =>
    ((calling.callee? step s).map fun callback => (callback, step.arguments)).toList ++
      match calling.runStep step s with
      | (after, .ok ()) => calling.called rest after
      | (_, .error _) => []

/-- From related states, the steps call alike. -/
def AgreeOn (R : σ → τ → Prop) (first : Calling κ σ) (second : Calling κ τ)
    (steps : List (Step κ)) : Prop :=
  ∀ step ∈ steps, ∀ s t, R s t → first.callee? step s = second.callee? step t ∧
    ∀ callback, first.callee? step s = some callback →
      Agree R (first.call callback step.arguments s) (second.call callback step.arguments t)

namespace AgreeOn

variable {R : σ → τ → Prop} {first : Calling κ σ} {second : Calling κ τ} {s : σ} {t : τ}

theorem tail {step : Step κ} {rest : List (Step κ)}
    (agree : AgreeOn R first second (step :: rest)) : AgreeOn R first second rest :=
  fun later member => agree later (List.mem_cons_of_mem _ member)

theorem runStep {step : Step κ} {steps : List (Step κ)} (agree : AgreeOn R first second steps)
    (member : step ∈ steps) (related : R s t) :
    Agree R (first.runStep step s) (second.runStep step t) := by
  obtain ⟨found, called⟩ := agree step member s t related
  cases callee : first.callee? step s with
  | some callback =>
    rw [runStep_called callee, runStep_called (found ▸ callee)]
    exact called callback callee
  | none =>
    obtain ⟨name, named, ran⟩ := runStep_missing callee
    obtain ⟨other, again, ranToo⟩ := runStep_missing (found ▸ callee)
    rw [ran, ranToo]
    cases named.symm.trans again
    exact ⟨related, rfl⟩

theorem runSteps {steps : List (Step κ)} (agree : AgreeOn R first second steps)
    (related : R s t) : Agree R (first.runSteps steps s) (second.runSteps steps t) := by
  induction steps generalizing s t with
  | nil => exact ⟨related, rfl⟩
  | cons step rest ih =>
    obtain ⟨still, same⟩ := agree.runStep List.mem_cons_self related
    simp only [Calling.runSteps, Effect.andThen]
    generalize first.runStep step s = ran at still same
    generalize second.runStep step t = ranToo at still same
    obtain ⟨after, ended⟩ := ran
    obtain ⟨afterToo, endedToo⟩ := ranToo
    cases (show ended = endedToo from same)
    cases ended with
    | ok _ => exact ih agree.tail still
    | error why => exact ⟨still, rfl⟩

theorem called {steps : List (Step κ)} (agree : AgreeOn R first second steps)
    (related : R s t) : first.called steps s = second.called steps t := by
  induction steps generalizing s t with
  | nil => rfl
  | cons step rest ih =>
    obtain ⟨still, same⟩ := agree.runStep List.mem_cons_self related
    have found := (agree step List.mem_cons_self s t related).1
    unfold Calling.called
    rw [found]
    congr 1
    generalize first.runStep step s = ran at still same
    generalize second.runStep step t = ranToo at still same
    obtain ⟨after, ended⟩ := ran
    obtain ⟨afterToo, endedToo⟩ := ranToo
    cases (show ended = endedToo from same)
    cases ended with
    | ok _ => exact ih agree.tail still
    | error why => rfl

end AgreeOn

end Calling

end TableMachine
