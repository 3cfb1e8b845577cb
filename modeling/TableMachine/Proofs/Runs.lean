import TableMachine.Proofs.Life

/-!
# Runs

A run of a machine, told as a list of deeds: edits by its owner, and dispatches in either mode with
all that is done in them. The deeds of a run recount how the machine came from the one to the other.
-/

namespace TableMachine

variable {κ σ : Type}

namespace Deed

mutual

/-- The deed, and every deed in it at any depth. -/
def parts : Deed κ → List (Deed κ)
  | .edit change => [.edit change]
  | .step taken callee inner ended => .step taken callee inner ended :: partsOfAll inner
  | .dispatch stimulus switch inner result =>
    .dispatch stimulus switch inner result :: partsOfAll inner

def partsOfAll : List (Deed κ) → List (Deed κ)
  | [] => []
  | deed :: rest => parts deed ++ partsOfAll rest

end

/-- The deeds that the deed was made of. -/
def inner : Deed κ → List (Deed κ)
  | .edit _ => []
  | .step _ _ inner _ => inner
  | .dispatch _ _ inner _ => inner

theorem partsOfAll_singleton (deed : Deed κ) :
    partsOfAll [deed] = deed :: partsOfAll deed.inner := by
  cases deed <;> rw [partsOfAll, partsOfAll, List.append_nil, parts] <;> rfl

theorem partsOfAll_append (first second : List (Deed κ)) :
    partsOfAll (first ++ second) = partsOfAll first ++ partsOfAll second := by
  induction first with
  | nil => rfl
  | cons deed rest ih => simp only [List.cons_append, partsOfAll, ih, List.append_assoc]

/-- A step that a run started, where nothing that it called can have reached a machine. -/
def ofStart (calling : Calling κ σ) (s : σ) (start : Step κ × Except Failure Unit) : Deed κ :=
  .step start.1 (calling.callee? start.1 s) [] start.2

theorem recount_starts (calling : Calling κ σ) (s : σ)
    (started : List (Step κ × Except Failure Unit)) (machine : Machine κ) :
    Recount (started.map (ofStart calling s)) machine machine := by
  induction started with
  | nil => exact .nil machine
  | cons start rest ih => exact .cons (.step (.nil machine) _ _ _) ih

end Deed

namespace Machine

/-- The steps that a dispatch starts in a context that does not own the machine. -/
def innerDeedsIn (stimulus : Stimulus) (machine : Machine (Callback σ)) (context : Context σ) :
    List (Deed (Callback σ)) :=
  match machine.answer? stimulus with
  | none => []
  | some edge =>
    let calling := Context.calling (machine.take edge).actions
    let noted := context.writeLine machine.logger (machine.hitLine edge stimulus)
    (calling.started edge.steps noted).map (Deed.ofStart calling noted)

def deedIn (stimulus : Stimulus) (machine : Machine (Callback σ)) (context : Context σ) :
    Deed (Callback σ) :=
  .dispatch stimulus (machine.switch? stimulus) (machine.innerDeedsIn stimulus context)
    (machine.dispatchIn stimulus context).2.2

theorem recount_innerIn (stimulus : Stimulus) (machine : Machine (Callback σ))
    (context : Context σ) :
    Deed.Recount (machine.innerDeedsIn stimulus context) (machine.answer stimulus)
      (machine.dispatchIn stimulus context).1 := by
  rw [dispatchIn_machine]
  unfold innerDeedsIn
  cases machine.answer? stimulus with
  | none => exact .nil _
  | some edge => exact Deed.recount_starts _ _ _ _

theorem recount_dispatchIn (stimulus : Stimulus) (machine : Machine (Callback σ))
    (context : Context σ) :
    Deed.Recount [machine.deedIn stimulus context] machine
      (machine.dispatchIn stimulus context).1 :=
  .dispatch (recount_innerIn stimulus machine context) _

/-- The deeds have made the second machine of the first. -/
inductive Run (start : Machine (Callback σ)) :
    List (Deed (Callback σ)) → Machine (Callback σ) → Prop
  | nil : Run start [] start
  | edited {deeds : List (Deed (Callback σ))} {machine : Machine (Callback σ)}
      (before : Run start deeds machine) (change : Edit (Callback σ)) :
      Run start (deeds ++ [.edit change]) (change.apply machine)
  | dispatched {deeds : List (Deed (Callback σ))} {host : Host σ}
      (before : Run start deeds host.machine) (depth : Nat) (stimulus : Stimulus) :
      Run start (deeds ++ [Host.deedWithin depth stimulus host])
        (Host.dispatchWithin depth stimulus host).1.machine
  | dispatchedIn {deeds : List (Deed (Callback σ))} {machine : Machine (Callback σ)}
      (before : Run start deeds machine) (stimulus : Stimulus) (context : Context σ) :
      Run start (deeds ++ [machine.deedIn stimulus context])
        (machine.dispatchIn stimulus context).1

theorem Run.recount {start machine : Machine (Callback σ)} {deeds : List (Deed (Callback σ))}
    (run : Run start deeds machine) : Deed.Recount deeds start machine := by
  induction run with
  | nil => exact .nil start
  | edited _ change ih => exact ih.append (.edit change _)
  | dispatched _ depth stimulus ih =>
    exact ih.append (Host.recount_dispatchWithin depth stimulus _)
  | dispatchedIn _ stimulus context ih => exact ih.append (recount_dispatchIn stimulus _ context)

end Machine

end TableMachine
