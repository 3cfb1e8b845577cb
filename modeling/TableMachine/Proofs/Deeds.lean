import TableMachine.Proofs.Acts
import TableMachine.Proofs.Dispatches
import TableMachine.Proofs.Steps

/-!
# What a dispatch did

A dispatch answers its stimulus and then starts steps, whose callbacks edit the machine and dispatch
again. `Deed` is the tree of all this. An account of dispatches keeps the tree beside the handler
that answers them; `Account.recounts` is what makes it an account: the acts of the tree, done one
after the other to the machine that the dispatch found, give the machine that it left, and make the
switches that the tree tells of. Failures end what is done, and undo nothing.
-/

namespace TableMachine

variable {κ σ : Type}

inductive Deed (κ : Type) where
  | edit (change : Edit κ)
  /-- A step: what it called, if there was anything to call, the deeds of that, and its end. -/
  | step (step : Step κ) (callee : Option κ) (inner : List (Deed κ)) (ended : Except Failure Unit)
  /-- A dispatch: its own switch if it hit, the steps that it started, and its end. -/
  | dispatch (stimulus : Stimulus) (switch : Option Record) (inner : List (Deed κ))
      (result : Except Failure Outcome)

namespace Deed

mutual

/-- The acts in the order in which they happened: a dispatch answers before its callbacks act. -/
def acts : Deed κ → List (Act κ)
  | .edit change => [.edit change]
  | .step _ _ inner _ => actsOfAll inner
  | .dispatch stimulus _ inner _ => .answer stimulus :: actsOfAll inner

def actsOfAll : List (Deed κ) → List (Act κ)
  | [] => []
  | deed :: rest => acts deed ++ actsOfAll rest

end

mutual

/-- The switches in the order in which they happened: a dispatch comes before those made by its
callbacks, and each of these before those made by its own. -/
def switches : Deed κ → List Record
  | .edit _ => []
  | .step _ _ inner _ => switchesOfAll inner
  | .dispatch _ switch inner _ => switch.toList ++ switchesOfAll inner

def switchesOfAll : List (Deed κ) → List Record
  | [] => []
  | deed :: rest => switches deed ++ switchesOfAll rest

end

theorem actsOfAll_singleton (deed : Deed κ) : actsOfAll [deed] = deed.acts := by
  rw [actsOfAll, actsOfAll, List.append_nil]

theorem switchesOfAll_singleton (deed : Deed κ) : switchesOfAll [deed] = deed.switches := by
  rw [switchesOfAll, switchesOfAll, List.append_nil]

theorem actsOfAll_append (first second : List (Deed κ)) :
    actsOfAll (first ++ second) = actsOfAll first ++ actsOfAll second := by
  induction first with
  | nil => rfl
  | cons deed rest ih => simp only [List.cons_append, actsOfAll, ih, List.append_assoc]

theorem switchesOfAll_append (first second : List (Deed κ)) :
    switchesOfAll (first ++ second) = switchesOfAll first ++ switchesOfAll second := by
  induction first with
  | nil => rfl
  | cons deed rest ih => simp only [List.cons_append, switchesOfAll, ih, List.append_assoc]

/-- The deeds tell how one machine became the other. -/
structure Recount (deeds : List (Deed κ)) (before after : Machine κ) : Prop where
  replay : before.after (actsOfAll deeds) = after
  switches : switchesOfAll deeds = Machine.switches (actsOfAll deeds) before

namespace Recount

theorem nil (machine : Machine κ) : Recount [] machine machine := ⟨rfl, rfl⟩

theorem append {first second : List (Deed κ)} {before between after : Machine κ}
    (earlier : Recount first before between) (later : Recount second between after) :
    Recount (first ++ second) before after := by
  refine ⟨?_, ?_⟩
  · rw [actsOfAll_append, Machine.after_append, earlier.replay, later.replay]
  · rw [switchesOfAll_append, actsOfAll_append, Machine.switches_append, earlier.replay,
      earlier.switches, later.switches]

theorem cons {deed : Deed κ} {rest : List (Deed κ)} {before between after : Machine κ}
    (earlier : Recount [deed] before between) (later : Recount rest between after) :
    Recount (deed :: rest) before after :=
  earlier.append later

theorem edit (change : Edit κ) (machine : Machine κ) :
    Recount [.edit change] machine (change.apply machine) := ⟨rfl, rfl⟩

theorem step {inner : List (Deed κ)} {before after : Machine κ}
    (callback : Recount inner before after) (step : Step κ) (callee : Option κ)
    (ended : Except Failure Unit) : Recount [.step step callee inner ended] before after := by
  refine ⟨?_, ?_⟩
  · rw [← callback.replay, actsOfAll_singleton, acts]
  · rw [switchesOfAll_singleton, Deed.switches, callback.switches, actsOfAll_singleton, acts]

theorem dispatch {stimulus : Stimulus} {inner : List (Deed κ)} {before after : Machine κ}
    (callbacks : Recount inner (before.answer stimulus) after)
    (result : Except Failure Outcome) :
    Recount [.dispatch stimulus (before.switch? stimulus) inner result] before after := by
  refine ⟨?_, ?_⟩
  · rw [← callbacks.replay, actsOfAll_singleton, acts]
    rfl
  · rw [switchesOfAll_singleton, Deed.switches, callbacks.switches, actsOfAll_singleton, acts]
    rfl

end Recount

end Deed

namespace Host

/-- A handler, and what it does for each dispatch. -/
structure Account (σ : Type) where
  handler : Handler σ
  deed : Stimulus → Host σ → Deed (Callback σ)
  recounts : ∀ stimulus host,
    Deed.Recount [deed stimulus host] host.machine (handler stimulus host).1.machine

section Within

variable (nested : Option (Account σ))

/-- The deeds of a script. Each dispatch is told by the account of those made by callbacks. -/
def deedsOfScript : Script σ → Host σ → List (Deed (Callback σ))
  | .done, _ => []
  | .fail _, _ => []
  | .load next, host => deedsOfScript (next host.data) host
  | .store data next, host => deedsOfScript next { host with data }
  | .status next, host => deedsOfScript (next (some host.status)) host
  | .history next, host => deedsOfScript (next (some host.machine.history)) host
  | .names next, host => deedsOfScript (next (some host.machine.actions.sortedNames)) host
  | .mark label arguments next, host =>
    deedsOfScript next (host.note (.call label arguments (some host.status)))
  | .dispatch stimulus next, host =>
    match nested with
    | none => []
    | some account =>
      let (after, result) := account.handler stimulus host
      account.deed stimulus host :: deedsOfScript (next result) (after.note (.nested result))
  | .register name callback next, host =>
    .edit (.register name callback) ::
      deedsOfScript next (host.onMachine (·.register name callback))
  | .unregister name next, host =>
    .edit (.unregister name) :: deedsOfScript next (host.onMachine (·.unregister name))
  | .limitHistory limit next, host =>
    .edit (.limitHistory limit) :: deedsOfScript next (host.onMachine (·.limitHistory limit))
  | .clearHistory next, host =>
    .edit .clearHistory :: deedsOfScript next (host.onMachine (·.clearHistory))

/-- The handler of the account, if there is one. -/
def handlerOf : Option (Handler σ) :=
  nested.map Account.handler

def deedOfStep (step : Step (Callback σ)) (host : Host σ) : Deed (Callback σ) :=
  let callee := (calling (handlerOf nested)).callee? step host
  .step step callee
    (callee.elim [] fun callback => deedsOfScript nested (callback step.arguments) host)
    ((calling (handlerOf nested)).runStep step host).2

def deedsOfSteps : List (Step (Callback σ)) → Host σ → List (Deed (Callback σ))
  | [], _ => []
  | step :: rest, host =>
    deedOfStep nested step host ::
      match (calling (handlerOf nested)).runStep step host with
      | (after, .ok ()) => deedsOfSteps rest after
      | (_, .error _) => []

/-- The steps that a dispatch starts, with all that is done in them. -/
def innerDeeds (stimulus : Stimulus) (host : Host σ) : List (Deed (Callback σ)) :=
  match host.machine.answer? stimulus with
  | none => []
  | some edge => deedsOfSteps nested edge.steps (host.moved stimulus edge)

theorem recount_script (script : Script σ) (host : Host σ) :
    Deed.Recount (deedsOfScript nested script host) host.machine
      (run (handlerOf nested) script host).1.machine := by
  induction script generalizing host with
  | done => exact .nil _
  | fail why => exact .nil _
  | load next ih => exact ih host.data host
  | store data next ih => exact ih { host with data }
  | status next ih | history next ih | names next ih => exact ih _ host
  | mark label arguments next ih => exact ih (host.note _)
  | dispatch stimulus next ih =>
    -- A nested dispatch need not be opened: its account already recounts all that is under it.
    cases nested with
    | none => exact .nil _
    | some account => exact .cons (account.recounts stimulus host) (ih _ _)
  | register name callback next _ ih => exact .cons (.edit _ _) (ih (host.onMachine _))
  | unregister name next ih => exact .cons (.edit _ _) (ih (host.onMachine _))
  | limitHistory limit next ih => exact .cons (.edit _ _) (ih (host.onMachine _))
  | clearHistory next ih => exact .cons (.edit _ _) (ih (host.onMachine _))

theorem recount_step (step : Step (Callback σ)) (host : Host σ) :
    Deed.Recount [deedOfStep nested step host] host.machine
      ((calling (handlerOf nested)).runStep step host).1.machine := by
  unfold deedOfStep
  cases found : (calling (handlerOf nested)).callee? step host with
  | some callback =>
    rw [Calling.runStep_called found]
    exact .step (recount_script nested (callback step.arguments) host) _ _ _
  | none =>
    obtain ⟨_, _, ran⟩ := Calling.runStep_missing found
    rw [ran]
    exact .step (.nil _) _ _ _

theorem recount_steps (steps : List (Step (Callback σ))) (host : Host σ) :
    Deed.Recount (deedsOfSteps nested steps host) host.machine
      ((calling (handlerOf nested)).runSteps steps host).1.machine := by
  induction steps generalizing host with
  | nil => exact .nil _
  | cons step rest ih =>
    have first := recount_step nested step host
    simp only [Calling.runSteps, Effect.andThen, deedsOfSteps]
    generalize (calling (handlerOf nested)).runStep step host = ran at first
    obtain ⟨after, result⟩ := ran
    cases result with
    | ok _ => exact .cons first (ih after)
    | error why => exact .cons first (.nil _)

theorem recount_inner (stimulus : Stimulus) (host : Host σ) :
    Deed.Recount (innerDeeds nested stimulus host) (host.machine.answer stimulus)
      (react (handlerOf nested) stimulus host).1.machine := by
  unfold innerDeeds Machine.answer
  cases answered : host.machine.answer? stimulus with
  | none =>
    rw [react_miss _ answered]
    exact .nil _
  | some edge =>
    rw [react_hit _ answered, settle_machine]
    exact recount_steps nested edge.steps (host.moved stimulus edge)

/-- The account of dispatches whose callbacks dispatch in turn by the account given. -/
def account : Account σ where
  handler := react (handlerOf nested)
  deed := fun stimulus host =>
    .dispatch stimulus (host.machine.switch? stimulus) (innerDeeds nested stimulus host)
      (react (handlerOf nested) stimulus host).2
  recounts := fun stimulus host => .dispatch (recount_inner nested stimulus host) _

end Within

def accountWithin : Nat → Account σ
  | 0 => account none
  | depth + 1 => account (some (accountWithin depth))

theorem handler_accountWithin (depth : Nat) :
    (accountWithin depth : Account σ).handler = dispatchWithin depth := by
  induction depth with
  | zero => rfl
  | succ depth ih =>
    simp only [accountWithin, account, handlerOf, Option.map_some, ih]
    rfl

/-- What a dispatch does, callbacks and their dispatches included. -/
def deedWithin (depth : Nat) : Stimulus → Host σ → Deed (Callback σ) :=
  (accountWithin depth).deed

/-- The account of the dispatches that callbacks make, with so much room below. -/
def accountBelow : Nat → Option (Account σ)
  | 0 => none
  | depth + 1 => some (accountWithin depth)

theorem handlerOf_accountBelow (depth : Nat) :
    handlerOf (accountBelow depth : Option (Account σ)) = below depth := by
  cases depth with
  | zero => rfl
  | succ depth => exact congrArg some (handler_accountWithin depth)

theorem deedWithin_eq (depth : Nat) (stimulus : Stimulus) (host : Host σ) :
    deedWithin depth stimulus host =
      .dispatch stimulus (host.machine.switch? stimulus)
        (innerDeeds (accountBelow depth) stimulus host) (dispatchWithin depth stimulus host).2 := by
  rw [dispatchWithin_eq_react, ← handlerOf_accountBelow]
  cases depth <;> rfl

theorem recount_dispatchWithin (depth : Nat) (stimulus : Stimulus) (host : Host σ) :
    Deed.Recount [deedWithin depth stimulus host] host.machine
      (dispatchWithin depth stimulus host).1.machine := by
  rw [← handler_accountWithin]
  exact (accountWithin depth).recounts stimulus host

end Host

end TableMachine
