import TableMachine.Proofs.Interpreter

/-!
# Rehearsals

The names that steps call by can be looked up in a registry before any of the steps runs. That calls
nothing, and still tells how a run will go as long as callbacks leave the registry alone: the run
comes to no step beyond the first that is missing, and where callbacks succeed it comes just that
far.
-/

namespace TableMachine

variable {κ σ : Type}

namespace Step

/-- What the step calls by the registry. -/
def callee? (registry : Registry κ) (step : Step κ) : Option κ :=
  match step.callable with
  | .callback callback => some callback
  | .named name => registry.get? name

/-- The steps before the first that calls by a name which is not registered. -/
def beforeMissing (registry : Registry κ) (steps : List (Step κ)) : List (Step κ) :=
  steps.takeWhile fun step => (step.callee? registry).isSome

/-- The calls of the steps, each with its arguments. -/
def calls (registry : Registry κ) (steps : List (Step κ)) : List (κ × List Json) :=
  steps.filterMap fun step => (step.callee? registry).map fun callback =>
    (callback, step.arguments)

theorem calls_concat (registry : Registry κ) (steps : List (Step κ)) (step : Step κ) :
    calls registry (steps ++ [step]) = calls registry steps ++
      ((step.callee? registry).map fun callback => (callback, step.arguments)).toList := by
  rw [calls, List.filterMap_append, calls, List.filterMap_cons]
  cases step.callee? registry <;> rfl

section Found

variable {registry : Registry κ}

theorem callee?_eq_none {step : Step κ} (missing : step.callee? registry = none) :
    ∃ name, step.callable = .named name ∧ registry.get? name = none := by
  unfold callee? at missing
  cases named : step.callable with
  | callback callback => simp [named] at missing
  | named name => exact ⟨name, rfl, by simpa [named] using missing⟩

theorem has_of_mem_names {steps : List (Step κ)}
    (found : ∀ step ∈ steps, (step.callee? registry).isSome) {name : String}
    (called : name ∈ names steps) : registry.has name = true := by
  obtain ⟨step, member, named⟩ := List.mem_filterMap.mp called
  have here := found step member
  unfold callee? at here
  cases callable : step.callable with
  | callback callback => simp [callable, Callable.name?] at named
  | named other =>
    simp only [callable, Callable.name?, Option.some.injEq] at named here
    exact named ▸ here

theorem firstMissing?_of_found {steps : List (Step κ)}
    (found : ∀ step ∈ steps, (step.callee? registry).isSome) :
    firstMissing? registry steps = none :=
  (firstMissing?_eq_none_iff registry steps).mpr fun _ => has_of_mem_names found

/-- The name by which the first missing step calls is the one that a rehearsal tells. -/
theorem firstMissing?_of_split {before : List (Step κ)} {step : Step κ} {name : String}
    (found : ∀ earlier ∈ before, (earlier.callee? registry).isSome)
    (named : step.callable = .named name) (missing : registry.get? name = none)
    (later : List (Step κ)) :
    firstMissing? registry (before ++ step :: later) = some name := by
  have split : names (before ++ step :: later) = names before ++ name :: names later := by
    simp [names, named, Callable.name?]
  have absent : registry.has name = false := by rw [Roster.has, missing]; rfl
  exact (firstMissing?_eq_some_iff registry _ name).mpr
    ⟨absent, _, _, split, fun _ => has_of_mem_names found⟩

theorem found_of_mem_beforeMissing (registry : Registry κ) (steps : List (Step κ)) :
    ∀ step ∈ beforeMissing registry steps, (step.callee? registry).isSome :=
  List.all_eq_true.mp List.all_takeWhile

theorem isPrefix_beforeMissing {before : List (Step κ)}
    (found : ∀ step ∈ before, (step.callee? registry).isSome) (later : List (Step κ)) :
    before <+: beforeMissing registry (before ++ later) :=
  ⟨_, (List.takeWhile_append_of_pos found).symm⟩

/-- Either nothing is missing, or the name that a rehearsal tells is that of the step at which it
stops. -/
theorem complete_or_missing (registry : Registry κ) (steps : List (Step κ)) :
    (firstMissing? registry steps = none ∧ beforeMissing registry steps = steps) ∨
      ∃ step later name, firstMissing? registry steps = some name ∧
        steps = beforeMissing registry steps ++ step :: later ∧
        step.callable = .named name ∧ registry.get? name = none := by
  have found := found_of_mem_beforeMissing registry steps
  have split : beforeMissing registry steps ++ steps.dropWhile _ = steps :=
    List.takeWhile_append_dropWhile
  have stopped := List.head?_dropWhile_not (fun step => (step.callee? registry).isSome) steps
  cases rest : steps.dropWhile fun step => (step.callee? registry).isSome with
  | nil =>
    rw [rest, List.append_nil] at split
    rw [split] at found
    exact .inl ⟨firstMissing?_of_found found, split⟩
  | cons step later =>
    rw [rest] at split stopped
    have absent := Option.isNone_iff_eq_none.mp (Option.isSome_eq_false_iff.mp stopped)
    obtain ⟨name, named, missing⟩ := callee?_eq_none absent
    have told := firstMissing?_of_split found named missing later
    rw [split] at told
    exact .inr ⟨step, later, name, told, split.symm, named, missing⟩

theorem beforeMissing_eq_self {steps : List (Step κ)}
    (nothing : firstMissing? registry steps = none) : beforeMissing registry steps = steps := by
  rcases complete_or_missing registry steps with ⟨_, all⟩ | ⟨_, _, _, told, _⟩
  · exact all
  · cases nothing.symm.trans told

theorem exists_missing {steps : List (Step κ)} {name : String}
    (told : firstMissing? registry steps = some name) :
    ∃ step later, steps = beforeMissing registry steps ++ step :: later ∧
      step.callable = .named name ∧ registry.get? name = none := by
  rcases complete_or_missing registry steps with ⟨nothing, _⟩ | ⟨step, later, other, again, found⟩
  · cases told.symm.trans nothing
  · cases told.symm.trans again
    exact ⟨step, later, found⟩

end Found

end Step

namespace Calling

variable {calling : Calling κ σ} {registry : Registry κ} {steps done : List (Step κ)}
  {step : Step κ} {s between after : σ}

/-- In this state, names mean what the registry tells. -/
def Consults (calling : Calling κ σ) (registry : Registry κ) (s : σ) : Prop :=
  ∀ name, calling.lookup? s name = registry.get? name

/-- A run of the steps comes to this one in this state: those done before it have succeeded. -/
structure Reaches (calling : Calling κ σ) (steps : List (Step κ)) (s : σ) (done : List (Step κ))
    (step : Step κ) (between : σ) : Prop where
  split : ∃ later, steps = done ++ step :: later
  ran : calling.runSteps done s = (between, .ok ())

/-- No callback that a run of the steps calls changes what names mean. -/
def Spares (calling : Calling κ σ) (steps : List (Step κ)) (s : σ) : Prop :=
  ∀ done step between callback, calling.Reaches steps s done step between →
    calling.callee? step between = some callback →
      ∀ name, calling.lookup? (calling.call callback step.arguments between).1 name =
        calling.lookup? between name

/-- Every callback that a run of the steps calls succeeds. -/
def Succeeds (calling : Calling κ σ) (steps : List (Step κ)) (s : σ) : Prop :=
  ∀ done step between callback, calling.Reaches steps s done step between →
    calling.callee? step between = some callback →
      (calling.call callback step.arguments between).2 = .ok ()

theorem Consults.callee?_eq (looks : calling.Consults registry s) (step : Step κ) :
    calling.callee? step s = step.callee? registry := by
  unfold callee? Step.callee?
  cases step.callable with
  | callback callback => rfl
  | named name => exact looks name

/-- The last of the steps done has succeeded, in the state that those before it left. -/
theorem runSteps_concat_ok (ran : calling.runSteps (done ++ [step]) s = (after, .ok ())) :
    ∃ between, calling.runSteps done s = (between, .ok ()) ∧
      calling.runStep step between = (after, .ok ()) := by
  rw [runSteps_append, runSteps_singleton, Effect.andThen] at ran
  cases first : calling.runSteps done s with
  | mk between ended =>
    rw [first] at ran
    cases ended with
    | ok _ => exact ⟨between, rfl, ran⟩
    | error why => cases ran

theorem called_concat (ran : calling.runSteps done s = (between, .ok ())) :
    calling.called (done ++ [step]) s = calling.called done s ++
      ((calling.callee? step between).map fun callback => (callback, step.arguments)).toList := by
  rw [called_reached ran, called]
  generalize calling.runStep step between = last
  obtain ⟨after, ended⟩ := last
  cases ended <;> exact congrArg _ (List.append_nil _)

/-- The steps done were all found in the registry and called, and names still mean what it tells. -/
structure Progress (calling : Calling κ σ) (registry : Registry κ) (done : List (Step κ))
    (s between : σ) : Prop where
  looks : calling.Consults registry between
  found : ∀ step ∈ done, (step.callee? registry).isSome
  called : calling.called done s = Step.calls registry done

theorem Progress.concat (before : calling.Progress registry done s between) {callback : κ}
    (ran : calling.runSteps done s = (between, .ok ()))
    (callee : calling.callee? step between = some callback)
    (spared : calling.Consults registry after) :
    calling.Progress registry (done ++ [step]) s after where
  looks := spared
  found := by
    rw [List.forall_mem_append, List.forall_mem_singleton, ← before.looks.callee?_eq, callee]
    exact ⟨before.found, rfl⟩
  called := by
    rw [called_concat ran, before.called, before.looks.callee?_eq, Step.calls_concat]

theorem progress_of_runSteps (looks : calling.Consults registry s) (spares : calling.Spares steps s)
    {later : List (Step κ)} (split : steps = done ++ later)
    (ran : calling.runSteps done s = (between, .ok ())) :
    calling.Progress registry done s between := by
  induction done using List.reverseRecOn generalizing later between with
  | nil =>
    cases ran
    exact ⟨looks, by simp, rfl⟩
  | append_singleton done step ih =>
    rw [List.append_assoc] at split
    obtain ⟨mid, before, last⟩ := runSteps_concat_ok ran
    have earlier := ih split before
    cases callee : calling.callee? step mid with
    | none =>
      obtain ⟨name, named, failed⟩ := runStep_missing callee
      rw [failed] at last
      cases last
    | some callback =>
      have same := spares done step mid callback ⟨⟨later, split⟩, before⟩ callee
      rw [← runStep_called callee, last] at same
      exact earlier.concat before callee fun name => (same name).trans (earlier.looks name)

theorem Reaches.progress (reaches : calling.Reaches steps s done step between)
    (looks : calling.Consults registry s) (spares : calling.Spares steps s) :
    calling.Progress registry done s between := by
  obtain ⟨⟨later, split⟩, ran⟩ := reaches
  exact progress_of_runSteps looks spares split ran

theorem Trail.runSteps_eq (trail : calling.Trail s (done.map fun step => (step, .ok ())) between) :
    calling.runSteps done s = (between, .ok ()) := by
  induction done generalizing s with
  | nil =>
    cases trail
    rfl
  | cons step rest ih =>
    cases trail with
    | cons ran later =>
      rw [runSteps, Effect.andThen, ran]
      exact ih later

/-- A run that fails has come to a step that fails, and ends there. -/
theorem exists_reaches_of_failed {why : Failure}
    (failed : calling.runSteps steps s = (after, .error why)) :
    ∃ done step between, calling.Reaches steps s done step between ∧
      calling.runStep step between = (after, .error why) := by
  obtain ⟨done, step, later, between, split, _, before, last⟩ := runSteps_failed failed
  exact ⟨done, step, between, ⟨⟨later, split⟩, before.runSteps_eq⟩, last⟩

section Reached

variable (looks : calling.Consults registry s) (spares : calling.Spares steps s)

include looks spares

/-- A step that is found missing when it is reached is the one at which a rehearsal stops. -/
theorem Reaches.told (reaches : calling.Reaches steps s done step between)
    (missing : calling.callee? step between = none) :
    ∃ name, step.callable = .named name ∧ Step.firstMissing? registry steps = some name ∧
      done = Step.beforeMissing registry steps := by
  have progress := reaches.progress looks spares
  rw [progress.looks.callee?_eq] at missing
  obtain ⟨name, named, absent⟩ := Step.callee?_eq_none missing
  obtain ⟨later, rfl⟩ := reaches.split
  refine ⟨name, named, Step.firstMissing?_of_split progress.found named absent later, ?_⟩
  rw [Step.beforeMissing, List.takeWhile_append_of_pos progress.found,
    List.takeWhile_cons_of_neg (by simp [missing]), List.append_nil]

theorem Reaches.isPrefix (reaches : calling.Reaches steps s done step between) :
    done <+: Step.beforeMissing registry steps := by
  obtain ⟨later, rfl⟩ := reaches.split
  exact Step.isPrefix_beforeMissing (reaches.progress looks spares).found _

/-- A run that succeeds has missed nothing, and has called everything. -/
theorem complete_of_runSteps (ran : calling.runSteps steps s = (after, .ok ())) :
    Step.firstMissing? registry steps = none ∧
      calling.called steps s = Step.calls registry (Step.beforeMissing registry steps) := by
  have progress := progress_of_runSteps looks spares (List.append_nil steps).symm ran
  have all : Step.beforeMissing registry steps = steps :=
    List.takeWhile_eq_self_iff.mpr progress.found
  exact ⟨Step.firstMissing?_of_found progress.found, by rw [all, progress.called]⟩

/-- A run that fails has called no step after the one that failed. -/
theorem Reaches.called_failed (reaches : calling.Reaches steps s done step between) {why : Failure}
    (failed : calling.runStep step between = (after, .error why)) :
    calling.called steps s = Step.calls registry (done ++ [step]) := by
  have progress := reaches.progress looks spares
  obtain ⟨later, rfl⟩ := reaches.split
  rw [(runSteps_stopped reaches.ran failed).2, progress.called, progress.looks.callee?_eq,
    Step.calls_concat]

theorem called_isPrefix :
    calling.called steps s <+: Step.calls registry (Step.beforeMissing registry steps) := by
  cases ran : calling.runSteps steps s with
  | mk after ended =>
    cases ended with
    | ok _ =>
      exact (complete_of_runSteps looks spares ran).2 ▸ List.prefix_rfl
    | error why =>
      obtain ⟨done, step, between, reaches, failed⟩ := exists_reaches_of_failed ran
      have progress := reaches.progress looks spares
      rw [reaches.called_failed looks spares failed]
      cases callee : step.callee? registry with
      | none =>
        rw [Step.calls_concat, callee, Option.map_none, Option.toList_none, List.append_nil]
        exact (reaches.isPrefix looks spares).filterMap _
      | some callback =>
        have found : ∀ earlier ∈ done ++ [step], (earlier.callee? registry).isSome := by
          rw [List.forall_mem_append, List.forall_mem_singleton, callee]
          exact ⟨progress.found, rfl⟩
        obtain ⟨later, split⟩ := reaches.split
        have before := Step.isPrefix_beforeMissing found later
        rw [← List.append_cons, ← split] at before
        exact before.filterMap _

/-- Where callbacks succeed, a run fails only at the step at which a rehearsal stops. -/
theorem Succeeds.failed (succeeds : calling.Succeeds steps s) {why : Failure}
    (ran : calling.runSteps steps s = (after, .error why)) :
    ∃ name, why = .undefinedAction name ∧ Step.firstMissing? registry steps = some name ∧
      calling.called steps s = Step.calls registry (Step.beforeMissing registry steps) := by
  obtain ⟨done, step, between, reaches, failed⟩ := exists_reaches_of_failed ran
  cases callee : calling.callee? step between with
  | some callback =>
    have ended := succeeds done step between callback reaches callee
    rw [← runStep_called callee, failed] at ended
    cases ended
  | none =>
    obtain ⟨name, named, told, rfl⟩ := reaches.told looks spares callee
    obtain ⟨other, again, missed⟩ := runStep_missing callee
    rw [missed] at failed
    cases named.symm.trans again
    cases failed
    refine ⟨name, rfl, told, ?_⟩
    rw [reaches.called_failed looks spares missed, Step.calls_concat,
      ← (reaches.progress looks spares).looks.callee?_eq, callee]
    exact List.append_nil _

end Reached

end Calling

/-- A rehearsal tells how a run will go, where the run looks names up in the registry and callbacks
leave the registry alone. Whether callbacks fail or not, the run comes to no step beyond the one at
which the rehearsal stops, is not complete if it stops, and finds no other name missing. Where they
all succeed, the run succeeds just if nothing is missing, and else it calls all the steps before the
one that is, and fails for its name. -/
theorem rehearsal_foretells_run (calling : Calling κ σ) (registry : Registry κ)
    (steps : List (Step κ)) (s : σ) (looks : calling.Consults registry s)
    (spares : calling.Spares steps s) :
    let told := Step.firstMissing? registry steps
    let before := Step.beforeMissing registry steps
    let ended := (calling.runSteps steps s).2
    let called := calling.called steps s
    (told = none → before = steps) ∧
      (∀ name, told = some name → ended ≠ .ok () ∧
        ∃ step later, steps = before ++ step :: later ∧ step.callable = .named name ∧
          registry.get? name = none) ∧
      (∀ done step between, calling.Reaches steps s done step between → done <+: before ∧
        ∀ name, step.callable = .named name → calling.lookup? between name = none →
          told = some name ∧ done = before) ∧
      called <+: Step.calls registry before ∧
      (calling.Succeeds steps s →
        (ended = .ok () ↔ told = none) ∧
        (∀ name, told = some name → ended = .error (.undefinedAction name)) ∧
        called = Step.calls registry before) := by
  intro told before ended called
  have complete : ended = .ok () → told = none ∧ called = Step.calls registry before :=
    fun succeeded => Calling.complete_of_runSteps looks spares (Prod.ext rfl succeeded)
  refine ⟨Step.beforeMissing_eq_self, fun name missing => ⟨fun succeeded => ?_,
      Step.exists_missing missing⟩,
    fun done step between reaches => ⟨reaches.isPrefix looks spares, fun name named missing => ?_⟩,
    Calling.called_isPrefix looks spares, fun succeeds => ?_⟩
  · cases missing.symm.trans (complete succeeded).1
  · have unfound : calling.callee? step between = none := by
      rw [Calling.callee?, named]
      exact missing
    obtain ⟨other, again, missing, all⟩ := reaches.told looks spares unfound
    cases named.symm.trans again
    exact ⟨missing, all⟩
  · cases result : ended with
    | ok _ =>
      obtain ⟨nothing, calls⟩ := complete result
      refine ⟨⟨fun _ => nothing, fun _ => rfl⟩, fun name missing => ?_, calls⟩
      cases nothing.symm.trans missing
    | error why =>
      obtain ⟨name, rfl, missing, calls⟩ := succeeds.failed looks spares (Prod.ext rfl result)
      refine ⟨⟨fun succeeded => ?_, fun nothing => ?_⟩, fun other again => ?_, calls⟩
      · cases succeeded
      · cases missing.symm.trans nothing
      · cases missing.symm.trans again
        rfl

namespace Context

/-- A context looks names up in one registry for good. -/
theorem consults (registry : Registry (Callback σ)) (context : Context σ) :
    (calling registry).Consults registry context :=
  fun _ => rfl

theorem spares (registry : Registry (Callback σ)) (steps : List (Step (Callback σ)))
    (context : Context σ) : (calling registry).Spares steps context :=
  fun _ _ _ _ _ _ _ => rfl

end Context

namespace Door

def toll : Callback Unit := fun arguments => .mark "toll" arguments .done

def belfry : Registry (Callback Unit) := [("ring", toll)]

/-- Rings, knocks and rings again, and then wants a gong. -/
def alarm (knock : Callback Unit) : List (Step (Callback Unit)) := [
  ⟨.named "ring", []⟩, ⟨.callback knock, [.nat 2]⟩, ⟨.named "ring", [.nat 3]⟩,
  ⟨.named "gong", []⟩, ⟨.named "ring", []⟩]

def hallway : Context Unit := { data := () }

theorem toll_succeeds : (Context.calling belfry).Succeeds (alarm toll) hallway := by
  rintro done step between callback ⟨⟨later, split⟩, _⟩ callee
  have member : step ∈ alarm toll := by simp [split]
  simp only [alarm, List.mem_cons, List.not_mem_nil, or_false] at member
  rcases member with rfl | rfl | rfl | rfl | rfl <;> cases callee <;> rfl

end Door

/-- The bell that cracks, in place of the knock, ends the alarm before the gong is missed. -/
theorem alarm_foretold :
    let calling := Context.calling Door.belfry
    let quiet := Door.alarm Door.toll
    let broken := Door.alarm fun _ => .fail (.failed "cracked")
    calling.Consults Door.belfry Door.hallway ∧ calling.Spares quiet Door.hallway ∧
      calling.Succeeds quiet Door.hallway ∧ calling.Spares broken Door.hallway ∧
      Step.firstMissing? Door.belfry quiet = some "gong" ∧
      (calling.runSteps quiet Door.hallway).2 = .error (.undefinedAction "gong") ∧
      (calling.called quiet Door.hallway).map Prod.snd = [[], [.nat 2], [.nat 3]] ∧
      Step.firstMissing? Door.belfry broken = some "gong" ∧
      (calling.runSteps broken Door.hallway).2 ≠ .ok () ∧
      (calling.runSteps broken Door.hallway).2 = .error (.failed "cracked") := by
  intro calling quiet broken
  have looks := Context.consults Door.belfry Door.hallway
  have spares := Context.spares Door.belfry quiet Door.hallway
  have sparesToo := Context.spares Door.belfry broken Door.hallway
  obtain ⟨_, _, _, _, sure⟩ :=
    rehearsal_foretells_run calling Door.belfry quiet Door.hallway looks spares
  obtain ⟨_, told, called⟩ := sure Door.toll_succeeds
  obtain ⟨_, stops, _⟩ :=
    rehearsal_foretells_run calling Door.belfry broken Door.hallway looks sparesToo
  exact ⟨looks, spares, Door.toll_succeeds, sparesToo, rfl, told "gong" rfl,
    congrArg (List.map Prod.snd) called, rfl, (stops "gong" rfl).1, rfl⟩

end TableMachine
