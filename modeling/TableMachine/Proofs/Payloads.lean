import TableMachine.Action.Basic

/-!
# Payloads of whole trees

Giving a payload to an action gives it to every leaf. The steps stay what they are but for their
arguments, however deep the leaves hang and whatever payloads they had: none is added, dropped or
moved, and each calls what it called before.
-/

namespace TableMachine

variable {κ : Type}

namespace Step

def withArguments (arguments : List Json) (step : Step κ) : Step κ :=
  { step with arguments }

/-- The names that steps call by are told by what they call, not by what they hand over. -/
theorem names_withArguments (arguments : List Json) (steps : List (Step κ)) :
    names (steps.map (withArguments arguments)) = names steps := by
  rw [names, List.filterMap_map]
  rfl

end Step

namespace Action

mutual

theorem steps_withPayload (payload : Json) (action : Action κ) :
    (action.withPayload payload).steps =
      action.steps.map (Step.withArguments payload.spread) := by
  cases action with
  | call callable => rfl
  | apply callable held => rfl
  | sequence members => exact stepsOfAll_withPayloads payload members

theorem stepsOfAll_withPayloads (payload : Json) (members : List (Action κ)) :
    stepsOfAll (withPayloads payload members) =
      (stepsOfAll members).map (Step.withArguments payload.spread) := by
  cases members with
  | nil => rfl
  | cons member rest =>
    simp only [withPayloads, stepsOfAll, List.map_append, steps_withPayload payload member,
      stepsOfAll_withPayloads payload rest]

end

mutual

/-- Of two payloads the one given last counts. -/
theorem withPayload_withPayload (first second : Json) (action : Action κ) :
    (action.withPayload first).withPayload second = action.withPayload second := by
  cases action with
  | call callable => rfl
  | apply callable held => rfl
  | sequence members => exact congrArg sequence (withPayloads_withPayloads first second members)

theorem withPayloads_withPayloads (first second : Json) (members : List (Action κ)) :
    withPayloads second (withPayloads first members) = withPayloads second members := by
  cases members with
  | nil => rfl
  | cons member rest =>
    simp only [withPayloads, withPayload_withPayload first second member,
      withPayloads_withPayloads first second rest]

end

/-- A payload reaches every leaf of the tree and nothing else of it: the steps call what they called,
in the same order and number, each with the items of the payload if it is an array and with the
payload alone otherwise. A second payload leaves nothing of the first, a payload that is no array
does what the array of it alone does, and the names that the dry pass looks up stay the same,
whatever is registered. -/
theorem payload_reaches_leaves (action : Action κ) (payload other : Json) :
    ((∀ items, payload = .array items →
        (action.withPayload payload).steps = action.steps.map (Step.withArguments items)) ∧
      ((∀ items, payload ≠ .array items) →
        (action.withPayload payload).steps = action.steps.map (Step.withArguments [payload]))) ∧
      (action.withPayload payload).withPayload other = action.withPayload other ∧
      ((∀ items, payload ≠ .array items) →
        (action.withPayload payload).steps = (action.withPayload (.array [payload])).steps) ∧
      Step.names (action.withPayload payload).steps = Step.names action.steps ∧
      ∀ registry : Registry κ, Step.firstMissing? registry (action.withPayload payload).steps =
        Step.firstMissing? registry action.steps := by
  have alone : (∀ items, payload ≠ .array items) → payload.spread = [payload] := by
    intro flat
    cases payload with
    | array items => exact absurd rfl (flat items)
    | null | bool _ | number _ | text _ | object _ => rfl
  have names : Step.names (action.withPayload payload).steps = Step.names action.steps := by
    rw [steps_withPayload, Step.names_withArguments]
  refine ⟨⟨?_, fun flat => ?_⟩, withPayload_withPayload payload other action, fun flat => ?_,
    names, fun registry => ?_⟩
  · rintro items rfl
    exact steps_withPayload (.array items) action
  · rw [steps_withPayload, alone flat]
  · rw [steps_withPayload, steps_withPayload, alone flat]
    rfl
  · rw [Step.firstMissing?, Step.firstMissing?, names]

/-- A bell, then a call of the ferry that has a payload already, after a pause that is no call. -/
def summons : Action Unit :=
  .sequence [.call (.callback ()), .sequence [.sequence [], .apply (.named "hail") (.nat 2)]]

theorem summons_reached :
    ((summons.withPayload (.text "west")).steps =
        [⟨.callback (), [.text "west"]⟩, ⟨.named "hail", [.text "west"]⟩]) ∧
      ((summons.withPayload (.array [.null, .text "west"])).steps =
        [⟨.callback (), [.null, .text "west"]⟩, ⟨.named "hail", [.null, .text "west"]⟩]) ∧
      Step.firstMissing? [] (summons.withPayload (.text "west")).steps = some "hail" := by
  obtain ⟨⟨_, single⟩, _, _, _, looked⟩ := payload_reaches_leaves summons (.text "west") .null
  obtain ⟨⟨spread, _⟩, _⟩ :=
    payload_reaches_leaves summons (.array [.null, .text "west"]) .null
  exact ⟨single nofun, spread _ rfl, looked []⟩

end Action

end TableMachine
