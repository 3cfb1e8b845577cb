import TableMachine.Host.Basic

/-!
# What a journal tells

A journal holds the lines that a machine wrote, the calls of callbacks, and the ends of the
dispatches that callbacks made. `Context.lines` are the first of these, which is what the sink of a
logger receives; `Context.calls` are the others.
-/

namespace TableMachine

variable {σ : Type}

namespace Entry

/-- The text of an entry that is a line. -/
def line? : Entry → Option String
  | .line text => some text
  | .call _ _ _ => none
  | .nested _ => none

end Entry

/-- The entry that a line makes, unless the logger is silent. -/
def Logger.entries (logger : Logger) (text : String) : List Entry :=
  match logger with
  | .silent => []
  | .recording => [.line text]

namespace Context

def lines (context : Context σ) : List String :=
  context.journal.toList.filterMap Entry.line?

def calls (context : Context σ) : List Entry :=
  context.journal.toList.filter fun entry => entry.line?.isNone

theorem journal_note (entry : Entry) (context : Context σ) :
    (context.note entry).journal.toList = context.journal.toList ++ [entry] :=
  Array.toList_push

theorem journal_writeLine (logger : Logger) (text : String) (context : Context σ) :
    (context.writeLine logger text).journal.toList =
      context.journal.toList ++ logger.entries text := by
  cases logger with
  | silent => exact (List.append_nil _).symm
  | recording => exact journal_note _ _

/-- What a machine writes is no call. -/
theorem calls_writeLine (logger : Logger) (text : String) (context : Context σ) :
    (context.writeLine logger text).calls = context.calls := by
  cases logger <;> simp [calls, journal_writeLine, Logger.entries, Entry.line?]

theorem calls_note {entry : Entry} (other : entry.line? = none) (context : Context σ) :
    (context.note entry).calls = context.calls ++ [entry] := by
  simp [calls, journal_note, other]

/-- The journal has gained entries, and no line is among them. -/
def Mute (before after : Context σ) : Prop :=
  ∃ gained, after.journal.toList = before.journal.toList ++ gained ∧
    ∀ entry ∈ gained, entry.line? = none

namespace Mute

variable {a b c : Context σ}

theorem refl (context : Context σ) : Mute context context :=
  ⟨[], (List.append_nil _).symm, by simp⟩

theorem trans (first : Mute a b) (second : Mute b c) : Mute a c := by
  obtain ⟨gained, split, none⟩ := first
  obtain ⟨later, splitLater, noneLater⟩ := second
  refine ⟨gained ++ later, ?_, ?_⟩
  · rw [splitLater, split, List.append_assoc]
  · intro entry member
    rcases List.mem_append.mp member with early | late
    · exact none entry early
    · exact noneLater entry late

theorem note {entry : Entry} (other : entry.line? = none) (context : Context σ) :
    Mute context (context.note entry) :=
  ⟨[entry], journal_note entry context, by simpa using other⟩

/-- A script that runs in a context writes no line. -/
theorem run (script : Script σ) (context : Context σ) :
    Mute context (Context.run script context).1 := by
  induction script generalizing context with
  | load next ih => exact ih context.data context
  | store data next ih => exact ih { context with data }
  | status next ih | history next ih | names next ih => exact ih none context
  | mark label arguments next ih => exact (note rfl context).trans (ih _)
  | done | fail | dispatch | register | unregister | limitHistory | clearHistory =>
    exact .refl context

theorem runSteps (actions : Registry (Callback σ)) (steps : List (Step (Callback σ)))
    (context : Context σ) : Mute context ((calling actions).runSteps steps context).1 := by
  induction steps generalizing context with
  | nil => exact .refl context
  | cons step rest ih =>
    have first : Mute context ((calling actions).runStep step context).1 := by
      unfold Calling.runStep
      split
      · exact run _ context
      · split
        · exact run _ context
        · exact .refl context
    simp only [Calling.runSteps, Effect.andThen]
    generalize (calling actions).runStep step context = ran at first
    obtain ⟨after, ended⟩ := ran
    cases ended with
    | ok _ => exact first.trans (ih after)
    | error why => exact first

end Mute

theorem data_writeLine (logger : Logger) (text : String) (context : Context σ) :
    (context.writeLine logger text).data = context.data := by
  cases logger <;> rfl

end Context

end TableMachine
