import TableMachine.Proofs.Modes

/-!
# Sessions

A session is what the owner of a machine asks of it, one request after the other, and what each
request comes to. Two sessions are compared by a relation between their hosts: where the relation
survives the two halves of a dispatch (`Corresponds`), it survives a dispatch in any two modes, and
then a whole session, whatever requests one of them skips.
-/

namespace TableMachine

variable {σ : Type}

namespace Host

/-- Related hosts answer related stimuli by edges of the same steps, and stay related in both halves
of a dispatch. -/
structure Corresponds (R : Host σ → Host σ → Prop) (S : Stimulus → Stimulus → Prop) : Prop where
  status : ∀ {a b}, R a b → a.status = b.status
  answers : ∀ {a b stimulus other}, R a b → S stimulus other →
    Option.Rel (fun edge counterpart => edge.steps = counterpart.steps ∧
        R (a.moved stimulus edge) (b.moved other counterpart))
      (a.machine.answer? stimulus) (b.machine.answer? other)
  missed : ∀ {a b stimulus other}, R a b → S stimulus other →
    R (a.writeLine (a.machine.missLine stimulus)) (b.writeLine (b.machine.missLine other))
  failed : ∀ {a b} why, R a b →
    R (a.writeLine (a.machine.failureLine why)) (b.writeLine (b.machine.failureLine why))

namespace Corresponds

variable {R : Host σ → Host σ → Prop} {S : Stimulus → Stimulus → Prop}
  (keeps : Corresponds R S) {a b : Host σ}

include keeps

theorem settle (outcome : Outcome) {ran ranToo : Host σ × Except Failure Unit}
    (agree : Agree R ran ranToo) :
    Agree R (Host.settle outcome ran) (Host.settle outcome ranToo) := by
  obtain ⟨after, ended⟩ := ran
  obtain ⟨afterToo, endedToo⟩ := ranToo
  obtain ⟨related, same⟩ := agree
  cases (show ended = endedToo from same)
  cases ended with
  | ok _ => exact ⟨related, rfl⟩
  | error why => exact ⟨keeps.failed why related, rfl⟩

/-- Dispatches agree in any two modes in which the steps of the edge taken call alike. -/
theorem handler (first second : Mode) {stimulus other : Stimulus} (related : R a b)
    (asked : S stimulus other)
    (calls : ∀ edge, a.machine.answer? stimulus = some edge →
      Calling.AgreeOn R first.calling second.calling edge.steps) :
    Agree R (first.handler stimulus a) (second.handler other b) ∧
      first.called stimulus a = second.called other b := by
  have answers := keeps.answers related asked
  unfold Mode.called
  generalize answered : a.machine.answer? stimulus = found at answers calls ⊢
  generalize answeredToo : b.machine.answer? other = foundToo at answers ⊢
  cases answers with
  | none =>
    rw [Mode.handler_miss _ answered, Mode.handler_miss _ answeredToo]
    exact ⟨⟨keeps.missed related asked, rfl⟩, rfl⟩
  | @some edge counterpart pair =>
    obtain ⟨steps, moved⟩ := pair
    have agree := calls edge rfl
    constructor
    · rw [Mode.handler_hit _ answered, Mode.handler_hit _ answeredToo, keeps.status related,
        keeps.status moved, ← steps]
      exact keeps.settle _ (agree.runSteps moved)
    · change first.calling.called edge.steps _ = second.calling.called counterpart.steps _
      rw [← steps]
      exact agree.called moved

end Corresponds

/-- Related hosts stand in one state of one table, and stay related in both halves of a dispatch. -/
structure Correlates (R : Host σ → Host σ → Prop) : Prop where
  table : ∀ {a b}, R a b → a.machine.table = b.machine.table
  current : ∀ {a b}, R a b → a.machine.current = b.machine.current
  missed : ∀ {a b} stimulus, R a b →
    R (a.writeLine (a.machine.missLine stimulus)) (b.writeLine (b.machine.missLine stimulus))
  moved : ∀ {a b} stimulus edge, R a b → R (a.moved stimulus edge) (b.moved stimulus edge)
  failed : ∀ {a b} why, R a b →
    R (a.writeLine (a.machine.failureLine why)) (b.writeLine (b.machine.failureLine why))

namespace Correlates

variable {R : Host σ → Host σ → Prop} (keeps : Correlates R) {a b : Host σ}

include keeps

theorem answer? (related : R a b) (stimulus : Stimulus) :
    a.machine.answer? stimulus = b.machine.answer? stimulus := by
  have here : a.machine.state? = b.machine.state? := by
    rw [Machine.state?, Machine.state?, keeps.table related, keeps.current related]
  cases stimulus <;> rw [Machine.answer?, Machine.answer?, here]

theorem corresponds : Corresponds R Eq where
  status := fun related => by
    unfold Host.status Machine.status
    rw [keeps.table related, keeps.current related]
  answers := by
    rintro a b stimulus _ related rfl
    rw [keeps.answer? related stimulus]
    cases b.machine.answer? stimulus with
    | none => exact .none
    | some edge => exact .some ⟨rfl, keeps.moved stimulus edge related⟩
  missed := by
    rintro a b stimulus _ related rfl
    exact keeps.missed stimulus related
  failed := keeps.failed

end Correlates

inductive Request (σ : Type) where
  | dispatch (mode : Mode) (stimulus : Stimulus)
  | edit (change : Edit (Callback σ))

namespace Request

/-- What is asked, in whatever mode. -/
def act : Request σ → Act (Callback σ)
  | .dispatch _ stimulus => .answer stimulus
  | .edit change => .edit change

end Request

/-- What a request came to: the result, if it was a dispatch, the callbacks that its steps called,
and the host that it left. -/
structure Served (σ : Type) where
  result : Option (Except Failure Outcome)
  called : List (Callback σ × List Json)
  host : Host σ

/-- The requests came to the same, and left related hosts. -/
structure Served.Alike (R : Host σ → Host σ → Prop) (one two : Served σ) : Prop where
  result : one.result = two.result
  called : one.called = two.called
  host : R one.host two.host

def serve (host : Host σ) : Request σ → Served σ
  | .dispatch mode stimulus =>
    let (after, result) := mode.handler stimulus host
    ⟨some result, mode.called stimulus host, after⟩
  | .edit change => ⟨none, [], host.onMachine change.apply⟩

/-- What the requests come to, those left out that the test does not pass. -/
def session (shown : Request σ → Bool) : List (Request σ) → Host σ → List (Served σ)
  | [], _ => []
  | request :: rest, host =>
    let served := host.serve request
    if shown request then served :: session shown rest served.host
    else session shown rest served.host

section Pair

variable {R : Host σ → Host σ → Prop} {shown : Request σ → Bool}

theorem session_shown {request : Request σ} (visible : shown request = true)
    (rest : List (Request σ)) (host : Host σ) :
    session shown (request :: rest) host =
      host.serve request :: session shown rest (host.serve request).host := by
  simp only [session, visible, if_true]

theorem session_hidden {request : Request σ} (hide : shown request = false)
    (rest : List (Request σ)) (host : Host σ) :
    session shown (request :: rest) host = session shown rest (host.serve request).host := by
  simp only [session, hide, Bool.false_eq_true, if_false]

/-- Requests that are not shown go by, as long as each of them keeps the hosts related. -/
theorem session_skip {skipped rest : List (Request σ)} {a b : Host σ} (related : R a b)
    (hidden : ∀ request ∈ skipped, shown request = false)
    (skips : ∀ request, shown request = false → ∀ a b, R a b → R a (b.serve request).host) :
    ∃ later, R a later ∧ session shown (skipped ++ rest) b = session shown rest later := by
  induction skipped generalizing b with
  | nil => exact ⟨b, related, rfl⟩
  | cons request others ih =>
    have hide := hidden request List.mem_cons_self
    obtain ⟨later, still, same⟩ := ih (skips request hide a b related)
      fun next member => hidden next (List.mem_cons_of_mem _ member)
    exact ⟨later, still, by rw [List.cons_append, session_hidden hide, same]⟩

/-- Sessions whose shown requests ask the same come to the same, request by request. -/
theorem session_agree {β : Type} (asked : Request σ → β) (fits : Request σ → Prop)
    {first second : List (Request σ)} {a b : Host σ} (related : R a b)
    (skipsFirst : ∀ request, shown request = false → ∀ a b, R a b → R (a.serve request).host b)
    (skipsSecond : ∀ request, shown request = false → ∀ a b, R a b → R a (b.serve request).host)
    (serves : ∀ request other, fits request → asked request = asked other → ∀ a b, R a b →
      Served.Alike R (a.serve request) (b.serve other))
    (fit : ∀ request ∈ first, fits request)
    (same : (first.filter shown).map asked = (second.filter shown).map asked) :
    List.Forall₂ (Served.Alike R) (session shown first a) (session shown second b) := by
  induction first generalizing second a b with
  | nil =>
    have hidden : ∀ request ∈ second, shown request = false := by
      simpa using same.symm
    obtain ⟨later, _, skipped⟩ := session_skip related hidden skipsSecond
    rw [List.append_nil] at skipped
    rw [skipped]
    exact .nil
  | cons request rest ih =>
    have fitLater : ∀ next ∈ rest, fits next :=
      fun next member => fit next (List.mem_cons_of_mem _ member)
    cases visible : shown request with
    | false =>
      rw [List.filter_cons_of_neg (by simp [visible])] at same
      rw [session_hidden visible]
      exact ih (skipsFirst request visible a b related) fitLater same
    | true =>
      -- The second list may skip some requests before it asks what the first asks here.
      rw [List.filter_cons_of_pos visible, List.map_cons] at same
      obtain ⟨other, others, split, asksSame, asksLater⟩ := List.map_eq_cons_iff.mp same.symm
      obtain ⟨skipped, left, rfl, hidden, visibleToo, rfl⟩ := List.filter_eq_cons_iff.mp split
      obtain ⟨between, still, passed⟩ := session_skip related
        (fun next member => by simpa using hidden next member) skipsSecond
      have alike := serves request other (fit request List.mem_cons_self) asksSame.symm _ _ still
      rw [passed, session_shown visible, session_shown visibleToo]
      exact .cons alike (ih alike.host fitLater asksLater.symm)

end Pair

end Host

end TableMachine
