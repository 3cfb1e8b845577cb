import TableMachine.Proofs.Callees
import TableMachine.Proofs.Journals
import TableMachine.Proofs.Sessions

/-!
# Hosts that scripts cannot tell apart

A script sees the data of its context, the status, the history and the registry of the machine, and
how the dispatches end that it makes. Where related hosts agree in these, and stay related whatever
a script or their owner does to them, whole sessions on them come to the same. They need not agree
in their histories, as long as callbacks go on alike when they are shown one or the other.
-/

namespace TableMachine

variable {σ : Type}

/-- The scripts do the same, but that stimuli are only related, wherever the histories that they are
shown are related, and the rest that they read is the same. -/
inductive Script.Alike (sees : History → History → Prop) (asks : Stimulus → Stimulus → Prop) :
    Script σ → Script σ → Prop
  | done : Alike sees asks .done .done
  | fail (why : Failure) : Alike sees asks (.fail why) (.fail why)
  | load {next other : σ → Script σ} (later : ∀ data, Alike sees asks (next data) (other data)) :
      Alike sees asks (.load next) (.load other)
  | store (data : σ) {next other : Script σ} (later : Alike sees asks next other) :
      Alike sees asks (.store data next) (.store data other)
  | status {next other : Option String → Script σ}
      (later : ∀ status, Alike sees asks (next status) (other status)) :
      Alike sees asks (.status next) (.status other)
  | history {next other : Option History → Script σ}
      (later : ∀ seen shown, Option.Rel sees seen shown →
        Alike sees asks (next seen) (other shown)) :
      Alike sees asks (.history next) (.history other)
  | names {next other : Option (List String) → Script σ}
      (later : ∀ names, Alike sees asks (next names) (other names)) :
      Alike sees asks (.names next) (.names other)
  | mark (label : String) (arguments : List Json) {next other : Script σ}
      (later : Alike sees asks next other) :
      Alike sees asks (.mark label arguments next) (.mark label arguments other)
  | dispatch {stimulus counterpart : Stimulus} (asked : asks stimulus counterpart)
      {next other : Except Failure Outcome → Script σ}
      (later : ∀ result, Alike sees asks (next result) (other result)) :
      Alike sees asks (.dispatch stimulus next) (.dispatch counterpart other)
  | register (name : String) {callback : List Json → Script σ}
      (steady : ∀ arguments, Alike sees asks (callback arguments) (callback arguments))
      {next other : Script σ} (later : Alike sees asks next other) :
      Alike sees asks (.register name callback next) (.register name callback other)
  | unregister (name : String) {next other : Script σ} (later : Alike sees asks next other) :
      Alike sees asks (.unregister name next) (.unregister name other)
  | limitHistory (limit : Option Nat) {next other : Script σ}
      (later : Alike sees asks next other) :
      Alike sees asks (.limitHistory limit next) (.limitHistory limit other)
  | clearHistory {next other : Script σ} (later : Alike sees asks next other) :
      Alike sees asks (.clearHistory next) (.clearHistory other)

/-- Related histories do not make the callback do anything else. -/
def Callback.Steady (sees : History → History → Prop) (asks : Stimulus → Stimulus → Prop)
    (callback : Callback σ) : Prop :=
  ∀ arguments, Script.Alike sees asks (callback arguments) (callback arguments)

namespace Host

variable {R : Host σ → Host σ → Prop} {sees : History → History → Prop}
  {asks : Stimulus → Stimulus → Prop}

/-- But for the histories that they are shown, scripts and owners find nothing by which to tell
related hosts apart, and whatever they do keeps the hosts related. -/
structure Indistinct (R : Host σ → Host σ → Prop) (sees : History → History → Prop)
    (asks : Stimulus → Stimulus → Prop) : Prop extends Corresponds R asks where
  data : ∀ {a b}, R a b → a.data = b.data
  actions : ∀ {a b}, R a b → a.machine.actions = b.machine.actions
  history : ∀ {a b}, R a b → sees a.machine.history b.machine.history
  stored : ∀ {a b} data, R a b → R { a with data } { b with data }
  noted : ∀ {a b} entry, entry.line? = none → R a b → R (a.note entry) (b.note entry)
  edited : ∀ {a b} (change : Edit (Callback σ)), R a b →
    R (a.onMachine change.apply) (b.onMachine change.apply)

/-- Related hosts, on which nothing is called that related histories make do anything else. -/
structure Matched (R : Host σ → Host σ → Prop) (sees : History → History → Prop)
    (asks : Stimulus → Stimulus → Prop) (a b : Host σ) : Prop where
  related : R a b
  steady : a.machine.table.CallsOnly a.machine.actions (Callback.Steady sees asks)

/-- Two requests ask the same, but that stimuli are only related. -/
inductive Request.Asks (S : Stimulus → Stimulus → Prop) : Request σ → Request σ → Prop
  | dispatch (mode : Mode) {stimulus other : Stimulus} (asked : S stimulus other) :
      Asks S (.dispatch mode stimulus) (.dispatch mode other)
  | edit (change : Edit (Callback σ)) : Asks S (.edit change) (.edit change)

namespace Indistinct

variable (keeps : Indistinct R sees asks) {a b : Host σ}

include keeps

theorem edit_matched (change : Edit (Callback σ))
    (brings : (Act.edit change).Brings (Callback.Steady sees asks))
    (matched : Matched R sees asks a b) :
    Matched R sees asks (a.onMachine change.apply) (b.onMachine change.apply) :=
  ⟨keeps.edited change matched.related, matched.steady.apply brings⟩

/-- Neither half of a dispatch registers anything. -/
theorem corresponds_matched : Corresponds (Matched R sees asks) asks where
  status := fun matched => keeps.status matched.related
  answers := fun {a b stimulus other} matched asked => by
    have answers := keeps.answers matched.related asked
    generalize a.machine.answer? stimulus = found at answers ⊢
    generalize b.machine.answer? other = foundToo at answers ⊢
    cases answers with
    | none => exact .none
    | some pair => exact .some ⟨pair.1, pair.2, matched.steady⟩
  missed := fun matched asked => ⟨keeps.missed matched.related asked, matched.steady⟩
  failed := fun why matched => ⟨keeps.failed why matched.related, matched.steady⟩

/-- Alike scripts agree on matched hosts, if the handlers of what they dispatch do. -/
theorem run {nested : Option (Handler σ)}
    (answers : ∀ handler ∈ nested, ∀ stimulus other a b, asks stimulus other →
      Matched R sees asks a b →
        Agree (Matched R sees asks) (handler stimulus a) (handler other b))
    {script other : Script σ} (alike : Script.Alike sees asks script other)
    (matched : Matched R sees asks a b) :
    Agree (Matched R sees asks) (Host.run nested script a) (Host.run nested other b) := by
  induction alike generalizing a b with
  | done | fail => exact ⟨matched, rfl⟩
  | load _ ih =>
    unfold Host.run
    rw [keeps.data matched.related]
    exact ih b.data matched
  | store data _ ih => exact ih ⟨keeps.stored data matched.related, matched.steady⟩
  | status _ ih =>
    unfold Host.run
    rw [keeps.status matched.related]
    exact ih (some b.status) matched
  | history _ ih =>
    -- Here alone the scripts read something else, and are alike for what they then go on with.
    exact ih _ _ (.some (keeps.history matched.related)) matched
  | names _ ih =>
    unfold Host.run
    rw [keeps.actions matched.related]
    exact ih (some b.machine.actions.sortedNames) matched
  | mark label arguments _ ih =>
    unfold Host.run
    rw [keeps.status matched.related]
    exact ih ⟨keeps.noted _ rfl matched.related, matched.steady⟩
  | @dispatch stimulus counterpart asked _ _ _ ih =>
    cases nested with
    | none => exact ⟨matched, rfl⟩
    | some handler =>
      obtain ⟨still, same⟩ := answers handler rfl stimulus counterpart a b asked matched
      simp only [Host.run]
      rw [same]
      exact ih _ ⟨keeps.noted _ rfl still.related, still.steady⟩
  | register name steady _ _ ih =>
    exact ih (keeps.edit_matched (.register name _) steady matched)
  | unregister name _ ih => exact ih (keeps.edit_matched (.unregister name) trivial matched)
  | limitHistory limit _ ih => exact ih (keeps.edit_matched (.limitHistory limit) trivial matched)
  | clearHistory _ ih => exact ih (keeps.edit_matched .clearHistory trivial matched)

/-- In a context, a script finds nothing to read of a machine and fails where it acts on one. -/
theorem runScript_apart {script other : Script σ} (alike : Script.Alike sees asks script other)
    (matched : Matched R sees asks a b) :
    Agree (Matched R sees asks) (Mode.apart.runScript script a)
      (Mode.apart.runScript other b) := by
  induction alike generalizing a b with
  | load _ ih =>
    simp only [Mode.runScript, Context.run]
    rw [keeps.data matched.related]
    exact ih b.data matched
  | store data _ ih => exact ih ⟨keeps.stored data matched.related, matched.steady⟩
  | status _ ih | names _ ih => exact ih none matched
  | history _ ih => exact ih none none .none matched
  | mark label arguments _ ih => exact ih ⟨keeps.noted _ rfl matched.related, matched.steady⟩
  | done | fail | dispatch | register | unregister | limitHistory | clearHistory =>
    exact ⟨matched, rfl⟩

theorem agreeOn (mode : Mode)
    (runs : ∀ {script other : Script σ} {a b : Host σ}, Script.Alike sees asks script other →
      Matched R sees asks a b →
        Agree (Matched R sees asks) (mode.runScript script a) (mode.runScript other b))
    {steps : List (Step (Callback σ))}
    (declared : ∀ step ∈ steps, ∀ callback, step.callable = .callback callback →
      Callback.Steady sees asks callback) :
    Calling.AgreeOn (Matched R sees asks) mode.calling mode.calling steps := by
  intro step listed a b matched
  refine ⟨mode.callee?_eq mode step (keeps.actions matched.related), fun callback found => ?_⟩
  exact runs (matched.steady.callee mode (declared step listed) found step.arguments) matched

theorem runScript (mode : Mode) {script other : Script σ}
    (alike : Script.Alike sees asks script other) (matched : Matched R sees asks a b) :
    Agree (Matched R sees asks) (mode.runScript script a) (mode.runScript other b) := by
  cases mode with
  | apart => exact keeps.runScript_apart alike matched
  | owned room =>
    induction room generalizing script other a b with
    | zero =>
      refine keeps.run (fun handler nothing => ?_) alike matched
      cases nothing
    | succ room ih =>
      refine keeps.run (fun handler same => ?_) alike matched
      cases same
      intro stimulus counterpart c d asked matched
      exact (keeps.corresponds_matched.handler (.owned room) (.owned room) matched asked
        fun edge answered => keeps.agreeOn (.owned room) ih (matched.steady.answer answered)).1

/-- Requests that ask the same come to the same on matched hosts. -/
theorem serve {request other : Request σ} (same : request.Asks asks other)
    (brings : request.act.Brings (Callback.Steady sees asks))
    (matched : Matched R sees asks a b) :
    Served.Alike (Matched R sees asks) (a.serve request) (b.serve other) := by
  cases same with
  | edit change => exact ⟨rfl, rfl, keeps.edit_matched change brings matched⟩
  | dispatch mode asked =>
    obtain ⟨⟨still, agree⟩, called⟩ := keeps.corresponds_matched.handler mode mode matched asked
      fun _ answered => keeps.agreeOn mode (keeps.runScript mode) (matched.steady.answer answered)
    exact ⟨congrArg some agree, called, still⟩

theorem session {first second : List (Request σ)}
    (same : List.Forall₂ (Request.Asks asks) first second)
    (brings : ∀ request ∈ first, request.act.Brings (Callback.Steady sees asks))
    (matched : Matched R sees asks a b) :
    List.Forall₂ (Served.Alike (Matched R sees asks)) (Host.session (fun _ => true) first a)
      (Host.session (fun _ => true) second b) := by
  induction same generalizing a b with
  | nil => exact .nil
  | cons same _ ih =>
    have served := keeps.serve same (brings _ List.mem_cons_self) matched
    exact .cons served (ih (fun _ member => brings _ (List.mem_cons_of_mem _ member)) served.host)

end Indistinct

end Host

end TableMachine
