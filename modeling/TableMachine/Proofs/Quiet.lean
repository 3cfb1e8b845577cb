import TableMachine.Proofs.Callees
import TableMachine.Proofs.Journals
import TableMachine.Proofs.Notices
import TableMachine.Proofs.Sessions

/-!
# Callbacks that leave the machine alone

A quiet script acts on no machine and reads nothing of one; it works with its data, tells of its
calls, and succeeds or fails. Where every callback is quiet, a dispatch comes to the
same in every mode: which of the two implementations looks names up, calls the steps and reports a
failure cannot be told. `Parallel` hosts are those that two such modes lead to.
-/

namespace TableMachine

variable {κ σ : Type}

/-- The script has nothing to do with the machine. -/
inductive Script.Quiet : Script σ → Prop
  | done : Quiet .done
  | fail (why : Failure) : Quiet (.fail why)
  | load {next : σ → Script σ} (later : ∀ data, Quiet (next data)) : Quiet (.load next)
  | store (data : σ) {next : Script σ} (later : Quiet next) : Quiet (.store data next)
  | mark (label : String) (arguments : List Json) {next : Script σ} (later : Quiet next) :
      Quiet (.mark label arguments next)

def Callback.Quiet (callback : Callback σ) : Prop :=
  ∀ arguments, (callback arguments).Quiet

/-- Every callback that the machine can call is quiet. -/
abbrev Machine.Quiet (machine : Machine (Callback σ)) : Prop :=
  machine.table.CallsOnly machine.actions Callback.Quiet

/-- What the act registers, if anything, is quiet. -/
abbrev Act.Quiet : Act (Callback σ) → Prop :=
  Act.Brings Callback.Quiet

namespace Record

/-- The record with its time left out. -/
def untimed (record : Record) : Record :=
  { record with time := .epoch }

end Record

namespace History

def untimed (history : History) : History :=
  { history with records := history.records.map Record.untimed }

theorem untimed_trim (history : History) : history.trim.untimed = history.untimed.trim := by
  obtain ⟨records, limit⟩ := history
  cases limit with
  | none => rfl
  | some limit => simp [untimed, trim, List.map_drop]

theorem untimed_record (record : Record) (history : History) :
    (history.record record).untimed = history.untimed.record record.untimed := by
  rw [History.record, untimed_trim, History.record]
  simp only [untimed, List.map_append, List.map_cons, List.map_nil]

theorem untimed_setLimit (limit : Option Nat) (history : History) :
    (history.setLimit limit).untimed = history.untimed.setLimit limit :=
  untimed_trim _

theorem untimed_clear (history : History) : history.clear.untimed = history.untimed.clear := rfl

end History

namespace Entry

/-- The entry with the status that a callback observed left out. -/
def unobserved : Entry → Entry
  | .call label arguments _ => .call label arguments none
  | entry => entry

end Entry

namespace Host

/-- The hosts are alike, but for the times of their records and what their callbacks saw of the
status; and nothing that they can call would see more. -/
structure Parallel (a b : Host σ) : Prop where
  data : a.data = b.data
  table : a.machine.table = b.machine.table
  current : a.machine.current = b.machine.current
  actions : a.machine.actions = b.machine.actions
  logger : a.machine.logger = b.machine.logger
  history : a.machine.history.untimed = b.machine.history.untimed
  journal : a.journal.toList.map Entry.unobserved = b.journal.toList.map Entry.unobserved
  quiet : a.machine.Quiet

namespace Parallel

variable {a b : Host σ}

theorem status (parallel : Parallel a b) : a.machine.status = b.machine.status := by
  rw [Machine.status, Machine.status, parallel.table, parallel.current]

theorem writeLine (parallel : Parallel a b) {text other : String} (same : text = other) :
    Parallel (a.writeLine text) (b.writeLine other) where
  data := by
    simp only [Host.writeLine, Context.data_writeLine]
    exact parallel.data
  table := parallel.table
  current := parallel.current
  actions := parallel.actions
  logger := parallel.logger
  history := parallel.history
  journal := by
    simp only [Host.writeLine, Context.journal_writeLine, List.map_append, parallel.journal,
      parallel.logger, same]
  quiet := parallel.quiet

theorem note (parallel : Parallel a b) {entry other : Entry}
    (same : entry.unobserved = other.unobserved) : Parallel (a.note entry) (b.note other) where
  data := parallel.data
  table := parallel.table
  current := parallel.current
  actions := parallel.actions
  logger := parallel.logger
  history := parallel.history
  journal := by
    simp only [Host.note, Context.journal_note, List.map_append, parallel.journal,
      List.map_cons, List.map_nil, same]
  quiet := parallel.quiet

theorem store (parallel : Parallel a b) (data : σ) : Parallel { a with data } { b with data } :=
  { parallel with data := rfl }

theorem take (parallel : Parallel a b) (edge : Edge (Callback σ)) :
    Parallel (a.onMachine (·.take edge)) (b.onMachine (·.take edge)) where
  data := parallel.data
  table := parallel.table
  current := rfl
  actions := parallel.actions
  logger := parallel.logger
  history := by
    simp only [onMachine, Machine.take_eq, History.untimed_record, parallel.history,
      Machine.switchAlong, Record.untimed, parallel.status, parallel.table]
  journal := parallel.journal
  quiet := ⟨parallel.quiet.registered, parallel.quiet.declared⟩

theorem edit (parallel : Parallel a b) {change : Edit (Callback σ)}
    (calm : (Act.edit change).Quiet) :
    Parallel (a.onMachine change.apply) (b.onMachine change.apply) := by
  have quiet := parallel.quiet.apply calm
  cases change with
  | register name callback =>
    exact { parallel with actions := congrArg (Roster.put name callback) parallel.actions, quiet }
  | unregister name =>
    exact { parallel with actions := congrArg (Roster.drop name) parallel.actions, quiet }
  | limitHistory limit =>
    have limited : (a.machine.history.setLimit limit).untimed =
        (b.machine.history.setLimit limit).untimed := by
      rw [History.untimed_setLimit, History.untimed_setLimit, parallel.history]
    exact { parallel with history := limited, quiet }
  | clearHistory =>
    have cleared : a.machine.history.clear.untimed = b.machine.history.clear.untimed := by
      rw [History.untimed_clear, History.untimed_clear, parallel.history]
    exact { parallel with history := cleared, quiet }
  | setLogger logger => exact { parallel with logger := rfl, quiet }
  | setClock clock => exact { parallel with quiet }

end Parallel

theorem correlates_parallel : Correlates (Parallel : Host σ → Host σ → Prop) where
  table := Parallel.table
  current := Parallel.current
  missed := fun stimulus parallel => parallel.writeLine (by
    rw [Machine.missLine_eq, Machine.missLine_eq, parallel.status])
  moved := fun stimulus edge parallel => (parallel.writeLine (by
    rw [Machine.hitLine_eq, Machine.hitLine_eq, parallel.status])).take edge
  failed := fun why parallel => parallel.writeLine (by
    rw [Machine.failureLine_eq, Machine.failureLine_eq, parallel.status])

/-- The effect runs scripts as far as they are quiet. What they are told of the status is open. -/
structure RunsQuiet (effect : Script σ → Effect (Host σ)) : Prop where
  done : ∀ host, effect .done host = (host, .ok ())
  fail : ∀ why host, effect (.fail why) host = (host, .error why)
  load : ∀ next host, effect (.load next) host = effect (next host.data) host
  store : ∀ data next host, effect (.store data next) host = effect next { host with data }
  mark : ∀ label arguments next host, ∃ status,
    effect (.mark label arguments next) host =
      effect next (host.note (.call label arguments status))

theorem Mode.runsQuiet (mode : Mode) : RunsQuiet (mode.runScript : Script σ → Effect (Host σ)) := by
  cases mode with
  | owned room =>
    exact ⟨fun _ => rfl, fun _ _ => rfl, fun _ _ => rfl, fun _ _ _ => rfl,
      fun _ _ _ host => ⟨some host.status, rfl⟩⟩
  | apart =>
    exact ⟨fun _ => rfl, fun _ _ => rfl, fun _ _ => rfl, fun _ _ _ => rfl,
      fun _ _ _ _ => ⟨none, rfl⟩⟩

theorem RunsQuiet.agree {one two : Script σ → Effect (Host σ)} (first : RunsQuiet one)
    (second : RunsQuiet two) {script : Script σ} (quiet : script.Quiet) {a b : Host σ}
    (parallel : Parallel a b) : Agree Parallel (one script a) (two script b) := by
  induction quiet generalizing a b with
  | done =>
    rw [first.done, second.done]
    exact ⟨parallel, rfl⟩
  | fail why =>
    rw [first.fail, second.fail]
    exact ⟨parallel, rfl⟩
  | load later ih =>
    rw [first.load, second.load, parallel.data]
    exact ih b.data parallel
  | store data later ih =>
    rw [first.store, second.store]
    exact ih (parallel.store data)
  | mark label arguments later ih =>
    obtain ⟨seen, ran⟩ := first.mark label arguments _ a
    obtain ⟨seenToo, ranToo⟩ := second.mark label arguments _ b
    rw [ran, ranToo]
    exact ih (parallel.note rfl)

theorem agreeOn_parallel (first second : Mode) {steps : List (Step (Callback σ))}
    (declared : ∀ step ∈ steps, ∀ callback, step.callable = .callback callback →
      Callback.Quiet callback) :
    Calling.AgreeOn Parallel first.calling second.calling steps := by
  intro step listed a b parallel
  refine ⟨first.callee?_eq second step parallel.actions, fun callback found => ?_⟩
  have quiet := parallel.quiet.callee first (declared step listed) found
  exact first.runsQuiet.agree second.runsQuiet (quiet step.arguments) parallel

/-- Whether the request does no more than to tell the time. -/
def Request.timing : Request σ → Bool
  | .edit (.setClock _) => true
  | _ => false

theorem serve_parallel {request other : Request σ} (calm : request.act.Quiet)
    (same : request.act = other.act) {a b : Host σ} (parallel : Parallel a b) :
    Served.Alike Parallel (a.serve request) (b.serve other) := by
  cases request with
  | dispatch mode stimulus =>
    cases other with
    | edit change => cases same
    | dispatch otherMode otherStimulus =>
      cases same
      obtain ⟨⟨still, agree⟩, called⟩ :=
        correlates_parallel.corresponds.handler mode otherMode parallel rfl fun edge answered =>
          agreeOn_parallel mode otherMode (parallel.quiet.answer answered)
      exact ⟨congrArg some agree, called, still⟩
  | edit change =>
    cases other with
    | dispatch mode stimulus => cases same
    | edit otherChange =>
      cases same
      exact ⟨rfl, rfl, parallel.edit calm⟩

/-- The requests have come to the same, and left the same status, the same records but for their
times, and the same journal but for the status that callbacks saw. -/
structure Served.SameTrace (one two : Served σ) : Prop where
  result : one.result = two.result
  called : one.called = two.called
  status : one.host.status = two.host.status
  history : one.host.machine.history.untimed = two.host.machine.history.untimed
  journal : one.host.journal.toList.map Entry.unobserved =
    two.host.journal.toList.map Entry.unobserved

end Host

/-- Where all callbacks are quiet, sessions that ask the same of two machines built alike come to
the same, request by request, whichever mode each dispatch is made in. -/
theorem quiet_modes_agree (machine : Machine (Callback σ)) (quiet : machine.Quiet) (data : σ)
    (first second : List (Host.Request σ)) (calm : ∀ request ∈ first, request.act.Quiet)
    (same : (first.filter (!·.timing)).map Host.Request.act =
      (second.filter (!·.timing)).map Host.Request.act) :
    List.Forall₂ Host.Served.SameTrace
      (Host.session (!·.timing) first (Host.ofMachine machine data))
      (Host.session (!·.timing) second (Host.ofMachine machine data)) := by
  have parallel : Host.Parallel (Host.ofMachine machine data) (Host.ofMachine machine data) :=
    ⟨rfl, rfl, rfl, rfl, rfl, rfl, rfl, quiet⟩
  have clockOnly : ∀ request : Host.Request σ, (!request.timing) = false →
      ∃ clock, request = .edit (.setClock clock) := by
    intro request hide
    unfold Host.Request.timing at hide
    split at hide
    · exact ⟨_, rfl⟩
    · cases hide
  have agree := Host.session_agree Host.Request.act (·.act.Quiet) parallel
    (fun request hide a b parallel => by
      obtain ⟨clock, rfl⟩ := clockOnly request hide
      exact { parallel with quiet := ⟨parallel.quiet.registered, parallel.quiet.declared⟩ })
    (fun request hide a b parallel => by
      obtain ⟨clock, rfl⟩ := clockOnly request hide
      exact { parallel with })
    (fun request other calm same a b parallel => Host.serve_parallel calm same parallel)
    calm same
  exact agree.imp fun one two served =>
    ⟨served.result, served.called, served.host.status, served.host.history, served.host.journal⟩

namespace Door

/-- A bell that only rings. -/
def chime : Callback Unit := fun arguments => .mark "chime" arguments .done

/-- A bell that gives a last sound. -/
def jammed : Callback Unit := fun arguments => .mark "jammed" arguments (.fail (.failed "stuck"))

def quiet : Machine (Callback Unit) :=
  Machine.ofTable table [("ring", chime)] .recording

theorem quiet_quiet : quiet.Quiet := by
  refine .of_named (fun entry member => ?_) (by decide)
  cases List.mem_singleton.mp member
  exact fun arguments => .mark _ _ .done

/-- A year of the door: it rings, jams, and loses its bell. -/
def year (mode : Host.Mode) : List (Host.Request Unit) := [
  .dispatch mode (.event "push"),
  .dispatch mode (.event "slam"),
  .edit (.register "ring" jammed),
  .dispatch mode (.event "knock"),
  .dispatch mode (.event "slam"),
  .edit (.unregister "ring"),
  .dispatch mode (.event "push")]

end Door

theorem quiet_door_modes_agree :
    Door.quiet.Quiet ∧
      (∀ request ∈ Door.year (.owned 0), request.act.Quiet) ∧
      ((Door.year (.owned 0)).filter (!·.timing)).map Host.Request.act =
        ((.edit (.setClock ⟨60, 0⟩) :: Door.year .apart).filter (!·.timing)).map
          Host.Request.act ∧
      (Host.session (!·.timing) (Door.year (.owned 0)) (Host.ofMachine Door.quiet ())).filterMap
          Host.Served.result =
        [.ok (.moved "shut" "open"), .ok (.moved "open" "shut"), .error (.failed "stuck"),
          .ok (.moved "open" "shut"), .error (.undefinedAction "ring")] ∧
      List.Forall₂ Host.Served.SameTrace
        (Host.session (!·.timing) (Door.year (.owned 0)) (Host.ofMachine Door.quiet ()))
        (Host.session (!·.timing) (.edit (.setClock ⟨60, 0⟩) :: Door.year .apart)
          (Host.ofMachine Door.quiet ())) := by
  have calm : ∀ request ∈ Door.year (.owned 0), request.act.Quiet := by
    have jammed : Callback.Quiet Door.jammed := fun arguments => .mark _ _ (.fail _)
    simp [Door.year, Host.Request.act, Act.Brings, jammed]
  exact ⟨Door.quiet_quiet, calm, rfl, rfl,
    quiet_modes_agree Door.quiet Door.quiet_quiet () (Door.year (.owned 0))
      (.edit (.setClock ⟨60, 0⟩) :: Door.year .apart) calm rfl⟩

end TableMachine
