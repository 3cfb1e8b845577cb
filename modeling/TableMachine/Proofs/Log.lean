import TableMachine.Proofs.Blocks
import TableMachine.Proofs.Journals
import TableMachine.Proofs.Sessions

/-!
# The log of a run

While the logger of a machine is kept, its sink receives the block of each dispatch and nothing
else: what `Deed.notices` tells of the tree of a dispatch is what the machine writes, line by line.
In the journal, the opening line comes before the first call, and the closing line after the last.
-/

namespace TableMachine

variable {σ : Type}

namespace Host

/-- A host whose machine records has done the deeds, and its machine has written what they tell. -/
structure Told (deeds : List (Deed (Callback σ))) (before after : Host σ) : Prop where
  recount : Deed.Recount deeds before.machine after.machine
  recording : after.machine.logger = .recording
  journal : ∃ gained, after.journal.toList = before.journal.toList ++ gained ∧
    Deed.Fills before.machine.status deeds gained

namespace Told

theorem nil {host : Host σ} (recording : host.machine.logger = .recording) : Told [] host host :=
  ⟨.nil _, recording, [], (List.append_nil _).symm, .nil _⟩

theorem append {first second : List (Deed (Callback σ))} {before between after : Host σ}
    (earlier : Told first before between) (later : Told second between after) :
    Told (first ++ second) before after := by
  obtain ⟨early, split, fills⟩ := earlier.journal
  obtain ⟨late, splitLater, fillsLater⟩ := later.journal
  refine ⟨earlier.recount.append later.recount, later.recording, early ++ late, ?_, ?_⟩
  · rw [splitLater, split, List.append_assoc]
  · rw [earlier.recount.status] at fillsLater
    exact fills.append fillsLater

theorem cons {deed : Deed (Callback σ)} {rest : List (Deed (Callback σ))}
    {before between after : Host σ} (earlier : Told [deed] before between)
    (later : Told rest between after) : Told (deed :: rest) before after :=
  earlier.append later

/-- What callbacks note of themselves is no line. -/
theorem after_note {deeds : List (Deed (Callback σ))} {before after : Host σ} {entry : Entry}
    (other : entry.line? = none) (told : Told deeds (before.note entry) after) :
    Told deeds before after := by
  obtain ⟨gained, split, fills⟩ := told.journal
  refine ⟨told.recount, told.recording, entry :: gained, ?_, .other other fills⟩
  rw [split, List.append_cons]
  exact congrArg (· ++ gained) (Context.journal_note entry before.toContext)

theorem edit {change : Edit (Callback σ)} {host : Host σ}
    (recording : (change.apply host.machine).logger = .recording) :
    Told [.edit change] host (host.onMachine change.apply) :=
  ⟨.edit change host.machine, recording, [], (List.append_nil _).symm, .edit change (.nil _)⟩

theorem step {inner : List (Deed (Callback σ))} {before after : Host σ}
    (callback : Told inner before after) (step : Step (Callback σ)) (callee : Option (Callback σ))
    (ended : Except Failure Unit) : Told [.step step callee inner ended] before after := by
  obtain ⟨inside, split, fills⟩ := callback.journal
  have filled := fills.step step callee ended (.nil _)
  rw [List.append_nil] at filled
  exact ⟨callback.recount.step step callee ended, callback.recording, inside, split, filled⟩

end Told

/-- The dispatch opens its block, lets its callbacks fill it, and closes it. -/
def Bracketed (opening : Notice) (reached : String) (inner : List (Deed (Callback σ)))
    (before : Host σ) (ended : Host σ × Except Failure Outcome) : Prop :=
  ∃ between,
    ended.1.journal.toList = before.journal.toList ++ .line opening.text :: (between ++
      (Notice.closing ended.1.machine.status ended.2).map fun notice => .line notice.text) ∧
    Deed.Fills reached inner between

/-- The line with which a dispatch opens its block. -/
def opening (stimulus : Stimulus) (host : Host σ) : Notice :=
  match host.machine.answer? stimulus with
  | none => .miss stimulus host.machine.status
  | some edge => .hit stimulus host.machine.status edge.target !edge.steps.isEmpty

section Dispatch

variable {stimulus : Stimulus} {host : Host σ}

theorem journal_writeLine (recording : host.machine.logger = .recording) (text : String) :
    (host.writeLine text).journal.toList = host.journal.toList ++ [.line text] := by
  rw [writeLine, recording]
  exact Context.journal_note _ _

theorem bracketed_miss (recording : host.machine.logger = .recording)
    (missed : host.machine.answer? stimulus = none) (reached : String) :
    Bracketed (host.opening stimulus) reached [] host
      (host.writeLine (host.machine.missLine stimulus), .ok .unmatched) := by
  refine ⟨[], ?_, .nil reached⟩
  rw [opening, missed, journal_writeLine recording, Machine.missLine_eq]
  rfl

theorem bracketed_hit (recording : host.machine.logger = .recording)
    {edge : Edge (Callback σ)} (answered : host.machine.answer? stimulus = some edge)
    {inner : List (Deed (Callback σ))} {ran : Host σ × Except Failure Unit} (outcome : Outcome)
    (told : Told inner (host.moved stimulus edge) ran.1) :
    Bracketed (host.opening stimulus) (host.moved stimulus edge).machine.status inner host
      (settle outcome ran) := by
  obtain ⟨between, split, fills⟩ := told.journal
  have opened : (host.moved stimulus edge).journal.toList =
      host.journal.toList ++ [.line (host.opening stimulus).text] := by
    rw [opening, answered]
    exact (journal_writeLine recording _).trans (by rw [Machine.hitLine_eq]; rfl)
  refine ⟨between, ?_, fills⟩
  obtain ⟨after, ended⟩ := ran
  rw [opened, List.append_assoc] at split
  cases ended with
  | ok _ => exact split.trans (by simp [settle, Notice.closing])
  | error why =>
    have closed := journal_writeLine told.recording (after.machine.failureLine why)
    rw [split, Machine.failureLine_eq, List.append_assoc] at closed
    exact closed

/-- The opening line says what the tree of the dispatch says. -/
theorem opening_eq {table : Table (Callback σ)} (intact : table.Intact)
    (stands : Machine.Stands table host.machine) {inner : List (Deed (Callback σ))}
    (filled : ∀ edge, host.machine.answer? stimulus = some edge →
      inner.isEmpty = edge.steps.isEmpty) :
    host.opening stimulus = Deed.opening host.machine.status stimulus inner
      (host.machine.switch? stimulus) := by
  unfold opening Machine.switch?
  cases answered : host.machine.answer? stimulus with
  | none => rfl
  | some edge =>
    have arrives := stands.nameAt_target intact answered
    simp only [Option.map_some, Deed.opening, Machine.switchAlong, arrives, filled edge answered]

theorem reached_eq (stimulus : Stimulus) (host : Host σ) :
    (host.machine.answer stimulus).status =
      ((host.machine.switch? stimulus).map Record.target).getD host.machine.status :=
  Machine.status_apply (.answer stimulus) host.machine

/-- A bracketed dispatch has written what its tree tells. -/
theorem Bracketed.told {table : Table (Callback σ)} (intact : table.Intact)
    (stands : Machine.Stands table host.machine) {inner : List (Deed (Callback σ))}
    {ended : Host σ × Except Failure Outcome}
    (bracketed : Bracketed (host.opening stimulus) (host.machine.answer stimulus).status inner host
      ended)
    (filled : ∀ edge, host.machine.answer? stimulus = some edge →
      inner.isEmpty = edge.steps.isEmpty)
    (recording : ended.1.machine.logger = .recording)
    (recount : Deed.Recount inner (host.machine.answer stimulus) ended.1.machine) :
    Told [.dispatch stimulus (host.machine.switch? stimulus) inner ended.2] host ended.1 := by
  refine ⟨recount.dispatch ended.2, recording, ?_⟩
  obtain ⟨between, split, fills⟩ := bracketed
  refine ⟨_, split, ?_⟩
  rw [opening_eq intact stands filled, recount.status]
  rw [reached_eq] at fills ⊢
  have block := fills.dispatch stimulus (host.machine.switch? stimulus) ended.2 (.nil _)
  rw [List.append_nil] at block
  exact block

end Dispatch

theorem isEmpty_innerDeeds (nested : Option (Account σ)) {stimulus : Stimulus} {host : Host σ}
    {edge : Edge (Callback σ)} (answered : host.machine.answer? stimulus = some edge) :
    (innerDeeds nested stimulus host).isEmpty = edge.steps.isEmpty := by
  simp only [innerDeeds, answered]
  cases edge.steps <;> rfl

/-- By this account, dispatches to a recording machine of the table write what their trees tell. -/
def Account.Tells (table : Table (Callback σ)) (account : Account σ) : Prop :=
  ∀ stimulus host, Machine.Stands table host.machine → host.machine.logger = .recording →
    Told [account.deed stimulus host] host (account.handler stimulus host).1

/-- An edit that leaves the logger alone, and what is told from the machine that it makes on. -/
theorem told_edit {table : Table (Callback σ)} (intact : table.Intact)
    (change : Edit (Callback σ)) {rest : List (Deed (Callback σ))} {host after : Host σ}
    (stands : Machine.Stands table host.machine)
    (recording : (change.apply host.machine).logger = .recording)
    (later : Machine.Stands table (change.apply host.machine) →
      Told rest (host.onMachine change.apply) after) :
    Told (.edit change :: rest) host after :=
  have kept := (Deed.Recount.edit change host.machine).stands intact stands
  (Told.edit recording).cons (later kept)

section Within

variable {table : Table (Callback σ)} (intact : table.Intact) {nested : Option (Account σ)}
  (tells : ∀ account ∈ nested, account.Tells table)

include intact tells

theorem told_script (script : Script σ) (host : Host σ)
    (stands : Machine.Stands table host.machine) (recording : host.machine.logger = .recording) :
    Told (deedsOfScript nested script host) host (run (handlerOf nested) script host).1 := by
  induction script generalizing host with
  | done => exact .nil recording
  | fail why => exact .nil recording
  | load next ih => exact ih host.data host stands recording
  | store data next ih =>
    have told := ih { host with data } stands recording
    exact ⟨told.recount, told.recording, told.journal⟩
  | status next ih | history next ih | names next ih => exact ih _ host stands recording
  | mark label arguments next ih => exact (ih (host.note _) stands recording).after_note rfl
  | dispatch stimulus next ih =>
    cases nested with
    | none => exact .nil recording
    | some account =>
      have told := tells account rfl stimulus host stands recording
      have kept := told.recount.stands intact stands
      exact told.cons ((ih _ (.note _ _) kept told.recording).after_note rfl)
  | register name callback next _ ih =>
    exact told_edit intact _ stands recording fun kept => ih (host.onMachine _) kept recording
  | unregister name next ih =>
    exact told_edit intact _ stands recording fun kept => ih (host.onMachine _) kept recording
  | limitHistory limit next ih =>
    exact told_edit intact _ stands recording fun kept => ih (host.onMachine _) kept recording
  | clearHistory next ih =>
    exact told_edit intact _ stands recording fun kept => ih (host.onMachine _) kept recording

theorem told_step (step : Step (Callback σ)) (host : Host σ)
    (stands : Machine.Stands table host.machine) (recording : host.machine.logger = .recording) :
    Told [deedOfStep nested step host] host ((calling (handlerOf nested)).runStep step host).1 := by
  unfold deedOfStep
  cases found : (calling (handlerOf nested)).callee? step host with
  | some callback =>
    rw [Calling.runStep_called found]
    exact (told_script intact tells (callback step.arguments) host stands recording).step _ _ _
  | none =>
    obtain ⟨_, _, ran⟩ := Calling.runStep_missing found
    rw [ran]
    exact (Told.nil recording).step _ _ _

theorem told_steps (steps : List (Step (Callback σ))) (host : Host σ)
    (stands : Machine.Stands table host.machine) (recording : host.machine.logger = .recording) :
    Told (deedsOfSteps nested steps host) host
      ((calling (handlerOf nested)).runSteps steps host).1 := by
  induction steps generalizing host with
  | nil => exact .nil recording
  | cons step rest ih =>
    have first := told_step intact tells step host stands recording
    simp only [Calling.runSteps, Effect.andThen, deedsOfSteps]
    generalize (calling (handlerOf nested)).runStep step host = ran at first
    obtain ⟨after, ended⟩ := ran
    cases ended with
    | ok _ => exact first.cons (ih after (first.recount.stands intact stands) first.recording)
    | error why => exact first

theorem bracketed_react (stimulus : Stimulus) (host : Host σ)
    (stands : Machine.Stands table host.machine) (recording : host.machine.logger = .recording) :
    Bracketed (host.opening stimulus) (host.machine.answer stimulus).status
        (innerDeeds nested stimulus host) host (react (handlerOf nested) stimulus host) ∧
      (react (handlerOf nested) stimulus host).1.machine.logger = .recording := by
  unfold innerDeeds
  cases answered : host.machine.answer? stimulus with
  | none =>
    rw [react_miss _ answered]
    exact ⟨bracketed_miss recording answered _, recording⟩
  | some edge =>
    have told := told_steps intact tells edge.steps (host.moved stimulus edge)
      (stands.take intact answered) recording
    rw [react_hit _ answered, settle_machine]
    refine ⟨?_, told.recording⟩
    simp only [Machine.answer, answered]
    exact bracketed_hit recording answered _ told

theorem tells_account : (account nested).Tells table := by
  intro stimulus host stands recording
  obtain ⟨bracketed, still⟩ := bracketed_react intact tells stimulus host stands recording
  exact bracketed.told intact stands (fun edge answered => isEmpty_innerDeeds nested answered) still
    (recount_inner nested stimulus host)

end Within

theorem tells_accountWithin {table : Table (Callback σ)} (intact : table.Intact) (room : Nat) :
    (accountWithin room : Account σ).Tells table := by
  induction room with
  | zero => exact tells_account intact fun _ nothing => nomatch nothing
  | succ room ih =>
    refine tells_account intact fun account same => ?_
    cases same
    exact ih

/-- Steps that cannot reach the machine leave no line. -/
theorem told_mute (calling : Calling (Callback σ) (Context σ)) (context : Context σ)
    (started : List (Step (Callback σ) × Except Failure Unit)) {before : Host σ}
    {after : Context σ} (recording : before.machine.logger = .recording)
    (mute : before.toContext.Mute after) :
    Told (started.map (Deed.ofStart calling context)) before
      { toContext := after, machine := before.machine } := by
  obtain ⟨gained, split, none⟩ := mute
  refine ⟨Deed.recount_starts _ _ _ _, recording, gained, split, ?_⟩
  rw [← List.append_nil gained]
  refine .others none ?_
  induction started with
  | nil => exact .nil _
  | cons start rest ih => exact .step start.1 _ start.2 (.nil _) ih

theorem isEmpty_innerDeedsIn {stimulus : Stimulus} {host : Host σ} {edge : Edge (Callback σ)}
    (answered : host.machine.answer? stimulus = some edge) :
    (host.machine.innerDeedsIn stimulus host.toContext).isEmpty = edge.steps.isEmpty := by
  simp only [Machine.innerDeedsIn, answered, List.isEmpty_map]
  cases edge.steps with
  | nil => rfl
  | cons step rest =>
    unfold Calling.started
    split <;> rfl

theorem bracketed_apart (stimulus : Stimulus) (host : Host σ)
    (recording : host.machine.logger = .recording) :
    Bracketed (host.opening stimulus) (host.machine.answer stimulus).status
        (host.machine.innerDeedsIn stimulus host.toContext) host (dispatchApart stimulus host) ∧
      (dispatchApart stimulus host).1.machine.logger = .recording := by
  have apart : (dispatchApart : Handler σ) = Mode.apart.handler := rfl
  unfold Machine.innerDeedsIn
  cases answered : host.machine.answer? stimulus with
  | none =>
    rw [apart, Mode.handler_miss _ answered]
    exact ⟨bracketed_miss recording answered _, recording⟩
  | some edge =>
    rw [apart, Mode.handler_hit _ answered, settle_machine, Mode.runSteps_apart]
    refine ⟨?_, recording⟩
    simp only [Machine.answer, answered]
    exact bracketed_hit recording answered _
      (told_mute _ _ _ recording (Context.Mute.runSteps _ edge.steps _))

theorem tells_accountBelow {table : Table (Callback σ)} (intact : table.Intact) (room : Nat) :
    ∀ account ∈ accountBelow room, Account.Tells table account := by
  intro account below
  cases room with
  | zero => cases below
  | succ room =>
    cases below
    exact tells_accountWithin intact room

namespace Mode

variable {table : Table (Callback σ)} (intact : table.Intact) (mode : Mode) (stimulus : Stimulus)
  (host : Host σ) (stands : Machine.Stands table host.machine)
  (recording : host.machine.logger = .recording)

include intact stands recording

theorem bracketed : Bracketed (host.opening stimulus) (host.machine.answer stimulus).status
    (mode.deed stimulus host).inner host (mode.handler stimulus host) := by
  cases mode with
  | apart => exact (bracketed_apart stimulus host recording).1
  | owned room =>
    have brackets := (bracketed_react intact (tells_accountBelow intact room) stimulus host stands
      recording).1
    rw [handlerOf_accountBelow, ← dispatchWithin_eq_react] at brackets
    rw [deed, deedWithin_eq]
    exact brackets

theorem told : Told [mode.deed stimulus host] host (mode.handler stimulus host).1 := by
  cases mode with
  | owned room =>
    rw [handler, ← handler_accountWithin]
    exact tells_accountWithin intact room stimulus host stands recording
  | apart =>
    obtain ⟨bracketed, still⟩ := bracketed_apart stimulus host recording
    exact bracketed.told intact stands (fun edge answered => isEmpty_innerDeedsIn answered) still
      (Machine.recount_innerIn stimulus host.machine host.toContext)

end Mode

/-- Whether the request leaves the logger of the machine in its place. -/
def Request.keepsLogger : Request σ → Bool
  | .edit (.setLogger _) => false
  | _ => true

/-- What the host does when it serves the request. -/
def deedOf (host : Host σ) : Request σ → Deed (Callback σ)
  | .dispatch mode stimulus => mode.deed stimulus host
  | .edit change => .edit change

/-- What the host does when it serves the requests one after the other. -/
def deedsOf : List (Request σ) → Host σ → List (Deed (Callback σ))
  | [], _ => []
  | request :: rest, host => host.deedOf request :: deedsOf rest (host.serve request).host

/-- What the requests leave of the host. -/
def through (requests : List (Request σ)) (host : Host σ) : Host σ :=
  requests.foldl (fun host request => (host.serve request).host) host

section Session

variable {table : Table (Callback σ)} (intact : table.Intact)

include intact

theorem told_request {request : Request σ} (keeps : request.keepsLogger = true) (host : Host σ)
    (stands : Machine.Stands table host.machine) (recording : host.machine.logger = .recording) :
    Told [host.deedOf request] host (host.serve request).host := by
  cases request with
  | dispatch mode stimulus => exact mode.told intact stimulus host stands recording
  | edit change =>
    refine .edit ?_
    cases change with
    | setLogger logger => cases keeps
    | register | unregister | limitHistory | clearHistory | setClock => exact recording

theorem told_requests (requests : List (Request σ))
    (keep : ∀ request ∈ requests, request.keepsLogger = true) (host : Host σ)
    (stands : Machine.Stands table host.machine) (recording : host.machine.logger = .recording) :
    Told (deedsOf requests host) host (host.through requests) := by
  induction requests generalizing host with
  | nil => exact .nil recording
  | cons request rest ih =>
    have first := told_request intact (keep request List.mem_cons_self) host stands recording
    exact first.cons (ih (fun next member => keep next (List.mem_cons_of_mem _ member)) _
      (first.recount.stands intact stands) first.recording)

end Session

end Host

/-- A dispatch writes its hit or its miss before it calls anything, then come the lines of the
dispatches inside it, block by block, and then a failure line if it fails; `Deed.Fills` says so of
each of these in turn, however deep. A run writes what its deeds tell, and the hits told of are the
switches made, which is what an unbounded history that is left alone records. -/
theorem log_well_bracketed (calls : List (Draft.Call (Callback σ)))
    (actions : Registry (Callback σ)) (table : Table (Callback σ))
    (compiled : (Draft.ofCalls calls).compile actions = .ok table) (host : Host σ)
    (reachable : Machine.Reachable table host.machine)
    (recording : host.machine.logger = .recording) :
    (∀ (mode : Host.Mode) (stimulus : Stimulus),
      let reached := (host.machine.answer stimulus).status
      let after := (mode.handler stimulus host).1
      let result := (mode.handler stimulus host).2
      ∃ between : List Entry,
        after.journal.toList = host.journal.toList ++
          .line (host.opening stimulus).text :: (between ++
            (Notice.closing after.status result).map fun notice => .line notice.text) ∧
        Deed.Fills reached (mode.deed stimulus host).inner between ∧
        between.filterMap Entry.line? =
          (Deed.noticesOfAll reached (mode.deed stimulus host).inner).map Notice.text) ∧
    ∀ requests : List (Host.Request σ), (∀ request ∈ requests, request.keepsLogger = true) →
      let deeds := Host.deedsOf requests host
      let told := Deed.noticesOfAll host.status deeds
      let after := host.through requests
      after.lines = host.lines ++ told.map Notice.text ∧
        told.filterMap Notice.leg? = (Deed.switchesOfAll deeds).map Record.leg ∧
        (host.machine.Unbounded → (∀ act ∈ Deed.actsOfAll deeds, act.sparesHistory) →
          after.machine.history.records =
            host.machine.history.records ++ Deed.switchesOfAll deeds) := by
  have intact := Draft.compile_intact compiled
  have stands := reachable.stands intact
  refine ⟨?_, ?_⟩
  · intro mode stimulus reached after result
    obtain ⟨between, split, fills⟩ := mode.bracketed intact stimulus host stands recording
    exact ⟨between, split, fills, fills.lines⟩
  · intro requests keep deeds told after
    have recounted := Host.told_requests intact requests keep host stands recording
    obtain ⟨gained, split, fills⟩ := recounted.journal
    refine ⟨?_, Deed.legs_noticesOfAll _ _, ?_⟩
    · rw [Context.lines, split, List.filterMap_append, fills.lines]
      rfl
    · intro unbounded spare
      rw [recounted.recount.switches]
      exact recounted.recount.replay ▸ Machine.history_after spare unbounded

/-- The push moves the door, the slam that the bell makes moves it back, and then the push fails. -/
theorem pushed_door_log :
    (Draft.ofCalls Door.calls).compile Door.actions = .ok Door.table ∧
      Machine.Reachable Door.table Door.fresh.machine ∧
      Door.fresh.machine.logger = .recording ∧
      Door.pushed.lines = Door.fresh.lines ++ [
        (Notice.hit (.event "push") "shut" "open" true).text,
        (Notice.hit (.event "slam") "open" "shut" false).text,
        (Notice.failure "shut" (.failed "cracked")).text] := by
  obtain ⟨_, whole⟩ := log_well_bracketed Door.calls Door.actions Door.table Door.compiled
    Door.fresh Door.fresh_reachable rfl
  obtain ⟨written, _, _⟩ := whole [.dispatch (.owned 1) (.event "push")]
    (by simp [Host.Request.keepsLogger])
  exact ⟨Door.compiled, Door.fresh_reachable, rfl, written⟩

end TableMachine
