import TableMachine.Proofs.Runs

/-!
# Names that are called stay registered

A draft compiles only if every name that it calls by is registered. As long as nothing that is
registered is taken away, these names stay so, whatever else is registered and however deep
dispatches go. A dispatch then says that an action is not defined only where a callback said so.
-/

namespace TableMachine

variable {κ σ : Type}

namespace Act

/-- Whether the act takes away what is registered by then. -/
def removes (machine : Machine κ) : Act κ → Bool
  | .edit (.unregister name) => machine.actions.has name
  | _ => false

theorem has_apply {act : Act κ} {machine : Machine κ} (keeps : act.removes machine = false)
    {name : String} (registered : machine.actions.has name = true) :
    (act.apply machine).actions.has name = true := by
  cases act with
  | answer stimulus =>
    simp only [apply, Machine.answer]
    split <;> exact registered
  | edit change =>
    cases change with
    | register other callback =>
      have put : (machine.actions.put other callback).has name = true := by
        rw [Roster.has, Roster.get?_put]
        split
        · rfl
        · exact registered
      exact put
    | unregister other =>
      have missing : machine.actions.has other = false := keeps
      have different : name ≠ other := by
        rintro rfl
        rw [missing] at registered
        cases registered
      have dropped : (machine.actions.drop other).has name = true := by
        rw [Roster.has, Roster.get?_drop, if_neg different]
        exact registered
      exact dropped
    | limitHistory limit => exact registered
    | clearHistory => exact registered
    | setLogger logger => exact registered
    | setClock clock => exact registered

theorem table_apply (act : Act κ) (machine : Machine κ) :
    (act.apply machine).table = machine.table := by
  cases act with
  | edit change => exact (Machine.edit_apply_stays change machine).1
  | answer stimulus =>
    simp only [apply, Machine.answer]
    split <;> rfl

end Act

namespace Machine

/-- No act takes away what is registered by then. -/
def keepsActions : List (Act κ) → Machine κ → Bool
  | [], _ => true
  | act :: rest, machine => !act.removes machine && keepsActions rest (act.apply machine)

theorem keepsActions_append (first second : List (Act κ)) (machine : Machine κ) :
    keepsActions (first ++ second) machine =
      (keepsActions first machine && keepsActions second (machine.after first)) := by
  induction first generalizing machine with
  | nil => rfl
  | cons act rest ih =>
    rw [List.cons_append, keepsActions, keepsActions, ih, Bool.and_assoc]
    rfl

theorem has_after {acts : List (Act κ)} {machine : Machine κ}
    (keeps : keepsActions acts machine = true) {name : String}
    (registered : machine.actions.has name = true) :
    (machine.after acts).actions.has name = true := by
  induction acts generalizing machine with
  | nil => exact registered
  | cons act rest ih =>
    rw [keepsActions, Bool.and_eq_true, Bool.not_eq_true'] at keeps
    exact ih keeps.2 (act.has_apply keeps.1 registered)

theorem table_after (acts : List (Act κ)) (machine : Machine κ) :
    (machine.after acts).table = machine.table :=
  after_keeps (P := fun later => later.table = machine.table)
    (fun act _ same => (act.table_apply _).trans same) acts rfl

/-- If the step calls by a name, that name is registered. -/
def Registers (machine : Machine κ) (step : Step κ) : Prop :=
  ∀ name, step.callable = .named name → machine.actions.has name = true

/-- Every name that the table calls by is registered. -/
def Equipped (machine : Machine κ) : Prop :=
  ∀ state ∈ machine.table.states, ∀ edge ∈ state.edges, ∀ step ∈ edge.steps, machine.Registers step

theorem Equipped.answer {machine : Machine κ} (equipped : machine.Equipped) {stimulus : Stimulus}
    {edge : Edge κ} (answered : machine.answer? stimulus = some edge) :
    ∀ step ∈ edge.steps, machine.Registers step := by
  obtain ⟨state, standing, leaving⟩ := answer?_mem_edges answered
  exact equipped state (List.mem_of_getElem? standing) edge leaving

end Machine

/-- What compiling has checked holds of the machine that starts. -/
theorem Draft.CompilesTo.equipped {draft : Draft κ} {actions : Registry κ} {table : Table κ}
    (compiles : draft.CompilesTo actions table) (distinct : draft.states.names.Nodup)
    (logger : Logger) : (Machine.ofTable table actions logger).Equipped := by
  intro state member edge leaving step listed name named
  obtain ⟨declarations, _, made⟩ := compiles.declared distinct member
  obtain ⟨d, declared, same⟩ := made.edges_mem leaving
  have registered := (Step.firstMissing?_eq_none_iff actions d.steps).mp
    (made.faultless d declared).registered
  have listed : step ∈ d.steps := by
    rw [same] at listed
    exact listed
  exact registered name (List.mem_filterMap.mpr ⟨step, listed, by rw [named]; rfl⟩)

namespace Deed

/-- The name of which a dispatch says that it is not defined, if that is how it ended. -/
def undefined? : Deed κ → Option String
  | .dispatch _ _ _ (.error (.undefinedAction name)) => some name
  | _ => none

/-- Whether the deed is a callback that says of itself that an action is not defined: it does not
pass on what a dispatch of its own said. -/
def misreports : Deed κ → Bool
  | .step _ (some _) inner (.error (.undefinedAction name)) =>
    inner.all fun deed => deed.undefined? ≠ some name
  | _ => false

/-- Whether the deed is a step that found nothing to call, or a dispatch that says so. -/
def unresolved : Deed κ → Bool
  | .edit _ => false
  | .step _ callee _ _ => callee.isNone
  | .dispatch stimulus switch inner result =>
    (undefined? (.dispatch stimulus switch inner result)).isSome

def Resolved (deeds : List (Deed κ)) : Prop :=
  ∀ part ∈ partsOfAll deeds, part.unresolved = false

/-- The deeds take nothing away that is registered, and no callback among them misreports. -/
structure Harmless (deeds : List (Deed κ)) (machine : Machine κ) : Prop where
  keeps : machine.keepsActions (actsOfAll deeds) = true
  candid : ∀ part ∈ partsOfAll deeds, part.misreports = false

theorem mem_partsOfAll {deeds : List (Deed κ)} {deed : Deed κ} (member : deed ∈ deeds) :
    deed ∈ partsOfAll deeds := by
  obtain ⟨before, after, rfl⟩ := List.append_of_mem member
  have split : before ++ deed :: after = before ++ ([deed] ++ after) := rfl
  rw [split, partsOfAll_append, partsOfAll_append, partsOfAll_singleton]
  exact List.mem_append_right _ (List.mem_append_left _ List.mem_cons_self)

namespace Resolved

theorem nil : Resolved ([] : List (Deed κ)) := by simp [Resolved, partsOfAll]

theorem append {first second : List (Deed κ)} (earlier : Resolved first)
    (later : Resolved second) : Resolved (first ++ second) := by
  intro part member
  rw [partsOfAll_append] at member
  exact (List.mem_append.mp member).elim (earlier part) (later part)

theorem cons {deed : Deed κ} {rest : List (Deed κ)} (earlier : Resolved [deed])
    (later : Resolved rest) : Resolved (deed :: rest) :=
  earlier.append later

theorem singleton {deed : Deed κ} (found : deed.unresolved = false) (inner : Resolved deed.inner) :
    Resolved [deed] := by
  intro part member
  rw [partsOfAll_singleton] at member
  rcases List.mem_cons.mp member with rfl | within
  · exact found
  · exact inner part within

theorem edit (change : Edit κ) : Resolved [.edit change] :=
  .singleton rfl .nil

theorem step {step : Step κ} {callback : κ} {inner : List (Deed κ)} {ended : Except Failure Unit}
    (called : Resolved inner) : Resolved [.step step (some callback) inner ended] :=
  .singleton rfl called

theorem dispatch {stimulus : Stimulus} {switch : Option Record} {inner : List (Deed κ)}
    {result : Except Failure Outcome} (steps : Resolved inner)
    (defined : ∀ name, result ≠ .error (.undefinedAction name)) :
    Resolved [.dispatch stimulus switch inner result] := by
  refine .singleton ?_ steps
  cases result with
  | ok outcome => rfl
  | error why =>
    cases why with
    | undefinedAction name => exact absurd rfl (defined name)
    | failed reason => rfl
    | caused reason cause => rfl

end Resolved

theorem resolved_starts {calling : Calling κ σ} {s : σ}
    {started : List (Step κ × Except Failure Unit)}
    (found : ∀ start ∈ started, ∃ callback, calling.callee? start.1 s = some callback) :
    Resolved (started.map (ofStart calling s)) := by
  induction started with
  | nil => exact .nil
  | cons start rest ih =>
    obtain ⟨callback, first⟩ := found start List.mem_cons_self
    have head : Resolved [ofStart calling s start] := by
      rw [ofStart, first]
      exact .step .nil
    exact .cons head (ih fun later member => found later (List.mem_cons_of_mem _ member))

namespace Harmless

theorem of_append {first second : List (Deed κ)} {before between : Machine κ}
    (harmless : Harmless (first ++ second) before) (earlier : Recount first before between) :
    Harmless first before ∧ Harmless second between := by
  have keeps := harmless.keeps
  have candid := harmless.candid
  rw [actsOfAll_append, Machine.keepsActions_append, Bool.and_eq_true, earlier.replay] at keeps
  rw [partsOfAll_append] at candid
  exact ⟨⟨keeps.1, fun part member => candid part (List.mem_append_left _ member)⟩,
    ⟨keeps.2, fun part member => candid part (List.mem_append_right _ member)⟩⟩

theorem of_cons {deed : Deed κ} {rest : List (Deed κ)} {before between : Machine κ}
    (harmless : Harmless (deed :: rest) before) (earlier : Recount [deed] before between) :
    Harmless [deed] before ∧ Harmless rest between := by
  have split : Harmless ([deed] ++ rest) before := harmless
  exact split.of_append earlier

theorem of_step {step : Step κ} {callee : Option κ} {inner : List (Deed κ)}
    {ended : Except Failure Unit} {machine : Machine κ}
    (harmless : Harmless [.step step callee inner ended] machine) :
    Harmless inner machine ∧ (Deed.step step callee inner ended).misreports = false := by
  have keeps := harmless.keeps
  have candid := harmless.candid
  rw [actsOfAll_singleton, acts] at keeps
  rw [partsOfAll_singleton] at candid
  exact ⟨⟨keeps, fun part member => candid part (List.mem_cons_of_mem _ member)⟩,
    candid _ List.mem_cons_self⟩

theorem of_dispatch {stimulus : Stimulus} {switch : Option Record} {inner : List (Deed κ)}
    {result : Except Failure Outcome} {machine : Machine κ}
    (harmless : Harmless [.dispatch stimulus switch inner result] machine) :
    Harmless inner (machine.answer stimulus) := by
  have keeps := harmless.keeps
  have candid := harmless.candid
  rw [actsOfAll_singleton, acts] at keeps
  rw [partsOfAll_singleton] at candid
  exact ⟨keeps, fun part member => candid part (List.mem_cons_of_mem _ member)⟩

section Recounted

variable {deeds : List (Deed κ)} {before after : Machine κ} (harmless : Harmless deeds before)
  (recount : Recount deeds before after)

include harmless recount

theorem registers {step : Step κ} (registers : before.Registers step) : after.Registers step := by
  intro name named
  rw [← recount.replay]
  exact Machine.has_after harmless.keeps (registers name named)

theorem equipped (equipped : before.Equipped) : after.Equipped := by
  have same : after.table = before.table := by
    rw [← recount.replay]
    exact Machine.table_after _ _
  intro state member edge leaving step listed
  rw [same] at member
  exact harmless.registers recount (equipped state member edge leaving step listed)

end Recounted

end Harmless

/-- Where nothing under it is unresolved, a callback that is candid does not say that an action is
not defined: it would have to pass that on. -/
theorem defined_of_candid {step : Step κ} {callback : κ} {inner : List (Deed κ)}
    {ended : Except Failure Unit} (resolved : Resolved inner)
    (candid : (Deed.step step (some callback) inner ended).misreports = false) (name : String) :
    ended ≠ .error (.undefinedAction name) := by
  rintro rfl
  rw [misreports, List.all_eq_false] at candid
  obtain ⟨deed, member, passed⟩ := candid
  have said : deed.undefined? = some name := by simpa using passed
  have told := resolved deed (mem_partsOfAll member)
  cases deed with
  | edit change => cases said
  | step taken callee inner ended => cases said
  | dispatch stimulus switch inner result =>
    rw [unresolved, said] at told
    cases told

theorem defined_of_start {calling : Calling κ σ} {s : σ} {start : Step κ × Except Failure Unit}
    (found : ∃ callback, calling.callee? start.1 s = some callback)
    (candid : (ofStart calling s start).misreports = false) (name : String) :
    start.2 ≠ .error (.undefinedAction name) := by
  obtain ⟨callback, found⟩ := found
  rw [ofStart, found] at candid
  exact defined_of_candid .nil candid name

end Deed

namespace Machine

/-- A step that the machine can resolve finds what to call. -/
theorem Registers.callee? {machine : Machine κ} {step : Step κ} (registers : machine.Registers step)
    (calling : Calling κ σ) {s : σ}
    (looks : ∀ name, calling.lookup? s name = machine.actions.get? name) :
    ∃ callback, calling.callee? step s = some callback := by
  unfold Calling.callee?
  cases named : step.callable with
  | callback callback => exact ⟨callback, rfl⟩
  | named name =>
    have found := registers name named
    rw [Roster.has, Option.isSome_iff_exists] at found
    exact found.imp fun callback found => (looks name).trans found

end Machine

namespace Host

/-- By this account, dispatches do not run into names that are not registered. -/
def Account.Resolves (account : Account σ) : Prop :=
  ∀ stimulus host, host.machine.Equipped →
    Deed.Harmless [account.deed stimulus host] host.machine →
      Deed.Resolved [account.deed stimulus host]

section Within

variable {nested : Option (Account σ)} (resolves : ∀ account ∈ nested, account.Resolves)

include resolves

theorem resolved_script (script : Script σ) (host : Host σ) (equipped : host.machine.Equipped)
    (harmless : Deed.Harmless (deedsOfScript nested script host) host.machine) :
    Deed.Resolved (deedsOfScript nested script host) := by
  -- An edit made by the script is the first of its deeds, and the rest starts from what it leaves.
  have edited : ∀ (change : Edit (Callback σ)) {rest : List (Deed (Callback σ))} {host : Host σ},
      host.machine.Equipped → Deed.Harmless (.edit change :: rest) host.machine →
      ((change.apply host.machine).Equipped →
        Deed.Harmless rest (change.apply host.machine) → Deed.Resolved rest) →
      Deed.Resolved (.edit change :: rest) := by
    intro change rest host equipped harmless later
    obtain ⟨first, others⟩ := harmless.of_cons (.edit change host.machine)
    exact .cons (.edit change) (later (first.equipped (.edit change host.machine) equipped) others)
  induction script generalizing host with
  | done => exact .nil
  | fail why => exact .nil
  | load next ih => exact ih host.data host equipped harmless
  | store data next ih => exact ih { host with data } equipped harmless
  | status next ih | history next ih | names next ih => exact ih _ host equipped harmless
  | mark label arguments next ih => exact ih (host.note _) equipped harmless
  | dispatch stimulus next ih =>
    cases nested with
    | none => exact .nil
    | some account =>
      have recount := account.recounts stimulus host
      obtain ⟨first, others⟩ := harmless.of_cons recount
      have kept := first.equipped recount equipped
      exact .cons (resolves account rfl stimulus host equipped first) (ih _ _ kept others)
  | register name callback next _ ih => exact edited _ equipped harmless (ih (host.onMachine _))
  | unregister name next ih => exact edited _ equipped harmless (ih (host.onMachine _))
  | limitHistory limit next ih => exact edited _ equipped harmless (ih (host.onMachine _))
  | clearHistory next ih => exact edited _ equipped harmless (ih (host.onMachine _))

theorem resolved_step (step : Step (Callback σ)) (host : Host σ) (equipped : host.machine.Equipped)
    (registers : host.machine.Registers step)
    (harmless : Deed.Harmless [deedOfStep nested step host] host.machine) :
    Deed.Resolved [deedOfStep nested step host] ∧
      ∀ name, ((calling (handlerOf nested)).runStep step host).2 ≠
        .error (.undefinedAction name) := by
  obtain ⟨callback, found⟩ := registers.callee? (calling (handlerOf nested)) fun _ => rfl
  simp only [deedOfStep, found, Option.elim_some] at harmless ⊢
  obtain ⟨called, candid⟩ := harmless.of_step
  have resolved := resolved_script resolves (callback step.arguments) host equipped called
  exact ⟨.step resolved, Deed.defined_of_candid resolved candid⟩

theorem resolved_steps (steps : List (Step (Callback σ))) (host : Host σ)
    (equipped : host.machine.Equipped) (registers : ∀ step ∈ steps, host.machine.Registers step)
    (harmless : Deed.Harmless (deedsOfSteps nested steps host) host.machine) :
    Deed.Resolved (deedsOfSteps nested steps host) ∧
      ∀ name, ((calling (handlerOf nested)).runSteps steps host).2 ≠
        .error (.undefinedAction name) := by
  induction steps generalizing host with
  | nil => exact ⟨.nil, fun name same => nomatch same⟩
  | cons step rest ih =>
    have recount := recount_step nested step host
    obtain ⟨first, others⟩ := harmless.of_cons recount
    obtain ⟨resolved, defined⟩ :=
      resolved_step resolves step host equipped (registers step List.mem_cons_self) first
    have kept := first.equipped recount equipped
    have still : ∀ later ∈ rest,
        ((calling (handlerOf nested)).runStep step host).1.machine.Registers later :=
      fun later member => first.registers recount (registers later (List.mem_cons_of_mem _ member))
    simp only [deedsOfSteps, Calling.runSteps, Effect.andThen] at others ⊢
    generalize (calling (handlerOf nested)).runStep step host = ran at defined kept still others
    obtain ⟨after, ended⟩ := ran
    cases ended with
    | ok _ =>
      obtain ⟨told, ends⟩ := ih after kept still others
      exact ⟨.cons resolved told, ends⟩
    | error why => exact ⟨.cons resolved .nil, defined⟩

theorem resolves_account : (account nested).Resolves := by
  intro stimulus host equipped harmless
  have inner := harmless.of_dispatch
  unfold innerDeeds Machine.answer at inner
  simp only [account, innerDeeds]
  cases answered : host.machine.answer? stimulus with
  | none =>
    rw [react_miss _ answered]
    refine .dispatch .nil fun name same => ?_
    cases same
  | some edge =>
    simp only [answered] at inner
    -- Taking the edge moves the machine and leaves its table and its registry alone.
    obtain ⟨resolved, defined⟩ := resolved_steps resolves edge.steps (host.moved stimulus edge)
      equipped (equipped.answer answered) inner
    refine .dispatch resolved fun name same => defined name ?_
    rw [react_hit _ answered] at same
    rw [← settle_result, same]
    rfl

end Within

theorem resolves_accountWithin (depth : Nat) : (accountWithin depth : Account σ).Resolves := by
  induction depth with
  | zero => exact resolves_account (fun _ nothing => nomatch nothing)
  | succ depth ih =>
    refine resolves_account fun account same => ?_
    cases same
    exact ih

end Host

namespace Machine

theorem dispatchIn_failed {stimulus : Stimulus} {machine : Machine (Callback σ)}
    {context : Context σ} {edge : Edge (Callback σ)}
    (answered : machine.answer? stimulus = some edge) {why : Failure}
    (failed : (machine.dispatchIn stimulus context).2.2 = .error why) :
    ((Context.calling (machine.take edge).actions).runSteps edge.steps
      (context.writeLine machine.logger (machine.hitLine edge stimulus))).2 = .error why := by
  simp only [dispatchIn, answered] at failed
  generalize (Context.calling (machine.take edge).actions).runSteps edge.steps _ = ran at failed ⊢
  obtain ⟨after, ended⟩ := ran
  cases ended with
  | ok _ => cases failed
  | error reason =>
    cases failed
    rfl

theorem resolved_deedIn (stimulus : Stimulus) (machine : Machine (Callback σ))
    (context : Context σ) (equipped : machine.Equipped)
    (harmless : Deed.Harmless [machine.deedIn stimulus context] machine) :
    Deed.Resolved [machine.deedIn stimulus context] := by
  have inner := harmless.of_dispatch
  unfold innerDeedsIn at inner
  unfold deedIn innerDeedsIn
  cases answered : machine.answer? stimulus with
  | none =>
    have missed : (machine.dispatchIn stimulus context).2.2 = .ok .unmatched := by
      simp only [dispatchIn, answered]
    rw [missed]
    exact .dispatch .nil fun name same => nomatch same
  | some edge =>
    simp only [answered] at inner
    -- No callback reaches the machine, so its registry is the same for every step.
    have found : ∀ (noted : Context σ),
        let calling := Context.calling (machine.take edge).actions
        ∀ start ∈ calling.started edge.steps noted,
          ∃ callback, calling.callee? start.1 noted = some callback := by
      intro noted calling start member
      have registers := equipped.answer answered start.1 (Calling.mem_of_mem_started member)
      exact registers.callee? _ fun _ => rfl
    refine .dispatch (Deed.resolved_starts (found _)) fun name failed => ?_
    have ended := dispatchIn_failed answered failed
    obtain ⟨step, last⟩ := Calling.mem_started_of_failed ended
    exact Deed.defined_of_start (found _ _ last) (inner.candid _ (Deed.mem_partsOfAll
      (List.mem_map_of_mem last))) name rfl

theorem Run.resolved {start machine : Machine (Callback σ)} {deeds : List (Deed (Callback σ))}
    (equipped : start.Equipped) (run : Run start deeds machine)
    (harmless : Deed.Harmless deeds start) : Deed.Resolved deeds := by
  induction run with
  | nil => exact .nil
  | edited before change ih =>
    obtain ⟨earlier, _⟩ := harmless.of_append before.recount
    exact .append (ih earlier) (.edit change)
  | dispatched before depth stimulus ih =>
    obtain ⟨earlier, last⟩ := harmless.of_append before.recount
    exact .append (ih earlier) (Host.resolves_accountWithin depth stimulus _
      (earlier.equipped before.recount equipped) last)
  | dispatchedIn before stimulus context ih =>
    obtain ⟨earlier, last⟩ := harmless.of_append before.recount
    exact .append (ih earlier) (resolved_deedIn stimulus _ context
      (earlier.equipped before.recount equipped) last)

end Machine

/-- In a run that starts from a draft that compiles and takes nothing away that is registered, every
step finds what to call; and where no callback says so by itself, no dispatch at any depth says that
an action is not defined. -/
theorem no_action_undefined (calls : List (Draft.Call (Callback σ)))
    (actions : Registry (Callback σ)) (table : Table (Callback σ))
    (compiled : (Draft.ofCalls calls).compile actions = .ok table) (logger : Logger)
    (deeds : List (Deed (Callback σ))) (machine : Machine (Callback σ))
    (run : Machine.Run (Machine.ofTable table actions logger) deeds machine)
    (kept :
      Machine.keepsActions (Deed.actsOfAll deeds) (Machine.ofTable table actions logger) = true)
    (candid : ∀ part ∈ Deed.partsOfAll deeds, part.misreports = false) :
    (∀ stimulus switch inner result,
        .dispatch stimulus switch inner result ∈ Deed.partsOfAll deeds →
          ∀ name, result ≠ .error (.undefinedAction name)) ∧
      ∀ step callee inner ended,
        .step step callee inner ended ∈ Deed.partsOfAll deeds → callee.isSome := by
  have equipped := (Draft.compile_ok compiled).equipped (Draft.nodup_names_ofCalls calls) logger
  have resolved := run.resolved equipped ⟨kept, candid⟩
  refine ⟨?_, ?_⟩
  · rintro stimulus switch inner result member name rfl
    cases resolved _ member
  · intro step callee inner ended member
    have found := resolved _ member
    rwa [Deed.unresolved, ← Option.not_isSome, Bool.not_eq_false'] at found

namespace Door

/-- Slams the door as it rings, after it has put the other bell in its own place. -/
def lastBell : Callback Unit := fun arguments =>
  .mark "bell" arguments (.register "ring" bell (.require (.event "slam") .done))

def rehung : Host Unit :=
  Host.ofMachine ((Machine.ofTable table actions .recording).register "ring" lastBell) ()

/-- The door, pushed and shut again. -/
def rung : Machine (Callback Unit) :=
  (Host.dispatchWithin 1 (.event "push") rehung).1.machine

/-- The bell is replaced, the door is pushed, and pushed again where no bell can slam it. -/
def doings : List (Deed (Callback Unit)) := [
  .edit (.register "ring" lastBell),
  Host.deedWithin 1 (.event "push") rehung,
  rung.deedIn (.event "push") { data := () }]

theorem doings_run :
    Machine.Run (Machine.ofTable table actions .recording) doings
      (rung.dispatchIn (.event "push") { data := () }).1 :=
  have edited : Machine.Run (Machine.ofTable table actions .recording)
      [.edit (.register "ring" lastBell)] rehung.machine := .edited .nil _
  .dispatchedIn (.dispatched edited 1 (.event "push")) (.event "push") { data := () }

end Door

theorem rehung_door_defined :
    (Draft.ofCalls Door.calls).compile Door.actions = .ok Door.table ∧
      Machine.Run (Machine.ofTable Door.table Door.actions .recording) Door.doings
        (Door.rung.dispatchIn (.event "push") { data := () }).1 ∧
      Machine.keepsActions (Deed.actsOfAll Door.doings)
        (Machine.ofTable Door.table Door.actions .recording) = true ∧
      (∀ part ∈ Deed.partsOfAll Door.doings, part.misreports = false) ∧
      (Host.dispatchWithin 1 (.event "push") Door.rehung).2 = .ok (.moved "shut" "open") ∧
      (Door.rung.dispatchIn (.event "push") { data := () }).2.2 = .error Context.noMachine ∧
      ∀ stimulus switch inner result,
        .dispatch stimulus switch inner result ∈ Deed.partsOfAll Door.doings →
          ∀ name, result ≠ .error (.undefinedAction name) := by
  have kept : Machine.keepsActions (Deed.actsOfAll Door.doings)
      (Machine.ofTable Door.table Door.actions .recording) = true := rfl
  have candid : ∀ part ∈ Deed.partsOfAll Door.doings, part.misreports = false := by
    have all : (Deed.partsOfAll Door.doings).all (fun part => !part.misreports) = true := rfl
    simpa using List.all_eq_true.mp all
  obtain ⟨defined, _⟩ := no_action_undefined Door.calls Door.actions Door.table Door.compiled
    .recording Door.doings _ Door.doings_run kept candid
  exact ⟨Door.compiled, Door.doings_run, kept, candid, rfl, rfl, defined⟩

end TableMachine
