import TableMachine.Proofs.Life

/-!
# Switches stay made

The switches of a dispatch are those of the whole tree of dispatches under it, in the order in which
they happened. Where the machine stands in the end, and what an unbounded history has gained, is
told by this list alone; no failure takes anything from it.
-/

namespace TableMachine

variable {κ σ : Type}

namespace Machine

/-- An act leads where its switch leads, and stays where it makes none. -/
theorem status_apply (act : Act κ) (machine : Machine κ) :
    (act.apply machine).status = ((act.switch? machine).map Record.target).getD machine.status := by
  cases act with
  | edit change => exact status_edit_apply change machine
  | answer stimulus =>
    simp only [Act.apply, answer, Act.switch?, switch?]
    cases machine.answer? stimulus <;> rfl

theorem status_after (acts : List (Act κ)) (machine : Machine κ) :
    (machine.after acts).status =
      ((switches acts machine).getLast?.map Record.target).getD machine.status := by
  induction acts generalizing machine with
  | nil => rfl
  | cons act rest ih =>
    have later : (machine.after (act :: rest)).status = ((act.apply machine).after rest).status :=
      rfl
    rw [later, ih, status_apply, switches, List.getLast?_append]
    cases (switches rest (act.apply machine)).getLast? with
    | some last => rfl
    | none => cases act.switch? machine <;> rfl

theorem dispatchIn_unmatched_iff (stimulus : Stimulus) (machine : Machine (Callback σ))
    (context : Context σ) :
    (machine.dispatchIn stimulus context).2.2 = .ok .unmatched ↔
      machine.switch? stimulus = none := by
  rw [switch?, Option.map_eq_none_iff]
  unfold dispatchIn
  cases machine.answer? stimulus with
  | none => simp
  | some edge =>
    dsimp only
    split <;> simp

/-- The history of the machine keeps every record. -/
def Unbounded (machine : Machine κ) : Prop :=
  machine.history.limit = none

theorem history_apply {act : Act κ} (spares : act.sparesHistory) {machine : Machine κ}
    (unbounded : machine.Unbounded) :
    (act.apply machine).Unbounded ∧ (act.apply machine).history.records =
      machine.history.records ++ (act.switch? machine).toList := by
  cases act with
  | edit change =>
    cases change with
    | limitHistory limit => cases spares
    | clearHistory => cases spares
    | register name callback => exact ⟨unbounded, (List.append_nil _).symm⟩
    | unregister name => exact ⟨unbounded, (List.append_nil _).symm⟩
    | setLogger logger => exact ⟨unbounded, (List.append_nil _).symm⟩
    | setClock clock => exact ⟨unbounded, (List.append_nil _).symm⟩
  | answer stimulus =>
    simp only [Act.apply, answer, Act.switch?, switch?]
    cases machine.answer? stimulus with
    | none => exact ⟨unbounded, (List.append_nil _).symm⟩
    | some edge =>
      have kept : machine.history.limit = none := unbounded
      simp [take_eq, Unbounded, History.record, History.trim, kept]

theorem history_after {acts : List (Act κ)} (spare : ∀ act ∈ acts, act.sparesHistory)
    {machine : Machine κ} (unbounded : machine.Unbounded) :
    (machine.after acts).history.records = machine.history.records ++ switches acts machine := by
  induction acts generalizing machine with
  | nil => exact (List.append_nil _).symm
  | cons act rest ih =>
    obtain ⟨still, recorded⟩ := history_apply (spare act List.mem_cons_self) unbounded
    have later := ih (fun next member => spare next (List.mem_cons_of_mem _ member)) still
    rw [recorded, List.append_assoc] at later
    exact later

end Machine

namespace Host

/-- Every switch made under the dispatch, its own first. -/
def switchesWithin (depth : Nat) (stimulus : Stimulus) (host : Host σ) : List Record :=
  (deedWithin depth stimulus host).switches

theorem switchesWithin_eq_own (depth : Nat) (stimulus : Stimulus) (host : Host σ) :
    switchesWithin depth stimulus host = (host.machine.switch? stimulus).toList ++
      Deed.switchesOfAll (innerDeeds (accountBelow depth) stimulus host) := by
  rw [switchesWithin, deedWithin_eq, Deed.switches]

theorem switchesWithin_eq_acts (depth : Nat) (stimulus : Stimulus) (host : Host σ) :
    switchesWithin depth stimulus host =
      Machine.switches (deedWithin depth stimulus host).acts host.machine := by
  have told := (recount_dispatchWithin depth stimulus host).switches
  rwa [Deed.switchesOfAll_singleton, Deed.actsOfAll_singleton] at told

theorem dispatchWithin_machine (depth : Nat) (stimulus : Stimulus) (host : Host σ) :
    (dispatchWithin depth stimulus host).1.machine =
      host.machine.after (deedWithin depth stimulus host).acts := by
  have replay := (recount_dispatchWithin depth stimulus host).replay
  rw [Deed.actsOfAll_singleton] at replay
  exact replay.symm

theorem switchesWithin_miss {depth : Nat} {stimulus : Stimulus} {host : Host σ}
    (missed : host.machine.answer? stimulus = none) : switchesWithin depth stimulus host = [] := by
  rw [switchesWithin_eq_own, Machine.switch?, innerDeeds, missed]
  rfl

theorem switchesWithin_hit {depth : Nat} {stimulus : Stimulus} {host : Host σ}
    {edge : Edge (Callback σ)} (answered : host.machine.answer? stimulus = some edge) :
    switchesWithin depth stimulus host = host.machine.switchAlong edge ::
      Deed.switchesOfAll (innerDeeds (accountBelow depth) stimulus host) := by
  rw [switchesWithin_eq_own, Machine.switch?, answered]
  rfl

theorem switchesWithin_eq_nil_iff (depth : Nat) (stimulus : Stimulus) (host : Host σ) :
    switchesWithin depth stimulus host = [] ↔
      (dispatchWithin depth stimulus host).2 = .ok .unmatched := by
  rw [dispatchWithin_eq_react]
  cases answered : host.machine.answer? stimulus with
  | none => simp [react_miss _ answered, switchesWithin_miss answered]
  | some edge =>
    rw [react_hit _ answered, switchesWithin_hit answered]
    exact iff_of_false (List.cons_ne_nil _ _) (settle_ne_unmatched _ _ _)

/-- A dispatch that fails has made its own switch first. -/
theorem switchesWithin_failed {depth : Nat} {stimulus : Stimulus} {host : Host σ} {why : Failure}
    (failed : (dispatchWithin depth stimulus host).2 = .error why) :
    ∃ own later, host.machine.switch? stimulus = some own ∧
      switchesWithin depth stimulus host = own :: later := by
  cases answered : host.machine.answer? stimulus with
  | none =>
    rw [dispatchWithin_eq_react, react_miss _ answered] at failed
    cases failed
  | some edge =>
    have hit : host.machine.switch? stimulus = some (host.machine.switchAlong edge) := by
      rw [Machine.switch?, answered, Option.map_some]
    exact ⟨_, _, hit, switchesWithin_hit answered⟩

end Host

/-- The last switch made says where the machine stands, an unbounded history that is left alone gains
the switches made and nothing else, and only a dispatch that is unmatched makes none. This holds on
a host, and in a context of its own, where the dispatch makes at most its own switch. -/
theorem switches_stay_made :
    (∀ (depth : Nat) (stimulus : Stimulus) (host : Host σ),
      let made := Host.switchesWithin depth stimulus host
      let after := (Host.dispatchWithin depth stimulus host).1
      let result := (Host.dispatchWithin depth stimulus host).2
      after.status = (made.getLast?.map Record.target).getD host.status ∧
        (host.machine.Unbounded →
          (∀ act ∈ (Host.deedWithin depth stimulus host).acts, act.sparesHistory) →
          after.machine.history.records = host.machine.history.records ++ made) ∧
        (made = [] ↔ result = .ok .unmatched) ∧
        ∀ why, result = .error why → ∃ own later,
          host.machine.switch? stimulus = some own ∧ made = own :: later) ∧
    ∀ (stimulus : Stimulus) (machine : Machine (Callback σ)) (context : Context σ),
      let made := (machine.switch? stimulus).toList
      let after := (machine.dispatchIn stimulus context).1
      let result := (machine.dispatchIn stimulus context).2.2
      after.status = (made.getLast?.map Record.target).getD machine.status ∧
        (machine.Unbounded → after.history.records = machine.history.records ++ made) ∧
        (made = [] ↔ result = .ok .unmatched) ∧
        ∀ why, result = .error why → ∃ own, made = [own] := by
  refine ⟨?_, ?_⟩
  · intro depth stimulus host
    have made := Host.switchesWithin_eq_acts depth stimulus host
    have machine := Host.dispatchWithin_machine depth stimulus host
    refine ⟨?_, ?_, Host.switchesWithin_eq_nil_iff depth stimulus host,
      fun why failed => Host.switchesWithin_failed failed⟩
    · rw [Host.status, machine, made]
      exact Machine.status_after _ _
    · intro unbounded spare
      rw [machine, made]
      exact Machine.history_after spare unbounded
  · intro stimulus machine context
    have made : (machine.switch? stimulus).toList = Machine.switches [.answer stimulus] machine :=
      (List.append_nil _).symm
    have moved : (machine.dispatchIn stimulus context).1 = machine.after [.answer stimulus] :=
      Machine.dispatchIn_machine stimulus machine context
    have unmatched := Machine.dispatchIn_unmatched_iff stimulus machine context
    refine ⟨?_, ?_, ?_, ?_⟩
    · rw [moved, made]
      exact Machine.status_after _ _
    · intro unbounded
      rw [moved, made]
      exact Machine.history_after (by simp [Act.sparesHistory]) unbounded
    · rw [Option.toList_eq_nil_iff]
      exact unmatched.symm
    · intro why failed
      cases hit : machine.switch? stimulus with
      | some own => exact ⟨own, rfl⟩
      | none =>
        rw [unmatched.mpr hit] at failed
        cases failed

/-- The push fails, and both its own switch and that of the bell stay. -/
theorem pushed_door_switches :
    Door.fresh.machine.Unbounded ∧
      (∀ act ∈ (Host.deedWithin 1 (.event "push") Door.fresh).acts, act.sparesHistory) ∧
      (Host.dispatchWithin 1 (.event "push") Door.fresh).2 = .error (.failed "cracked") ∧
      Door.pushed.machine.history.records = Host.switchesWithin 1 (.event "push") Door.fresh ∧
      (Host.switchesWithin 1 (.event "push") Door.fresh).map Record.target = ["open", "shut"] := by
  have unbounded : Door.fresh.machine.Unbounded := rfl
  have spare : ∀ act ∈ (Host.deedWithin 1 (.event "push") Door.fresh).acts, act.sparesHistory :=
    List.all_eq_true.mp rfl
  obtain ⟨_, recorded, _, _⟩ := switches_stay_made.1 1 (.event "push") Door.fresh
  exact ⟨unbounded, spare, rfl, recorded unbounded spare, rfl⟩

end TableMachine
