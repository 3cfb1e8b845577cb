import TableMachine.Machine.Builder
import TableMachine.Proofs.Faults
import TableMachine.Proofs.Life

/-!
# Machines made by builders

A builder is told the parts of a machine by calls in any order. Each call is about one part and
reads no other, so calls about different parts may be interleaved in any way, and the machine that
is built is the one that the parts make directly: the draft of the calls about the table, the last
registry with what was registered since, the last logger and the last limit.
-/

namespace TableMachine

variable {κ σ : Type}

namespace Builder

inductive Call (κ : Type) where
  | startAt (state : String)
  | declare (state : String) (declarations : List (Declaration κ))
  | register (name : String) (callback : κ)
  | useActions (actions : Registry κ)
  | useLogger (logger : Logger)
  | limitHistory (limit : Option Nat)

/-- What a call can be about. -/
inductive Part where
  | draft
  | actions
  | logger
  | history
deriving DecidableEq

namespace Call

def apply : Call κ → Builder κ → Builder κ
  | .startAt state, b => b.startAt state
  | .declare state declarations, b => b.declare state declarations
  | .register name callback, b => b.register name callback
  | .useActions actions, b => b.useActions actions
  | .useLogger logger, b => b.useLogger logger
  | .limitHistory limit, b => b.limitHistory limit

def part : Call κ → Part
  | .startAt _ => .draft
  | .declare _ _ => .draft
  | .register _ _ => .actions
  | .useActions _ => .actions
  | .useLogger _ => .logger
  | .limitHistory _ => .history

/-- The call that an author of a draft makes in place of this one. -/
def drafting? : Call κ → Option (Draft.Call κ)
  | .startAt state => some (.startAt state)
  | .declare state declarations => some (.declare state declarations)
  | _ => none

def actions? : Call κ → Option (Registry κ)
  | .useActions actions => some actions
  | _ => none

/-- What the call adds to the registry. -/
def entry? : Call κ → Option (String × κ)
  | .register name callback => some (name, callback)
  | _ => none

def logger? : Call κ → Option Logger
  | .useLogger logger => some logger
  | _ => none

def limit? : Call κ → Option (Option Nat)
  | .limitHistory limit => some limit
  | _ => none

end Call

/-- The builder after the calls. -/
def after (calls : List (Call κ)) (b : Builder κ) : Builder κ :=
  calls.foldl (fun b call => call.apply b) b

/-- The draft that the calls about it make of another. -/
def draftOf (draft : Draft κ) (calls : List (Call κ)) : Draft κ :=
  (calls.filterMap Call.drafting?).foldl (fun draft call => call.apply draft) draft

/-- The last registry given, and in it everything that was registered since. -/
def actionsOf (calls : List (Call κ)) : Registry κ :=
  (Calls.since Call.actions? Call.entry? calls).foldl
    (fun actions entry => actions.put entry.1 entry.2) ((Calls.last? Call.actions? calls).getD [])

def loggerOf (calls : List (Call κ)) : Logger :=
  (Calls.last? Call.logger? calls).getD .silent

def limitOf (calls : List (Call κ)) : Option Nat :=
  (Calls.last? Call.limit? calls).getD (some defaultHistoryLimit)

theorem after_concat (calls : List (Call κ)) (call : Call κ) (b : Builder κ) :
    b.after (calls ++ [call]) = call.apply (b.after calls) := by
  rw [after, List.foldl_append]
  rfl

theorem draftOf_concat (draft : Draft κ) (calls : List (Call κ)) (call : Call κ) :
    draftOf draft (calls ++ [call]) =
      call.drafting?.elim (draftOf draft calls) (·.apply (draftOf draft calls)) := by
  rw [draftOf, List.filterMap_append, List.foldl_append, List.filterMap_cons]
  cases call.drafting? <;> rfl

/-- A registry that is given discards what was registered before. -/
theorem actionsOf_concat (calls : List (Call κ)) (call : Call κ) :
    actionsOf (calls ++ [call]) =
      match call with
      | .useActions actions => actions
      | .register name callback => (actionsOf calls).put name callback
      | _ => actionsOf calls := by
  rw [actionsOf, Calls.last?_concat, Calls.since_concat]
  cases call <;> simp [Call.actions?, Call.entry?, actionsOf]

theorem loggerOf_concat (calls : List (Call κ)) (call : Call κ) :
    loggerOf (calls ++ [call]) = call.logger?.getD (loggerOf calls) := by
  rw [loggerOf, Calls.last?_concat]
  cases call.logger? <;> rfl

theorem limitOf_concat (calls : List (Call κ)) (call : Call κ) :
    limitOf (calls ++ [call]) = call.limit?.getD (limitOf calls) := by
  rw [limitOf, Calls.last?_concat]
  cases call.limit? <;> rfl

/-- Each part of a builder is told by the calls about it. -/
theorem after_eq (draft : Draft κ) (calls : List (Call κ)) :
    (ofDraft draft).after calls =
      { draft := draftOf draft calls
        actions := actionsOf calls
        logger := loggerOf calls
        historyLimit := limitOf calls } := by
  induction calls using List.reverseRecOn with
  | nil => rfl
  | append_singleton calls call ih =>
    rw [after_concat, ih, draftOf_concat, actionsOf_concat, loggerOf_concat, limitOf_concat]
    cases call <;> rfl

/-- The calls about this part. -/
def callsAbout (part : Part) (calls : List (Call κ)) : List (Call κ) :=
  calls.filter fun call => call.part = part

section Interleaving

variable (draft : Draft κ) (calls : List (Call κ))

theorem draftOf_callsAbout : draftOf draft (callsAbout .draft calls) = draftOf draft calls := by
  rw [draftOf, callsAbout, List.filterMap_filter, draftOf]
  congr 2
  funext call
  cases call <;> rfl

theorem actionsOf_callsAbout : actionsOf (callsAbout .actions calls) = actionsOf calls := by
  rw [actionsOf, callsAbout, Calls.last?_filter, Calls.since_filter, actionsOf]
  · intro call other
    cases call <;> simp_all [Call.part, Call.actions?, Call.entry?]
  · intro call other
    cases call <;> simp_all [Call.part, Call.actions?]

theorem loggerOf_callsAbout : loggerOf (callsAbout .logger calls) = loggerOf calls := by
  rw [loggerOf, callsAbout, Calls.last?_filter, loggerOf]
  intro call other
  cases call <;> simp_all [Call.part, Call.logger?]

theorem limitOf_callsAbout : limitOf (callsAbout .history calls) = limitOf calls := by
  rw [limitOf, callsAbout, Calls.last?_filter, limitOf]
  intro call other
  cases call <;> simp_all [Call.part, Call.limit?]

end Interleaving

/-- It does not matter how the calls about different parts are interleaved. -/
theorem after_interleaved (draft : Draft κ) {first second : List (Call κ)}
    (same : ∀ part, callsAbout part first = callsAbout part second) :
    (ofDraft draft).after first = (ofDraft draft).after second := by
  rw [after_eq, after_eq, ← draftOf_callsAbout, ← actionsOf_callsAbout, ← loggerOf_callsAbout,
    ← limitOf_callsAbout, same, same, same, same, draftOf_callsAbout, actionsOf_callsAbout,
    loggerOf_callsAbout, limitOf_callsAbout]

theorem callsAbout_swap (before rest : List (Call κ)) {one other : Call κ}
    (different : one.part ≠ other.part) (part : Part) :
    callsAbout part (before ++ one :: other :: rest) =
      callsAbout part (before ++ other :: one :: rest) := by
  simp only [callsAbout, List.filter_append, List.filter_cons]
  by_cases first : one.part = part <;> by_cases second : other.part = part <;> simp_all

theorem build_eq (b : Builder κ) :
    b.build = (Machine.ofDraft b.draft b.actions b.logger).map (·.limitHistory b.historyLimit) := by
  rw [build, Machine.ofDraft]
  cases b.draft.compile b.actions <;> rfl

/-- However a builder came by its parts, it builds the machine that is made directly of the draft,
the registry and the logger that the calls about each of them give, with the last limit then set; or
it fails as making this machine does. What it writes when it starts is the same. It builds a machine
just if it lists no fault, and calls about different parts may change places. A new builder is that
of an empty draft. -/
theorem built_like_direct (draft : Draft (Callback σ)) (calls : List (Call (Callback σ))) :
    let b := (ofDraft draft).after calls
    let direct := Machine.ofDraft (draftOf draft calls) (actionsOf calls) (loggerOf calls)
    (∀ fault, b.build = .error fault ↔ direct = .error fault) ∧
      (∀ built, b.build = .ok built ↔
        ∃ machine, direct = .ok machine ∧ built = machine.limitHistory (limitOf calls)) ∧
      (∀ (machine : Machine (Callback σ)) (data : σ),
        Host.ofMachine (machine.limitHistory (limitOf calls)) data =
          (Host.ofMachine machine data).onMachine (·.limitHistory (limitOf calls))) ∧
      ((∃ built, b.build = .ok built) ↔ b.faults = []) ∧
      (∀ others, (∀ part, callsAbout part others = callsAbout part calls) →
        (ofDraft draft).after others = b) ∧
      (∀ before one other rest, calls = before ++ one :: other :: rest → one.part ≠ other.part →
        (ofDraft draft).after (before ++ other :: one :: rest) = b) ∧
      ({} : Builder (Callback σ)).after calls = (ofDraft {}).after calls := by
  intro b direct
  have parts : b = _ := after_eq draft calls
  have built : b.build = direct.map (·.limitHistory (limitOf calls)) := by
    rw [build_eq, parts]
  refine ⟨fun fault => ?_, fun machine => ?_, fun machine data => ?_, ?_,
    fun others same => after_interleaved draft same, ?_, rfl⟩
  · rw [built]
    cases direct <;> simp [Except.map]
  · rw [built]
    cases direct <;> simp [Except.map, eq_comm]
  · rfl
  · rw [← Draft.faultOf_eq_none_iff, faultOf_build, List.head?_eq_none_iff]
  · rintro before one other rest rfl different
    exact after_interleaved draft (callsAbout_swap before rest different.symm)

end Builder

namespace Door

/-- The gong goes when the door gets its actions; all other calls are about other parts. -/
def furnishing : List (Builder.Call (Callback Unit)) := [
  .register "gong" bell, .startAt "open", .useLogger .recording, .useActions actions,
  .limitHistory (some 3), .register "chime" bell, .startAt "shut", .limitHistory none]

/-- The same with each part by itself. -/
def sortedFurnishing : List (Builder.Call (Callback Unit)) := [
  .limitHistory (some 3), .limitHistory none, .useLogger .recording, .register "gong" bell,
  .useActions actions, .register "chime" bell, .startAt "open", .startAt "shut"]

/-- The door that is made directly, with the chime beside its own bell. -/
def furnished : Machine (Callback Unit) :=
  Machine.ofTable table [("ring", bell), ("chime", bell)] .recording

end Door

theorem furnished_door_built :
    let plan := Builder.ofDraft (Draft.ofCalls Door.calls)
    (plan.after Door.furnishing).build = .ok (Door.furnished.limitHistory none) ∧
      (plan.after Door.furnishing).faults = [] ∧
      (∀ part, Builder.callsAbout part Door.sortedFurnishing =
        Builder.callsAbout part Door.furnishing) ∧
      plan.after Door.sortedFurnishing = plan.after Door.furnishing := by
  intro plan
  have same : ∀ part, Builder.callsAbout part Door.sortedFurnishing =
      Builder.callsAbout part Door.furnishing := fun part => by cases part <;> rfl
  obtain ⟨_, builds, _, valid, interleaved, _⟩ :=
    Builder.built_like_direct (Draft.ofCalls Door.calls) Door.furnishing
  have built := (builds _).mpr ⟨Door.furnished, rfl, rfl⟩
  exact ⟨built, valid.mp ⟨_, built⟩, same, interleaved _ same⟩

end TableMachine
