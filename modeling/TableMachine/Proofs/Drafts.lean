import Mathlib.Data.List.Induction
import TableMachine.Draft
import TableMachine.Proofs.Calls
import TableMachine.Proofs.Rosters

/-!
# Drafts made by calls

An author makes a draft by calls that set the initial state, declare a state or extend one. However
many calls there are, and in whatever order, the states of the draft have different names. What it
holds is told by the calls: a state stands where it was first mentioned, with the declarations of
the last call that declared it anew and with those that it was extended by since.
-/

namespace TableMachine

variable {κ : Type}

namespace Draft

/-- One call of the author. -/
inductive Call (κ : Type) where
  | startAt (state : String)
  | declare (state : String) (declarations : List (Declaration κ))
  | extend (state : String) (declaration : Declaration κ)

def Call.apply : Call κ → Draft κ → Draft κ
  | .startAt state, draft => draft.startAt state
  | .declare state declarations, draft => draft.declare state declarations
  | .extend state declaration, draft => draft.extend state declaration

/-- The draft that calls make of an empty one. -/
def ofCalls (calls : List (Call κ)) : Draft κ :=
  calls.foldl (fun draft call => call.apply draft) {}

theorem nodup_names_apply (call : Call κ) (draft : Draft κ)
    (distinct : draft.states.names.Nodup) : (call.apply draft).states.names.Nodup := by
  cases call with
  | startAt state => exact distinct
  | declare state declarations => exact Roster.nodup_names_put state declarations distinct
  | extend state declaration => exact Roster.nodup_names_put state _ distinct

theorem ofCalls_concat (calls : List (Call κ)) (call : Call κ) :
    ofCalls (calls ++ [call]) = call.apply (ofCalls calls) := by
  rw [ofCalls, List.foldl_append]
  rfl

theorem nodup_names_ofCalls (calls : List (Call κ)) : (ofCalls calls).states.names.Nodup := by
  induction calls using List.reverseRecOn with
  | nil => exact List.nodup_nil
  | append_singleton calls call ih =>
    rw [ofCalls_concat]
    exact nodup_names_apply call _ ih

namespace Call

/-- The state that the call declares or extends. -/
def state? : Call κ → Option String
  | .startAt _ => none
  | .declare state _ => some state
  | .extend state _ => some state

def initial? : Call κ → Option String
  | .startAt state => some state
  | .declare _ _ => none
  | .extend _ _ => none

/-- The declarations with which the call declares this state anew. -/
def declared? (state : String) : Call κ → Option (List (Declaration κ))
  | .declare known declarations => if known = state then some declarations else none
  | .startAt _ => none
  | .extend _ _ => none

/-- The declaration by which the call extends this state. -/
def extension? (state : String) : Call κ → Option (Declaration κ)
  | .extend known declaration => if known = state then some declaration else none
  | .startAt _ => none
  | .declare _ _ => none

end Call

/-- The states that calls mention, each as often as it is mentioned. -/
def mentioned (calls : List (Call κ)) : List String :=
  calls.filterMap Call.state?

/-- What the calls declare for a state: what the last call that declares it anew lists, and then
what it is extended by. -/
def declaredBy (calls : List (Call κ)) (state : String) : List (Declaration κ) :=
  (Calls.last? (Call.declared? state) calls).getD [] ++
    Calls.since (Call.declared? state) (Call.extension? state) calls

section Declare

variable (state other : String) (declarations : List (Declaration κ)) (draft : Draft κ)

theorem declarations?_declare :
    (draft.declare state declarations).declarations? other =
      if other = state then some declarations else draft.declarations? other :=
  Roster.get?_put state other declarations draft.states

/-- A new state goes to the end, where it changes the place of no other. -/
theorem idxOf?_names_declare (different : other ≠ state) :
    (draft.declare state declarations).states.names.idxOf? other =
      draft.states.names.idxOf? other := by
  have names : (draft.declare state declarations).states.names =
      if state ∈ draft.states.names then draft.states.names else draft.states.names ++ [state] :=
    Roster.names_put state declarations draft.states
  have absent : [state].findIdx? (· == other) = none := by simp [different.symm]
  rw [names]
  split
  · rfl
  · rw [List.idxOf?, List.findIdx?_append, absent, Option.map_none, Option.or_none]

end Declare

/-- A call is about one state at most, and leaves the declarations and the place of any other. -/
theorem apply_spares_others (call : Call κ) (draft : Draft κ) (other : String)
    (different : call.state? ≠ some other) :
    (call.apply draft).declarations? other = draft.declarations? other ∧
      (call.apply draft).states.names.idxOf? other = draft.states.names.idxOf? other := by
  have declared : ∀ state declarations, some state ≠ some other →
      (draft.declare state declarations).declarations? other = draft.declarations? other ∧
        (draft.declare state declarations).states.names.idxOf? other =
          draft.states.names.idxOf? other := by
    intro state declarations differ
    have differ : other ≠ state := fun same => differ (congrArg some same.symm)
    exact ⟨by rw [declarations?_declare, if_neg differ], idxOf?_names_declare _ _ _ _ differ⟩
  cases call with
  | startAt state => exact ⟨rfl, rfl⟩
  | declare state declarations => exact declared state declarations different
  | extend state declaration => exact declared state _ different

/-- The draft holds what the calls say. -/
structure Holds (calls : List (Call κ)) (draft : Draft κ) : Prop where
  names_eq : draft.states.names = (mentioned calls).eraseDups
  declarations?_eq : ∀ state, draft.declarations? state =
    if state ∈ mentioned calls then some (declaredBy calls state) else none
  initial_eq : draft.initial = Calls.last? Call.initial? calls

theorem mentioned_concat (calls : List (Call κ)) (call : Call κ) :
    mentioned (calls ++ [call]) = mentioned calls ++ call.state?.toList := by
  rw [mentioned, List.filterMap_append, List.filterMap_cons]
  cases call.state? <;> rfl

/-- Declaring a state anew makes what was declared for it before irrelevant. -/
theorem declaredBy_declare (calls : List (Call κ)) (state other : String)
    (declarations : List (Declaration κ)) :
    declaredBy (calls ++ [.declare state declarations]) other =
      if other = state then declarations else declaredBy calls other := by
  rw [declaredBy, Calls.last?_concat, Calls.since_concat, Call.declared?]
  by_cases same : other = state
  · simp [same]
  · simp [same, Ne.symm same, Call.extension?, declaredBy]

theorem declaredBy_extend (calls : List (Call κ)) (state other : String)
    (declaration : Declaration κ) :
    declaredBy (calls ++ [.extend state declaration]) other =
      declaredBy calls other ++ if other = state then [declaration] else [] := by
  rw [declaredBy, Calls.last?_concat, Calls.since_concat, Call.declared?, Call.extension?]
  by_cases same : other = state
  · simp [same, declaredBy]
  · simp [same, Ne.symm same, declaredBy]

theorem declaredBy_startAt (calls : List (Call κ)) (state other : String) :
    declaredBy (calls ++ [.startAt state]) other = declaredBy calls other := by
  rw [declaredBy, Calls.last?_concat, Calls.since_concat]
  simp [Call.declared?, Call.extension?, declaredBy]

/-- Before a state is mentioned, nothing is declared for it. -/
theorem declaredBy_of_not_mentioned {calls : List (Call κ)} {state : String}
    (fresh : state ∉ mentioned calls) : declaredBy calls state = [] := by
  induction calls using List.reverseRecOn with
  | nil => rfl
  | append_singleton calls call ih =>
    rw [mentioned_concat, List.mem_append, not_or] at fresh
    obtain ⟨before, last⟩ := fresh
    cases call with
    | startAt other => rw [declaredBy_startAt, ih before]
    | declare other declarations =>
      rw [declaredBy_declare, if_neg (by simpa [Call.state?] using last), ih before]
    | extend other declaration =>
      rw [declaredBy_extend, if_neg (by simpa [Call.state?] using last), ih before]
      rfl

namespace Holds

variable {calls : List (Call κ)} {draft : Draft κ}

theorem startAt (holds : Holds calls draft) (state : String) :
    Holds (calls ++ [.startAt state]) (draft.startAt state) where
  names_eq := by
    rw [mentioned_concat, Call.state?, Option.toList_none, List.append_nil]
    exact holds.names_eq
  declarations?_eq := fun other => by
    rw [mentioned_concat, Call.state?, Option.toList_none, List.append_nil, declaredBy_startAt]
    exact holds.declarations?_eq other
  initial_eq := by
    rw [Calls.last?_concat]
    rfl

/-- After a call about a state, what the calls declare for the state stands under its name. -/
theorem declared (holds : Holds calls draft) (call : Call κ) {state : String}
    (about : call.state? = some state) (keeps : call.initial? = none)
    (declaredBy_other : ∀ other ≠ state,
      declaredBy (calls ++ [call]) other = declaredBy calls other) :
    Holds (calls ++ [call]) (draft.declare state (declaredBy (calls ++ [call]) state)) where
  names_eq := by
    rw [mentioned_concat, about]
    exact Roster.names_put_eq_eraseDups holds.names_eq state _
  declarations?_eq := fun other => by
    rw [declarations?_declare, mentioned_concat, about, holds.declarations?_eq]
    by_cases same : other = state
    · simp [same]
    · simp [same, declaredBy_other other same]
  initial_eq := by
    rw [Calls.last?_concat, keeps]
    exact holds.initial_eq

theorem declare (holds : Holds calls draft) (state : String)
    (declarations : List (Declaration κ)) :
    Holds (calls ++ [.declare state declarations]) (draft.declare state declarations) := by
  have made := holds.declared (.declare state declarations) rfl rfl fun other different => by
    rw [declaredBy_declare, if_neg different]
  rwa [declaredBy_declare, if_pos rfl] at made

theorem extend (holds : Holds calls draft) (state : String) (declaration : Declaration κ) :
    Holds (calls ++ [.extend state declaration]) (draft.extend state declaration) := by
  have made := holds.declared (.extend state declaration) rfl rfl fun other different => by
    rw [declaredBy_extend, if_neg different, List.append_nil]
  have before : (draft.declarations? state).getD [] = declaredBy calls state := by
    rw [holds.declarations?_eq]
    split
    · rfl
    next fresh => exact (declaredBy_of_not_mentioned fresh).symm
  rwa [declaredBy_extend, if_pos rfl, ← before] at made

end Holds

theorem holds_ofCalls (calls : List (Call κ)) : Holds calls (ofCalls calls) := by
  induction calls using List.reverseRecOn with
  | nil => exact ⟨rfl, fun _ => rfl, rfl⟩
  | append_singleton calls call ih =>
    rw [ofCalls_concat]
    cases call with
    | startAt state => exact ih.startAt state
    | declare state declarations => exact ih.declare state declarations
    | extend state declaration => exact ih.extend state declaration

/-- The states of a draft are those that the calls mention, each once and in the order in which they
first came. A state has the declarations of the last call that declared it anew, and after them
those that it was extended by since. The initial state is the one set last. A further call changes
neither the declarations nor the place of a state that it is not about. -/
theorem draft_follows_calls (calls : List (Call κ)) :
    let draft := ofCalls calls
    draft.states.names.Nodup ∧ draft.states.names = (mentioned calls).eraseDups ∧
      (∀ state, (draft.declarations? state = none ↔ state ∉ mentioned calls) ∧
        (state ∈ mentioned calls → draft.declarations? state = some (declaredBy calls state)) ∧
        (draft.has state = true ↔ state ∈ mentioned calls)) ∧
      draft.size = (mentioned calls).eraseDups.length ∧
      draft.initial = Calls.last? Call.initial? calls ∧
      ∀ (call : Call κ) (other : String), call.state? ≠ some other →
        (call.apply draft).declarations? other = draft.declarations? other ∧
          (call.apply draft).states.names.idxOf? other = draft.states.names.idxOf? other := by
  intro draft
  obtain ⟨names, declared, initial⟩ := holds_ofCalls calls
  refine ⟨nodup_names_ofCalls calls, names, fun state => ⟨?_, fun known => ?_, ?_⟩, ?_, initial,
    fun call other => apply_spares_others call draft other⟩
  · rw [declared]
    split <;> simp_all
  · rw [declared, if_pos known]
  · have listed : draft.has state = true ↔ state ∈ draft.states.names :=
      Roster.has_iff_mem_names draft.states state
    rw [listed, names, List.mem_eraseDups]
  · rw [← names, Roster.names, List.length_map]
    rfl

def onPush (target : String) : Declaration Unit :=
  Declaration.onEvents ["push"] (Declaration.goTo target {})

/-- The open door is extended before it is declared anew, and again after that. -/
def revised : List (Call Unit) := [
  .extend "open" (onPush "ajar"), .startAt "open", .declare "shut" [onPush "open"],
  .extend "open" (onPush "open"), .declare "open" [onPush "shut"], .startAt "shut",
  .extend "open" (onPush "ajar")]

theorem revised_follows :
    (ofCalls revised).states.names = ["open", "shut"] ∧
      (ofCalls revised).declarations? "open" = some [onPush "shut", onPush "ajar"] ∧
      (ofCalls revised).declarations? "ajar" = none ∧ (ofCalls revised).size = 2 ∧
      (ofCalls revised).initial = some "shut" ∧
      Call.state? (.declare "shut" [] : Call Unit) ≠ some "open" ∧
      ((ofCalls revised).declare "shut" []).states.names.idxOf? "open" = some 0 := by
  obtain ⟨_, names, states, size, initial, spares⟩ := draft_follows_calls revised
  have mentioned_eq : (mentioned revised).eraseDups = ["open", "shut"] := by decide
  have other : Call.state? (.declare "shut" [] : Call Unit) ≠ some "open" := by decide
  obtain ⟨_, kept⟩ := spares (.declare "shut" []) "open" other
  refine ⟨names.trans mentioned_eq, (states "open").2.1 (by decide),
    (states "ajar").1.mpr (by decide), size.trans (congrArg List.length mentioned_eq), initial,
    other, kept.trans ?_⟩
  rw [names, mentioned_eq]
  rfl

end Draft

end TableMachine
