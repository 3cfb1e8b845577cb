import TableMachine.Machine.Builder
import TableMachine.Proofs.Integrity

/-!
# The faults of a draft

What can be wrong with a draft, said without its index and without the order of the checks. Of the
problems of one declaration only the first counts as its fault: a missing selector comes before the
target, and this before the actions. `Draft.faults` lists the fault of the initial state and those
of the declarations in their order, and compiling stops at the first of the list.
-/

namespace TableMachine

variable {κ : Type}

/-- The state and the position of the declaration that the fault is about. -/
def Fault.site? : Fault → Option (String × Nat)
  | .undeclaredInitial _ => none
  | .undeclaredTarget state position _ => some (state, position)
  | .noSelector state position => some (state, position)
  | .unregisteredAction state position _ => some (state, position)

namespace Draft

/-- The name is given, is not empty, and is that of a state. -/
def Declares (draft : Draft κ) (name : Option String) : Prop :=
  ∃ known, name = some known ∧ known ≠ "" ∧ draft.has known = true

theorem has_index (draft : Draft κ) (name : String) : draft.index.has name = draft.has name := by
  have kept : draft.index.names = draft.states.names := List.zipIdx_map_fst 0 _
  rw [Bool.eq_iff_iff, Roster.has_iff_mem_names, kept, ← Roster.has_iff_mem_names]
  rfl

theorem place?_isSome_iff (draft : Draft κ) (name : Option String) :
    (place? draft.index name).isSome = true ↔ draft.Declares name := by
  refine ⟨fun placed => ?_, ?_⟩
  · obtain ⟨place, found⟩ := Option.isSome_iff_exists.mp placed
    obtain ⟨known, given, filled, placed⟩ := place?_eq_some found
    refine ⟨known, given, filled, ?_⟩
    rw [← has_index, Roster.has, placed]
    rfl
  · rintro ⟨known, rfl, filled, declared⟩
    have empty : known.isEmpty = false := by simpa using filled
    rw [← has_index, Roster.has] at declared
    simpa [place?, empty] using declared

theorem place?_eq_none_iff (draft : Draft κ) (name : Option String) :
    place? draft.index name = none ↔ ¬ draft.Declares name := by
  rw [← place?_isSome_iff, Bool.not_eq_true, Option.isSome_eq_false_iff, Option.isNone_iff_eq_none]

/-- A declaration, beside the state that it is declared for and its position there. -/
structure Line (κ : Type) where
  state : String
  position : Nat
  declaration : Declaration κ

/-- Every declaration of the draft: the states in order, and the positions of each. -/
def lines (draft : Draft κ) : List (Line κ) :=
  draft.states.flatMap fun entry =>
    entry.2.zipIdx.map fun d => { state := entry.1, position := d.2, declaration := d.1 }

theorem mem_lines_iff {draft : Draft κ} (distinct : draft.states.names.Nodup) (line : Line κ) :
    line ∈ draft.lines ↔ ∃ declarations, draft.declarations? line.state = some declarations ∧
      declarations[line.position]? = some line.declaration := by
  simp only [lines, List.mem_flatMap, List.mem_map, declarations?,
    Roster.get?_eq_some_iff_mem distinct]
  refine ⟨?_, ?_⟩
  · rintro ⟨⟨state, declarations⟩, listed, ⟨d, position⟩, placed, rfl⟩
    exact ⟨declarations, listed, List.mem_zipIdx_iff_getElem?.mp placed⟩
  · rintro ⟨declarations, listed, placed⟩
    exact ⟨(line.state, declarations), listed, (line.declaration, line.position),
      List.mem_zipIdx_iff_getElem?.mpr placed, rfl⟩

/-- No two declarations of a draft are of one state and at one position. -/
theorem eq_of_mem_lines {draft : Draft κ} (distinct : draft.states.names.Nodup)
    {one other : Line κ} (first : one ∈ draft.lines) (second : other ∈ draft.lines)
    (state : one.state = other.state) (position : one.position = other.position) : one = other := by
  obtain ⟨declarations, declared, listed⟩ := (mem_lines_iff distinct one).mp first
  obtain ⟨others, found, placed⟩ := (mem_lines_iff distinct other).mp second
  rw [state, found] at declared
  cases declared
  rw [position, placed] at listed
  cases one
  cases other
  cases state
  cases position
  cases listed
  rfl

namespace Line

/-- Whatever is wrong with a declaration, each problem apart from the others. -/
inductive Problem (draft : Draft κ) (actions : Registry κ) (line : Line κ) : Fault → Prop
  | noSelector (absent : line.declaration.selector = none) :
      Problem draft actions line (.noSelector line.state line.position)
  | undeclaredTarget (undeclared : ¬ draft.Declares line.declaration.target) :
      Problem draft actions line
        (.undeclaredTarget line.state line.position (line.declaration.target.getD ""))
  | unregisteredAction {name : String} (called : name ∈ Step.names line.declaration.steps)
      (missing : actions.has name = false) :
      Problem draft actions line (.unregisteredAction line.state line.position name)

/-- The first problem of a declaration: a later one shows only where the earlier ones are absent. -/
inductive Shows (draft : Draft κ) (actions : Registry κ) (line : Line κ) : Fault → Prop
  | noSelector (absent : line.declaration.selector = none) :
      Shows draft actions line (.noSelector line.state line.position)
  | undeclaredTarget (selected : line.declaration.selector ≠ none)
      (undeclared : ¬ draft.Declares line.declaration.target) :
      Shows draft actions line
        (.undeclaredTarget line.state line.position (line.declaration.target.getD ""))
  | unregisteredAction {before after : List String} {name : String}
      (selected : line.declaration.selector ≠ none)
      (declared : draft.Declares line.declaration.target)
      (called : Step.names line.declaration.steps = before ++ name :: after)
      (registered : ∀ earlier ∈ before, actions.has earlier = true)
      (missing : actions.has name = false) :
      Shows draft actions line (.unregisteredAction line.state line.position name)

/-- Nothing is wrong with the declaration. -/
def Sound (draft : Draft κ) (actions : Registry κ) (line : Line κ) : Prop :=
  ∀ fault, ¬ line.Problem draft actions fault

/-- The fault that checking the declaration gives. -/
def fault? (draft : Draft κ) (actions : Registry κ) (line : Line κ) : Option Fault :=
  faultOf (check draft.index actions line.state line.position line.declaration)

section Checked

variable {draft : Draft κ} {actions : Registry κ} {line : Line κ} {fault : Fault}

theorem Shows.problem (shows : line.Shows draft actions fault) :
    line.Problem draft actions fault := by
  cases shows with
  | noSelector absent => exact .noSelector absent
  | undeclaredTarget _ undeclared => exact .undeclaredTarget undeclared
  | unregisteredAction _ _ called _ missing => exact .unregisteredAction (by simp [called]) missing

theorem Problem.site?_eq (problem : line.Problem draft actions fault) :
    fault.site? = some (line.state, line.position) := by
  cases problem <;> rfl

theorem Shows.fault?_eq (shows : line.Shows draft actions fault) :
    line.fault? draft actions = some fault := by
  unfold fault? check
  cases shows with
  | noSelector absent =>
    rw [absent]
    rfl
  | undeclaredTarget selected undeclared =>
    obtain ⟨selector, selected⟩ := Option.ne_none_iff_exists'.mp selected
    rw [selected, (place?_eq_none_iff draft _).mpr undeclared]
    rfl
  | unregisteredAction selected declared called registered missing =>
    obtain ⟨selector, selected⟩ := Option.ne_none_iff_exists'.mp selected
    obtain ⟨place, placed⟩ := Option.isSome_iff_exists.mp ((place?_isSome_iff draft _).mpr declared)
    have first := (Step.firstMissing?_eq_some_iff actions _ _).mpr
      ⟨missing, _, _, called, registered⟩
    simp only [selected, placed, first]
    rfl

theorem shows_of_fault? (found : line.fault? draft actions = some fault) :
    line.Shows draft actions fault := by
  unfold fault? check at found
  split at found
  · next absent =>
    cases found
    exact .noSelector absent
  · next selector selected =>
    have selected : line.declaration.selector ≠ none := by simp [selected]
    split at found
    · next undeclared =>
      cases found
      exact .undeclaredTarget selected ((place?_eq_none_iff draft _).mp undeclared)
    · next place placed =>
      have declared := (place?_isSome_iff draft line.declaration.target).mp (by simp [placed])
      split at found
      · next name first =>
        cases found
        obtain ⟨missing, before, after, called, registered⟩ :=
          (Step.firstMissing?_eq_some_iff actions _ _).mp first
        exact .unregisteredAction selected declared called registered missing
      · cases found

theorem fault?_eq_some_iff :
    line.fault? draft actions = some fault ↔ line.Shows draft actions fault :=
  ⟨shows_of_fault?, Shows.fault?_eq⟩

/-- A declaration with any problem shows its first. -/
theorem Problem.exists_shows (problem : line.Problem draft actions fault) :
    ∃ first, line.Shows draft actions first := by
  by_cases selected : line.declaration.selector = none
  · exact ⟨_, .noSelector selected⟩
  by_cases declared : draft.Declares line.declaration.target
  · cases first : Step.firstMissing? actions line.declaration.steps with
    | some name =>
      obtain ⟨missing, before, after, called, registered⟩ :=
        (Step.firstMissing?_eq_some_iff actions _ _).mp first
      exact ⟨_, .unregisteredAction selected declared called registered missing⟩
    | none =>
      have registered := (Step.firstMissing?_eq_none_iff actions _).mp first
      cases problem with
      | noSelector absent => exact absurd absent selected
      | undeclaredTarget undeclared => exact absurd declared undeclared
      | unregisteredAction called missing =>
        rw [registered _ called] at missing
        cases missing
  · exact ⟨_, .undeclaredTarget selected declared⟩

theorem fault?_eq_none_iff : line.fault? draft actions = none ↔ line.Sound draft actions := by
  refine ⟨fun silent fault problem => ?_, fun sound => ?_⟩
  · obtain ⟨first, shows⟩ := problem.exists_shows
    rw [shows.fault?_eq] at silent
    cases silent
  · refine Option.eq_none_iff_forall_ne_some.mpr fun fault found => ?_
    exact sound fault (shows_of_fault? found).problem

end Checked

end Line

section Traversals

variable {α β : Type}

/-- A traversal fails as the first of its elements that fails. -/
theorem faultOf_mapM {f : α → Except Fault β} {faultsOf : α → List Fault}
    (agree : ∀ x, faultOf (f x) = (faultsOf x).head?) (xs : List α) :
    faultOf (xs.mapM f) = (xs.flatMap faultsOf).head? := by
  induction xs with
  | nil => rfl
  | cons x rest ih =>
    rw [List.mapM_cons, List.flatMap_cons, List.head?_append, ← agree]
    cases f x with
    | error fault => rfl
    | ok y =>
      rw [faultOf, Option.none_or, ← ih]
      cases rest.mapM f <;> rfl

theorem faultOf_foldlM {step : β → α → Except Fault β} {fault? : α → Option Fault}
    (agree : ∀ b x, faultOf (step b x) = fault? x) (xs : List α) (b : β) :
    faultOf (xs.foldlM step b) = (xs.filterMap fault?).head? := by
  induction xs generalizing b with
  | nil => rfl
  | cons x rest ih =>
    rw [List.foldlM_cons, List.filterMap_cons, ← agree b x]
    cases step b x with
    | error fault => rfl
    | ok next => exact ih next

end Traversals

theorem faultOf_compileState (index : Roster Nat) (actions : Registry κ)
    (entry : String × List (Declaration κ)) :
    faultOf (compileState index actions entry.1 entry.2) =
      (entry.2.zipIdx.filterMap fun d => faultOf (check index actions entry.1 d.2 d.1)).head? := by
  refine faultOf_foldlM (fun state d => ?_) _ _
  cases check index actions entry.1 d.2 d.1 <;> rfl

/-- Compiling stops at the first of the faults. -/
theorem faultOf_compile (draft : Draft κ) (actions : Registry κ) :
    faultOf (draft.compile actions) = (draft.faults actions).head? := by
  have states := faultOf_mapM (faultOf_compileState draft.index actions) draft.states
  rw [compile, faults, List.head?_append, ← states]
  cases draft.checkInitial with
  | error fault => rfl
  | ok initial =>
    rw [faultOf, Option.toList_none, List.head?_nil, Option.none_or]
    cases draft.states.mapM fun entry => compileState draft.index actions entry.1 entry.2 <;> rfl

theorem faults_eq (draft : Draft κ) (actions : Registry κ) :
    draft.faults actions = (faultOf draft.checkInitial).toList ++
      draft.lines.filterMap (·.fault? draft actions) := by
  rw [faults, lines, List.filterMap_flatMap]
  simp only [List.filterMap_map]
  rfl

theorem checkInitial_eq_some_iff (draft : Draft κ) (fault : Fault) :
    faultOf draft.checkInitial = some fault ↔
      ¬ draft.Declares draft.initial ∧ fault = .undeclaredInitial (draft.initial.getD "") := by
  rw [← place?_eq_none_iff, checkInitial]
  cases place? draft.index draft.initial with
  | none => simp [faultOf, eq_comm]
  | some place => simp [faultOf]

theorem faultOf_eq_none_iff {α : Type} (checked : Except Fault α) :
    faultOf checked = none ↔ ∃ a, checked = .ok a := by
  cases checked <;> simp [faultOf]

theorem mem_faults_iff (draft : Draft κ) (actions : Registry κ) (fault : Fault) :
    fault ∈ draft.faults actions ↔
      (¬ draft.Declares draft.initial ∧ fault = .undeclaredInitial (draft.initial.getD "")) ∨
        ∃ line ∈ draft.lines, line.Shows draft actions fault := by
  rw [faults_eq, List.mem_append, Option.mem_toList, checkInitial_eq_some_iff, List.mem_filterMap]
  simp only [Line.fault?_eq_some_iff]

/-- The first fault is that of the initial state, or that of the first declaration that has one. -/
theorem first_fault {draft : Draft κ} {actions : Registry κ} {fault : Fault}
    (first : (draft.faults actions).head? = some fault) :
    (¬ draft.Declares draft.initial ∧ fault = .undeclaredInitial (draft.initial.getD "")) ∨
      draft.Declares draft.initial ∧ ∃ before line after, draft.lines = before ++ line :: after ∧
        line.Shows draft actions fault ∧ ∀ earlier ∈ before, earlier.Sound draft actions := by
  rw [faults_eq, List.head?_append] at first
  cases initial : faultOf draft.checkInitial with
  | some told =>
    rw [initial] at first
    cases first
    exact .inl ((checkInitial_eq_some_iff draft _).mp initial)
  | none =>
    rw [initial, Option.toList_none, List.head?_nil, Option.none_or, List.head?_filterMap,
      List.findSome?_eq_some_iff] at first
    obtain ⟨before, line, after, order, shows, silent⟩ := first
    have declared : draft.Declares draft.initial := by
      by_contra undeclared
      rw [(checkInitial_eq_some_iff draft _).mpr ⟨undeclared, rfl⟩] at initial
      cases initial
    exact .inr ⟨declared, before, line, after, order, Line.fault?_eq_some_iff.mp shows,
      fun earlier member => Line.fault?_eq_none_iff.mp (silent earlier member)⟩

/-- Whatever is wrong with a draft. -/
inductive Problem (draft : Draft κ) (actions : Registry κ) : Fault → Prop
  | initial (undeclared : ¬ draft.Declares draft.initial) :
      Problem draft actions (.undeclaredInitial (draft.initial.getD ""))
  | line {line : Line κ} {fault : Fault} (listed : line ∈ draft.lines)
      (problem : line.Problem draft actions fault) : Problem draft actions fault

theorem problem_of_mem_faults {draft : Draft κ} {actions : Registry κ} {fault : Fault}
    (member : fault ∈ draft.faults actions) : draft.Problem actions fault := by
  obtain ⟨undeclared, rfl⟩ | ⟨line, listed, shows⟩ := (mem_faults_iff draft actions fault).mp member
  · exact .initial undeclared
  · exact .line listed shows.problem

/-- A declaration that has a problem has one among the faults. -/
theorem Line.Problem.exists_mem_faults {draft : Draft κ} {actions : Registry κ} {line : Line κ}
    {fault : Fault} (problem : line.Problem draft actions fault) (listed : line ∈ draft.lines) :
    ∃ first ∈ draft.faults actions, line.Shows draft actions first := by
  obtain ⟨first, shows⟩ := problem.exists_shows
  exact ⟨first, (mem_faults_iff draft actions first).mpr (.inr ⟨line, listed, shows⟩), shows⟩

/-- Only the first problem of a declaration is among the faults. -/
theorem Line.Problem.shows {draft : Draft κ} (distinct : draft.states.names.Nodup)
    {actions : Registry κ} {line : Line κ} (listed : line ∈ draft.lines) {fault : Fault}
    (problem : line.Problem draft actions fault) (member : fault ∈ draft.faults actions) :
    line.Shows draft actions fault := by
  have site := problem.site?_eq
  obtain ⟨_, rfl⟩ | ⟨other, told, shows⟩ := (mem_faults_iff draft actions fault).mp member
  · cases site
  · obtain ⟨state, position⟩ : other.state = line.state ∧ other.position = line.position := by
      simpa [shows.problem.site?_eq] using site
    exact eq_of_mem_lines distinct told listed state position ▸ shows

/-- Compiling succeeds where no fault is listed, and else fails with the first of the list. That is
the fault of the initial state, or what the first faulty declaration shows. -/
theorem compile_agrees_with_faults (calls : List (Call κ)) (actions : Registry κ) :
    let draft := ofCalls calls
    ((∃ table, draft.compile actions = .ok table) ↔ draft.faults actions = []) ∧
      ∀ fault, draft.compile actions = .error fault →
        (∃ others, draft.faults actions = fault :: others) ∧
          ((¬ draft.Declares draft.initial ∧
              fault = .undeclaredInitial (draft.initial.getD "")) ∨
            draft.Declares draft.initial ∧ ∃ before line after declarations,
              draft.lines = before ++ line :: after ∧
                draft.declarations? line.state = some declarations ∧
                declarations[line.position]? = some line.declaration ∧
                line.Shows draft actions fault ∧
                ∀ earlier ∈ before, earlier.Sound draft actions) := by
  intro draft
  have stops := faultOf_compile draft actions
  refine ⟨?_, fun fault failed => ?_⟩
  · rw [← faultOf_eq_none_iff, stops, List.head?_eq_none_iff]
  · have first : (draft.faults actions).head? = some fault := by
      rw [← stops, failed, faultOf]
    refine ⟨List.head?_eq_some_iff.mp first, (first_fault first).imp_right ?_⟩
    rintro ⟨declared, before, line, after, order, shows, sound⟩
    have listed : line ∈ draft.lines := by simp [order]
    obtain ⟨declarations, found, placed⟩ :=
      (mem_lines_iff (nodup_names_ofCalls calls) line).mp listed
    exact ⟨declared, before, line, after, declarations, order, found, placed, shows, sound⟩

/-- A state that is declared with one good declaration, one that goes nowhere and one that is not
filled in. -/
def sketch : List (Call Unit) := [
  .startAt "shut",
  .declare "shut" [
    Declaration.onEvents ["knock"] (Declaration.goTo "shut" {}),
    Declaration.onEvents ["push"] (Declaration.goTo "open" {}),
    {}]]

theorem sketch_agrees :
    (ofCalls sketch).compile [] = .error (.undeclaredTarget "shut" 1 "open") ∧
      (∃ others, (ofCalls sketch).faults [] = .undeclaredTarget "shut" 1 "open" :: others) ∧
      ∃ before line after, (ofCalls sketch).lines = before ++ line :: after ∧
        line.Shows (ofCalls sketch) [] (.undeclaredTarget "shut" 1 "open") ∧
        ∀ earlier ∈ before, earlier.Sound (ofCalls sketch) [] := by
  have failed : (ofCalls sketch).compile [] = .error (.undeclaredTarget "shut" 1 "open") := rfl
  obtain ⟨listed, told⟩ := (compile_agrees_with_faults sketch []).2 _ failed
  refine ⟨failed, listed, ?_⟩
  obtain ⟨_, other⟩ | ⟨_, before, line, after, _, order, _, _, shows, sound⟩ := told
  · cases other
  · exact ⟨before, line, after, order, shows, sound⟩

/-- The faults are problems of the draft, and every faulty part of it is among them. They are all
its problems just if no declaration has two. -/
theorem faults_complete_iff (calls : List (Call κ)) (actions : Registry κ) :
    let draft := ofCalls calls
    (∀ fault ∈ draft.faults actions, draft.Problem actions fault) ∧
      (¬ draft.Declares draft.initial →
        .undeclaredInitial (draft.initial.getD "") ∈ draft.faults actions) ∧
      (∀ line ∈ draft.lines, ∀ fault, line.Problem draft actions fault →
        ∃ first ∈ draft.faults actions, line.Shows draft actions first) ∧
      ((∀ fault, draft.Problem actions fault → fault ∈ draft.faults actions) ↔
        ∀ line ∈ draft.lines, ∀ one other, line.Problem draft actions one →
          line.Problem draft actions other → one = other) := by
  intro draft
  have distinct := nodup_names_ofCalls calls
  have initial : ¬ draft.Declares draft.initial →
      .undeclaredInitial (draft.initial.getD "") ∈ draft.faults actions :=
    fun undeclared => (mem_faults_iff draft actions _).mpr (.inl ⟨undeclared, rfl⟩)
  refine ⟨fun _ => problem_of_mem_faults, initial,
    fun _ listed _ problem => problem.exists_mem_faults listed, ?_, ?_⟩
  · intro complete line listed one other first second
    have shows := first.shows distinct listed (complete one (.line listed first))
    have again := second.shows distinct listed (complete other (.line listed second))
    exact Option.some.inj (shows.fault?_eq.symm.trans again.fault?_eq)
  · intro single fault problem
    cases problem with
    | initial undeclared => exact initial undeclared
    | line listed problem =>
      obtain ⟨first, member, shows⟩ := problem.exists_mem_faults listed
      rwa [single _ listed fault first problem shows.problem]

/-- A state whose only declaration has an action, and neither a selector nor a target. -/
def unfilled : List (Call Unit) := [
  .startAt "shut",
  .declare "shut" [Declaration.perform (.named "ring") {}]]

/-- What the declaration lacks first hides the rest. -/
theorem unfilled_hides_problems :
    (ofCalls unfilled).faults [] = [.noSelector "shut" 0] ∧
      (ofCalls unfilled).Problem [] (.undeclaredTarget "shut" 0 "") ∧
      (ofCalls unfilled).Problem [] (.unregisteredAction "shut" 0 "ring") ∧
      ¬ ∀ fault, (ofCalls unfilled).Problem [] fault → fault ∈ (ofCalls unfilled).faults [] := by
  have faults : (ofCalls unfilled).faults [] = [.noSelector "shut" 0] := rfl
  have listed : ⟨"shut", 0, Declaration.perform (.named "ring") {}⟩ ∈ (ofCalls unfilled).lines :=
    List.mem_cons_self
  have target : (ofCalls unfilled).Problem [] (.undeclaredTarget "shut" 0 "") :=
    .line listed (.undeclaredTarget fun ⟨_, given, _⟩ => nomatch given)
  have action : (ofCalls unfilled).Problem [] (.unregisteredAction "shut" 0 "ring") :=
    .line listed (.unregisteredAction List.mem_cons_self rfl)
  refine ⟨faults, target, action, fun complete => ?_⟩
  have member := complete _ target
  rw [faults] at member
  cases List.mem_singleton.mp member

end Draft

/-- A builder builds a machine unless it lists a fault, and else tells the first that it lists. -/
theorem Builder.faultOf_build (b : Builder κ) : Draft.faultOf b.build = b.faults.head? := by
  rw [faults, ← Draft.faultOf_compile, build]
  cases b.draft.compile b.actions <;> rfl

end TableMachine
