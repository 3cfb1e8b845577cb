/-!
# Rosters

Values under names, kept in the order in which the names first came. Giving a name again replaces
its value where it stands, so a roster built by `put` names each value once.
-/

namespace TableMachine

abbrev Roster (α : Type) := List (String × α)

namespace Roster

variable {α : Type}

/-- A known name keeps its place and takes the new value; a new name goes to the end. -/
def put (name : String) (value : α) : Roster α → Roster α
  | [] => [(name, value)]
  | (known, held) :: rest =>
    if known = name then (known, value) :: rest else (known, held) :: put name value rest

def get? (roster : Roster α) (name : String) : Option α :=
  List.lookup name roster

def has (roster : Roster α) (name : String) : Bool :=
  (roster.get? name).isSome

def drop (name : String) (roster : Roster α) : Roster α :=
  List.filter (fun entry => entry.1 ≠ name) roster

def names (roster : Roster α) : List String :=
  List.map Prod.fst roster

/-- The names in the order of their characters' code points. -/
def sortedNames (roster : Roster α) : List String :=
  roster.names.mergeSort (fun a b => decide (a ≤ b))

theorem get?_cons (known name : String) (held : α) (rest : Roster α) :
    get? ((known, held) :: rest) name = if name = known then some held else get? rest name := by
  simp only [get?, List.lookup_cons]
  split <;> rename_i h <;> simp_all

theorem get?_put (name other : String) (value : α) (roster : Roster α) :
    get? (put name value roster) other =
      if other = name then some value else get? roster other := by
  induction roster with
  | nil => simp [put, get?_cons]
  | cons entry rest ih =>
    obtain ⟨known, held⟩ := entry
    by_cases h : known = name <;> by_cases k : other = known <;> simp_all [put, get?_cons]

theorem names_put (name : String) (value : α) (roster : Roster α) :
    names (put name value roster) =
      if name ∈ names roster then names roster else names roster ++ [name] := by
  induction roster with
  | nil => simp [put, names]
  | cons entry rest ih =>
    obtain ⟨known, held⟩ := entry
    by_cases h : known = name
    · simp [put, names, h]
    · have back : ¬ name = known := fun eq => h eq.symm
      simp only [put, if_neg h, names, List.map_cons, List.mem_cons, back, false_or] at ih ⊢
      rw [ih]
      split <;> rename_i member <;> simp [member]

theorem nodup_names_put (name : String) (value : α) {roster : Roster α} (h : (names roster).Nodup) :
    (names (put name value roster)).Nodup := by
  rw [names_put]
  split
  · exact h
  · next absent =>
    simp only [List.nodup_append, h, List.nodup_cons, true_and, List.mem_singleton,
      List.not_mem_nil, not_false_eq_true, List.nodup_nil, and_self]
    intro a member b eq
    subst eq
    intro same
    exact absent (same ▸ member)

theorem has_iff_mem_names (roster : Roster α) (name : String) :
    has roster name = true ↔ name ∈ names roster := by
  induction roster with
  | nil => simp [has, get?, names]
  | cons entry rest ih =>
    obtain ⟨known, held⟩ := entry
    by_cases h : name = known <;> simp_all [has, get?_cons, names]

theorem get?_drop (name other : String) (roster : Roster α) :
    get? (drop name roster) other = if other = name then none else get? roster other := by
  induction roster with
  | nil => simp [drop, get?]
  | cons entry rest ih =>
    obtain ⟨known, held⟩ := entry
    by_cases h : known = name <;> by_cases k : other = known <;>
      simp_all [drop, get?_cons]

end Roster

end TableMachine
