import TableMachine.Roster

/-!
# Rosters filled from lists

What a roster holds after a value was put under each of several names, and what looking a name up
finds where all names differ.
-/

namespace TableMachine

namespace Roster

variable {α : Type}

theorem mem_put {name : String} {value : α} {roster : Roster α} {entry : String × α}
    (member : entry ∈ put name value roster) : entry = (name, value) ∨ entry ∈ roster := by
  induction roster with
  | nil => exact .inl (List.mem_singleton.mp member)
  | cons first rest ih =>
    unfold put at member
    split at member
    next known =>
      rcases List.mem_cons.mp member with same | later
      · exact .inl (by rw [same, ← known])
      · exact .inr (List.mem_cons_of_mem _ later)
    next =>
      rcases List.mem_cons.mp member with same | later
      · exact .inr (same ▸ List.mem_cons_self)
      · exact (ih later).imp_right (List.mem_cons_of_mem _)

theorem put_of_not_mem {name : String} {roster : Roster α} (fresh : name ∉ roster.names)
    (value : α) : put name value roster = roster ++ [(name, value)] := by
  induction roster with
  | nil => rfl
  | cons first rest ih =>
    obtain ⟨other, later⟩ := not_or.mp (mt List.mem_cons.mpr fresh)
    unfold put
    rw [if_neg (Ne.symm other), ih later, List.cons_append]

theorem eraseDups_concat (names : List String) (name : String) :
    (names ++ [name]).eraseDups =
      if name ∈ names then names.eraseDups else names.eraseDups ++ [name] := by
  rw [List.eraseDups_append]
  by_cases known : name ∈ names <;> simp [List.removeAll, List.eraseDups_cons, known]

/-- Names stand in the order in which they first came. -/
theorem names_put_eq_eraseDups {roster : Roster α} {named : List String}
    (ordered : roster.names = named.eraseDups) (name : String) (value : α) :
    (put name value roster).names = (named ++ [name]).eraseDups := by
  rw [names_put, eraseDups_concat, ordered]
  simp only [List.mem_eraseDups]

/-- A known name keeps its place, whatever value is put under it. -/
theorem exists_put_eq {name : String} {held : α} {roster : Roster α}
    (found : get? roster name = some held) :
    ∃ before after, roster = before ++ (name, held) :: after ∧
      ∀ value, put name value roster = before ++ (name, value) :: after := by
  induction roster with
  | nil => cases found
  | cons first rest ih =>
    obtain ⟨known, value⟩ := first
    rw [get?_cons] at found
    split at found
    next here =>
      cases found
      exact ⟨[], rest, by rw [here]; rfl, fun value => by rw [put, if_pos here.symm, here]; rfl⟩
    next other =>
      obtain ⟨before, after, rfl, replaced⟩ := ih found
      refine ⟨(known, value) :: before, after, rfl, fun value => ?_⟩
      rw [put, if_neg (Ne.symm other), replaced, List.cons_append]

/-- Puts under each name the value that belongs to it. -/
def putAll (valueOf : String → α) (names : List String) (roster : Roster α) : Roster α :=
  names.foldl (fun roster name => roster.put name (valueOf name)) roster

theorem get?_putAll (valueOf : String → α) (names : List String) (roster : Roster α)
    (name : String) :
    get? (putAll valueOf names roster) name =
      if names.contains name then some (valueOf name) else get? roster name := by
  induction names generalizing roster with
  | nil => rfl
  | cons first rest ih =>
    have unfolded : putAll valueOf (first :: rest) roster =
        putAll valueOf rest (roster.put first (valueOf first)) := rfl
    rw [unfolded, ih, get?_put]
    by_cases here : name = first
    · simp [here]
    · simp [here]

theorem mem_putAll {valueOf : String → α} {names : List String} {roster : Roster α}
    {entry : String × α} (member : entry ∈ putAll valueOf names roster) :
    (entry.1 ∈ names ∧ entry.2 = valueOf entry.1) ∨ entry ∈ roster := by
  induction names generalizing roster with
  | nil => exact .inr member
  | cons first rest ih =>
    rcases ih member with ⟨listed, held⟩ | before
    · exact .inl ⟨List.mem_cons_of_mem _ listed, held⟩
    · rcases mem_put before with same | known
      · exact .inl ⟨by simp [same], by simp [same]⟩
      · exact .inr known

theorem mem_of_get?_eq_some {roster : Roster α} {name : String} {value : α}
    (found : get? roster name = some value) : (name, value) ∈ roster := by
  obtain ⟨before, after, rfl, _⟩ := List.lookup_eq_some_iff.mp found
  exact List.mem_append_right _ List.mem_cons_self

/-- Where the names differ, looking a name up finds its one entry. -/
theorem get?_eq_some_iff_mem {roster : Roster α} (distinct : roster.names.Nodup) (name : String)
    (value : α) : get? roster name = some value ↔ (name, value) ∈ roster := by
  refine ⟨mem_of_get?_eq_some, fun member => ?_⟩
  induction roster with
  | nil => cases member
  | cons first rest ih =>
    obtain ⟨fresh, others⟩ := List.nodup_cons.mp distinct
    rw [get?_cons]
    rcases List.mem_cons.mp member with rfl | later
    · simp
    · have other : name ≠ first.1 := fun same =>
        fresh (same ▸ List.mem_map.mpr ⟨(name, value), later, rfl⟩)
      rw [if_neg other, ih others later]

theorem get?_zipIdx {names : List String} (distinct : names.Nodup) (name : String)
    (place : Nat) : get? names.zipIdx name = some place ↔ names[place]? = some name := by
  have kept : Roster.names names.zipIdx = names := List.zipIdx_map_fst 0 names
  rw [get?_eq_some_iff_mem (kept.symm ▸ distinct), List.mem_zipIdx_iff_getElem?]

end Roster

end TableMachine
