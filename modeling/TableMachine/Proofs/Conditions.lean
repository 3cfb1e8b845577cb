import Mathlib.Data.List.Perm.Subperm
import TableMachine.Proofs.Rosters
import TableMachine.Proofs.Spellings
import TableMachine.Proofs.Values

/-!
# What conditions ask

However a condition has come about, by calls or from an exported form, each of its keys has one
entry and the count is that of the entries. This is what makes the count worth comparing: an object
with all the keys of the condition has no others just if it has as many members.
-/

namespace TableMachine

namespace Condition

/-- The conditions that calls and forms make. -/
inductive Made : Condition → Prop
  | empty : Made {}
  | require {c : Condition} (before : Made c) (key : String) (pattern : Pattern) :
      Made (c.require key pattern)
  | relax {c : Condition} (before : Made c) : Made c.relax
  | read {form : Json} {c : Condition} (accepted : ofJson? form = some c) : Made c

/-- No two entries have one key, and the count is theirs. -/
structure Intact (c : Condition) : Prop where
  distinct : c.entries.names.Nodup
  counted : c.keyCount = c.entries.length

theorem intact_empty : Intact {} :=
  ⟨List.nodup_nil, rfl⟩

theorem Intact.require {c : Condition} (intact : c.Intact) (key : String) (pattern : Pattern) :
    (c.require key pattern).Intact :=
  ⟨Roster.nodup_names_put key pattern intact.distinct, rfl⟩

theorem Intact.relax {c : Condition} (intact : c.Intact) : c.relax.Intact :=
  ⟨intact.distinct, intact.counted⟩

def requireAll (entries : List (String × Pattern)) (c : Condition) : Condition :=
  entries.foldl (fun c entry => c.require entry.1 entry.2) c

theorem ofEntries_eq (entries : List (String × Pattern)) (relaxed : Bool) :
    ofEntries entries relaxed =
      if relaxed then (requireAll entries {}).relax else requireAll entries {} := rfl

theorem Intact.requireAll {c : Condition} (intact : c.Intact)
    (entries : List (String × Pattern)) : (c.requireAll entries).Intact := by
  induction entries generalizing c with
  | nil => exact intact
  | cons entry rest ih => exact ih (intact.require entry.1 entry.2)

/-- Entries of new keys join the others as they come. -/
theorem requireAll_of_nodup {c : Condition} (intact : c.Intact) {entries : Roster Pattern}
    (distinct : (c.entries ++ entries).names.Nodup) :
    c.requireAll entries =
      { c with entries := c.entries ++ entries, keyCount := (c.entries ++ entries).length } := by
  induction entries generalizing c with
  | nil => simp [requireAll, ← intact.counted]
  | cons entry rest ih =>
    have fresh : entry.1 ∉ c.entries.names := by
      rw [Roster.names, List.map_append, List.nodup_append] at distinct
      exact fun known => distinct.2.2 _ known _ List.mem_cons_self rfl
    have joined : (c.require entry.1 entry.2).entries = c.entries ++ [entry] :=
      Roster.put_of_not_mem fresh entry.2
    have step := ih (intact.require entry.1 entry.2) (by
      rw [joined, List.append_assoc]
      exact distinct)
    rw [joined, List.append_assoc] at step
    exact step

theorem intact_ofEntries (entries : List (String × Pattern)) (relaxed : Bool) :
    (ofEntries entries relaxed).Intact := by
  have intact := intact_empty.requireAll entries
  rw [ofEntries_eq]
  split
  · exact intact.relax
  · exact intact

theorem Made.intact {c : Condition} (made : c.Made) : c.Intact := by
  induction made with
  | empty => exact intact_empty
  | require _ key pattern ih => exact ih.require key pattern
  | relax _ ih => exact ih.relax
  | read accepted =>
    obtain ⟨entries, flag, _, rfl⟩ := ofJson?_eq_some_iff.mp accepted
    exact intact_ofEntries entries flag

section Grading

variable {members : List (String × Json)} {entries : Roster Pattern}

/-- Among the members is one of this key with a value that the pattern accepts. -/
def Meets (members : List (String × Json)) (entry : String × Pattern) : Prop :=
  ∃ value, members.lookup entry.1 = some value ∧ entry.2.accepts value = true

theorem wildcardHits?_isSome_iff :
    (wildcardHits? members entries).isSome = true ↔ ∀ entry ∈ entries, Meets members entry := by
  induction entries with
  | nil => simp [wildcardHits?]
  | cons entry rest ih =>
    obtain ⟨key, pattern⟩ := entry
    rw [List.forall_mem_cons, ← ih]
    cases found : members.lookup key with
    | none => simp [wildcardHits?, Meets, found]
    | some value =>
      cases pattern with
      | any =>
        cases counted : wildcardHits? members rest <;>
          simp [wildcardHits?, Meets, found, counted, Pattern.accepts]
      | exact expected =>
        by_cases accepted : Pattern.accepts (.exact expected) value = true <;>
          simp [wildcardHits?, Meets, found, accepted]

/-- There are no wildcard hits just if there is no wildcard. -/
theorem wildcardHits?_eq_zero_iff {hits : Nat} (counted : wildcardHits? members entries = some hits) :
    hits = 0 ↔ ∀ key, (key, Pattern.any) ∉ entries := by
  induction entries generalizing hits with
  | nil =>
    cases counted
    simp
  | cons entry rest ih =>
    obtain ⟨key, pattern⟩ := entry
    cases pattern with
    | any =>
      simp only [wildcardHits?, Option.bind_eq_bind, Option.bind_eq_some_iff, Option.pure_def,
        Option.some.injEq] at counted
      obtain ⟨value, _, fewer, _, rfl⟩ := counted
      simp only [Nat.add_one_ne_zero, false_iff, not_forall, not_not]
      exact ⟨key, List.mem_cons_self⟩
    | exact expected =>
      simp only [wildcardHits?, Option.bind_eq_bind, Option.bind_eq_some_iff] at counted
      obtain ⟨value, _, counted⟩ := counted
      split at counted
      · simp [ih counted]
      · cases counted

end Grading

/-- Where no key is given twice, an object that has all keys of the other list has no more than
those just if it has as many. -/
theorem length_eq_iff_same_keys {keys names : List String} (unique : keys.Nodup)
    (distinct : names.Nodup) (covered : ∀ name ∈ names, name ∈ keys) :
    keys.length = names.length ↔ ∀ key, key ∈ keys ↔ key ∈ names := by
  rw [← List.perm_ext_iff_of_nodup unique distinct]
  constructor
  · intro length
    exact ((distinct.subperm covered).perm_of_length_le (Nat.le_of_eq length)).symm
  · exact List.Perm.length_eq

/-- The count stands for the keys: an object of its size that has them all has no others. -/
theorem Intact.length_eq_keyCount_iff {c : Condition} (intact : c.Intact)
    {members : List (String × Json)} (unique : (members.map Prod.fst).Nodup)
    (covered : ∀ name ∈ c.entries.names, name ∈ members.map Prod.fst) :
    members.length = c.keyCount ↔
      ∀ key, key ∈ members.map Prod.fst ↔ key ∈ c.entries.names := by
  have sizes : (members.map Prod.fst).length = c.entries.names.length ↔
      members.length = c.keyCount := by
    rw [intact.counted, List.length_map, Roster.names, List.length_map]
  rw [← sizes]
  exact length_eq_iff_same_keys unique intact.distinct covered

theorem Intact.grade?_object {c : Condition} (intact : c.Intact) {members : List (String × Json)}
    (unique : (members.map Prod.fst).Nodup) :
    (∃ grade, c.grade? (.object members) = some grade) ↔
      (∀ entry ∈ c.entries, Meets members entry) ∧
        (c.relaxed = true ∨ ∀ key, key ∈ members.map Prod.fst ↔ key ∈ c.entries.names) := by
  rw [← wildcardHits?_isSome_iff]
  cases counted : wildcardHits? members c.entries with
  | none => simp [grade?, counted]
  | some hits =>
    have met := wildcardHits?_isSome_iff.mp (Option.isSome_of_eq_some counted)
    have covered : ∀ name ∈ c.entries.names, name ∈ members.map Prod.fst := by
      intro name named
      obtain ⟨entry, listed, rfl⟩ := List.mem_map.mp named
      obtain ⟨value, found, _⟩ := met entry listed
      exact List.mem_map.mpr ⟨_, Roster.mem_of_get?_eq_some found, rfl⟩
    rw [← intact.length_eq_keyCount_iff unique covered]
    cases relaxed : c.relaxed <;> by_cases size : members.length = c.keyCount <;>
      simp [grade?, counted, relaxed, size]

/-- Where a condition has a wildcard, data meet it through that, and else by their values alone. -/
theorem grade_iff_wildcard {c : Condition} {data : Json} {grade : Grade}
    (graded : c.grade? data = some grade) :
    (grade = .exact ↔ ∀ key, (key, Pattern.any) ∉ c.entries) ∧
      (grade = .wildcard ↔ ∃ key, (key, Pattern.any) ∈ c.entries) := by
  have exact_iff : grade = .exact ↔ ∀ key, (key, Pattern.any) ∉ c.entries := by
    unfold grade? at graded
    split at graded
    · split at graded
      · cases graded
      next hits counted =>
        rw [← wildcardHits?_eq_zero_iff counted]
        split at graded
        · cases graded
        · cases graded
          by_cases none : hits = 0 <;> simp [none]
    · cases graded
  refine ⟨exact_iff, ?_⟩
  cases grade with
  | exact => simpa using exact_iff.mp rfl
  | wildcard => simpa using exact_iff

theorem meets_any_iff {members : List (String × Json)} {key : String} :
    Meets members (key, .any) ↔ key ∈ members.map Prod.fst := by
  rw [show members.map Prod.fst = Roster.names members from rfl, ← Roster.has_iff_mem_names,
    Roster.has, Option.isSome_iff_exists]
  simp [Meets, Pattern.accepts, Roster.get?]

theorem meets_exact_iff {members : List (String × Json)} (ordered : Json.Ordered (.object members))
    {key : String} {expected : Json} (asked : expected.Ordered) :
    Meets members (key, .exact expected) ↔
      ∃ value, (key, value) ∈ members ∧ expected.Equal value := by
  have found_iff : ∀ value, members.lookup key = some value ↔ (key, value) ∈ members :=
    Roster.get?_eq_some_iff_mem ordered.nodup_keys key
  cases ordered with
  | object _ each =>
    constructor
    · rintro ⟨value, found, accepted⟩
      have member := (found_iff value).mp found
      exact ⟨value, member, (asked.same_iff (each _ member)).mp accepted⟩
    · rintro ⟨value, member, equal⟩
      exact ⟨value, (found_iff value).mpr member, (asked.same_iff (each _ member)).mpr equal⟩

/-- Data meet a condition just if they are an object with all its keys, with values that agree with
those it asks for, and with no other keys unless it is relaxed. They meet it by their values alone
just if it has no wildcard. -/
theorem met_as_asked {c : Condition} (made : c.Made)
    (asked : ∀ key expected, (key, Pattern.exact expected) ∈ c.entries → expected.Ordered)
    {data : Json} (ordered : data.Ordered) :
    ((∃ grade, c.grade? data = some grade) ↔
        ∃ members, data = .object members ∧
          (∀ key ∈ c.entries.names, key ∈ members.map Prod.fst) ∧
          (∀ key expected, (key, Pattern.exact expected) ∈ c.entries →
            ∃ value, (key, value) ∈ members ∧ expected.Equal value) ∧
          (c.relaxed = true ∨
            ∀ key, key ∈ members.map Prod.fst ↔ key ∈ c.entries.names)) ∧
      ∀ grade, c.grade? data = some grade →
        (grade = .exact ↔ ∀ key, (key, Pattern.any) ∉ c.entries) ∧
          (grade = .wildcard ↔ ∃ key, (key, Pattern.any) ∈ c.entries) := by
  refine ⟨?_, fun grade => grade_iff_wildcard⟩
  constructor
  · rintro ⟨grade, graded⟩
    cases data with
    | object members =>
      obtain ⟨met, keys⟩ := (made.intact.grade?_object ordered.nodup_keys).mp ⟨grade, graded⟩
      refine ⟨members, rfl, fun key named => ?_, fun key expected listed => ?_, keys⟩
      · obtain ⟨⟨_, pattern⟩, listed, rfl⟩ := List.mem_map.mp named
        obtain ⟨value, found, _⟩ := met _ listed
        exact List.mem_map.mpr ⟨_, Roster.mem_of_get?_eq_some found, rfl⟩
      · exact (meets_exact_iff ordered (asked key expected listed)).mp (met _ listed)
    | null | bool _ | number _ | text _ | array _ => cases graded
  · rintro ⟨members, rfl, covered, agrees, keys⟩
    refine (made.intact.grade?_object ordered.nodup_keys).mpr ⟨fun entry listed => ?_, keys⟩
    obtain ⟨key, pattern⟩ := entry
    cases pattern with
    | any => exact meets_any_iff.mpr (covered key (List.mem_map.mpr ⟨_, listed, rfl⟩))
    | exact expected =>
      exact (meets_exact_iff ordered (asked key expected listed)).mpr (agrees key expected listed)

/-- Asks for no wind, after it has first asked for any, and for where it comes from. -/
def calm : Condition :=
  requireKey "from" (requireValue "wind" (.nat 0) (requireKey "wind" {}))

/-- A report with the hour, for which nobody asked. -/
def report (wind : Number) : Json :=
  Json.ofMembers [("wind", .number wind), ("from", .text "north"), ("hour", .nat 6)]

theorem report_eq (wind : Number) : report wind =
    .object [("from", .text "north"), ("hour", .nat 6), ("wind", .number wind)] := by
  have first : "from" < "wind" := by decide
  have second : ¬ "hour" < "from" ∧ "hour" ≠ "from" ∧ "hour" < "wind" := by decide
  simp only [report, Json.ofMembers, Json.sortMembers, List.foldl_cons, List.foldl_nil,
    Json.insertMember, first, second, if_true, if_false]

theorem calm_made : calm.Made :=
  .require (.require (.require .empty "wind" .any) "wind" (.exact (.nat 0))) "from" .any

theorem calm_entries : calm.entries = [("wind", .exact (.nat 0)), ("from", .any)] := rfl

theorem calm_asks {key : String} {expected : Json}
    (listed : (key, Pattern.exact expected) ∈ calm.entries) :
    key = "wind" ∧ expected = .nat 0 := by
  simpa [calm_entries] using listed

theorem report_ordered (wind : Number) : (report wind).Ordered := by
  refine Json.ordered_ofMembers _ fun member held => ?_
  simp only [List.mem_cons, List.not_mem_nil, or_false] at held
  rcases held with rfl | rfl | rfl
  · exact .number _
  · exact .text _
  · exact .number _

/-- The hour is left aside only by the relaxed condition, which is met with the help of a wildcard.
No wind is the integer; the double without a value is another number. -/
theorem calm_met :
    calm.relax.Made ∧ (∀ wind, (report wind).Ordered) ∧
      calm.relax.grade? (report (.int 0)) = some .wildcard ∧
      (¬ ∃ grade, calm.relax.grade? (report (.double (.zero false))) = some grade) ∧
      ¬ ∃ grade, calm.grade? (report (.int 0)) = some grade := by
  have asked : ∀ key expected, (key, Pattern.exact expected) ∈ calm.entries →
      expected.Ordered := by
    intro key expected listed
    obtain ⟨_, rfl⟩ := calm_asks listed
    exact .number _
  have relaxed := fun wind => met_as_asked calm_made.relax asked (report_ordered wind)
  refine ⟨calm_made.relax, report_ordered, ?_, fun met => ?_, fun met => ?_⟩
  · obtain ⟨meets, grades⟩ := relaxed (.int 0)
    obtain ⟨grade, graded⟩ := meets.mpr
      ⟨_, report_eq _, by decide, fun key expected listed => by
        obtain ⟨rfl, rfl⟩ := calm_asks listed
        exact ⟨.nat 0, by simp [Json.nat], .number _⟩, .inl rfl⟩
    have wild : ∃ key, (key, Pattern.any) ∈ calm.entries := ⟨"from", by simp [calm_entries]⟩
    rw [graded, (grades grade graded).2.mpr wild]
  · obtain ⟨_, same, _, agrees, _⟩ := (relaxed (.double (.zero false))).1.mp met
    cases (report_eq _).symm.trans same
    obtain ⟨value, held, equal⟩ := agrees "wind" (.nat 0) List.mem_cons_self
    simp only [List.mem_cons, Prod.mk.injEq, String.reduceEq, false_and, true_and,
      List.not_mem_nil, or_false, false_or] at held
    subst held
    cases equal
  · obtain ⟨_, same, _, _, strict⟩ :=
      (met_as_asked calm_made asked (report_ordered (.int 0))).1.mp met
    cases (report_eq _).symm.trans same
    rcases strict with flag | keys
    · cases flag
    · have extra := (keys "hour").mp (by decide)
      revert extra
      decide

end Condition

end TableMachine
