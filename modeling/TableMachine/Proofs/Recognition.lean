import TableMachine.Proofs.Requirements

/-!
# Conditions that ask for the members of an object

An object makes a condition: each of its members is asked for by value. Just the objects that agree
with it meet that condition, and if it is relaxed, just those that agree with it on its own keys.
The order in which the members are asked for does not matter.
-/

namespace TableMachine

namespace Json

/-- The data are an object that agrees with the members on each of their keys. -/
def Carries (members : List (String × Json)) (data : Json) : Prop :=
  ∃ held, data = .object held ∧
    ∀ key value, (key, value) ∈ members → ∃ other, (key, other) ∈ held ∧ value.Equal other

/-- The values of a key that stands once are one. -/
theorem Ordered.value_unique {members : List (String × Json)} (ordered : Ordered (.object members))
    {key : String} {a b : Json} (first : (key, a) ∈ members) (second : (key, b) ∈ members) :
    a = b := by
  have found := (Roster.get?_eq_some_iff_mem ordered.nodup_keys key a).mpr first
  exact Option.some.inj (found.symm.trans
    ((Roster.get?_eq_some_iff_mem ordered.nodup_keys key b).mpr second))

theorem Ordered.equal_self {value : Json} (ordered : value.Ordered) : value.Equal value := by
  induction ordered with
  | null => exact .null
  | bool value => exact .bool value
  | number value => exact .number value
  | text value => exact .text value
  | array each ih =>
    refine .array rfl fun place a b first second => ?_
    cases first.symm.trans second
    exact ih a (List.mem_of_getElem? first)
  | object sorted each ih =>
    refine .object (fun key => Iff.rfl) fun key a b first second => ?_
    cases (Ordered.object sorted each).value_unique first second
    exact ih (key, a) first

/-- What agrees with an object is an object of the same keys that carries its members. -/
theorem equal_object_iff {members : List (String × Json)} {data : Json} (ordered : data.Ordered) :
    Equal (.object members) data ↔ Carries members data ∧ ∀ held, data = .object held →
      ∀ key, key ∈ held.map Prod.fst ↔ key ∈ members.map Prod.fst := by
  constructor
  · intro equal
    cases equal with
    | @object _ held keys each =>
      refine ⟨⟨held, rfl, fun key value member => ?_⟩, ?_⟩
      · obtain ⟨⟨_, other⟩, there, rfl⟩ :=
          List.mem_map.mp ((keys key).mp (List.mem_map.mpr ⟨_, member, rfl⟩))
        exact ⟨other, there, each _ value other member there⟩
      · rintro _ ⟨⟩ key
        exact (keys key).symm
  · rintro ⟨⟨held, rfl, carried⟩, keys⟩
    refine .object (fun key => (keys held rfl key).symm) fun key value other member there => ?_
    obtain ⟨found, here, equal⟩ := carried key value member
    cases ordered.value_unique here there
    exact equal

theorem carries_perm {entries members : List (String × Json)} (order : entries.Perm members)
    (data : Json) : Carries entries data ↔ Carries members data := by
  simp only [Carries, order.mem_iff]

end Json

namespace Condition

/-- The condition of the calls that ask for each member by its value. -/
def ofMembers (members : List (String × Json)) : Condition :=
  ofCalls (members.map fun member => .requireValue member.1 member.2)

theorem ofMembers_eq {members : List (String × Json)} (distinct : (members.map Prod.fst).Nodup) :
    ofMembers members =
      { entries := members.map fun member => (member.1, .exact member.2)
        keyCount := members.length } := by
  have names : Roster.names (members.map fun member => (member.1, Pattern.exact member.2)) =
      members.map Prod.fst := by
    rw [Roster.names, List.map_map]
    rfl
  have made : ofMembers members =
      requireAll (members.map fun member => (member.1, .exact member.2)) {} := by
    rw [ofMembers, ofCalls, requireAll, List.foldl_map, List.foldl_map]
    rfl
  rw [made, requireAll_of_nodup intact_empty (names ▸ distinct)]
  simp

/-- A condition without wildcards is met exactly or not at all. -/
theorem grade?_of_no_wildcard {c : Condition} {data : Json} {fits : Prop}
    (met : (∃ grade, c.grade? data = some grade) ↔ fits)
    (closed : ∀ key, (key, Pattern.any) ∉ c.entries) :
    (c.grade? data = some .exact ↔ fits) ∧ (c.grade? data = none ↔ ¬ fits) := by
  rw [← met]
  refine ⟨⟨fun graded => ⟨_, graded⟩, ?_⟩, ?_⟩
  · rintro ⟨grade, graded⟩
    rw [graded, (grade_iff_wildcard graded).1.mpr closed]
  · rw [Option.eq_none_iff_forall_ne_some, not_exists]

/-- A condition that asks for members by value is met by the objects that carry them, and that have
no other keys unless it is relaxed. -/
theorem Intact.grade?_of_members {c : Condition} (intact : c.Intact)
    {members : List (String × Json)}
    (asks : c.entries = members.map fun member => (member.1, .exact member.2))
    (asked : ∀ member ∈ members, member.2.Ordered) {data : Json} (ordered : data.Ordered) :
    (∃ grade, c.grade? data = some grade) ↔ Json.Carries members data ∧
      (c.relaxed = true ∨ ∀ held, data = .object held →
        ∀ key, key ∈ held.map Prod.fst ↔ key ∈ members.map Prod.fst) := by
  have names : c.entries.names = members.map Prod.fst := by
    rw [asks, Roster.names, List.map_map]
    rfl
  cases data with
  | object held =>
    have met : (∀ entry ∈ c.entries, Meets held entry) ↔ Json.Carries members (.object held) := by
      rw [asks, List.forall_mem_map]
      constructor
      · intro each
        exact ⟨held, rfl, fun key value member =>
          (meets_exact_iff ordered (asked _ member)).mp (each _ member)⟩
      · rintro ⟨_, same, carried⟩ ⟨key, value⟩ member
        cases same
        exact (meets_exact_iff ordered (asked _ member)).mpr (carried key value member)
    rw [intact.grade?_object ordered.nodup_keys, met, names]
    simp
  | null | bool _ | number _ | text _ | array _ => simp [grade?, Json.Carries]

/-- The condition made of the members of an object, in whatever order, is met exactly by the objects
that agree with it and by nothing else. If it is relaxed, it is met exactly by what carries those
members, and by nothing else. -/
theorem object_recognised {members entries : List (String × Json)}
    (object : Json.Ordered (.object members)) (order : entries.Perm members) {data : Json}
    (ordered : data.Ordered) :
    (((ofMembers entries).grade? data = some .exact ↔ Json.Equal (.object members) data) ∧
        ((ofMembers entries).grade? data = none ↔ ¬ Json.Equal (.object members) data)) ∧
      ((ofMembers entries).relax.grade? data = some .exact ↔ Json.Carries members data) ∧
        ((ofMembers entries).relax.grade? data = none ↔ ¬ Json.Carries members data) := by
  have distinct : (entries.map Prod.fst).Nodup :=
    (order.map Prod.fst).nodup_iff.mpr object.nodup_keys
  have made := ofMembers_eq distinct
  have intact : (ofMembers entries).Intact := (holds_ofCalls _).intact
  have asks : (ofMembers entries).entries =
      entries.map fun member => (member.1, .exact member.2) := by
    rw [made]
  have strict : (ofMembers entries).relaxed = false := by
    rw [made]
  have closed : ∀ key, (key, Pattern.any) ∉ (ofMembers entries).entries := by
    simp [asks]
  have asked : ∀ member ∈ entries, member.2.Ordered := fun member listed =>
    object.each member (order.mem_iff.mp listed)
  have keys : ∀ key, key ∈ entries.map Prod.fst ↔ key ∈ members.map Prod.fst := fun _ =>
    (order.map Prod.fst).mem_iff
  have agrees := intact.grade?_of_members asks asked ordered
  simp only [strict, Bool.false_eq_true, false_or, Json.carries_perm order, keys,
    ← Json.equal_object_iff ordered] at agrees
  have relaxed : (ofMembers entries).relax.relaxed = true := rfl
  have carries := intact.relax.grade?_of_members asks asked ordered
  simp only [relaxed, true_or, and_true, Json.carries_perm order] at carries
  exact ⟨grade?_of_no_wildcard agrees closed, grade?_of_no_wildcard carries closed⟩

/-- Rain in two showers, and wind. -/
def gale : List (String × Json) :=
  [("rain", .array [.nat 1, .nat 3]), ("wind", .nat 9)]

theorem gale_recognised :
    Json.Ordered (.object gale) ∧ gale.reverse.Perm gale ∧
      (ofMembers gale.reverse).grade? (.object gale) = some .exact ∧
      (ofMembers gale.reverse).grade? (.object (("fog", .null) :: gale)) = none ∧
      (ofMembers gale.reverse).relax.grade? (.object (("fog", .null) :: gale)) = some .exact := by
  have each : ∀ member ∈ gale, member.2.Ordered := by
    simp only [gale, List.forall_mem_cons, List.not_mem_nil, false_implies, implies_true, and_true]
    refine ⟨.array fun item inside => ?_, .number _⟩
    rcases List.mem_pair.mp inside with rfl | rfl <;> exact .number _
  have ordered : Json.Ordered (.object gale) := .object (by decide) each
  have foggy : Json.Ordered (.object (("fog", .null) :: gale)) :=
    .object (by decide) (List.forall_mem_cons.mpr ⟨.null, each⟩)
  have order := gale.reverse_perm
  obtain ⟨_, ⟨⟩, held⟩ := ((Json.equal_object_iff ordered).mp ordered.equal_self).1
  refine ⟨ordered, order, (object_recognised ordered order ordered).1.1.mpr ordered.equal_self,
    (object_recognised ordered order foggy).1.2.mpr fun equal => ?_,
    (object_recognised ordered order foggy).2.1.mpr ⟨_, rfl, fun key value member => ?_⟩⟩
  · have same := ((Json.equal_object_iff foggy).mp equal).2 _ rfl
    exact absurd ((same "fog").mp List.mem_cons_self) (by decide)
  · exact (held key value member).imp fun _ found => ⟨List.mem_cons_of_mem _ found.1, found.2⟩

end Condition

end TableMachine
