import Mathlib.Data.List.Sort
import Mathlib.Data.String.Basic
import TableMachine.Json.Basic

/-!
# JSON values that agree

Two values agree when they are of one kind and agree part by part: arrays place by place, objects
key by key, in whatever order their members stand. `Json.same` compares the members of two objects
one after the other instead, which decides agreement because an object keeps its members in the
order of their keys.
-/

namespace TableMachine

/-- Numbers are the same when they are one number, or the two zeros among the doubles. -/
theorem Number.same_iff (m n : Number) :
    m.same n = true ↔
      m = n ∨ ∃ s t, m = .double (Double.zero s) ∧ n = .double (Double.zero t) := by
  have zero_eq : ∀ x : Double, x.rank = 0 → x = Double.zero x.negative := by
    rintro ⟨_, _, _⟩ rfl
    rfl
  cases m with
  | int i => cases n <;> simp [Number.same]
  | double x =>
    cases n with
    | int j => simp [Number.same]
    | double y =>
      simp only [Number.same, Double.same, Bool.and_eq_true, Bool.or_eq_true, decide_eq_true_eq,
        Double.isZero, Number.double.injEq]
      constructor
      · rintro ⟨rank, sign | nothing⟩
        · left
          cases x
          cases y
          simp_all
        · right
          exact ⟨_, _, zero_eq x nothing, zero_eq y (rank ▸ nothing)⟩
      · rintro (rfl | ⟨s, t, rfl, rfl⟩)
        · exact ⟨rfl, .inl rfl⟩
        · exact ⟨rfl, .inr rfl⟩

namespace Json

/-- Every object in the value keeps its members in the order of their keys, one for each key. -/
inductive Ordered : Json → Prop
  | null : Ordered .null
  | bool (value : Bool) : Ordered (.bool value)
  | number (value : Number) : Ordered (.number value)
  | text (value : String) : Ordered (.text value)
  | array {items : List Json} (each : ∀ item ∈ items, Ordered item) : Ordered (.array items)
  | object {members : List (String × Json)} (sorted : members.Pairwise fun a b => a.1 < b.1)
      (each : ∀ member ∈ members, Ordered member.2) : Ordered (.object members)

/-- The values agree. An integer and a double never do, and of two doubles that differ only the two
zeros do. -/
inductive Equal : Json → Json → Prop
  | null : Equal .null .null
  | bool (value : Bool) : Equal (.bool value) (.bool value)
  | number (value : Number) : Equal (.number value) (.number value)
  | zeros (s t : Bool) :
      Equal (.number (.double (Double.zero s))) (.number (.double (Double.zero t)))
  | text (value : String) : Equal (.text value) (.text value)
  | array {as bs : List Json} (length : as.length = bs.length)
      (each : ∀ (place : Nat) (a b : Json), as[place]? = some a → bs[place]? = some b →
        Equal a b) : Equal (.array as) (.array bs)
  | object {as bs : List (String × Json)}
      (keys : ∀ key, key ∈ as.map Prod.fst ↔ key ∈ bs.map Prod.fst)
      (each : ∀ (key : String) (a b : Json), (key, a) ∈ as → (key, b) ∈ bs → Equal a b) :
      Equal (.object as) (.object bs)

theorem Ordered.sorted {members : List (String × Json)} (ordered : Ordered (.object members)) :
    members.Pairwise fun a b => a.1 < b.1 := by
  cases ordered with
  | object sorted _ => exact sorted

theorem Ordered.each {members : List (String × Json)} (ordered : Ordered (.object members)) :
    ∀ member ∈ members, member.2.Ordered := by
  cases ordered with
  | object _ each => exact each

theorem Ordered.nodup_keys {members : List (String × Json)} (ordered : Ordered (.object members)) :
    (members.map Prod.fst).Nodup := by
  refine List.pairwise_map.mpr (ordered.sorted.imp fun {a b} less same => ?_)
  rw [same] at less
  exact String.lt_irrefl _ less

theorem mem_insertMember {key : String} {value : Json} {members : List (String × Json)}
    {member : String × Json} (kept : member ∈ insertMember key value members) :
    member = (key, value) ∨ member ∈ members := by
  induction members with
  | nil => exact .inl (List.mem_singleton.mp kept)
  | cons first rest ih =>
    unfold insertMember at kept
    split at kept
    · exact List.mem_cons.mp kept
    · split at kept
      · exact (List.mem_cons.mp kept).imp_right (List.mem_cons_of_mem _)
      · rcases List.mem_cons.mp kept with same | later
        · exact .inr (same ▸ List.mem_cons_self)
        · exact (ih later).imp_right (List.mem_cons_of_mem _)

theorem sorted_insertMember (key : String) (value : Json) {members : List (String × Json)}
    (sorted : members.Pairwise fun a b => a.1 < b.1) :
    (insertMember key value members).Pairwise fun a b => a.1 < b.1 := by
  induction members with
  | nil => exact List.pairwise_singleton _ _
  | cons first rest ih =>
    obtain ⟨low, sortedRest⟩ := List.pairwise_cons.mp sorted
    unfold insertMember
    split
    next less =>
      refine List.pairwise_cons.mpr ⟨fun member inside => ?_, sorted⟩
      rcases List.mem_cons.mp inside with rfl | later
      · exact less
      · exact String.lt_trans less (low member later)
    next notLess =>
      split
      next same => exact List.pairwise_cons.mpr ⟨same ▸ low, sortedRest⟩
      next other =>
        refine List.pairwise_cons.mpr ⟨fun member inside => ?_, ih sortedRest⟩
        rcases mem_insertMember inside with rfl | later
        · exact lt_of_le_of_ne (not_lt.mp notLess) (Ne.symm other)
        · exact low member later

/-- An object of ordered values is ordered, in whatever order its members come. -/
theorem ordered_ofMembers (members : List (String × Json))
    (each : ∀ member ∈ members, Ordered member.2) : Ordered (ofMembers members) := by
  -- The induction starts from any members that are in order already.
  have kept : ∀ sorted : List (String × Json), Ordered (.object sorted) →
      Ordered (.object (members.foldl (fun s m => insertMember m.1 m.2 s) sorted)) := by
    induction members with
    | nil => exact fun _ ordered => ordered
    | cons first rest ih =>
      intro before ordered
      cases ordered with
      | object sorted eachBefore =>
        refine ih (fun member later => each member (List.mem_cons_of_mem _ later)) _
          (.object (sorted_insertMember first.1 first.2 sorted) fun member inside => ?_)
        rcases mem_insertMember inside with rfl | held
        · exact each first List.mem_cons_self
        · exact eachBefore member held
  exact kept [] (.object .nil (by simp))

theorem sameItems_iff (as bs : List Json) :
    sameItems as bs = true ↔ as.length = bs.length ∧
      ∀ (place : Nat) (a b : Json), as[place]? = some a → bs[place]? = some b →
        a.same b = true := by
  induction as generalizing bs with
  | nil => cases bs <;> simp [sameItems]
  | cons a as ih =>
    cases bs with
    | nil => simp [sameItems]
    | cons b bs =>
      simp only [sameItems, Bool.and_eq_true, ih, List.length_cons, Nat.add_right_cancel_iff]
      constructor
      · rintro ⟨first, length, rest⟩
        refine ⟨length, fun place x y atA atB => ?_⟩
        cases place with
        | zero =>
          cases atA
          cases atB
          exact first
        | succ place => exact rest place x y atA atB
      · rintro ⟨length, each⟩
        exact ⟨each 0 a b rfl rfl, length, fun place x y => each (place + 1) x y⟩

theorem sameMembers_iff (as bs : List (String × Json)) :
    sameMembers as bs = true ↔ as.map Prod.fst = bs.map Prod.fst ∧
      sameItems (as.map Prod.snd) (bs.map Prod.snd) = true := by
  induction as generalizing bs with
  | nil => cases bs <;> simp [sameMembers, sameItems]
  | cons first as ih =>
    cases bs with
    | nil => simp [sameMembers]
    | cons second bs =>
      obtain ⟨k, a⟩ := first
      obtain ⟨l, b⟩ := second
      simp only [sameMembers, sameMember, sameItems, Bool.and_eq_true, beq_iff_eq, ih,
        List.map_cons, List.cons.injEq]
      constructor
      · rintro ⟨⟨key, value⟩, keys, values⟩
        exact ⟨⟨key, keys⟩, value, values⟩
      · rintro ⟨⟨key, keys⟩, value, values⟩
        exact ⟨⟨key, value⟩, keys, values⟩

section Members

variable {as bs : List (String × Json)}

/-- In the order of the keys, the same keys make the same list. -/
theorem keys_eq_iff (sortedA : as.Pairwise fun a b => a.1 < b.1)
    (sortedB : bs.Pairwise fun a b => a.1 < b.1) :
    as.map Prod.fst = bs.map Prod.fst ↔
      ∀ key, key ∈ as.map Prod.fst ↔ key ∈ bs.map Prod.fst := by
  constructor
  · intro same key
    rw [same]
  · exact List.Pairwise.eq_of_mem_iff (List.pairwise_map.mpr sortedA) (List.pairwise_map.mpr sortedB)

/-- Members in equal places are those of equal keys. -/
theorem values_iff_of_keys (keys : as.map Prod.fst = bs.map Prod.fst)
    (distinct : (bs.map Prod.fst).Nodup) (P : Json → Json → Prop) :
    (∀ (place : Nat) (a b : Json), (as.map Prod.snd)[place]? = some a →
        (bs.map Prod.snd)[place]? = some b → P a b) ↔
      ∀ (key : String) (a b : Json), (key, a) ∈ as → (key, b) ∈ bs → P a b := by
  have keyA : ∀ {place : Nat} {member}, as[place]? = some member →
      (bs.map Prod.fst)[place]? = some member.1 := by
    intro place member found
    rw [← keys, List.getElem?_map, found]
    rfl
  constructor
  · intro placed key a b inA inB
    obtain ⟨place, foundA⟩ := List.mem_iff_getElem?.mp inA
    obtain ⟨other, foundB⟩ := List.mem_iff_getElem?.mp inB
    have keyB : (bs.map Prod.fst)[other]? = some key := by rw [List.getElem?_map, foundB]; rfl
    have same : place = other := by
      obtain ⟨inside, _⟩ := List.getElem?_eq_some_iff.mp keyB
      exact (List.getElem?_inj inside distinct).mp (keyB.trans (keyA foundA).symm) |>.symm
    subst same
    exact placed place a b (by rw [List.getElem?_map, foundA]; rfl)
      (by rw [List.getElem?_map, foundB]; rfl)
  · intro keyed place a b atA atB
    rw [List.getElem?_map, Option.map_eq_some_iff] at atA atB
    obtain ⟨first, foundA, rfl⟩ := atA
    obtain ⟨second, foundB, rfl⟩ := atB
    have keyB : (bs.map Prod.fst)[place]? = some second.1 := by
      rw [List.getElem?_map, foundB]
      rfl
    have same : first.1 = second.1 := Option.some.inj ((keyA foundA).symm.trans keyB)
    refine keyed first.1 first.2 second.2 (List.mem_of_getElem? foundA) ?_
    rw [same]
    exact List.mem_of_getElem? foundB

end Members

theorem same_array_iff {as bs : List Json}
    (agree : ∀ (place : Nat) (a b : Json), as[place]? = some a → bs[place]? = some b →
      (a.same b = true ↔ a.Equal b)) :
    (array as).same (array bs) = true ↔ (array as).Equal (array bs) := by
  rw [Json.same, sameItems_iff]
  constructor
  · rintro ⟨length, same⟩
    exact .array length fun place a b atA atB =>
      (agree place a b atA atB).mp (same place a b atA atB)
  · intro equal
    cases equal with
    | array length equal =>
      exact ⟨length, fun place a b atA atB =>
        (agree place a b atA atB).mpr (equal place a b atA atB)⟩

theorem same_object_iff {as bs : List (String × Json)} (orderedA : Ordered (.object as))
    (orderedB : Ordered (.object bs))
    (agree : ∀ (key : String) (a b : Json), (key, a) ∈ as → (key, b) ∈ bs →
      (a.same b = true ↔ a.Equal b)) :
    (object as).same (object bs) = true ↔ (object as).Equal (object bs) := by
  have distinct := orderedB.nodup_keys
  have keys_iff := keys_eq_iff orderedA.sorted orderedB.sorted
  rw [Json.same, sameMembers_iff]
  constructor
  · rintro ⟨keys, same⟩
    have byKey := (values_iff_of_keys keys distinct fun a b => a.same b = true).mp
      ((sameItems_iff _ _).mp same).2
    exact .object (keys_iff.mp keys) fun key a b inA inB =>
      (agree key a b inA inB).mp (byKey key a b inA inB)
  · intro equal
    cases equal with
    | object sameKeys equal =>
      have keys := keys_iff.mpr sameKeys
      refine ⟨keys, (sameItems_iff _ _).mpr ⟨?_, ?_⟩⟩
      · simpa using congrArg List.length keys
      · exact (values_iff_of_keys keys distinct fun a b => a.same b = true).mpr
          fun key a b inA inB => (agree key a b inA inB).mpr (equal key a b inA inB)

/-- Comparing part by part in order decides whether ordered values agree. -/
theorem Ordered.same_iff {a b : Json} (orderedA : a.Ordered) (orderedB : b.Ordered) :
    a.same b = true ↔ a.Equal b := by
  induction orderedA generalizing b with
  | null =>
    constructor
    · intro same
      cases b <;> simp [Json.same] at same
      exact .null
    · rintro ⟨⟩
      simp [Json.same]
  | bool value =>
    constructor
    · intro same
      cases b <;> simp [Json.same] at same
      exact same ▸ .bool value
    · rintro ⟨⟩
      simp [Json.same]
  | text value =>
    constructor
    · intro same
      cases b <;> simp [Json.same] at same
      exact same ▸ .text value
    · rintro ⟨⟩
      simp [Json.same]
  | number value =>
    constructor
    · intro same
      cases b <;> simp [Json.same] at same
      obtain rfl | ⟨s, t, rfl, rfl⟩ := (Number.same_iff _ _).mp same
      · exact .number value
      · exact .zeros s t
    · intro equal
      cases equal with
      | number => simp [Json.same, Number.same_iff]
      | zeros s t => simp [Json.same, Number.same_iff]
  | @array items each ih =>
    cases orderedB with
    | @array others eachB =>
      exact same_array_iff fun place a b atA atB =>
        ih a (List.mem_of_getElem? atA) (eachB b (List.mem_of_getElem? atB))
    | _ =>
      simp only [Json.same, Bool.false_eq_true, false_iff]
      rintro ⟨⟩
  | @object members sorted each ih =>
    cases orderedB with
    | @object others sortedB eachB =>
      exact same_object_iff (.object sorted each) (.object sortedB eachB)
        fun key a b inA inB => ih (key, a) inA (eachB (key, b) inB)
    | _ =>
      simp only [Json.same, Bool.false_eq_true, false_iff]
      rintro ⟨⟩

end Json

end TableMachine
