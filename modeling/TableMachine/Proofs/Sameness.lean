import Mathlib.Data.List.Forall2
import TableMachine.Proofs.Ranking
import TableMachine.Proofs.Values

/-!
# Matching what is the same

Values that are the same need not be equal: the two zeros among the doubles are one number, in
whatever arrays and objects they stand. Such values have the same canonical form, which has no sign
at zero, and that is all that sameness asks. So conditions that are the same grade alike, and among
candidates whose conditions are the same the winner stands in the same place.
-/

namespace TableMachine

section Pairs

variable {α β : Type} {R : α → β → Prop}

theorem none_or_some_of_rel {a? : Option α} {b? : Option β} (paired : Option.Rel R a? b?) :
    (a? = none ∧ b? = none) ∨ ∃ a b, a? = some a ∧ b? = some b ∧ R a b := by
  cases paired with
  | none => exact .inl ⟨rfl, rfl⟩
  | some related => exact .inr ⟨_, _, rfl, rfl, related⟩

theorem getElem?_rel_of_forall₂ {as : List α} {bs : List β} (paired : List.Forall₂ R as bs)
    (place : Nat) :
    Option.Rel R as[place]? bs[place]? := by
  induction paired generalizing place with
  | nil => exact .none
  | cons first _ ih =>
    cases place with
    | zero => exact .some first
    | succ place => exact ih place

end Pairs

/-- The double without a sign at zero. -/
def Double.canonical (x : Double) : Double :=
  { x with negative := x.negative && !x.isZero }

theorem Double.same_iff_canonical (x y : Double) :
    x.same y = true ↔ x.canonical = y.canonical := by
  obtain ⟨s, m, small⟩ := x
  obtain ⟨t, n, smallToo⟩ := y
  simp only [same, canonical, isZero, mk.injEq, Bool.and_eq_true, Bool.or_eq_true,
    decide_eq_true_eq]
  constructor
  · rintro ⟨rfl, rfl | rfl⟩
    · exact ⟨rfl, rfl⟩
    · simp
  · rintro ⟨signs, rfl⟩
    refine ⟨rfl, ?_⟩
    by_cases nothing : m = 0
    · exact .inr nothing
    · simpa [nothing] using signs

def Number.canonical : Number → Number
  | .int value => .int value
  | .double x => .double x.canonical

theorem Number.same_iff_canonical (m n : Number) :
    m.same n = true ↔ m.canonical = n.canonical := by
  cases m <;> cases n <;> simp [same, canonical, Double.same_iff_canonical]

namespace Json

mutual

/-- The value with the canonical numbers in it. -/
def canonical : Json → Json
  | .null => .null
  | .bool b => .bool b
  | .number n => .number n.canonical
  | .text s => .text s
  | .array items => .array (canonicalItems items)
  | .object members => .object (canonicalMembers members)

def canonicalItems : List Json → List Json
  | [] => []
  | item :: rest => canonical item :: canonicalItems rest

def canonicalMembers : List (String × Json) → List (String × Json)
  | [] => []
  | member :: rest => canonicalMember member :: canonicalMembers rest

def canonicalMember : String × Json → String × Json
  | (key, value) => (key, canonical value)

end

mutual

/-- Values are the same just if they have one canonical form. -/
theorem same_iff_canonical (a b : Json) : a.same b = true ↔ a.canonical = b.canonical := by
  cases a with
  | null | bool _ | text _ => cases b <;> simp [same, canonical]
  | number n => cases b <;> simp [same, canonical, Number.same_iff_canonical]
  | array items => cases b <;> simp [same, canonical, sameItems_iff_canonical items]
  | object members => cases b <;> simp [same, canonical, sameMembers_iff_canonical members]

theorem sameItems_iff_canonical (as bs : List Json) :
    sameItems as bs = true ↔ canonicalItems as = canonicalItems bs := by
  cases as with
  | nil => cases bs <;> simp [sameItems, canonicalItems]
  | cons a as =>
    cases bs with
    | nil => simp [sameItems, canonicalItems]
    | cons b bs =>
      simp [sameItems, canonicalItems, same_iff_canonical a, sameItems_iff_canonical as]

theorem sameMembers_iff_canonical (as bs : List (String × Json)) :
    sameMembers as bs = true ↔ canonicalMembers as = canonicalMembers bs := by
  cases as with
  | nil => cases bs <;> simp [sameMembers, canonicalMembers]
  | cons a as =>
    cases bs with
    | nil => simp [sameMembers, canonicalMembers]
    | cons b bs =>
      simp [sameMembers, canonicalMembers, sameMember_iff_canonical a,
        sameMembers_iff_canonical as]

theorem sameMember_iff_canonical (a b : String × Json) :
    sameMember a b = true ↔ canonicalMember a = canonicalMember b := by
  obtain ⟨k, value⟩ := a
  obtain ⟨l, other⟩ := b
  simp [sameMember, canonicalMember, same_iff_canonical value]

end

theorem same_refl (value : Json) : value.same value = true :=
  (same_iff_canonical value value).mpr rfl

/-- Sameness does not tell apart what is the same. -/
theorem same_congr {a b c d : Json} (first : a.same b = true) (second : c.same d = true) :
    a.same c = b.same d := by
  rw [Bool.eq_iff_iff, same_iff_canonical, same_iff_canonical,
    (same_iff_canonical a b).mp first, (same_iff_canonical c d).mp second]

section Members

variable {members others : List (String × Json)}

theorem length_eq_of_sameMembers (same : sameMembers members others = true) :
    members.length = others.length := by
  simpa using congrArg List.length ((sameMembers_iff members others).mp same).1

/-- Either both objects lack the key, or its values in them are the same. -/
theorem lookup_rel_of_sameMembers (same : sameMembers members others = true) (key : String) :
    Option.Rel (fun value other => value.same other = true) (members.lookup key)
      (others.lookup key) := by
  induction members generalizing others with
  | nil =>
    cases others with
    | nil => exact .none
    | cons _ _ => simp [sameMembers] at same
  | cons member rest ih =>
    cases others with
    | nil => simp [sameMembers] at same
    | cons other others =>
      obtain ⟨k, value⟩ := member
      obtain ⟨l, held⟩ := other
      simp only [sameMembers, sameMember, Bool.and_eq_true, beq_iff_eq] at same
      obtain ⟨⟨rfl, first⟩, later⟩ := same
      rw [List.lookup_cons, List.lookup_cons]
      cases key == k with
      | true => exact .some first
      | false => exact ih later

end Members

end Json

theorem Pattern.same_refl (pattern : Pattern) : pattern.same pattern = true := by
  cases pattern with
  | any => rfl
  | exact value => exact value.same_refl

theorem Pattern.accepts_congr {pattern other : Pattern} {value held : Json}
    (same : pattern.same other = true) (data : value.same held = true) :
    pattern.accepts value = other.accepts held := by
  cases pattern <;> cases other <;> simp only [Pattern.same, Bool.false_eq_true] at same
  · rfl
  · exact Json.same_congr same data

namespace Condition

theorem same_refl (c : Condition) : c.same c = true := by
  have entries : ∀ roster : Roster Pattern, Condition.same.sameEntries roster roster = true := by
    intro roster
    induction roster with
    | nil => rfl
    | cons entry rest ih => simp [Condition.same.sameEntries, Pattern.same_refl, ih]
  simp [Condition.same, entries]

theorem wildcardHits?_congr {members others : List (String × Json)}
    (data : Json.sameMembers members others = true) {entries roster : Roster Pattern}
    (same : Condition.same.sameEntries entries roster = true) :
    wildcardHits? members entries = wildcardHits? others roster := by
  induction entries generalizing roster with
  | nil =>
    cases roster with
    | nil => rfl
    | cons _ _ => simp [Condition.same.sameEntries] at same
  | cons entry rest ih =>
    cases roster with
    | nil => simp [Condition.same.sameEntries] at same
    | cons other roster =>
      obtain ⟨key, pattern⟩ := entry
      obtain ⟨key', ask⟩ := other
      simp only [Condition.same.sameEntries, Bool.and_eq_true, beq_iff_eq] at same
      obtain ⟨⟨rfl, asks⟩, later⟩ := same
      unfold wildcardHits?
      rcases none_or_some_of_rel (Json.lookup_rel_of_sameMembers data key) with
        ⟨missing, missingToo⟩ | ⟨value, held, found, foundToo, agree⟩
      · rw [missing, missingToo]
        rfl
      · have accepts := Pattern.accepts_congr asks agree
        rw [found, foundToo]
        cases pattern <;> cases ask <;> simp only [Pattern.same, Bool.false_eq_true] at asks
        · simp only [Option.bind_eq_bind, Option.bind_some, ih later]
        · simp only [Option.bind_eq_bind, Option.bind_some, ih later, accepts]

/-- Conditions that are the same grade data that are the same alike. -/
theorem grade?_congr {c other : Condition} {data held : Json} (same : c.same other = true)
    (agree : data.same held = true) : c.grade? data = other.grade? held := by
  simp only [Condition.same, Bool.and_eq_true, beq_iff_eq] at same
  obtain ⟨⟨entries, relaxed⟩, count⟩ := same
  cases data <;> cases held <;> simp only [Json.same, Bool.false_eq_true] at agree
  case object.object members others =>
    simp only [grade?, wildcardHits?_congr agree entries, relaxed, count,
      Json.length_eq_of_sameMembers agree]
  all_goals rfl

end Condition

namespace Selection

variable {α β : Type}

/-- Neither candidate has a condition, or their conditions are the same. -/
def AskSame (conditionOf : α → Option Condition) (other : β → Option Condition) (a : α) (b : β) :
    Prop :=
  Option.Rel (fun c d => Condition.same c d = true) (conditionOf a) (other b)

variable {conditionOf : α → Option Condition} {other : β → Option Condition} {data held : Json}
  {as : List α} {bs : List β}

theorem AskSame.meets {a : α} {b : β} (ask : AskSame conditionOf other a b)
    (agree : data.same held = true) (grade : Grade) :
    meets conditionOf data grade a = meets other held grade b := by
  unfold Selection.meets
  rcases none_or_some_of_rel ask with ⟨free, freeToo⟩ | ⟨c, d, has, hasToo, same⟩
  · rw [free, freeToo]
    rfl
  · rw [has, hasToo, Option.bind_some, Option.bind_some, Condition.grade?_congr same agree]

theorem findIdx?_meets_congr (ask : List.Forall₂ (AskSame conditionOf other) as bs)
    (agree : data.same held = true) (grade : Grade) :
    as.findIdx? (meets conditionOf data grade) = bs.findIdx? (meets other held grade) := by
  induction ask with
  | nil => rfl
  | cons first _ ih => rw [List.findIdx?_cons, List.findIdx?_cons, first.meets agree, ih]

/-- The winner stands in the same place among candidates that ask the same. -/
theorem place?_congr (ask : List.Forall₂ (AskSame conditionOf other) as bs)
    (agree : data.same held = true) :
    place? conditionOf data as = place? other held bs := by
  rw [place?_eq_ranked, place?_eq_ranked, findIdx?_meets_congr ask agree,
    findIdx?_meets_congr ask agree]

/-- Where paired candidates ask the same, the winners are a pair. -/
theorem winner?_rel {R : α → β → Prop} (paired : List.Forall₂ R as bs)
    (ask : ∀ a b, R a b → AskSame conditionOf other a b) (agree : data.same held = true) :
    Option.Rel R (winner? conditionOf data as) (winner? other held bs) := by
  rw [winner?_eq_bind_place?, winner?_eq_bind_place?, place?_congr (paired.imp ask) agree]
  cases place? other held bs with
  | none => exact .none
  | some place => exact getElem?_rel_of_forall₂ paired place

end Selection

end TableMachine
