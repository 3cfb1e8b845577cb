import Mathlib.Data.List.Forall2
import TableMachine.Form.Decode

/-!
# What forms say

Which forms are read as a pattern, as an entry and as a condition, told by the form and not by the
reader. A form that is read lists its entries in an order, and is relaxed or not.
-/

namespace TableMachine

namespace Form

section Parts

variable {α β : Type}

theorem list?_eq_some_iff {item? : Json → Option α} {form : Json} {items : List α} :
    list? item? form = some items ↔
      ∃ forms, form = .array forms ∧
        List.Forall₂ (fun form item => item? form = some item) forms items := by
  have mapped : ∀ forms : List Json, forms.mapM item? = some items ↔
      List.Forall₂ (fun form item => item? form = some item) forms items := by
    intro forms
    induction forms generalizing items with
    | nil => simp [eq_comm]
    | cons first rest ih =>
      simp only [List.mapM_cons, Option.bind_eq_bind, Option.bind_eq_some_iff, Option.pure_def,
        Option.some.injEq, List.forall₂_cons_left_iff, ← ih]
      constructor
      · rintro ⟨item, here, others, later, rfl⟩
        exact ⟨item, others, here, later, rfl⟩
      · rintro ⟨item, others, here, later, rfl⟩
        exact ⟨item, here, others, later, rfl⟩
  cases form with
  | array forms => simp [list?, mapped]
  | null | bool _ | number _ | text _ | object _ => simp [list?]

theorem pair?_eq_some_iff {first? : Json → Option α} {second? : Json → Option β} {form : Json}
    {a : α} {b : β} :
    pair? first? second? form = some (a, b) ↔
      ∃ first second, form = .array [first, second] ∧ first? first = some a ∧
        second? second = some b := by
  unfold pair?
  split
  next first second =>
    simp only [Option.bind_eq_bind, Option.bind_eq_some_iff, Option.pure_def, Option.some.injEq,
      Prod.mk.injEq, Json.array.injEq, List.cons.injEq, and_true]
    constructor
    · rintro ⟨_, here, _, there, rfl, rfl⟩
      exact ⟨first, second, ⟨rfl, rfl⟩, here, there⟩
    · rintro ⟨_, _, ⟨rfl, rfl⟩, here, there⟩
      exact ⟨a, here, b, there, rfl, rfl⟩
  next other =>
    constructor
    · exact nofun
    · rintro ⟨first, second, rfl, _⟩
      exact absurd rfl (other first second)

theorem text?_eq_some_iff {form : Json} {s : String} : text? form = some s ↔ form = .text s := by
  cases form <;> simp [text?]

end Parts

theorem choice?_eq_bare_iff {form : Json} {name : String} :
    choice? form = some (name, none) ↔ form = .text name := by
  unfold choice?
  split <;> simp_all

theorem choice?_eq_carrying_iff {form value : Json} {name : String} :
    choice? form = some (name, some value) ↔ form = .object [(name, value)] := by
  unfold choice?
  split <;> simp_all

end Form

open Form

/-- The form stands for the pattern. -/
inductive Pattern.Spells : Json → Pattern → Prop
  | any : Spells (.text "Any") .any
  | anyNull : Spells (.object [("Any", .null)]) .any
  | exact (value : Json) : Spells (.object [("Exact", value)]) (.exact value)

theorem Pattern.ofJson?_eq_some_iff {form : Json} {p : Pattern} :
    ofJson? form = some p ↔ Spells form p := by
  constructor
  · intro read
    simp only [ofJson?, Option.bind_eq_bind, Option.bind_eq_some_iff] at read
    obtain ⟨choice, chosen, read⟩ := read
    split at read
    · cases read
      exact choice?_eq_bare_iff.mp chosen ▸ .any
    · cases read
      exact choice?_eq_carrying_iff.mp chosen ▸ .anyNull
    next value =>
      cases read
      exact choice?_eq_carrying_iff.mp chosen ▸ .exact value
    · cases read
  · rintro (_ | _ | _) <;> rfl

namespace Condition

/-- The form stands for the entry: its key, and the form of its pattern. -/
inductive SpellsEntry : Json → String × Pattern → Prop
  | pair {form : Json} {pattern : Pattern} (key : String) (spells : Pattern.Spells form pattern) :
      SpellsEntry (.array [.text key, form]) (key, pattern)

/-- What a field says about being relaxed: nothing is no. -/
inductive Flags : Option Json → Bool → Prop
  | absent : Flags none false
  | given (flag : Bool) : Flags (some (.bool flag)) flag

/-- The form lists the entries in this order, and flags the condition so. It is an object, whose
other members do not matter, or a list of its fields. -/
inductive Lists : Json → List (String × Pattern) → Bool → Prop
  | object {members : List (String × Json)} {forms : List Json}
      {entries : List (String × Pattern)} {flag : Bool}
      (listed : members.lookup "entries" = some (.array forms))
      (spelled : List.Forall₂ SpellsEntry forms entries)
      (flagged : Flags (members.lookup "relaxed") flag) : Lists (.object members) entries flag
  | array {forms : List Json} {entries : List (String × Pattern)} {field : Option Json}
      {flag : Bool} (spelled : List.Forall₂ SpellsEntry forms entries)
      (flagged : Flags field flag) : Lists (.array (.array forms :: field.toList)) entries flag

theorem entry?_eq_some_iff {form : Json} {entry : String × Pattern} :
    pair? text? Pattern.ofJson? form = some entry ↔ SpellsEntry form entry := by
  rw [pair?_eq_some_iff]
  constructor
  · rintro ⟨first, second, rfl, named, asked⟩
    rw [text?_eq_some_iff.mp named]
    exact .pair entry.1 (Pattern.ofJson?_eq_some_iff.mp asked)
  · rintro ⟨key, spells⟩
    exact ⟨_, _, rfl, rfl, Pattern.ofJson?_eq_some_iff.mpr spells⟩

theorem flag?_eq_some_iff {field : Option Json} {flag : Bool} :
    orDefault false bool? field = some flag ↔ Flags field flag := by
  constructor
  · intro read
    match field, read with
    | none, rfl => exact .absent
    | some (.bool flag), rfl => exact .given flag
  · rintro (_ | flag) <;> rfl

/-- What is made of the two fields of a condition. -/
theorem ofFields?_eq_some_iff (entries relaxed : Option Json) {c : Condition} :
    (do
      let entries ← list? (pair? text? Pattern.ofJson?) (← entries)
      return ofEntries entries (← orDefault false bool? relaxed)) = some c ↔
      ∃ forms listed flag, entries = some (.array forms) ∧ List.Forall₂ SpellsEntry forms listed ∧
        Flags relaxed flag ∧ c = ofEntries listed flag := by
  simp only [Option.bind_eq_bind, Option.bind_eq_some_iff, Option.pure_def, Option.some.injEq,
    list?_eq_some_iff, entry?_eq_some_iff, flag?_eq_some_iff]
  constructor
  · rintro ⟨_, given, listed, ⟨forms, rfl, spelled⟩, flag, flagged, rfl⟩
    exact ⟨forms, listed, flag, given, spelled, flagged, rfl⟩
  · rintro ⟨forms, listed, flag, given, spelled, flagged, rfl⟩
    exact ⟨_, given, listed, ⟨forms, rfl, spelled⟩, flag, flagged, rfl⟩

/-- The forms that are read as conditions, and what they are read as. -/
theorem ofJson?_eq_some_iff {form : Json} {c : Condition} :
    ofJson? form = some c ↔
      ∃ entries flag, Lists form entries flag ∧ c = ofEntries entries flag := by
  constructor
  · intro read
    match form, read with
    | .object members, read =>
      obtain ⟨forms, entries, flag, listed, spelled, flagged, rfl⟩ :=
        (ofFields?_eq_some_iff _ _).mp read
      exact ⟨entries, flag, .object listed spelled flagged, rfl⟩
    | .array [first], read =>
      obtain ⟨forms, entries, flag, given, spelled, flagged, rfl⟩ :=
        (ofFields?_eq_some_iff (some first) none).mp read
      cases given
      exact ⟨entries, flag, .array spelled flagged, rfl⟩
    | .array [first, second], read =>
      obtain ⟨forms, entries, flag, given, spelled, flagged, rfl⟩ :=
        (ofFields?_eq_some_iff (some first) (some second)).mp read
      cases given
      exact ⟨entries, flag, .array spelled flagged, rfl⟩
  · rintro ⟨entries, flag, lists, rfl⟩
    cases lists with
    | object listed spelled flagged =>
      exact (ofFields?_eq_some_iff _ _).mpr ⟨_, entries, flag, listed, spelled, flagged, rfl⟩
    | @array forms _ field _ spelled flagged =>
      have made := (ofFields?_eq_some_iff _ field).mpr
        ⟨forms, entries, flag, rfl, spelled, flagged, rfl⟩
      cases field <;> exact made

end Condition

end TableMachine
