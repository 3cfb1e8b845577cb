import Mathlib.Data.List.DropRight
import Mathlib.Data.List.Induction

/-!
# Lists of calls

Where a call overwrites what earlier calls have set, only the last of its kind counts, and of the
calls that add to it only those that came after.
-/

namespace TableMachine

namespace Calls

variable {α β γ : Type}

/-- What the last of the calls that set something sets. -/
def last? (sets : α → Option β) (calls : List α) : Option β :=
  calls.reverse.findSome? sets

/-- What calls add after the last one that sets something. -/
def since (sets : α → Option β) (adds : α → Option γ) (calls : List α) : List γ :=
  (calls.rtakeWhile fun call => (sets call).isNone).filterMap adds

theorem last?_concat (sets : α → Option β) (calls : List α) (call : α) :
    last? sets (calls ++ [call]) = (sets call).or (last? sets calls) := by
  simp only [last?, List.reverse_append, List.reverse_singleton, List.singleton_append,
    List.findSome?_cons]
  cases sets call <;> rfl

theorem since_concat (sets : α → Option β) (adds : α → Option γ) (calls : List α) (call : α) :
    since sets adds (calls ++ [call]) =
      if (sets call).isNone then since sets adds calls ++ (adds call).toList else [] := by
  rw [since, List.rtakeWhile_concat]
  split
  · rw [List.filterMap_append, since, List.filterMap_cons]
    cases adds call <;> rfl
  · rfl

section Filter

variable {sets : α → Option β} {adds : α → Option γ} {concerns : α → Bool}

/-- Calls that set nothing may be left out. -/
theorem last?_filter (others : ∀ call, concerns call = false → sets call = none)
    (calls : List α) : last? sets (calls.filter concerns) = last? sets calls := by
  induction calls using List.reverseRecOn with
  | nil => rfl
  | append_singleton calls call ih =>
    rw [List.filter_append, last?_concat, ← ih]
    cases concerned : concerns call with
    | true => rw [List.filter_cons_of_pos concerned, List.filter_nil, last?_concat]
    | false =>
      rw [List.filter_cons_of_neg (by simp [concerned]), List.filter_nil, List.append_nil,
        others call concerned, Option.none_or]

/-- Calls that neither set nor add anything may be left out. -/
theorem since_filter
    (others : ∀ call, concerns call = false → sets call = none ∧ adds call = none)
    (calls : List α) : since sets adds (calls.filter concerns) = since sets adds calls := by
  induction calls using List.reverseRecOn with
  | nil => rfl
  | append_singleton calls call ih =>
    rw [List.filter_append, since_concat, ← ih]
    cases concerned : concerns call with
    | true => rw [List.filter_cons_of_pos concerned, List.filter_nil, since_concat]
    | false =>
      obtain ⟨unset, nothing⟩ := others call concerned
      rw [List.filter_cons_of_neg (by simp [concerned]), List.filter_nil, List.append_nil, unset,
        nothing, Option.toList_none, List.append_nil]
      rfl

end Filter

end Calls

end TableMachine
