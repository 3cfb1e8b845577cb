import TableMachine.Selection

/-!
# The ranking behind selection

The scan that remembers the first wildcard match gives what two searches of the whole list give:
the first candidate that data meets exactly, and if there is none the first one that it meets
through a wildcard.
-/

namespace TableMachine

namespace Selection

variable {α : Type}

/-- Whether the candidate has a condition that the data meets in this grade. -/
def meets (conditionOf : α → Option Condition) (data : Json) (grade : Grade) (candidate : α) :
    Bool :=
  (conditionOf candidate).bind (·.grade? data) = some grade

def firstMeeting? (conditionOf : α → Option Condition) (data : Json) (grade : Grade)
    (candidates : List α) : Option α :=
  candidates.find? (meets conditionOf data grade)

/-- The fallback stands before every wildcard match that is still to come. -/
theorem winnerOr_eq_ranked (conditionOf : α → Option Condition) (data : Json)
    (fallback : Option α) (candidates : List α) :
    winnerOr conditionOf data fallback candidates =
      (firstMeeting? conditionOf data .exact candidates).or
        (fallback.or (firstMeeting? conditionOf data .wildcard candidates)) := by
  induction candidates generalizing fallback with
  | nil => simp [winnerOr, firstMeeting?]
  | cons candidate rest ih =>
    unfold winnerOr
    cases met : (conditionOf candidate).bind (·.grade? data) with
    | none => simp [ih, firstMeeting?, meets, met]
    | some grade =>
      cases grade with
      | exact => simp [firstMeeting?, meets, met]
      | wildcard => simp [ih, firstMeeting?, meets, met]

theorem winner?_eq_ranked (conditionOf : α → Option Condition) (data : Json)
    (candidates : List α) :
    winner? conditionOf data candidates =
      (firstMeeting? conditionOf data .exact candidates).or
        (firstMeeting? conditionOf data .wildcard candidates) := by
  rw [winner?, winnerOr_eq_ranked, Option.none_or]

theorem firstMeeting?_mem {conditionOf : α → Option Condition} {data : Json} {grade : Grade}
    {candidates : List α} {found : α}
    (meeting : firstMeeting? conditionOf data grade candidates = some found) :
    found ∈ candidates :=
  List.mem_of_find?_eq_some meeting

theorem winner?_mem {conditionOf : α → Option Condition} {data : Json} {candidates : List α}
    {winner : α} (won : winner? conditionOf data candidates = some winner) :
    winner ∈ candidates := by
  rw [winner?_eq_ranked, Option.or_eq_some_iff] at won
  rcases won with exactly | ⟨_, wildly⟩
  · exact firstMeeting?_mem exactly
  · exact firstMeeting?_mem wildly

/-- Candidates that are images of others are ranked as those are. -/
theorem winner?_map {β : Type} (conditionOf : β → Option Condition) (data : Json) (f : α → β)
    (candidates : List α) :
    winner? conditionOf data (candidates.map f) =
      (winner? (conditionOf ∘ f) data candidates).map f := by
  have searched : ∀ grade, firstMeeting? conditionOf data grade (candidates.map f) =
      (firstMeeting? (conditionOf ∘ f) data grade candidates).map f := by
    intro grade
    simp only [firstMeeting?, List.find?_map]
    rfl
  rw [winner?_eq_ranked, winner?_eq_ranked, searched, searched, Option.map_or]

section Places

variable (conditionOf : α → Option Condition) (data : Json) (candidates : List α)

/-- The data meets the condition of the candidate at this place in this grade. -/
def MeetsAt (grade : Grade) (place : Nat) : Prop :=
  ∃ candidate c, candidates[place]? = some candidate ∧ conditionOf candidate = some c ∧
    c.grade? data = some grade

variable {conditionOf data candidates}

theorem meets_iff {grade : Grade} {candidate : α} :
    meets conditionOf data grade candidate = true ↔
      ∃ c, conditionOf candidate = some c ∧ c.grade? data = some grade := by
  simp [meets, Option.bind_eq_some_iff]

theorem meetsAt_iff_getElem {grade : Grade} {place : Nat} (inside : place < candidates.length) :
    MeetsAt conditionOf data candidates grade place ↔
      meets conditionOf data grade candidates[place] = true := by
  simp [MeetsAt, meets_iff, List.getElem?_eq_getElem inside]

theorem MeetsAt.inside {grade : Grade} {place : Nat}
    (met : MeetsAt conditionOf data candidates grade place) : place < candidates.length := by
  obtain ⟨_, _, found, _⟩ := met
  exact (List.getElem?_eq_some_iff.mp found).1

/-- The first place in which the data meets a condition in this grade. -/
theorem findIdx?_meets_eq_some_iff {grade : Grade} {place : Nat} :
    candidates.findIdx? (meets conditionOf data grade) = some place ↔
      MeetsAt conditionOf data candidates grade place ∧
        ∀ earlier < place, ¬ MeetsAt conditionOf data candidates grade earlier := by
  rw [List.findIdx?_eq_some_iff_getElem]
  constructor
  · rintro ⟨inside, met, fresh⟩
    refine ⟨(meetsAt_iff_getElem inside).mpr met, fun earlier before => ?_⟩
    rw [meetsAt_iff_getElem (by omega)]
    exact fresh earlier before
  · rintro ⟨met, fresh⟩
    refine ⟨met.inside, (meetsAt_iff_getElem met.inside).mp met, fun earlier before => ?_⟩
    have bound : earlier < candidates.length := Nat.lt_trans before met.inside
    rw [← meetsAt_iff_getElem bound]
    exact fresh earlier before

theorem findIdx?_meets_eq_none_iff {grade : Grade} :
    candidates.findIdx? (meets conditionOf data grade) = none ↔
      ∀ place, ¬ MeetsAt conditionOf data candidates grade place := by
  rw [List.findIdx?_eq_none_iff]
  constructor
  · intro silent place met
    have wrong := silent _ (List.getElem_mem met.inside)
    rw [(meetsAt_iff_getElem met.inside).mp met] at wrong
    cases wrong
  · intro silent candidate member
    obtain ⟨place, inside, rfl⟩ := List.getElem_of_mem member
    rw [← Bool.not_eq_true, ← meetsAt_iff_getElem inside]
    exact silent place

variable (conditionOf data candidates)

theorem place?_eq_ranked :
    place? conditionOf data candidates =
      (candidates.findIdx? (meets conditionOf data .exact)).or
        (candidates.findIdx? (meets conditionOf data .wildcard)) := by
  rw [place?, winner?_eq_ranked, Option.map_or, List.findIdx?_eq_fst_find?_zipIdx,
    List.findIdx?_eq_fst_find?_zipIdx]
  rfl

/-- The winner is what stands at the place of the winner. -/
theorem winner?_eq_bind_place? :
    winner? conditionOf data candidates =
      (place? conditionOf data candidates).bind (candidates[·]?) := by
  have kept : candidates.zipIdx.map Prod.fst = candidates := List.zipIdx_map_fst 0 candidates
  have image := winner?_map conditionOf data Prod.fst candidates.zipIdx
  rw [kept] at image
  rw [image, place?]
  cases won : winner? (fun candidate => conditionOf candidate.1) data candidates.zipIdx with
  | none => exact congrArg (Option.map Prod.fst) won
  | some winner =>
    have placed := List.mem_zipIdx_iff_getElem?.mp (winner?_mem won)
    rw [show winner? (conditionOf ∘ Prod.fst) data candidates.zipIdx = some winner from won]
    exact placed.symm

theorem winner?_eq_none_iff :
    winner? conditionOf data candidates = none ↔
      ∀ candidate ∈ candidates, ∀ c, conditionOf candidate = some c → c.grade? data = none := by
  have searched : ∀ grade, firstMeeting? conditionOf data grade candidates = none ↔
      ∀ candidate ∈ candidates, ∀ c, conditionOf candidate = some c →
        c.grade? data ≠ some grade := by
    intro grade
    simp [firstMeeting?, meets_iff]
  rw [winner?_eq_ranked, Option.or_eq_none_iff, searched, searched]
  constructor
  · rintro ⟨notExactly, notWildly⟩ candidate member c has
    cases graded : c.grade? data with
    | none => rfl
    | some grade =>
      cases grade with
      | exact => exact absurd graded (notExactly candidate member c has)
      | wildcard => exact absurd graded (notWildly candidate member c has)
  · intro silent
    constructor <;> intro candidate member c has <;> simp [silent candidate member c has]

/-- The winner stands at the first place whose condition the data meets exactly, and if there is no
such place at the first whose condition it meets through a wildcard. There is none just if the data
meets no condition. -/
theorem selection_follows_ranking :
    (∀ place, place? conditionOf data candidates = some place ↔
        (MeetsAt conditionOf data candidates .exact place ∧
            ∀ earlier < place, ¬ MeetsAt conditionOf data candidates .exact earlier) ∨
          ((∀ other, ¬ MeetsAt conditionOf data candidates .exact other) ∧
            MeetsAt conditionOf data candidates .wildcard place ∧
            ∀ earlier < place, ¬ MeetsAt conditionOf data candidates .wildcard earlier)) ∧
      winner? conditionOf data candidates =
        (place? conditionOf data candidates).bind (candidates[·]?) ∧
      (winner? conditionOf data candidates = none ↔
        ∀ candidate ∈ candidates, ∀ c, conditionOf candidate = some c → c.grade? data = none) ∧
      ((∀ members, data ≠ .object members) → winner? conditionOf data candidates = none) := by
  refine ⟨fun place => ?_, winner?_eq_bind_place? conditionOf data candidates,
    winner?_eq_none_iff conditionOf data candidates, fun flat => ?_⟩
  · rw [place?_eq_ranked, Option.or_eq_some_iff, findIdx?_meets_eq_some_iff,
      findIdx?_meets_eq_none_iff, findIdx?_meets_eq_some_iff]
  · refine (winner?_eq_none_iff conditionOf data candidates).mpr fun _ _ c _ => ?_
    cases data with
    | object members => exact absurd rfl (flat members)
    | null | bool _ | number _ | text _ | array _ => rfl

end Places

/-- A wildcard that stands first gives way to an exact condition further on, and data that are a list
have no winner. -/
theorem exact_place_wins :
    let candidates : List (Option Condition) :=
      [none, some (Condition.requireKey "wind" {}), some (Condition.requireValue "wind" .null {})]
    place? id (.object [("wind", .null)]) candidates = some 2 ∧
      winner? id (.array [.null]) candidates = none := by
  intro candidates
  obtain ⟨ranked, _⟩ := selection_follows_ranking id (.object [("wind", .null)]) candidates
  obtain ⟨_, _, _, flat⟩ := selection_follows_ranking id (.array [.null]) candidates
  refine ⟨(ranked 2).mpr (.inl ⟨⟨_, _, rfl, rfl, by decide +kernel⟩, fun earlier before => ?_⟩),
    flat fun _ => nofun⟩
  rintro ⟨candidate, c, found, has, met⟩
  match earlier, before with
  | 0, _ =>
    cases found
    cases has
  | 1, _ =>
    cases found
    cases has
    cases met

end Selection

end TableMachine
