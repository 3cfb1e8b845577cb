import TableMachine.Form.Decode

/-!
# Histories and their limits

A history begins empty or is read from an exported form, and then records switches, takes limits
and is cleared. Each of these calls leaves it within its limit, however long it was before. Reading
does not: the records are taken as the form lists them, and stay until the first call.
-/

namespace TableMachine

namespace History

/-- How a history begins. -/
inductive Origin where
  | unbounded
  | bounded (limit : Nat)
  | read (form : Json)

/-- Nothing is read from a form that is not that of a history. -/
def Origin.history? : Origin → Option History
  | .unbounded => some History.unbounded
  | .bounded limit => some (History.bounded limit)
  | .read form => ofJson? form

/-- What its owner does to a history. -/
inductive Call where
  | record (record : Record)
  | setLimit (limit : Option Nat)
  | clear

def Call.apply : Call → History → History
  | .record r, h => h.record r
  | .setLimit limit, h => h.setLimit limit
  | .clear, h => h.clear

/-- The history that calls make of another. -/
def after (calls : List Call) (h : History) : History :=
  calls.foldl (fun h call => call.apply h) h

/-- The history keeps no more records than its limit allows. -/
def Within (h : History) : Prop :=
  ∀ limit, h.limit = some limit → h.size ≤ limit

theorem limit_trim (h : History) : h.trim.limit = h.limit := by
  unfold trim
  split <;> rfl

theorem trim_suffix (h : History) : h.trim.records <:+ h.records := by
  unfold trim
  split
  · exact List.suffix_rfl
  · exact List.drop_suffix _ _

theorem record_suffix (r : Record) (h : History) :
    (h.record r).records <:+ h.records ++ [r] :=
  trim_suffix _

theorem setLimit_suffix (limit : Option Nat) (h : History) :
    (h.setLimit limit).records <:+ h.records :=
  trim_suffix _

theorem within_trim (h : History) : h.trim.Within := by
  intro limit bound
  rw [limit_trim] at bound
  simp only [size, trim, bound, List.length_drop]
  omega

/-- A call leaves any history within its limit, also one that exceeded it before. -/
theorem within_apply (call : Call) (h : History) : (call.apply h).Within := by
  cases call with
  | record r => exact within_trim _
  | setLimit limit => exact within_trim _
  | clear => exact fun limit _ => Nat.zero_le limit

theorem Within.after {h : History} (within : h.Within) (calls : List Call) :
    (h.after calls).Within := by
  induction calls generalizing h with
  | nil => exact within
  | cons call rest ih => exact ih (within_apply call h)

theorem within_after_cons (call : Call) (rest : List Call) (h : History) :
    (h.after (call :: rest)).Within :=
  (within_apply call h).after rest

/-- A history that begins empty is within its limit. -/
theorem Origin.within_of_not_read {origin : Origin} {h : History}
    (begun : origin.history? = some h) (empty : ∀ form, origin ≠ .read form) : h.Within := by
  cases origin with
  | unbounded =>
    cases begun
    exact nofun
  | bounded limit =>
    cases begun
    exact fun limit _ => Nat.zero_le limit
  | read form => exact absurd rfl (empty form)

/-- A history is within its limit unless it was read from a form with too many records and nothing
has been done to it since. Then a limit of zero means that it is empty. -/
theorem within_limit_iff (origin : Origin) (h : History) (begun : origin.history? = some h)
    (calls : List Call) :
    ((h.after calls).Within ↔
        ¬ (calls = [] ∧ ∃ form limit, origin = .read form ∧ h.limit = some limit ∧
          limit < h.size)) ∧
      ((h.after calls).Within → (h.after calls).limit = some 0 → (h.after calls).records = []) := by
  refine ⟨?_, fun within none => List.length_eq_zero_iff.mp (Nat.le_zero.mp (within 0 none))⟩
  cases calls with
  | cons call rest => simpa using within_after_cons call rest h
  | nil =>
    constructor
    · rintro within ⟨_, _, limit, _, bound, exceeds⟩
      exact absurd (within limit bound) (Nat.not_le.mpr exceeds)
    · intro kept limit bound
      refine Nat.not_lt.mp fun exceeds => ?_
      cases origin with
      | read form => exact kept ⟨rfl, form, limit, rfl, bound, exceeds⟩
      | unbounded | bounded =>
        exact Nat.not_lt.mpr (Origin.within_of_not_read begun nofun limit bound) exceeds

/-- One switch, in a history that may not have any. -/
def overfull : Json :=
  .object [("limit", .nat 0), ("transitions", .array [.object [("from", .text "shut"),
    ("timestamp", .text "2024-05-01T10:00:00Z"), ("to", .text "open"),
    ("trigger", .object [("Event", .text "push")])]])]

/-- The form is read as it is, and setting the limit that it has already is enough to mend it. -/
theorem overfull_until_called :
    ∃ h, (Origin.read overfull).history? = some h ∧ h.limit = some 0 ∧ h.size = 1 ∧ ¬ h.Within ∧
      (h.after [.setLimit (some 0)]).Within := by
  refine ⟨_, rfl, rfl, rfl, fun within => ?_, ?_⟩
  · exact (within_limit_iff (.read overfull) _ rfl []).1.mp within
      ⟨rfl, overfull, 0, rfl, rfl, Nat.one_pos⟩
  · exact (within_limit_iff (.read overfull) _ rfl [.setLimit (some 0)]).1.mpr (by simp)

/-- Not every history is within its limit at all times. -/
theorem overfull_exceeds_limit :
    ¬ ∀ (origin : Origin) (h : History), origin.history? = some h →
      ∀ calls, (h.after calls).Within := by
  intro claimed
  have within := claimed (.read overfull) _ rfl []
  exact absurd (within 0 rfl) (Nat.not_le.mpr Nat.one_pos)

end History

end TableMachine
