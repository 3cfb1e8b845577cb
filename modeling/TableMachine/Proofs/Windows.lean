import Mathlib.Data.List.DropRight
import TableMachine.Proofs.Histories

/-!
# What a history has kept

A history is a window on everything that was ever recorded: it holds the last records, and how many
is told by the calls alone. A limit closes the window from the oldest side. When the limit grows
again, or goes, the window widens only as further records come, so nothing that was dropped
returns.
-/

namespace TableMachine

namespace History

/-- The record that the call brings. -/
def Call.record? : Call → Option Record
  | .record r => some r
  | .setLimit _ => none
  | .clear => none

/-- The limit that the call sets. -/
def Call.limit? : Call → Option (Option Nat)
  | .record _ => none
  | .setLimit limit => some limit
  | .clear => none

/-- Everything that the calls record, oldest first, whether it is still kept or not. -/
def recorded (calls : List Call) : List Record :=
  calls.filterMap Call.record?

/-- The limit that was set last, and the first one if none was set. -/
def lastLimit (first : Option Nat) (calls : List Call) : Option Nat :=
  (calls.reverse.findSome? Call.limit?).getD first

/-- So many, or as many as the limit allows. -/
def capped (limit : Option Nat) (count : Nat) : Nat :=
  match limit with
  | none => count
  | some limit => min count limit

/-- How many records are kept after the calls, where so many were kept before and this was the
limit. -/
def kept : Option Nat → Nat → List Call → Nat
  | _, count, [] => count
  | limit, count, .record _ :: rest => kept limit (capped limit (count + 1)) rest
  | _, count, .setLimit limit :: rest => kept limit (capped limit count) rest
  | limit, _, .clear :: rest => kept limit 0 rest

theorem trim_records (h : History) (limit : Nat) (bound : h.limit = some limit) :
    h.trim.records = h.records.rtake limit := by
  simp only [trim, bound, List.rtake]

theorem trim_unbounded (h : History) (free : h.limit = none) : h.trim = h := by
  simp only [trim, free]

theorem size_trim (h : History) : h.trim.size = capped h.limit h.size := by
  cases bound : h.limit with
  | none => rw [trim_unbounded h bound, capped]
  | some limit =>
    rw [size, trim_records h limit bound, List.rtake, List.length_drop, capped, size]
    omega

/-- A call keeps a window on what there was and what the call brings. -/
theorem apply_suffix {h : History} {all : List Record} (window : h.records <:+ all) (call : Call) :
    (call.apply h).records <:+ all ++ call.record?.toList := by
  cases call with
  | record r =>
    have grown : h.records ++ [r] <:+ all ++ [r] := by
      obtain ⟨dropped, rfl⟩ := window
      exact ⟨dropped, (List.append_assoc _ _ _).symm⟩
    exact (record_suffix r h).trans grown
  | setLimit limit =>
    rw [Call.record?, Option.toList_none, List.append_nil]
    exact (setLimit_suffix limit h).trans window
  | clear => exact List.nil_suffix

theorem kept_cons (call : Call) (rest : List Call) (h : History) :
    kept h.limit h.size (call :: rest) = kept (call.apply h).limit (call.apply h).size rest := by
  cases call with
  | record r =>
    have size : (h.record r).size = capped h.limit (h.size + 1) := by
      rw [record, size_trim, History.size, List.length_append, List.length_singleton]
      rfl
    rw [kept, Call.apply, size, record, limit_trim]
  | setLimit limit =>
    have size : (h.setLimit limit).size = capped limit h.size := by
      rw [setLimit, size_trim]
      rfl
    rw [kept, Call.apply, size, setLimit, limit_trim]
  | clear => rfl

/-- The records are the end of what there was and what the calls have brought since. -/
theorem after_suffix {h : History} {all : List Record} (window : h.records <:+ all)
    (calls : List Call) : (h.after calls).records <:+ all ++ recorded calls := by
  induction calls generalizing h all with
  | nil =>
    rw [recorded, List.filterMap_nil, List.append_nil]
    exact window
  | cons call rest ih =>
    have later := ih (apply_suffix window call)
    rw [List.append_assoc] at later
    have brought : recorded (call :: rest) = call.record?.toList ++ recorded rest := by
      cases call <;> rfl
    rw [brought]
    exact later

theorem size_after (h : History) (calls : List Call) :
    (h.after calls).size = kept h.limit h.size calls := by
  induction calls generalizing h with
  | nil => rfl
  | cons call rest ih =>
    rw [kept_cons, ← ih]
    rfl

theorem limit_apply (call : Call) (h : History) :
    (call.apply h).limit = (call.limit?).getD h.limit := by
  cases call with
  | record r => exact limit_trim _
  | setLimit limit => exact limit_trim _
  | clear => rfl

theorem limit_after (h : History) (calls : List Call) :
    (h.after calls).limit = lastLimit h.limit calls := by
  induction calls generalizing h with
  | nil => rfl
  | cons call rest ih =>
    have first : (h.after (call :: rest)).limit = ((call.apply h).after rest).limit := rfl
    rw [first, ih, limit_apply, lastLimit, lastLimit, List.reverse_cons, List.findSome?_append]
    cases rest.reverse.findSome? Call.limit? with
    | some limit => rfl
    | none => cases call <;> rfl

/-- Whatever a history held before, after any calls it holds the last of that and of what the calls
recorded, as many as `kept` tells. -/
theorem records_after (h : History) (calls : List Call) :
    (h.after calls).records =
      (h.records ++ recorded calls).rtake (kept h.limit h.size calls) := by
  rw [← size_after]
  exact List.suffix_iff_eq_drop.mp (after_suffix List.suffix_rfl calls)

/-- A history that began empty holds the last of everything recorded, as many as the calls tell, and
its limit is the one set last. From any records, too many for the limit among them, recording leaves
the last of these and the new one, and setting a limit leaves the last of these, in both cases as
many as the limit allows. -/
theorem history_is_window :
    (∀ h : History, (h = unbounded ∨ ∃ limit, h = bounded limit) → ∀ calls,
      (h.after calls).records = (recorded calls).rtake (kept h.limit 0 calls) ∧
        (h.after calls).size = kept h.limit 0 calls ∧
        (h.after calls).limit = lastLimit h.limit calls) ∧
      (∀ (h : History) (calls : List Call),
        (h.after calls).records =
            (h.records ++ recorded calls).rtake (kept h.limit h.size calls) ∧
          (h.after calls).size = kept h.limit h.size calls ∧
          (h.after calls).limit = lastLimit h.limit calls) ∧
      (∀ (h : History) (r : Record),
        (∀ limit, h.limit = some limit →
          (h.record r).records = (h.records ++ [r]).rtake limit) ∧
        (h.limit = none → (h.record r).records = h.records ++ [r])) ∧
      ∀ (h : History) (limit : Nat),
        (h.setLimit (some limit)).records = h.records.rtake limit ∧
          (h.setLimit none).records = h.records := by
  refine ⟨?_, fun h calls => ⟨records_after h calls, size_after h calls, limit_after h calls⟩,
    fun h r => ⟨fun limit bound => ?_, fun free => ?_⟩, fun h limit => ⟨?_, ?_⟩⟩
  · intro h begun calls
    have empty : h.records = [] := by
      rcases begun with rfl | ⟨limit, rfl⟩ <;> rfl
    have none : h.size = 0 := by rw [size, empty, List.length_nil]
    have records := records_after h calls
    have size := size_after h calls
    rw [empty, List.nil_append, none] at records
    rw [none] at size
    exact ⟨records, size, limit_after h calls⟩
  · exact trim_records { h with records := h.records ++ [r] } limit bound
  · rw [record, trim_unbounded { h with records := h.records ++ [r] } free]
  · exact trim_records { h with limit := some limit } limit rfl
  · rw [setLimit, trim_unbounded { h with limit := none } rfl]

/-- A switch at the door. -/
def swing (source target : String) : Record :=
  { source, target, trigger := .event "push", time := .epoch }

/-- The window is closed to one record, opened wide, and closed to two. -/
def blinds : List Call := [
  .record (swing "shut" "open"), .record (swing "open" "shut"), .setLimit (some 1),
  .setLimit none, .record (swing "shut" "ajar"), .record (swing "ajar" "open"),
  .setLimit (some 3), .record (swing "open" "shut")]

/-- Three records were brought after the limit of one was lifted. The one that it left before them
goes when they are too many, and the first is long gone. -/
theorem blinds_window :
    (bounded 5 = unbounded ∨ ∃ limit, bounded 5 = bounded limit) ∧
      ((bounded 5).after blinds).records =
        [swing "shut" "ajar", swing "ajar" "open", swing "open" "shut"] ∧
      ((bounded 5).after (blinds.take 6)).records =
        [swing "open" "shut", swing "shut" "ajar", swing "ajar" "open"] ∧
      ((bounded 5).after blinds).limit = some 3 := by
  have begun : bounded 5 = unbounded ∨ ∃ limit, bounded 5 = bounded limit := .inr ⟨5, rfl⟩
  obtain ⟨records, _, limit⟩ := history_is_window.1 (bounded 5) begun blinds
  obtain ⟨before, _, _⟩ := history_is_window.1 (bounded 5) begun (blinds.take 6)
  exact ⟨begun, records, before, limit⟩

end History

end TableMachine
