import TableMachine.Proofs.Journals
import TableMachine.Proofs.Notices
import TableMachine.Proofs.Switches

/-!
# The blocks of a log

The tree of what a dispatch did says which lines it wrote: a block that opens with its hit or its
miss, goes on with the blocks of the dispatches inside it, and closes with a failure line if it
failed. In a journal, calls stand between these lines (`Deed.Fills`). Which state a line names
depends on where the machine stands by then, and this is told by the switches made so far.
-/

namespace TableMachine

variable {κ : Type}

namespace Notice

/-- From where to where a hit led. -/
def leg? : Notice → Option (String × String)
  | .hit _ source target _ => some (source, target)
  | .miss _ _ => none
  | .failure _ _ => none

/-- What is told when a dispatch ends while the machine has this status. -/
def closing (status : String) : Except Failure Outcome → List Notice
  | .ok _ => []
  | .error why => [.failure status why]

theorem filterMap_leg?_closing (status : String) (result : Except Failure Outcome) :
    (closing status result).filterMap leg? = [] := by
  cases result <;> rfl

end Notice

namespace Record

def leg (record : Record) : String × String :=
  (record.source, record.target)

end Record

namespace Deed

/-- The status of a machine after the deeds, if it had the given one before. -/
def arrival (status : String) (deeds : List (Deed κ)) : String :=
  ((switchesOfAll deeds).getLast?.map Record.target).getD status

theorem arrival_append (status : String) (first second : List (Deed κ)) :
    arrival status (first ++ second) = arrival (arrival status first) second := by
  simp only [arrival, switchesOfAll_append, List.getLast?_append]
  cases (switchesOfAll second).getLast? <;> rfl

theorem arrival_dispatch (status : String) (stimulus : Stimulus) (switch : Option Record)
    (inner : List (Deed κ)) (result : Except Failure Outcome) :
    arrival status [.dispatch stimulus switch inner result] =
      arrival ((switch.map Record.target).getD status) inner := by
  rw [arrival, switchesOfAll_singleton, switches, List.getLast?_append, arrival]
  cases (switchesOfAll inner).getLast? with
  | some last => rfl
  | none => cases switch <;> rfl

theorem Recount.status {deeds : List (Deed κ)} {before after : Machine κ}
    (recount : Recount deeds before after) : after.status = arrival before.status deeds := by
  rw [← recount.replay, Machine.status_after, arrival, recount.switches]

theorem Recount.stands {table : Table κ} (intact : table.Intact) {deeds : List (Deed κ)}
    {before after : Machine κ} (recount : Recount deeds before after)
    (stands : Machine.Stands table before) : Machine.Stands table after := by
  rw [← recount.replay]
  exact Machine.after_keeps (Machine.stands_apply intact) _ stands

/-- What is told before the first step of a dispatch. A hit tells whether there is any. -/
def opening (status : String) (stimulus : Stimulus) (inner : List (Deed κ)) :
    Option Record → Notice
  | none => .miss stimulus status
  | some record => .hit stimulus record.source record.target !inner.isEmpty

mutual

/-- What is told of a deed that finds the machine with this status. -/
def notices (status : String) : Deed κ → List Notice
  | .edit _ => []
  | .step _ _ inner _ => noticesOfAll status inner
  | .dispatch stimulus switch inner result =>
    let reached := (switch.map Record.target).getD status
    opening status stimulus inner switch ::
      (noticesOfAll reached inner ++ Notice.closing (arrival reached inner) result)

def noticesOfAll (status : String) : List (Deed κ) → List Notice
  | [] => []
  | deed :: rest => notices status deed ++ noticesOfAll (arrival status [deed]) rest

end

/-- What deeds that find a machine with this status leave in a journal. All that is left while a
dispatch is under way stands between its opening line and the line that may close it. -/
inductive Fills : String → List (Deed κ) → List Entry → Prop
  | nil (status : String) : Fills status [] []
  /-- A call, or the end of a nested dispatch, as a callback goes on. -/
  | other {status : String} {deeds : List (Deed κ)} {entry : Entry} {entries : List Entry}
      (other : entry.line? = none) (rest : Fills status deeds entries) :
      Fills status deeds (entry :: entries)
  | edit {status : String} {rest : List (Deed κ)} {entries : List Entry} (change : Edit κ)
      (later : Fills status rest entries) : Fills status (.edit change :: rest) entries
  | step {status : String} {inner rest : List (Deed κ)} {inside entries : List Entry}
      (taken : Step κ) (callee : Option κ) (ended : Except Failure Unit)
      (callback : Fills status inner inside)
      (later : Fills (arrival status [.step taken callee inner ended]) rest entries) :
      Fills status (.step taken callee inner ended :: rest) (inside ++ entries)
  | dispatch {status : String} {inner rest : List (Deed κ)} {between entries : List Entry}
      (stimulus : Stimulus) (switch : Option Record) (result : Except Failure Outcome)
      (callbacks : Fills ((switch.map Record.target).getD status) inner between)
      (later : Fills (arrival status [.dispatch stimulus switch inner result]) rest entries) :
      Fills status (.dispatch stimulus switch inner result :: rest)
        (.line (opening status stimulus inner switch).text ::
          (between ++ (Notice.closing
            (arrival ((switch.map Record.target).getD status) inner) result).map
              fun notice => .line notice.text) ++ entries)

namespace Fills

variable {status : String} {deeds first second : List (Deed κ)} {entries early late : List Entry}

/-- The lines among what is left are those told of. -/
theorem lines (fills : Fills status deeds entries) :
    entries.filterMap Entry.line? = (noticesOfAll status deeds).map Notice.text := by
  induction fills with
  | nil => rfl
  | other other _ ih => rw [List.filterMap_cons_none other, ih]
  | edit change _ ih =>
    rw [ih, noticesOfAll, notices, List.nil_append]
    rfl
  | step taken callee ended _ _ inside later =>
    rw [List.filterMap_append, inside, later, noticesOfAll, notices, List.map_append]
  | dispatch stimulus switch result _ _ inside later =>
    rw [List.filterMap_append, later, noticesOfAll, notices, List.map_append]
    simp [inside, Entry.line?, Function.comp_def]

theorem append (fills : Fills status first early)
    (later : Fills (arrival status first) second late) :
    Fills status (first ++ second) (early ++ late) := by
  induction fills with
  | nil => exact later
  | other other _ ih => exact .other other (ih later)
  | edit change _ ih => exact .edit change (ih later)
  | @step status inner rest _ _ taken callee ended callback _ _ ih =>
    have onward := arrival_append status [.step taken callee inner ended] rest
    rw [List.append_assoc]
    exact .step taken callee ended callback (ih (onward ▸ later))
  | @dispatch status inner rest _ _ stimulus switch result callbacks _ _ ih =>
    have onward := arrival_append status [.dispatch stimulus switch inner result] rest
    rw [List.append_assoc]
    exact .dispatch stimulus switch result callbacks (ih (onward ▸ later))

theorem others (others : ∀ entry ∈ early, entry.line? = none) (fills : Fills status deeds late) :
    Fills status deeds (early ++ late) := by
  induction early with
  | nil => exact fills
  | cons entry rest ih =>
    exact .other (others entry List.mem_cons_self)
      (ih fun next member => others next (List.mem_cons_of_mem _ member))

end Fills

mutual

/-- The hits told of are the switches made, in the order in which they were made. -/
theorem legs_notices (status : String) (deed : Deed κ) :
    (deed.notices status).filterMap Notice.leg? = deed.switches.map Record.leg := by
  cases deed with
  | edit change => rfl
  | step taken callee inner ended =>
    rw [notices, switches]
    exact legs_noticesOfAll status inner
  | dispatch stimulus switch inner result =>
    rw [notices, switches, List.map_append, List.filterMap_cons]
    have inside := legs_noticesOfAll ((switch.map Record.target).getD status) inner
    cases switch with
    | none =>
      simp only [opening, Notice.leg?, List.filterMap_append, Notice.filterMap_leg?_closing,
        List.append_nil]
      exact inside
    | some record =>
      simp only [opening, Notice.leg?, List.filterMap_append, Notice.filterMap_leg?_closing,
        List.append_nil]
      exact congrArg (List.cons record.leg) inside
  termination_by sizeOf deed

theorem legs_noticesOfAll (status : String) (deeds : List (Deed κ)) :
    (noticesOfAll status deeds).filterMap Notice.leg? =
      (switchesOfAll deeds).map Record.leg := by
  cases deeds with
  | nil => rfl
  | cons deed rest =>
    rw [noticesOfAll, switchesOfAll, List.filterMap_append, List.map_append,
      legs_notices status deed, legs_noticesOfAll _ rest]
  termination_by sizeOf deeds

end

end Deed

end TableMachine
