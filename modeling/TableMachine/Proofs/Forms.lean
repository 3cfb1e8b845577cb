import TableMachine.Form.Encode
import TableMachine.Proofs.Conditions
import TableMachine.Proofs.Timestamps

/-!
# Forms written and read

A pattern, a condition, a trigger, a record and a history each come back from the form in which
they leave. The count of a condition is not written, and comes back because reading requires the
entries anew: as no key has two of them, each finds its old place.
-/

namespace TableMachine

namespace Json

theorem get?_insertMember (key other : String) (value : Json) (members : Roster Json) :
    Roster.get? (insertMember key value members) other =
      if other = key then some value else members.get? other := by
  induction members with
  | nil => simp only [insertMember, Roster.get?_cons]
  | cons first rest ih =>
    obtain ⟨known, held⟩ := first
    unfold insertMember
    split
    · rw [Roster.get?_cons]
    · split
      next same =>
        subst same
        rw [Roster.get?_cons, Roster.get?_cons]
        split <;> rfl
      next other =>
        rw [Roster.get?_cons, Roster.get?_cons, ih]
        split
        next here => rw [if_neg (here ▸ Ne.symm other)]
        next => rfl

/-- The order in which the members of an object come does not matter where their keys differ. -/
theorem get?_sortMembers {members : Roster Json} (distinct : members.names.Nodup) (key : String) :
    Roster.get? (sortMembers members) key = members.get? key := by
  -- The members in place already count where none of those to come has the key.
  have general : ∀ sorted : Roster Json,
      Roster.get? (members.foldl (fun s m => insertMember m.1 m.2 s) sorted) key =
        (members.get? key).or (sorted.get? key) := by
    induction members with
    | nil => exact fun _ => rfl
    | cons first rest ih =>
      intro sorted
      obtain ⟨fresh, others⟩ := List.nodup_cons.mp distinct
      rw [List.foldl_cons, ih others, get?_insertMember, Roster.get?_cons]
      split
      next same =>
        have absent : Roster.get? rest key = none := by
          rw [← Option.not_isSome_iff_eq_none, same]
          exact mt (Roster.has_iff_mem_names rest first.1).mp fresh
        rw [absent]
        rfl
      next => rfl
  rw [sortMembers, general]
  simp [Roster.get?]

end Json

namespace Form

/-- The fields of an object that has just these. -/
theorem fields?_ofMembers {names : List String} (distinct : names.Nodup) {members : Roster Json}
    (named : members.names = names) :
    fields? names (Json.ofMembers members) = some (members.map fun member => some member.2) := by
  subst named
  simp only [fields?, Json.ofMembers, Roster.names, List.map_map, Option.some.injEq]
  refine List.map_congr_left fun member listed => ?_
  exact (Json.get?_sortMembers distinct member.1).trans
    ((Roster.get?_eq_some_iff_mem distinct member.1 member.2).mpr listed)

variable {α : Type}

theorem list?_map {read? : Json → Option α} {write : α → Json} {items : List α}
    (each : ∀ item ∈ items, read? (write item) = some item) :
    list? read? (.array (items.map write)) = some items :=
  list?_eq_some_iff.mpr ⟨_, rfl, List.forall₂_map_left_iff.mpr (List.forall₂_same.mpr each)⟩

/-- Each item of a list that was read was itself read. -/
theorem read_of_mem_list? {read? : Json → Option α} {form : Json} {items : List α}
    (accepted : list? read? form = some items) :
    ∀ item ∈ items, ∃ form, read? form = some item := by
  obtain ⟨forms, rfl, each⟩ := list?_eq_some_iff.mp accepted
  clear accepted
  induction each with
  | nil => exact nofun
  | cons here _ ih => exact List.forall_mem_cons.mpr ⟨⟨_, here⟩, ih⟩

/-- What is made comes back from the form in which it is written, and so does what was read from
any form. -/
def Lossless (Made : α → Prop) (read? : Json → Option α) (write : α → Json) : Prop :=
  (∀ x, Made x → read? (write x) = some x) ∧
    ∀ form x, read? form = some x → read? (write x) = some x

theorem lossless_of_made {Made : α → Prop} {read? : Json → Option α} {write : α → Json}
    (written : ∀ x, Made x → read? (write x) = some x)
    (made : ∀ form x, read? form = some x → Made x) : Lossless Made read? write :=
  ⟨written, fun form x accepted => written x (made form x accepted)⟩

end Form

open Form

theorem Pattern.ofJson?_toJson (p : Pattern) : ofJson? p.toJson = some p := by
  cases p with
  | any => rfl
  | exact value => rfl

namespace Condition

theorem Intact.ofEntries_entries {c : Condition} (intact : c.Intact) :
    ofEntries c.entries c.relaxed = c := by
  obtain ⟨entries, relaxed, keyCount⟩ := c
  have required : Condition.requireAll entries {} = ⟨entries, false, entries.length⟩ :=
    requireAll_of_nodup intact_empty intact.distinct
  have counted : keyCount = entries.length := intact.counted
  rw [ofEntries_eq, required, counted]
  cases relaxed <;> rfl

theorem Intact.ofJson?_toJson {c : Condition} (intact : c.Intact) : ofJson? c.toJson = some c := by
  have fields : fields? ["entries", "relaxed"] c.toJson =
      some [some (.array (c.entries.map fun entry => .array [.text entry.1, entry.2.toJson])),
        some (.bool c.relaxed)] := fields?_ofMembers (by decide) rfl
  have entries : list? (pair? text? Pattern.ofJson?)
      (.array (c.entries.map fun entry => .array [.text entry.1, entry.2.toJson])) =
        some c.entries :=
    list?_map fun entry _ => by simp [pair?, text?, Pattern.ofJson?_toJson]
  simp only [ofJson?, fields, Option.bind_eq_bind, Option.bind_some, entries, orDefault, bool?,
    intact.ofEntries_entries, Option.pure_def]

end Condition

/-- The triggers whose conditions calls and forms make. -/
inductive Trigger.Made : Trigger → Prop
  | event (name : String) : Made (.event name)
  | condition {c : Condition} (made : c.Made) : Made (.condition c)

/-- The records of such triggers, at a time that a text can tell. -/
structure Record.Made (r : Record) : Prop where
  trigger : r.trigger.Made
  time : r.time.Proper

/-- The histories of such records. -/
def History.Made (h : History) : Prop :=
  ∀ r ∈ h.records, r.Made

theorem Trigger.Made.ofJson?_toJson {t : Trigger} (made : t.Made) : ofJson? t.toJson = some t := by
  cases made with
  | event name => rfl
  | @condition c made =>
    have chosen : choice? (toJson (.condition c)) = some ("Condition", some c.toJson) := rfl
    simp only [ofJson?, chosen, Option.bind_eq_bind, Option.bind_some, made.intact.ofJson?_toJson,
      Option.pure_def]

theorem Trigger.made_of_ofJson? {form : Json} {t : Trigger} (read : ofJson? form = some t) :
    t.Made := by
  simp only [ofJson?, Option.bind_eq_bind, Option.bind_eq_some_iff] at read
  obtain ⟨_, _, read⟩ := read
  split at read
  · simp only [Option.bind_eq_some_iff, Option.pure_def, Option.some.injEq] at read
    obtain ⟨name, _, rfl⟩ := read
    exact .event name
  · simp only [Option.bind_eq_some_iff, Option.pure_def, Option.some.injEq] at read
    obtain ⟨c, accepted, rfl⟩ := read
    exact .condition (.read accepted)
  · cases read

theorem Record.Made.ofJson?_toJson {r : Record} (made : r.Made) : ofJson? r.toJson = some r := by
  have fields : fields? ["from", "to", "trigger", "timestamp"] r.toJson =
      some [some (.text r.source), some (.text r.target), some r.trigger.toJson,
        some (.text r.time.text)] := fields?_ofMembers (by decide) rfl
  simp only [ofJson?, fields, Option.bind_eq_bind, Option.bind_some, text?,
    made.trigger.ofJson?_toJson, Instant.ofText?_text made.time, Option.pure_def]

theorem Record.made_of_ofJson? {form : Json} {r : Record} (read : ofJson? form = some r) :
    r.Made := by
  simp only [ofJson?, Option.bind_eq_bind, Option.bind_eq_some_iff] at read
  obtain ⟨_, _, read⟩ := read
  split at read
  · simp only [Option.bind_eq_some_iff, Option.pure_def, Option.some.injEq] at read
    obtain ⟨_, _, _, _, _, _, _, _, _, _, trigger, read, _, _, _, _, time, told, rfl⟩ := read
    exact ⟨Trigger.made_of_ofJson? read, Instant.proper_of_ofText? told⟩
  · cases read

theorem History.ofJson?_limit (limit : Option Nat) :
    ofJson?.limit? ((limit.map Json.nat).getD .null) = some limit := by
  cases limit with
  | none => rfl
  | some n => rfl

theorem History.Made.ofJson?_toJson {h : History} (made : h.Made) : ofJson? h.toJson = some h := by
  have fields : fields? ["transitions", "limit"] h.toJson =
      some [some (.array (h.records.map Record.toJson)),
        some ((h.limit.map Json.nat).getD .null)] := fields?_ofMembers (by decide) rfl
  have records : list? Record.ofJson? (.array (h.records.map Record.toJson)) = some h.records :=
    list?_map fun r listed => (made r listed).ofJson?_toJson
  simp only [ofJson?, fields, Option.bind_eq_bind, Option.bind_some, records, orDefault,
    ofJson?_limit, Option.pure_def]

theorem History.made_of_ofJson? {form : Json} {h : History} (read : ofJson? form = some h) :
    h.Made := by
  simp only [ofJson?, Option.bind_eq_bind, Option.bind_eq_some_iff] at read
  obtain ⟨_, _, read⟩ := read
  split at read
  · simp only [Option.bind_eq_some_iff, Option.pure_def, Option.some.injEq] at read
    obtain ⟨_, _, records, accepted, limit, _, rfl⟩ := read
    intro r listed
    obtain ⟨form, read⟩ := read_of_mem_list? accepted r listed
    exact Record.made_of_ofJson? read
  · cases read

namespace Form

/-- The forms lose nothing: whatever leaves as a form comes back from it as it was, with its entries
or records in their order, its flag and count or its limit, which is null where there is none. -/
theorem nothing_is_lost :
    Lossless (fun _ => True) Pattern.ofJson? Pattern.toJson ∧
      Lossless Condition.Made Condition.ofJson? Condition.toJson ∧
      Lossless Trigger.Made Trigger.ofJson? Trigger.toJson ∧
      Lossless Record.Made Record.ofJson? Record.toJson ∧
      Lossless History.Made History.ofJson? History.toJson ∧
      ∀ h : History, h.limit = none → h.toJson.member? "limit" = some .null := by
  refine ⟨?_, ?_, ?_, ?_, ?_, ?_⟩
  · exact lossless_of_made (fun p _ => p.ofJson?_toJson) fun _ _ _ => trivial
  · exact lossless_of_made (fun _ made => made.intact.ofJson?_toJson) fun _ _ read => .read read
  · exact lossless_of_made (fun _ made => made.ofJson?_toJson) fun _ _ => Trigger.made_of_ofJson?
  · exact lossless_of_made (fun _ made => made.ofJson?_toJson) fun _ _ => Record.made_of_ofJson?
  · exact lossless_of_made (fun _ made => made.ofJson?_toJson) fun _ _ => History.made_of_ofJson?
  · intro h unbounded
    have distinct : ["transitions", "limit"].Nodup := by decide
    rw [History.toJson, unbounded]
    refine (Json.get?_sortMembers ?_ "limit").trans rfl
    exact distinct

/-- A gate that was pushed open, and fell shut in the leap second at the end of 2016. -/
def logbook : History :=
  { records := [⟨"shut", "open", .event "push", .epoch⟩,
      ⟨"open", "shut", .condition (Condition.requireKey "wind" {}).relax,
        ⟨1483228799, 1500000000⟩⟩] }

/-- Asks twice for the wind. -/
def gusts : Json :=
  .array [.array [.array [.text "wind", .text "Any"],
    .array [.text "wind", .object [("Exact", .null)]]]]

theorem logbook_comes_back :
    logbook.Made ∧ History.ofJson? logbook.toJson = some logbook ∧
      ∃ c, Condition.ofJson? gusts = some c ∧ c.keyCount = 1 ∧
        Condition.ofJson? c.toJson = some c := by
  have made : logbook.Made := by
    intro r listed
    simp only [logbook, List.mem_cons, List.not_mem_nil, or_false] at listed
    rcases listed with rfl | rfl
    · exact ⟨.event "push", by decide, by decide⟩
    · exact ⟨.condition (.relax (.require .empty "wind" .any)), by decide, by decide⟩
  obtain ⟨_, condition, _, _, history, _⟩ := nothing_is_lost
  exact ⟨made, history.1 logbook made, _, rfl, rfl, condition.2 gusts _ rfl⟩

end Form

end TableMachine
