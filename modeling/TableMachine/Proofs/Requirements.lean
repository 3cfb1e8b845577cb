import TableMachine.Proofs.Calls
import TableMachine.Proofs.Conditions

/-!
# Conditions by the calls that made them

What a condition holds is told by the calls of its author: each key that was named stands in the
order in which the keys first came, with the pattern that was asked for last. A condition read from
a form is the one that calls for the entries of the form would have made.
-/

namespace TableMachine

namespace Condition

/-- One call of the author. -/
inductive Call where
  | requireValue (key : String) (value : Json)
  | requireKey (key : String)
  | require (key : String) (pattern : Pattern)
  | relax

namespace Call

def apply : Call → Condition → Condition
  | .requireValue key value, c => c.requireValue key value
  | .requireKey key, c => c.requireKey key
  | .require key pattern, c => c.require key pattern
  | .relax, c => c.relax

/-- The key that the call names, with the pattern that it asks for. -/
def entry? : Call → Option (String × Pattern)
  | .requireValue key value => some (key, .exact value)
  | .requireKey key => some (key, .any)
  | .require key pattern => some (key, pattern)
  | .relax => none

/-- What the call asks of this key. -/
def asked? (key : String) (call : Call) : Option Pattern :=
  call.entry?.bind fun entry => if key = entry.1 then some entry.2 else none

end Call

/-- The condition that calls make of an empty one. -/
def ofCalls (calls : List Call) : Condition :=
  calls.foldl (fun c call => call.apply c) {}

/-- The keys that calls name, each as often as it is named. -/
def namedKeys (calls : List Call) : List String :=
  calls.filterMap fun call => call.entry?.map Prod.fst

/-- What the last of the calls that name the key asks of it. -/
def lastAsked? (key : String) (calls : List Call) : Option Pattern :=
  calls.reverse.findSome? (Call.asked? key)

theorem lastAsked?_concat (key : String) (calls : List Call) (call : Call) :
    lastAsked? key (calls ++ [call]) = (call.asked? key).or (lastAsked? key calls) :=
  Calls.last?_concat (Call.asked? key) calls call

/-- The condition holds what the calls ask for. -/
structure Holds (calls : List Call) (c : Condition) : Prop where
  intact : c.Intact
  names_eq : c.entries.names = (namedKeys calls).eraseDups
  get?_eq : ∀ key, c.entries.get? key = lastAsked? key calls
  relaxed_iff : c.relaxed = true ↔ .relax ∈ calls

theorem Holds.require {calls : List Call} {c : Condition} (holds : Holds calls c) {call : Call}
    {key : String} {pattern : Pattern} (asks : call.entry? = some (key, pattern)) :
    Holds (calls ++ [call]) (c.require key pattern) where
  intact := holds.intact.require key pattern
  names_eq := by
    have named : namedKeys (calls ++ [call]) = namedKeys calls ++ [key] := by
      simp [namedKeys, asks]
    rw [named]
    exact Roster.names_put_eq_eraseDups holds.names_eq key pattern
  get?_eq := by
    intro other
    have before := holds.get?_eq other
    rw [lastAsked?_concat, Call.asked?, asks, ← before]
    refine (Roster.get?_put key other pattern c.entries).trans ?_
    rw [Option.bind_some]
    split <;> rfl
  relaxed_iff := by
    have other : .relax ≠ call := by
      rintro rfl
      cases asks
    rw [List.mem_append, List.mem_singleton, or_iff_left other]
    exact holds.relaxed_iff

theorem Holds.relax {calls : List Call} {c : Condition} (holds : Holds calls c) :
    Holds (calls ++ [.relax]) c.relax where
  intact := holds.intact.relax
  names_eq := by
    rw [namedKeys, List.filterMap_append]
    exact holds.names_eq.trans (congrArg _ (List.append_nil _).symm)
  get?_eq := fun key => by
    rw [lastAsked?_concat]
    exact holds.get?_eq key
  relaxed_iff := by simp [Condition.relax]

theorem ofCalls_concat (calls : List Call) (call : Call) :
    ofCalls (calls ++ [call]) = call.apply (ofCalls calls) := by
  rw [ofCalls, List.foldl_append]
  rfl

theorem holds_ofCalls (calls : List Call) : Holds calls (ofCalls calls) := by
  induction calls using List.reverseRecOn with
  | nil => exact ⟨intact_empty, rfl, fun _ => rfl, by simp [ofCalls]⟩
  | append_singleton calls call ih =>
    rw [ofCalls_concat]
    cases call with
    | requireValue key value => exact ih.require rfl
    | requireKey key => exact ih.require rfl
    | require key pattern => exact ih.require rfl
    | relax => exact ih.relax

/-- The calls for the entries in their order, and for the flag. -/
def callsFor (entries : List (String × Pattern)) (flag : Bool) : List Call :=
  entries.map (fun entry => .require entry.1 entry.2) ++ if flag then [.relax] else []

theorem ofCalls_callsFor (entries : List (String × Pattern)) (flag : Bool) :
    ofCalls (callsFor entries flag) = ofEntries entries flag := by
  rw [ofCalls, callsFor, List.foldl_append, List.foldl_map, ofEntries_eq]
  cases flag <;> rfl

/-- Calls leave one entry for each key that was named, in the order in which the keys first came and
with the pattern that was asked for last; the count is that of the entries, and the flag tells
whether there was a call for it. A form, read from a value or from a text, makes what calls for its
entries and its flag make. -/
theorem entries_follow_calls :
    (∀ calls : List Call,
      let c := ofCalls calls
      c.entries.names.Nodup ∧ c.entries.names = (namedKeys calls).eraseDups ∧
        (∀ key, c.entries.get? key = lastAsked? key calls) ∧
        c.keyCount = c.entries.length ∧ (c.relaxed = true ↔ .relax ∈ calls)) ∧
      (∀ form c, ofJson? form = some c ↔
        ∃ entries flag, Lists form entries flag ∧ c = ofCalls (callsFor entries flag)) ∧
      ∀ text c, Form.ofText? Shape.condition ofJson? text = some c ↔
        ∃ document form entries flag, Document.ofText? text = some document ∧
          document.read? Document.room Shape.condition = some form ∧
          Lists form entries flag ∧ c = ofCalls (callsFor entries flag) := by
  have read : ∀ form c, ofJson? form = some c ↔
      ∃ entries flag, Lists form entries flag ∧ c = ofCalls (callsFor entries flag) := by
    intro form c
    simp only [ofCalls_callsFor, ofJson?_eq_some_iff]
  refine ⟨fun calls => ?_, read, fun text c => ?_⟩
  · have holds := holds_ofCalls calls
    exact ⟨holds.intact.distinct, holds.names_eq, holds.get?_eq, holds.intact.counted,
      holds.relaxed_iff⟩
  · simp only [Form.ofText?, Option.bind_eq_some_iff, read]
    tauto

/-- Names the wind twice and the rain in between, and counts wrongly. -/
def squall : Json :=
  .object [
    ("entries", .array [
      .array [.text "wind", .text "Any"],
      .array [.text "rain", .object [("Any", .null)]],
      .array [.text "wind", .object [("Exact", .nat 9)]]]),
    ("key_count", .nat 3),
    ("relaxed", .bool true)]

theorem squall_follows :
    ∃ c, ofJson? squall = some c ∧ c.entries.names = ["wind", "rain"] ∧
      c.entries.get? "wind" = some (.exact (.nat 9)) ∧ c.keyCount = 2 ∧ c.relaxed = true := by
  obtain ⟨called, read, _⟩ := entries_follow_calls
  let entries := [("wind", Pattern.any), ("rain", .any), ("wind", .exact (.nat 9))]
  have lists : Lists squall entries true :=
    .object rfl (.cons (.pair _ .any) (.cons (.pair _ .anyNull) (.cons (.pair _ (.exact _)) .nil)))
      (.given true)
  obtain ⟨_, names, asked, counted, flagged⟩ := called (callsFor entries true)
  refine ⟨_, (read squall _).mpr ⟨entries, true, lists, rfl⟩, names.trans (by decide),
    asked "wind", counted, flagged.mpr (by simp [callsFor])⟩

end Condition

end TableMachine
