import TableMachine.Json.Document

/-!
# Shapes

Which parts of a document a reader looks at. A record drops the members it does not know, unread,
and refuses to see one of its own twice; everything that is looked at must have a value and may not
stand in more brackets than there is room for.
-/

namespace TableMachine

inductive Shape where
  | any
  | list (item : Shape)
  | pair (first second : Shape)
  | record (fields : List (String × Shape))
  | choice (variants : List (String × Shape))

namespace Document

/-- How many brackets may stand one inside the other in an exported text. -/
def room : Nat := 127

/-- The whole document as a value. -/
def toJson? : Nat → Document → Option Json
  | _, .null => some .null
  | _, .bool b => some (.bool b)
  | _, .number n => n.map .number
  | _, .text s => s.map .text
  | 0, _ => none
  | room + 1, .array items => (items.mapM (toJson? room)).map .array
  | room + 1, .object members =>
    (members.mapM fun (member : Option String × Document) => do
      return (← member.1, ← toJson? room member.2)).map Json.ofMembers

/-- The members that a record with these fields knows, each with its shape. -/
def known? (fields : List (String × Shape)) :
    List (Option String × Document) → Option (List (String × Shape × Document))
  | [] => some []
  | (none, _) :: _ => none
  | (some key, value) :: rest =>
    match fields.lookup key with
    | none => known? fields rest
    | some shape => (known? fields rest).map ((key, shape, value) :: ·)

/-- The value of what a reader of `shape` looks at. A part that has another shape is given as it
is. -/
def read? : Nat → Shape → Document → Option Json
  | room + 1, .list item, .array items => (items.mapM (read? room item)).map .array
  | room + 1, .pair first second, .array [a, b] => do
    return .array [← read? room first a, ← read? room second b]
  | room + 1, .record fields, .object members => do
    let found ← known? fields members
    if (found.map Prod.fst).Nodup then
      let values ← found.mapM fun (field : String × Shape × Document) => do
        return (field.1, ← read? room field.2.1 field.2.2)
      return Json.ofMembers values
    else none
  | room + 1, .record fields, .array items =>
    if items.length ≤ fields.length then
      ((fields.zip items).mapM fun (field : (String × Shape) × Document) =>
        read? room field.1.2 field.2).map .array
    else none
  | room + 1, .choice variants, .object [(key, value)] => do
    let name ← key
    let shape ← variants.lookup name
    return Json.ofMembers [(name, ← read? room shape value)]
  | _, .choice _, .object _ => none
  | room, _, document => toJson? room document

end Document

namespace Json

/-- Reads a text of one value, with no bound on its brackets but its length. -/
def ofText? (text : String) : Option Json :=
  (Document.ofText? text).bind (Document.toJson? text.length)

end Json

end TableMachine
