import TableMachine.Number.Basic

/-!
# JSON values

Data objects, action arguments and exported forms are JSON values. The members of an object are
kept in the order of their keys, by code point, one for each key; `Json.ofMembers` builds an object
from members in any order, where the last member of a key counts.
-/

namespace TableMachine

inductive Json where
  | null
  | bool (value : Bool)
  | number (value : Number)
  | text (value : String)
  | array (items : List Json)
  | object (members : List (String × Json))
deriving Inhabited

namespace Json

def nat (n : Nat) : Json := .number (.int n)

/-- Keeps the members sorted, and replaces the value of a key that is there already. -/
def insertMember (key : String) (value : Json) : List (String × Json) → List (String × Json)
  | [] => [(key, value)]
  | (other, held) :: rest =>
    if key < other then (key, value) :: (other, held) :: rest
    else if key = other then (key, value) :: rest
    else (other, held) :: insertMember key value rest

def sortMembers (members : List (String × Json)) : List (String × Json) :=
  members.foldl (fun sorted member => insertMember member.1 member.2 sorted) []

def ofMembers (members : List (String × Json)) : Json :=
  .object (sortMembers members)

def member? (value : Json) (key : String) : Option Json :=
  match value with
  | .object members => members.lookup key
  | _ => none

mutual

/-- Values are the same when they agree part by part: numbers of one kind, items in order, and
objects key by key. Nothing is converted. -/
def same : Json → Json → Bool
  | .null, .null => true
  | .bool a, .bool b => a == b
  | .number a, .number b => a.same b
  | .text a, .text b => a == b
  | .array a, .array b => sameItems a b
  | .object a, .object b => sameMembers a b
  | _, _ => false

def sameItems : List Json → List Json → Bool
  | [], [] => true
  | a :: as, b :: bs => same a b && sameItems as bs
  | _, _ => false

def sameMembers : List (String × Json) → List (String × Json) → Bool
  | [], [] => true
  | a :: as, b :: bs => sameMember a b && sameMembers as bs
  | _, _ => false

def sameMember : String × Json → String × Json → Bool
  | (k, a), (l, b) => k == l && same a b

end

end Json

end TableMachine
