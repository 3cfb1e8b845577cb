import TableMachine.Text.Extend
import TableMachine.Text.Ignorable
import TableMachine.Text.Unprinted

/-!
# Layout of inspected values

The one-line texts in which the library shows its values for inspection: records and tuples under a
name, lists, maps and quoted strings.
-/

namespace TableMachine

namespace Inspect

/-- Hexadecimal digits in lower case, without zeros in front. -/
def codePoint (c : Char) : List Char :=
  ['\\', 'u', '\x7b'] ++ Nat.toDigits 16 c.toNat ++ ['\x7d']

/-- Marks that extend another character, characters that print nothing and ignorable characters are
shown by their code point. -/
def shown (c : Char) : List Char :=
  match c with
  | '"' => ['\\', '"']
  | '\\' => ['\\', '\\']
  | '\n' => ['\\', 'n']
  | '\r' => ['\\', 'r']
  | '\t' => ['\\', 't']
  | '\x00' => ['\\', '0']
  | c =>
    if 0x20 ≤ c.toNat ∧ c.toNat < 0x7F then [c]
    else if Text.isExtend c || Text.isUnprinted c || Text.isIgnorable c then codePoint c
    else [c]

def quoted (s : String) : String :=
  String.ofList ('"' :: s.toList.flatMap shown ++ ['"'])

def list (items : List String) : String :=
  "[" ++ ", ".intercalate items ++ "]"

def map (entries : List (String × String)) : String :=
  "\x7b" ++ ", ".intercalate (entries.map fun entry => entry.1 ++ ": " ++ entry.2) ++ "\x7d"

def tuple (name : String) (items : List String) : String :=
  name ++ "(" ++ ", ".intercalate items ++ ")"

def record (name : String) (fields : List (String × String)) : String :=
  name ++ " \x7b " ++ ", ".intercalate (fields.map fun field => field.1 ++ ": " ++ field.2) ++
    " \x7d"

def bool (b : Bool) : String :=
  if b then "true" else "false"

def option {α : Type} (inspect : α → String) : Option α → String
  | none => "None"
  | some value => tuple "Some" [inspect value]

end Inspect

end TableMachine
