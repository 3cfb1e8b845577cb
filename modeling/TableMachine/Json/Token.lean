import TableMachine.Number.Numeral

/-!
# JSON tokens

The lexer takes one character at a time. What it has read of an unfinished string or numeral is its
mode, and the tokens it has finished are kept last first.
-/

namespace TableMachine

/-- A string that holds half a surrogate pair has no text, and a numeral too large for a double has
no number; both are still tokens. -/
inductive Token where
  | openArray
  | closeArray
  | openObject
  | closeObject
  | comma
  | colon
  | null
  | bool (value : Bool)
  | number (value : Option Number)
  | text (value : Option String)

namespace Token

inductive Mode where
  | between
  | word (read : List Char)
  | numeral (read : List Char)
  | string (units : List Nat)
  | escape (units : List Nat)
  | hex (units : List Nat) (missing : Nat) (value : Nat)

structure Lexer where
  mode : Mode
  tokens : List Token

def isBlank (c : Char) : Bool :=
  c = ' ' || c = '\t' || c = '\n' || c = '\r'

def isNumeralPart (c : Char) : Bool :=
  c.isDigit || c = '-' || c = '+' || c = '.' || c = 'e' || c = 'E'

def isLetter (c : Char) : Bool :=
  'a' ≤ c && c ≤ 'z'

def hexValue? (c : Char) : Option Nat :=
  if '0' ≤ c ∧ c ≤ '9' then some (c.toNat - '0'.toNat)
  else if 'a' ≤ c ∧ c ≤ 'f' then some (c.toNat - 'a'.toNat + 10)
  else if 'A' ≤ c ∧ c ≤ 'F' then some (c.toNat - 'A'.toNat + 10)
  else none

def isHigh (unit : Nat) : Bool := 0xD800 ≤ unit && unit < 0xDC00

def isLow (unit : Nat) : Bool := 0xDC00 ≤ unit && unit < 0xE000

/-- Joins the surrogate pairs among the units of a string. -/
def joined? : List Nat → Option (List Char)
  | [] => some []
  | high :: low :: rest =>
    if isHigh high then
      if isLow low then
        (joined? rest).map
          (Char.ofNat (0x10000 + (high - 0xD800) * 0x400 + (low - 0xDC00)) :: ·)
      else none
    else if isLow high then none
    else (joined? (low :: rest)).map (Char.ofNat high :: ·)
  | [unit] => if isHigh unit || isLow unit then none else some [Char.ofNat unit]

def simpleEscape? : Char → Option Nat
  | '"' => some 0x22
  | '\\' => some 0x5C
  | '/' => some 0x2F
  | 'b' => some 0x08
  | 'f' => some 0x0C
  | 'n' => some 0x0A
  | 'r' => some 0x0D
  | 't' => some 0x09
  | _ => none

def punctuation? : Char → Option Token
  | '[' => some .openArray
  | ']' => some .closeArray
  | '\x7b' => some .openObject
  | '\x7d' => some .closeObject
  | ',' => some .comma
  | ':' => some .colon
  | _ => none

def ofWord? (read : List Char) : Option Token :=
  if read = ['n', 'u', 'l', 'l'] then some .null
  else if read = ['t', 'r', 'u', 'e'] then some (.bool true)
  else if read = ['f', 'a', 'l', 's', 'e'] then some (.bool false)
  else none

/-- The lexer reads `c` with no token begun. -/
def start? (tokens : List Token) (c : Char) : Option Lexer :=
  if isBlank c then some ⟨.between, tokens⟩
  else if c = '"' then some ⟨.string [], tokens⟩
  else if isLetter c then some ⟨.word [c], tokens⟩
  else if isNumeralPart c then some ⟨.numeral [c], tokens⟩
  else (punctuation? c).map fun token => ⟨.between, token :: tokens⟩

/-- Ends a word or a numeral; an unfinished string is no token. -/
def finish? (lexer : Lexer) : Option (List Token) :=
  match lexer.mode with
  | .between => some lexer.tokens
  | .word read => (ofWord? read.reverse).map (· :: lexer.tokens)
  | .numeral read => (Numeral.ofChars? read.reverse).map fun n => .number n.number? :: lexer.tokens
  | _ => none

def step? (lexer : Lexer) (c : Char) : Option Lexer :=
  match lexer.mode with
  | .between => start? lexer.tokens c
  | .word read =>
    if isLetter c then some ⟨.word (c :: read), lexer.tokens⟩
    else (finish? lexer).bind fun tokens => start? tokens c
  | .numeral read =>
    if isNumeralPart c then some ⟨.numeral (c :: read), lexer.tokens⟩
    else (finish? lexer).bind fun tokens => start? tokens c
  | .string units =>
    if c = '"' then
      some ⟨.between, .text ((joined? units.reverse).map String.ofList) :: lexer.tokens⟩
    else if c = '\\' then some ⟨.escape units, lexer.tokens⟩
    else if c.toNat < 32 then none
    else some ⟨.string (c.toNat :: units), lexer.tokens⟩
  | .escape units =>
    if c = 'u' then some ⟨.hex units 3 0, lexer.tokens⟩
    else (simpleEscape? c).map fun unit => ⟨.string (unit :: units), lexer.tokens⟩
  | .hex units missing value =>
    (hexValue? c).map fun digit =>
      match missing with
      | 0 => ⟨.string ((16 * value + digit) :: units), lexer.tokens⟩
      | missing + 1 => ⟨.hex units missing (16 * value + digit), lexer.tokens⟩

def ofChars? (cs : List Char) : Option (List Token) :=
  (cs.foldlM step? ⟨.between, []⟩).bind fun lexer => (finish? lexer).map List.reverse

end Token

end TableMachine
