import TableMachine.Json.Token
import TableMachine.Json.Basic

/-!
# JSON documents

The tree of a JSON text before any of it is taken for a value: members stand as they were written,
repeated keys included, and a string or numeral may lack a value. The reader takes one token at a
time and keeps the brackets that are open.
-/

namespace TableMachine

inductive Document where
  | null
  | bool (value : Bool)
  | number (value : Option Number)
  | text (value : Option String)
  | array (items : List Document)
  | object (members : List (Option String × Document))
deriving Inhabited

namespace Document

/-- An open bracket with the parts that it has so far, last first. -/
inductive Frame where
  | array (items : List Document)
  | object (members : List (Option String × Document))
  | member (members : List (Option String × Document)) (key : Option String)

/-- What may come next. -/
inductive Expected where
  | value
  | itemOrClose
  | commaOrClose
  | keyOrClose
  | key
  | colon
  | nothing (root : Document)

structure Reader where
  frames : List Frame
  expected : Expected

/-- A value has ended inside the open brackets `frames`. -/
def Reader.close (frames : List Frame) (value : Document) : Reader :=
  match frames with
  | .array items :: outer => ⟨.array (value :: items) :: outer, .commaOrClose⟩
  | .member members key :: outer => ⟨.object ((key, value) :: members) :: outer, .commaOrClose⟩
  | _ => ⟨[], .nothing value⟩

/-- A value begins. -/
def Reader.value? (frames : List Frame) : Token → Option Reader
  | .null => some (.close frames .null)
  | .bool b => some (.close frames (.bool b))
  | .number n => some (.close frames (.number n))
  | .text s => some (.close frames (.text s))
  | .openArray => some ⟨.array [] :: frames, .itemOrClose⟩
  | .openObject => some ⟨.object [] :: frames, .keyOrClose⟩
  | _ => none

def Reader.step? (reader : Reader) (token : Token) : Option Reader :=
  match reader.expected, token, reader.frames with
  | .itemOrClose, .closeArray, .array items :: outer
  | .commaOrClose, .closeArray, .array items :: outer => some (.close outer (.array items.reverse))
  | .keyOrClose, .closeObject, .object members :: outer
  | .commaOrClose, .closeObject, .object members :: outer =>
    some (.close outer (.object members.reverse))
  | .value, token, frames
  | .itemOrClose, token, frames => Reader.value? frames token
  | .commaOrClose, .comma, .array items :: outer => some ⟨.array items :: outer, .value⟩
  | .commaOrClose, .comma, .object members :: outer => some ⟨.object members :: outer, .key⟩
  | .keyOrClose, .text key, .object members :: outer
  | .key, .text key, .object members :: outer => some ⟨.member members key :: outer, .colon⟩
  | .colon, .colon, frames => some ⟨frames, .value⟩
  | _, _, _ => none

def ofTokens? (tokens : List Token) : Option Document :=
  (tokens.foldlM Reader.step? ⟨[], .value⟩).bind fun reader =>
    match reader.expected with
    | .nothing root => some root
    | _ => none

/-- Blanks may stand between the tokens, and nothing else may follow the value. -/
def ofText? (text : String) : Option Document :=
  (Token.ofChars? text.toList).bind ofTokens?

end Document

end TableMachine
