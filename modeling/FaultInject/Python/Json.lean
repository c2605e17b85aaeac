import FaultInject.Python.Text
import FaultInject.Python.Value

namespace FaultInject.Python.Json
open Python

/-- These characters stand for the character in a JSON text. -/
def escape (character : Char) : String :=
  if character = '"' then "\\\""
  else if character = '\\' then "\\\\"
  else if character = '\n' then "\\n"
  else if character = '\r' then "\\r"
  else if character = '\t' then "\\t"
  else if character.toNat = 8 then "\\b"
  else if character.toNat = 12 then "\\f"
  else if character.toNat < 32 then "\\u" ++ formatHex 4 character.toNat
  else character.toString

def quoted (text : String) : String :=
  "\"" ++ String.join (text.toList.map escape) ++ "\""

def dumpsScalar : Scalar → String
  | .null => "null"
  | .bool true => "true"
  | .bool false => "false"
  | .int value => toString value
  | .str value => quoted value

/-- An item starts on its own line. -/
def newline (indent : Nat) : String := "\n" ++ String.ofList (List.replicate indent ' ')

/-- This is a list or an object with the given rendered items. -/
def bracketed (left right : String) (indent : Nat) (items : List String) : String :=
  if items = [] then left ++ right
  else left ++ ",".intercalate (items.map fun item => newline (indent + 2) ++ item) ++
    newline indent ++ right

mutual

/-- This is `json.dumps(value, indent=2, ensure_ascii=False)` inside the given indent. -/
def dumps (indent : Nat) : Value → String
  | .scalar value => dumpsScalar value
  | .list items => bracketed "[" "]" indent (dumpsItems (indent + 2) items)
  | .object entries => bracketed "\x7b" "\x7d" indent (dumpsEntries (indent + 2) entries)

def dumpsItems (indent : Nat) : List Value → List String
  | [] => []
  | item :: items => dumps indent item :: dumpsItems indent items

def dumpsEntries (indent : Nat) : List (String × Value) → List String
  | [] => []
  | (key, value) :: entries =>
      (quoted key ++ ": " ++ dumps indent value) :: dumpsEntries indent entries

end

end FaultInject.Python.Json
