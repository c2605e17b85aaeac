import FaultInject.Python.Json
import FaultInject.Python.Hex

/-
This file models the JSON decoder. A scanner returns a value and the text behind it. Its fuel
bounds the number of nested scans.
-/

namespace FaultInject.Python.Json
open Python

/-- These characters may stand between two tokens. -/
def isBlank (character : Char) : Bool :=
  character = ' ' || character = '\t' || character = '\n' || character = '\r'

def skipBlanks (text : List Char) : List Char := text.dropWhile isBlank

/-- These characters stand behind a backslash for the given characters. -/
def escapes : List (Char × Char) :=
  [('"', '"'), ('\\', '\\'), ('/', '/'), ('b', Char.ofNat 8), ('f', Char.ofNat 12), ('n', '\n'),
    ('r', '\r'), ('t', '\t')]

/-- This is the code of a `\u` sequence. It has exactly four digits. -/
def scanCode (text : List Char) : Result (Nat × List Char) :=
  match (text.take 4).mapM hexDigit? with
  | some [first, second, third, fourth] =>
      .ok (first * 4096 + second * 256 + third * 16 + fourth, text.drop 4)
  | _ => .error (.valueError "Invalid \\uXXXX escape")

/-- A high surrogate and a low one stand for one character. A surrogate alone is no
character. -/
def scanUnicode (text : List Char) : Result (Char × List Char) := do
  let high ← scanCode text
  if 0xD800 ≤ high.1 ∧ high.1 ≤ 0xDBFF ∧ high.2.take 2 = ['\\', 'u'] then
    let low ← scanCode (high.2.drop 2)
    if 0xDC00 ≤ low.1 ∧ low.1 ≤ 0xDFFF then
      return (Char.ofNat (0x10000 + (high.1 - 0xD800) * 1024 + (low.1 - 0xDC00)), low.2)
    else throw (.unicodeError "surrogates not allowed")
  else if 0xD800 ≤ high.1 ∧ high.1 ≤ 0xDFFF then throw (.unicodeError "surrogates not allowed")
  else return (Char.ofNat high.1, high.2)

/-- This is the character of the sequence behind a backslash. -/
def scanEscape (text : List Char) : Result (Char × List Char) :=
  match text with
  | [] => .error (.valueError "Unterminated string starting at")
  | character :: rest =>
      if character = 'u' then scanUnicode rest
      else
        match escapes.lookup character with
        | some value => .ok (value, rest)
        | none => .error (.valueError "Invalid \\escape")

/-- This is the string behind its left quote. -/
def scanString : Nat → List Char → Result (List Char × List Char)
  | 0, _ => .error (.runtimeError "no fuel")
  | _ + 1, [] => .error (.valueError "Unterminated string starting at")
  | fuel + 1, character :: rest =>
      if character = '"' then .ok ([], rest)
      else if character = '\\' then do
        let escaped ← scanEscape rest
        let string ← scanString fuel escaped.2
        return (escaped.1 :: string.1, string.2)
      else if character.toNat < 32 then .error (.valueError "Invalid control character at")
      else do
        let string ← scanString fuel rest
        return (character :: string.1, string.2)

/-- A fraction or an exponent follows the digits of a float. -/
def startsFloat (rest : List Char) : Bool :=
  match rest with
  | '.' :: digit :: _ => digit.isDigit
  | mark :: sign :: digit :: _ =>
      (mark = 'e' || mark = 'E') &&
        (sign.isDigit || ((sign = '+' || sign = '-') && digit.isDigit))
  | [mark, digit] => (mark = 'e' || mark = 'E') && digit.isDigit
  | _ => false

/-- This is the number of digits at the start of the text. A zero stands alone. -/
def scanNatural (text : List Char) : Result (Nat × List Char) :=
  match text with
  | [] => .error (.valueError "Expecting value")
  | digit :: rest =>
      if digit = '0' then .ok (0, rest)
      else if digit.isDigit then
        .ok (Nat.ofDigitChars 10 (text.takeWhile Char.isDigit) 0, text.dropWhile Char.isDigit)
      else .error (.valueError "Expecting value")

/-- This is an integer. A float is no value of the model. -/
def scanInteger (text : List Char) : Result (Int × List Char) := do
  let number ← if text.head? = some '-' then do
      let digits ← scanNatural text.tail
      pure (-(digits.1 : Int), digits.2)
    else do
      let digits ← scanNatural text
      pure ((digits.1 : Int), digits.2)
  if startsFloat number.2 then throw (.valueError "float") else return number

/-- This is a constant or an integer. -/
def scanConstant (text : List Char) : Result (Scalar × List Char) :=
  if "null".toList.isPrefixOf text then .ok (.null, text.drop 4)
  else if "true".toList.isPrefixOf text then .ok (.bool true, text.drop 4)
  else if "false".toList.isPrefixOf text then .ok (.bool false, text.drop 5)
  else do
    let number ← scanInteger text
    return (.int number.1, number.2)

mutual

/-- This is the value at the start of the text. -/
def scanValue : Nat → List Char → Result (Value × List Char)
  | 0, _ => .error (.runtimeError "no fuel")
  | _ + 1, [] => .error (.valueError "Expecting value")
  | fuel + 1, character :: rest =>
      if character = '"' then do
        let string ← scanString fuel rest
        return (.str (String.ofList string.1), string.2)
      else if character = '[' then
        if (skipBlanks rest).head? = some ']' then .ok (.list [], (skipBlanks rest).tail)
        else do
          let items ← scanItems fuel (skipBlanks rest)
          return (.list items.1, items.2)
      else if character = '\x7b' then
        if (skipBlanks rest).head? = some '\x7d' then .ok (.object [], (skipBlanks rest).tail)
        else do
          let members ← scanMembers fuel (skipBlanks rest)
          return (.object (Dict.ofEntries members.1).entries, members.2)
      else do
        let scalar ← scanConstant (character :: rest)
        return (.scalar scalar.1, scalar.2)

/-- These are the items up to the right bracket. -/
def scanItems : Nat → List Char → Result (List Value × List Char)
  | 0, _ => .error (.runtimeError "no fuel")
  | fuel + 1, text => do
      let item ← scanValue fuel text
      match skipBlanks item.2 with
      | ']' :: rest => return ([item.1], rest)
      | ',' :: rest => do
          let items ← scanItems fuel (skipBlanks rest)
          return (item.1 :: items.1, items.2)
      | _ => throw (.valueError "Expecting ',' delimiter")

/-- These are the members up to the right brace. -/
def scanMembers : Nat → List Char → Result (List (String × Value) × List Char)
  | 0, _ => .error (.runtimeError "no fuel")
  | _ + 1, [] => .error (.valueError "Expecting property name enclosed in double quotes")
  | fuel + 1, quote :: text =>
      if quote = '"' then do
        let key ← scanString fuel text
        match skipBlanks key.2 with
        | ':' :: rest => do
            let value ← scanValue fuel (skipBlanks rest)
            match skipBlanks value.2 with
            | '\x7d' :: rest => return ([(String.ofList key.1, value.1)], rest)
            | ',' :: rest => do
                let members ← scanMembers fuel (skipBlanks rest)
                return ((String.ofList key.1, value.1) :: members.1, members.2)
            | _ => throw (.valueError "Expecting ',' delimiter")
        | _ => throw (.valueError "Expecting ':' delimiter")
      else .error (.valueError "Expecting property name enclosed in double quotes")

end

/-- This is `json.loads(text)`. -/
def loads (text : String) : Result Value :=
  let characters := text.toList
  if characters.head? = some (Char.ofNat 0xFEFF) then
    .error (.valueError "Unexpected UTF-8 BOM (decode using utf-8-sig)")
  else do
    let value ← scanValue (2 * characters.length + 1) (skipBlanks characters)
    if skipBlanks value.2 = [] then return value.1 else throw (.valueError "Extra data")

end FaultInject.Python.Json
