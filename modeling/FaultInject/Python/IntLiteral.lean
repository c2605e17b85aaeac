import FaultInject.Python.Hex
import FaultInject.Python.Lines
import FaultInject.Python.Result
import Mathlib.Data.List.TakeWhile

/-
This file models `int(text, 0)`, which reads an integer literal of any base.
-/

namespace FaultInject.Python

/-- These are the codes of the decimal zeros of Unicode 16. The other nine digits follow each. -/
def decimalZeros : List Nat :=
  [0x30, 0x660, 0x6F0, 0x7C0, 0x966, 0x9E6, 0xA66, 0xAE6, 0xB66, 0xBE6, 0xC66, 0xCE6, 0xD66, 0xDE6,
    0xE50, 0xED0, 0xF20, 0x1040, 0x1090, 0x17E0, 0x1810, 0x1946, 0x19D0, 0x1A80, 0x1A90, 0x1B50,
    0x1BB0, 0x1C40, 0x1C50, 0xA620, 0xA8D0, 0xA900, 0xA9D0, 0xA9F0, 0xAA50, 0xABF0, 0xFF10, 0x104A0,
    0x10D30, 0x10D40, 0x11066, 0x110F0, 0x11136, 0x111D0, 0x112F0, 0x11450, 0x114D0, 0x11650,
    0x116C0, 0x116D0, 0x116DA, 0x11730, 0x118E0, 0x11950, 0x11BF0, 0x11C50, 0x11D50, 0x11DA0,
    0x11F50, 0x16130, 0x16A60, 0x16AC0, 0x16B50, 0x16D70, 0x1CCF0, 0x1D7CE, 0x1D7D8, 0x1D7E2,
    0x1D7EC, 0x1D7F6, 0x1E140, 0x1E2F0, 0x1E4F0, 0x1E5F1, 0x1E950, 0x1FBF0]

/-- This is `unicodedata.decimal` of a character. -/
def decimal? (character : Char) : Option Nat :=
  (decimalZeros.find? fun start => start ≤ character.toNat && character.toNat < start + 10).map
    (character.toNat - ·)

/-- These characters are blank for a literal. -/
def isLiteralSpace (character : Char) : Bool :=
  character = ' ' || (9 ≤ character.toNat && character.toNat ≤ 13)

/-- This is the ASCII form of a character of a text that has others than ASCII. -/
def asciiForm? (character : Char) : Option Char :=
  if character.toNat < 127 then some character
  else if isSpace character then some ' '
  else (decimal? character).map Nat.digitChar

/-- A literal may have spaces and digits that are not ASCII. -/
def asciiLiteral? (text : List Char) : Option (List Char) :=
  if text.all fun character => character.toNat < 128 then some text else text.mapM asciiForm?

/-- These are the sign of a literal and the characters behind it. -/
def literalSign : List Char → Int × List Char
  | '-' :: rest => (-1, rest)
  | '+' :: rest => (1, rest)
  | text => (1, text)

/-- An underscore may stand behind the mark of the base. -/
def skipUnderscore (text : List Char) : List Char :=
  if text.head? = some '_' then text.tail else text

/-- These are the base of a literal and the characters behind the mark of the base. -/
def literalBase : List Char → Nat × List Char
  | '0' :: mark :: rest =>
      if mark = 'x' ∨ mark = 'X' then (16, skipUnderscore rest)
      else if mark = 'o' ∨ mark = 'O' then (8, skipUnderscore rest)
      else if mark = 'b' ∨ mark = 'B' then (2, skipUnderscore rest)
      else (10, '0' :: mark :: rest)
  | text => (10, text)

/-- The digits of a literal may have single underscores between them. -/
def isLiteralDigit (base : Nat) (character : Char) : Bool :=
  character = '_' || (hexDigit? character).any (· < base)

/-- This is the value of the digits. -/
def literalValue (base : Nat) (digits : List Char) : Nat :=
  digits.foldl (fun total digit => base * total + (hexDigit? digit).getD 0) 0

/-- This is the largest number of decimal digits of a text that is read as an integer. -/
def maxStrDigits : Nat := 4300

/-- This is the number behind the sign. A decimal literal other than zero has no leading zero. -/
def literalNatural (text : List Char) : Result Nat :=
  let invalid : Error := .valueError "invalid literal for int() with base 0"
  let (base, body) := literalBase text
  let groups := (body.takeWhile (isLiteralDigit base)).splitOn '_'
  let digits := groups.flatten
  let value := literalValue base digits
  if [] ∈ groups then .error invalid
  else if base = 10 ∧ maxStrDigits < digits.length then
    .error (.valueError "Exceeds the limit (4300 digits) for integer string conversion")
  else if base = 10 ∧ digits.head? = some '0' ∧ value ≠ 0 then .error invalid
  else if (body.dropWhile (isLiteralDigit base)).all isLiteralSpace then .ok value
  else .error invalid

/-- This is `int(text, 0)`. -/
def intLiteral (text : String) : Result Int :=
  match asciiLiteral? text.toList with
  | none => .error (.valueError "invalid literal for int() with base 0")
  | some characters => do
      let (sign, body) := literalSign (characters.dropWhile isLiteralSpace)
      let value ← literalNatural body
      return sign * value

section Hexadecimal
variable {digits : List Char}

theorem literalValue_of_hex (known : ∀ digit ∈ digits, digit ∈ hexDigits) :
    literalValue 16 digits = parseHex digits := by
  have step : ∀ total, ∀ digit ∈ digits,
      16 * total + (hexDigit? digit).getD 0 = 16 * total + digitValue digit := by
    intro total digit member
    rw [hexDigit?_of_mem (known digit member)]
    rfl
  exact List.foldl_ext _ _ 0 step

theorem isLiteralDigit_of_hex {digit : Char} (known : digit ∈ hexDigits) :
    isLiteralDigit 16 digit = true := by
  rw [isLiteralDigit, hexDigit?_of_mem known, Option.any_some, decide_eq_true (digitValue_lt known),
    Bool.or_true]

/-- Hexadecimal digits behind the mark of their base are read as their number. -/
theorem literalNatural_hex (known : ∀ digit ∈ digits, digit ∈ hexDigits) (filled : digits ≠ []) :
    literalNatural ('0' :: 'x' :: digits) = .ok (parseHex digits) := by
  have free : '_' ∉ digits := fun member => absurd (known '_' member) (by decide)
  have base : literalBase ('0' :: 'x' :: digits) = (16, digits) := by
    rw [literalBase, if_pos (.inl rfl), skipUnderscore, if_neg]
    exact fun first => free (List.mem_of_mem_head? first)
  have all : ∀ digit ∈ digits, isLiteralDigit 16 digit = true :=
    fun digit member => isLiteralDigit_of_hex (known digit member)
  have groups : (digits.takeWhile (isLiteralDigit 16)).splitOn '_' = [digits] := by
    rw [List.takeWhile_eq_self_iff.mpr all, List.splitOn]
    exact List.splitOnP_eq_singleton fun digit member =>
      beq_eq_false_iff_ne.mpr fun same => free (same ▸ member)
  have rest : digits.dropWhile (isLiteralDigit 16) = [] := List.dropWhile_eq_nil_iff.mpr all
  rw [literalNatural, base]
  simp only [groups, rest, List.flatten_singleton, literalValue_of_hex known]
  rw [if_neg, if_neg, if_neg]
  · rfl
  · exact fun other => absurd other.1 (by decide)
  · exact fun other => absurd other.1 (by decide)
  · rw [List.mem_singleton]
    exact Ne.symm filled

end Hexadecimal

/-- A number behind `0x` is read as it was written. -/
theorem intLiteral_hex (width number : Nat) :
    intLiteral ("0x" ++ formatHex width number) = .ok number := by
  have known : ∀ digit ∈ (formatHex width number).toList, digit ∈ hexDigits :=
    fun digit member => mem_formatHex member
  have filled : (formatHex width number).toList ≠ [] := by
    rw [formatHex, String.toList_ofList, List.leftpad, Ne, List.append_eq_nil_iff, not_and]
    exact fun _ => Nat.toDigits_ne_nil
  have text : ("0x" ++ formatHex width number).toList =
      '0' :: 'x' :: (formatHex width number).toList := String.toList_append
  have ascii : ∀ digit ∈ 'x' :: hexDigits, digit.toNat < 128 :=
    List.all_iff_forall_prop.mp (by decide)
  have plain : asciiLiteral? ("0x" ++ formatHex width number).toList =
      some ('0' :: 'x' :: (formatHex width number).toList) := by
    rw [text, asciiLiteral?, if_pos]
    rw [List.all_eq_true]
    rintro character member
    rcases List.mem_cons.mp member with rfl | behind
    · rfl
    rcases List.mem_cons.mp behind with rfl | inside
    · rfl
    · exact decide_eq_true (ascii character (List.mem_cons_of_mem _ (known character inside)))
  have start : ('0' :: 'x' :: (formatHex width number).toList).dropWhile isLiteralSpace =
      '0' :: 'x' :: (formatHex width number).toList := List.dropWhile_cons_of_neg (by decide)
  have sign : literalSign ('0' :: 'x' :: (formatHex width number).toList) =
      (1, '0' :: 'x' :: (formatHex width number).toList) := rfl
  rw [intLiteral, plain]
  simp only [start, sign]
  rw [literalNatural_hex known filled, parseHex_formatHex, ok_bind, pure_eq_ok, Int.one_mul]

end FaultInject.Python
