import FaultInject.Python.Text
import Mathlib.Data.Bool.AllAny

namespace FaultInject.Python

/-- These are the lowercase hexadecimal digits. -/
def hexDigits : List Char := "0123456789abcdef".toList

def digitValue (digit : Char) : Nat := hexDigits.idxOf digit

/-- These characters are hexadecimal digits of either case. -/
def hexDigit? (character : Char) : Option Nat :=
  let lower := character.toLower
  if lower ∈ hexDigits then some (digitValue lower) else none

/-- This is `int(text, 16)` for lowercase digits. -/
def parseHex (text : List Char) : Nat :=
  text.foldl (fun total digit => 16 * total + digitValue digit) 0

theorem digitValue_digitChar {digit : Nat} (small : digit < 16) :
    digitValue digit.digitChar = digit := by
  have all : ∀ digit < 16, digitValue digit.digitChar = digit := by decide
  exact all digit small

theorem hexDigit?_of_mem {digit : Char} (known : digit ∈ hexDigits) :
    hexDigit? digit = some (digitValue digit) := by
  have all : ∀ digit ∈ hexDigits, hexDigit? digit = some (digitValue digit) :=
    List.all_iff_forall_prop.mp (by decide)
  exact all digit known

theorem digitChar_mem_hexDigits {digit : Nat} (small : digit < 16) :
    digit.digitChar ∈ hexDigits := by
  have all : ∀ digit < 16, digit.digitChar ∈ hexDigits := by decide
  exact all digit small

theorem digitValue_lt {digit : Char} (known : digit ∈ hexDigits) : digitValue digit < 16 :=
  List.idxOf_lt_length_of_mem known

theorem parseHex_concat (text : List Char) (digit : Char) :
    parseHex (text ++ [digit]) = 16 * parseHex text + digitValue digit := by
  simp [parseHex]

/-- Reading the digits of a number gives the number. -/
theorem parseHex_toDigits (number : Nat) : parseHex (Nat.toDigits 16 number) = number := by
  induction number using Nat.strongRecOn with
  | ind number ih =>
      by_cases single : number < 16
      · rw [Nat.toDigits_of_lt_base single]
        show 16 * 0 + digitValue number.digitChar = number
        rw [digitValue_digitChar single, Nat.mul_zero, Nat.zero_add]
      · have remainder : number % 16 < 16 := Nat.mod_lt _ (by decide)
        rw [Nat.toDigits_of_base_le (by decide) (by omega), parseHex_concat,
          ih (number / 16) (by omega), digitValue_digitChar remainder]
        omega

/-- Leading zeros do not change the number. -/
theorem parseHex_leftpad (width : Nat) (text : List Char) :
    parseHex (text.leftpad width '0') = parseHex text := by
  rw [List.leftpad]
  generalize width - text.length = zeros
  induction zeros with
  | zero => rfl
  | succ zeros ih =>
      rw [List.replicate_succ, List.cons_append]
      exact ih

theorem parseHex_formatHex (width number : Nat) :
    parseHex (formatHex width number).toList = number := by
  rw [formatHex, String.toList_ofList, parseHex_leftpad, parseHex_toDigits]

theorem mem_toDigits_sixteen {number : Nat} {character : Char}
    (member : character ∈ Nat.toDigits 16 number) : character ∈ hexDigits := by
  induction number using Nat.strongRecOn with
  | ind number ih =>
      by_cases single : number < 16
      · rw [Nat.toDigits_of_lt_base single, List.mem_singleton] at member
        rw [member]
        exact digitChar_mem_hexDigits single
      · rw [Nat.toDigits_of_base_le (by decide) (by omega), List.mem_append,
          List.mem_singleton] at member
        rcases member with front | last
        · exact ih (number / 16) (by omega) front
        · rw [last]
          exact digitChar_mem_hexDigits (Nat.mod_lt _ (by decide))

/-- A formatted number consists of hexadecimal digits. -/
theorem mem_formatHex {width number : Nat} {character : Char}
    (member : character ∈ (formatHex width number).toList) : character ∈ hexDigits := by
  rw [formatHex, String.toList_ofList, List.leftpad, List.mem_append, List.mem_replicate] at member
  rcases member with ⟨_, rfl⟩ | inside
  · decide
  · exact mem_toDigits_sixteen inside

end FaultInject.Python
