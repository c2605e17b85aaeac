import FaultInject.Python.Text

namespace FaultInject.Python

/-- The second byte of a sequence is bounded by its first byte. The result holds
the number of bytes that follow the first byte and the bounds on the second byte. -/
def sequenceBounds (first : UInt8) : Option (Nat × UInt8 × UInt8) :=
  if 0xC2 ≤ first ∧ first ≤ 0xDF then some (1, 0x80, 0xBF)
  else if first = 0xE0 then some (2, 0xA0, 0xBF)
  else if first = 0xED then some (2, 0x80, 0x9F)
  else if 0xE1 ≤ first ∧ first ≤ 0xEF then some (2, 0x80, 0xBF)
  else if first = 0xF0 then some (3, 0x90, 0xBF)
  else if 0xF1 ≤ first ∧ first ≤ 0xF3 then some (3, 0x80, 0xBF)
  else if first = 0xF4 then some (3, 0x80, 0x8F)
  else none

/-- These are the valid bytes that follow the first byte of a sequence. -/
def continuationBytes (count : Nat) (low high : UInt8) (rest : Bytes) : Bytes :=
  match rest.take count with
  | [] => []
  | second :: others =>
    if low ≤ second ∧ second ≤ high then
      second :: others.takeWhile fun byte => 0x80 ≤ byte ∧ byte ≤ 0xBF
    else []

/-- This is the code point of a complete sequence. -/
def sequenceCode (count : Nat) (first : UInt8) (continuation : Bytes) : Nat :=
  continuation.foldl (fun code byte => code * 64 + byte.toNat % 64)
    (first.toNat % 2 ^ (6 - count))

/-- The decoder returns a character for each complete sequence and nothing for each
longest incomplete one. -/
def decodeUtf8 (data : Bytes) : List (Option Char) :=
  match data with
  | [] => []
  | first :: rest =>
    if first < 0x80 then some (Char.ofNat first.toNat) :: decodeUtf8 rest
    else
      match sequenceBounds first with
      | none => none :: decodeUtf8 rest
      | some (count, low, high) =>
        let continuation := continuationBytes count low high rest
        if continuation.length = count then
          some (Char.ofNat (sequenceCode count first continuation)) ::
            decodeUtf8 (rest.drop count)
        else none :: decodeUtf8 (rest.drop continuation.length)
termination_by data.length
decreasing_by all_goals simp only [List.length_cons, List.length_drop]; omega

/-- This is `data.decode("utf-8")`. -/
def decodeStrict (data : Bytes) : Result String :=
  let characters := decodeUtf8 data
  if characters.all Option.isSome then .ok (String.ofList (characters.filterMap id))
  else .error (.unicodeError "'utf-8' codec can't decode bytes")

/-- This is `data.decode("utf-8", errors="replace")`. -/
def decodeReplace (data : Bytes) : String :=
  String.ofList ((decodeUtf8 data).map fun character => character.getD (Char.ofNat 0xFFFD))

/-- This is `text.encode("utf-8")`. -/
def encodeUtf8 (text : String) : Bytes := text.toUTF8.toList

end FaultInject.Python
