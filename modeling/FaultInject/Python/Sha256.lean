import FaultInject.Python.Bytes

namespace FaultInject.Python.Sha256

def roundConstants : List UInt32 :=
  [0x428a2f98, 0x71374491, 0xb5c0fbcf, 0xe9b5dba5, 0x3956c25b, 0x59f111f1, 0x923f82a4, 0xab1c5ed5,
    0xd807aa98, 0x12835b01, 0x243185be, 0x550c7dc3, 0x72be5d74, 0x80deb1fe, 0x9bdc06a7, 0xc19bf174,
    0xe49b69c1, 0xefbe4786, 0x0fc19dc6, 0x240ca1cc, 0x2de92c6f, 0x4a7484aa, 0x5cb0a9dc, 0x76f988da,
    0x983e5152, 0xa831c66d, 0xb00327c8, 0xbf597fc7, 0xc6e00bf3, 0xd5a79147, 0x06ca6351, 0x14292967,
    0x27b70a85, 0x2e1b2138, 0x4d2c6dfc, 0x53380d13, 0x650a7354, 0x766a0abb, 0x81c2c92e, 0x92722c85,
    0xa2bfe8a1, 0xa81a664b, 0xc24b8b70, 0xc76c51a3, 0xd192e819, 0xd6990624, 0xf40e3585, 0x106aa070,
    0x19a4c116, 0x1e376c08, 0x2748774c, 0x34b0bcb5, 0x391c0cb3, 0x4ed8aa4a, 0x5b9cca4f, 0x682e6ff3,
    0x748f82ee, 0x78a5636f, 0x84c87814, 0x8cc70208, 0x90befffa, 0xa4506ceb, 0xbef9a3f7, 0xc67178f2]

/-- These are the eight working words. -/
structure Words where
  a : UInt32
  b : UInt32
  c : UInt32
  d : UInt32
  e : UInt32
  f : UInt32
  g : UInt32
  h : UInt32
  deriving DecidableEq, Repr

def initial : Words :=
  ⟨0x6a09e667, 0xbb67ae85, 0x3c6ef372, 0xa54ff53a, 0x510e527f, 0x9b05688c, 0x1f83d9ab, 0x5be0cd19⟩

def rotateRight (word count : UInt32) : UInt32 := word >>> count ||| word <<< (32 - count)

/-- The padding ends with the number of bits. -/
def pad (message : Bytes) : Bytes :=
  message ++ [0x80] ++ List.replicate ((119 - message.length % 64) % 64) 0 ++
    bigEndian 8 (8 * message.length)

/-- These are the words of a block. -/
def blockWords : Bytes → List UInt32
  | first :: second :: third :: fourth :: rest =>
    (first.toUInt32 <<< 24 ||| second.toUInt32 <<< 16 ||| third.toUInt32 <<< 8 |||
      fourth.toUInt32) :: blockWords rest
  | _ => []

/-- The schedule continues with a window of sixteen words. -/
def schedule : (count : Nat) → (window : List UInt32) → List UInt32
  | 0, _ => []
  | count + 1, window =>
    let first := window.getD 1 0
    let last := window.getD 14 0
    let next := window.getD 0 0 +
      (rotateRight first 7 ^^^ rotateRight first 18 ^^^ first >>> 3) + window.getD 9 0 +
      (rotateRight last 17 ^^^ rotateRight last 19 ^^^ last >>> 10)
    window.getD 0 0 :: schedule count (window.tail ++ [next])

def round (words : Words) (entry : UInt32 × UInt32) : Words :=
  let mixedE := rotateRight words.e 6 ^^^ rotateRight words.e 11 ^^^ rotateRight words.e 25
  let choice := (words.e &&& words.f) ^^^ (~~~words.e &&& words.g)
  let first := words.h + mixedE + choice + entry.1 + entry.2
  let mixedA := rotateRight words.a 2 ^^^ rotateRight words.a 13 ^^^ rotateRight words.a 22
  let majority := (words.a &&& words.b) ^^^ (words.a &&& words.c) ^^^ (words.b &&& words.c)
  ⟨first + (mixedA + majority), words.a, words.b, words.c, words.d + first, words.e, words.f,
    words.g⟩

def compress (words : Words) (block : Bytes) : Words :=
  let last := (roundConstants.zip (schedule 64 (blockWords block))).foldl round words
  ⟨words.a + last.a, words.b + last.b, words.c + last.c, words.d + last.d, words.e + last.e,
    words.f + last.f, words.g + last.g, words.h + last.h⟩

/-- These are the words after the first `count` blocks. -/
def blocks : (count : Nat) → (message : Bytes) → (words : Words) → Words
  | 0, _, words => words
  | count + 1, message, words => blocks count (message.drop 64) (compress words (message.take 64))

def digest (message : Bytes) : Bytes :=
  let padded := pad message
  let words := blocks (padded.length / 64) padded initial
  [words.a, words.b, words.c, words.d, words.e, words.f, words.g, words.h].flatMap fun word =>
    bigEndian 4 word.toNat

/-- This is the digit of a number below sixteen. -/
def hexDigit (value : Nat) : Char := "0123456789abcdef".toList.getD value '0'

/-- This is `hashlib.sha256(message).hexdigest()`. -/
def hexdigest (message : Bytes) : String :=
  String.ofList ((digest message).flatMap fun byte =>
    [hexDigit (byte.toNat / 16), hexDigit (byte.toNat % 16)])

example : hexdigest [0x61, 0x62, 0x63] =
    "ba7816bf8f01cfea414140de5dae2223b00361a396177a9cb410ff61f20015ad" := by
  decide +kernel

theorem hexDigit_mem {value : Nat} (small : value < 16) :
    hexDigit value ∈ "0123456789abcdef".toList := by
  have all : ∀ digit : Fin 16, hexDigit digit ∈ "0123456789abcdef".toList := by decide
  exact all ⟨value, small⟩

/-- The text of a digest has only digits. -/
theorem mem_hexdigest {message : Bytes} {character : Char}
    (member : character ∈ (hexdigest message).toList) :
    character ∈ "0123456789abcdef".toList := by
  rw [hexdigest, String.toList_ofList, List.mem_flatMap] at member
  obtain ⟨byte, _, inside⟩ := member
  have bound := byte.toNat_lt
  rcases List.mem_cons.mp inside with rfl | rest
  · exact hexDigit_mem (by omega)
  · rw [List.mem_singleton.mp rest]
    exact hexDigit_mem (by omega)

theorem hexdigest_ne_empty (message : Bytes) : hexdigest message ≠ "" := by
  intro empty
  have none := congrArg String.toList empty
  rw [hexdigest, String.toList_ofList, String.toList_empty, List.flatMap_eq_nil_iff] at none
  have absent : digest message = [] := by
    apply List.eq_nil_iff_forall_not_mem.mpr
    intro byte member
    cases none byte member
  rw [digest, List.flatMap_cons, List.append_eq_nil_iff] at absent
  cases congrArg List.length absent.1

end FaultInject.Python.Sha256
