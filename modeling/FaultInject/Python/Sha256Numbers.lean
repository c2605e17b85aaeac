import FaultInject.Python.Sha256

/-
This file computes digests with natural numbers, on which the kernel is faster.
-/

namespace FaultInject.Python.Sha256

/-- The number is evaluated before the function. -/
def force {A : Type} (number : Nat) (next : Nat → A) : A :=
  Nat.rec (next 0) (fun before _ => next (before + 1)) number

def rotate (word count : Nat) : Nat := word >>> count ||| word <<< (32 - count) % 4294967296

/-- These are the values of the eight working words. -/
structure Numbers where
  a : Nat
  b : Nat
  c : Nat
  d : Nat
  e : Nat
  f : Nat
  g : Nat
  h : Nat
  deriving DecidableEq

/-- This is the part of a round that both new words have. -/
def firstSum (words : Numbers) (constant word : Nat) : Nat :=
  words.h + (rotate words.e 6 ^^^ rotate words.e 11 ^^^ rotate words.e 25) +
    ((words.e &&& words.f) ^^^ ((4294967295 - words.e) &&& words.g)) + constant + word

def secondSum (words : Numbers) : Nat :=
  (rotate words.a 2 ^^^ rotate words.a 13 ^^^ rotate words.a 22) +
    ((words.a &&& words.b) ^^^ (words.a &&& words.c) ^^^ (words.b &&& words.c))

def rounds : List (Nat × Nat) → Numbers → Numbers
  | [], words => words
  | (constant, word) :: entries, ⟨a, b, c, d, e, f, g, h⟩ =>
      force (firstSum ⟨a, b, c, d, e, f, g, h⟩ constant word) fun first =>
        force ((first + secondSum ⟨a, b, c, d, e, f, g, h⟩) % 4294967296) fun newA =>
          force ((d + first) % 4294967296) fun newE =>
            rounds entries ⟨newA, a, b, c, newE, e, f, g⟩

/-- This word follows a window of the schedule. -/
def nextNumber (first second tenth last : Nat) : Nat :=
  (first + (rotate second 7 ^^^ rotate second 18 ^^^ second >>> 3) + tenth +
    (rotate last 17 ^^^ rotate last 19 ^^^ last >>> 10)) % 4294967296

def numberSchedule : (count : Nat) → (window : List Nat) → List Nat
  | count + 1, [w0, w1, w2, w3, w4, w5, w6, w7, w8, w9, w10, w11, w12, w13, w14, w15] =>
      force (nextNumber w0 w1 w9 w14) fun next =>
        w0 :: numberSchedule count
          [w1, w2, w3, w4, w5, w6, w7, w8, w9, w10, w11, w12, w13, w14, w15, next]
  | _, _ => []

def blockNumbers : Bytes → List Nat
  | first :: second :: third :: fourth :: rest =>
      force (first.toNat <<< 24 ||| second.toNat <<< 16 ||| third.toNat <<< 8 ||| fourth.toNat)
        fun word => word :: blockNumbers rest
  | _ => []

/-- All words are evaluated before the function. -/
def Numbers.force {A : Type} (words : Numbers) (next : Numbers → A) : A :=
  Sha256.force words.a fun a => Sha256.force words.b fun b => Sha256.force words.c fun c =>
    Sha256.force words.d fun d => Sha256.force words.e fun e => Sha256.force words.f fun f =>
      Sha256.force words.g fun g => Sha256.force words.h fun h => next ⟨a, b, c, d, e, f, g, h⟩

def addNumbers (first second : Numbers) : Numbers where
  a := (first.a + second.a) % 4294967296
  b := (first.b + second.b) % 4294967296
  c := (first.c + second.c) % 4294967296
  d := (first.d + second.d) % 4294967296
  e := (first.e + second.e) % 4294967296
  f := (first.f + second.f) % 4294967296
  g := (first.g + second.g) % 4294967296
  h := (first.h + second.h) % 4294967296

def compressNumbers (words : Numbers) (block : Bytes) : Numbers :=
  (addNumbers words (rounds ((roundConstants.map UInt32.toNat).zip
    (numberSchedule 64 (blockNumbers block))) words)).force id

/-- A step takes one block after the other. -/
def foldBlocks {S : Type} (step : S → Bytes → S) : (count : Nat) → (message : Bytes) → S → S
  | 0, _, state => state
  | count + 1, message, state =>
      foldBlocks step count (message.drop 64) (step state (message.take 64))

/-- This is the text of the digest of the words. -/
def Numbers.text (words : Numbers) : String :=
  String.ofList (([words.a, words.b, words.c, words.d, words.e, words.f, words.g, words.h].flatMap
    (bigEndian 4)).flatMap fun byte => [hexDigit (byte.toNat / 16), hexDigit (byte.toNat % 16)])

def Words.numbers (words : Words) : Numbers :=
  ⟨words.a.toNat, words.b.toNat, words.c.toNat, words.d.toNat, words.e.toNat, words.f.toNat,
    words.g.toNat, words.h.toNat⟩

/-- This is the text of the digest, computed with numbers. -/
def numberDigest (message : Bytes) : String :=
  let padded := pad message
  (foldBlocks compressNumbers (padded.length / 64) padded initial.numbers).force Numbers.text

section Equality

@[simp] theorem force_eq {A : Type} (number : Nat) (next : Nat → A) :
    force number next = next number := by
  cases number <;> rfl

@[simp] theorem Numbers.force_eq {A : Type} (words : Numbers) (next : Numbers → A) :
    words.force next = next words := by
  simp only [Numbers.force, Sha256.force_eq]

theorem toNat_rotateRight {word count : UInt32} (positive : 0 < count.toNat)
    (small : count.toNat < 32) :
    (rotateRight word count).toNat = rotate word.toNat count.toNat := by
  have other : (32 - count).toNat = 32 - count.toNat := by
    rw [UInt32.toNat_sub]
    show (4294967296 - count.toNat + 32) % 4294967296 = _
    omega
  rw [rotateRight, rotate, UInt32.toNat_or, UInt32.toNat_shiftRight, UInt32.toNat_shiftLeft, other,
    Nat.mod_eq_of_lt small, Nat.mod_eq_of_lt (by omega : 32 - count.toNat < 32)]

/-- Nested sums of words are reduced once. -/
theorem numbers_round (words : Words) (entry : UInt32 × UInt32) :
    (round words entry).numbers = rounds [(entry.1.toNat, entry.2.toNat)] words.numbers := by
  have first : rotate words.e.toNat 6 ^^^ rotate words.e.toNat 11 ^^^ rotate words.e.toNat 25 =
      (rotateRight words.e 6 ^^^ rotateRight words.e 11 ^^^ rotateRight words.e 25).toNat := by
    rw [UInt32.toNat_xor, UInt32.toNat_xor, toNat_rotateRight (by decide) (by decide),
      toNat_rotateRight (by decide) (by decide), toNat_rotateRight (by decide) (by decide)]
    rfl
  have second : rotate words.a.toNat 2 ^^^ rotate words.a.toNat 13 ^^^ rotate words.a.toNat 22 =
      (rotateRight words.a 2 ^^^ rotateRight words.a 13 ^^^ rotateRight words.a 22).toNat := by
    rw [UInt32.toNat_xor, UInt32.toNat_xor, toNat_rotateRight (by decide) (by decide),
      toNat_rotateRight (by decide) (by decide), toNat_rotateRight (by decide) (by decide)]
    rfl
  have choice : (words.e.toNat &&& words.f.toNat) ^^^
      ((4294967295 - words.e.toNat) &&& words.g.toNat) =
      ((words.e &&& words.f) ^^^ (~~~words.e &&& words.g)).toNat := by
    rw [UInt32.toNat_xor, UInt32.toNat_and, UInt32.toNat_and, UInt32.toNat_not]
    rfl
  have majority : (words.a.toNat &&& words.b.toNat) ^^^ (words.a.toNat &&& words.c.toNat) ^^^
      (words.b.toNat &&& words.c.toNat) =
      ((words.a &&& words.b) ^^^ (words.a &&& words.c) ^^^ (words.b &&& words.c)).toNat := by
    rw [UInt32.toNat_xor, UInt32.toNat_xor, UInt32.toNat_and, UInt32.toNat_and, UInt32.toNat_and]
  simp only [rounds, force_eq, Words.numbers, round, firstSum, secondSum, first, second, choice,
    majority, UInt32.toNat_add, Numbers.mk.injEq]
  have size : (2 : Nat) ^ 32 = 4294967296 := by decide
  rw [size]
  refine ⟨?_, trivial, trivial, trivial, ?_, trivial, trivial, trivial⟩ <;> omega

theorem rounds_map (entries : List (UInt32 × UInt32)) (words : Words) :
    rounds (entries.map fun entry => (entry.1.toNat, entry.2.toNat)) words.numbers =
      (entries.foldl round words).numbers := by
  induction entries generalizing words with
  | nil => rfl
  | cons entry entries ih =>
      rw [List.foldl_cons, ← ih, numbers_round, List.map_cons]
      simp only [rounds, force_eq, Words.numbers]

theorem nextNumber_eq (first second tenth last : UInt32) :
    nextNumber first.toNat second.toNat tenth.toNat last.toNat =
      (first + (rotateRight second 7 ^^^ rotateRight second 18 ^^^ second >>> 3) + tenth +
        (rotateRight last 17 ^^^ rotateRight last 19 ^^^ last >>> 10)).toNat := by
  have left : rotate second.toNat 7 ^^^ rotate second.toNat 18 ^^^ second.toNat >>> 3 =
      (rotateRight second 7 ^^^ rotateRight second 18 ^^^ second >>> 3).toNat := by
    rw [UInt32.toNat_xor, UInt32.toNat_xor, toNat_rotateRight (by decide) (by decide),
      toNat_rotateRight (by decide) (by decide), UInt32.toNat_shiftRight]
    rfl
  have right : rotate last.toNat 17 ^^^ rotate last.toNat 19 ^^^ last.toNat >>> 10 =
      (rotateRight last 17 ^^^ rotateRight last 19 ^^^ last >>> 10).toNat := by
    rw [UInt32.toNat_xor, UInt32.toNat_xor, toNat_rotateRight (by decide) (by decide),
      toNat_rotateRight (by decide) (by decide), UInt32.toNat_shiftRight]
    rfl
  have size : (2 : Nat) ^ 32 = 4294967296 := by decide
  rw [nextNumber, left, right, UInt32.toNat_add, UInt32.toNat_add, UInt32.toNat_add, size]
  omega

theorem schedule_map (count : Nat) {window : List UInt32} (full : window.length = 16) :
    numberSchedule count (window.map UInt32.toNat) = (schedule count window).map UInt32.toNat := by
  induction count generalizing window with
  | zero => rfl
  | succ count ih =>
      match window, full with
      | [w0, w1, w2, w3, w4, w5, w6, w7, w8, w9, w10, w11, w12, w13, w14, w15], _ =>
        have next := nextNumber_eq w0 w1 w9 w14
        change force (nextNumber w0.toNat w1.toNat w9.toNat w14.toNat) _ =
          w0.toNat :: (schedule count [w1, w2, w3, w4, w5, w6, w7, w8, w9, w10, w11, w12, w13, w14,
            w15, w0 + (rotateRight w1 7 ^^^ rotateRight w1 18 ^^^ w1 >>> 3) + w9 +
              (rotateRight w14 17 ^^^ rotateRight w14 19 ^^^ w14 >>> 10)]).map UInt32.toNat
        rw [force_eq, ← ih rfl, next]
        rfl

theorem blockNumbers_eq (block : Bytes) :
    blockNumbers block = (blockWords block).map UInt32.toNat := by
  induction block using blockWords.induct with
  | case1 first second third fourth rest ih =>
      have small (byte : UInt8) {count : Nat} (room : count ≤ 24) :
          byte.toNat <<< count % 2 ^ 32 = byte.toNat <<< count := by
        apply Nat.mod_eq_of_lt
        rw [Nat.shiftLeft_eq]
        have bound := byte.toNat_lt
        have power : 2 ^ count ≤ 2 ^ 24 := Nat.pow_le_pow_right (by decide) room
        calc byte.toNat * 2 ^ count < 2 ^ 8 * 2 ^ count := by
              exact Nat.mul_lt_mul_of_pos_right bound (Nat.two_pow_pos count)
          _ ≤ 2 ^ 8 * 2 ^ 24 := Nat.mul_le_mul_left _ power
          _ = 2 ^ 32 := by decide
      rw [blockNumbers, force_eq, blockWords, List.map_cons, ih]
      simp only [UInt32.toNat_or, UInt32.toNat_shiftLeft, UInt8.toNat_toUInt32]
      rw [show (24 : UInt32).toNat % 32 = 24 from rfl, show (16 : UInt32).toNat % 32 = 16 from rfl,
        show (8 : UInt32).toNat % 32 = 8 from rfl, small first (by decide), small second (by decide),
        small third (by decide)]
  | case2 block short =>
      have none : blockNumbers block = [] := by
        rw [blockNumbers]
        exact short
      rw [none, blockWords]
      · rfl
      · exact short

theorem length_blockWords (block : Bytes) : (blockWords block).length = block.length / 4 := by
  induction block using blockWords.induct with
  | case1 first second third fourth rest ih =>
      rw [blockWords, List.length_cons, ih]
      simp only [List.length_cons]
      omega
  | case2 block short =>
      have small : block.length < 4 := by
        match block with
        | [] | [_] | [_, _] | [_, _, _] => simp
        | first :: second :: third :: fourth :: rest => exact (short _ _ _ _ _ rfl).elim
      rw [blockWords, List.length_nil, Nat.div_eq_of_lt small]
      exact short

theorem numbers_compress (words : Words) {block : Bytes} (full : block.length = 64) :
    (compress words block).numbers = compressNumbers words.numbers block := by
  have sixteen : (blockWords block).length = 16 := by rw [length_blockWords, full]
  have entries : (roundConstants.map UInt32.toNat).zip
      ((schedule 64 (blockWords block)).map UInt32.toNat) =
      (roundConstants.zip (schedule 64 (blockWords block))).map fun entry =>
        (entry.1.toNat, entry.2.toNat) := by
    rw [List.zip_map]
    rfl
  have size : (2 : Nat) ^ 32 = 4294967296 := by decide
  rw [compressNumbers, blockNumbers_eq, schedule_map 64 sixteen]
  rw [Numbers.force_eq, entries, rounds_map]
  simp only [id, addNumbers, compress, Words.numbers, UInt32.toNat_add, size]

theorem blocks_eq : blocks = foldBlocks compress := by
  delta blocks foldBlocks
  rfl

/-- Two steps that agree on full blocks agree on the message. -/
theorem foldBlocks_map {S T : Type} {convert : S → T} {step : S → Bytes → S} {other : T → Bytes → T}
    (agree : ∀ state, ∀ block : Bytes, block.length = 64 →
      convert (step state block) = other (convert state) block)
    (count : Nat) {message : Bytes} (enough : 64 * count ≤ message.length) (state : S) :
    convert (foldBlocks step count message state) =
      foldBlocks other count message (convert state) := by
  induction count generalizing message state with
  | zero => rfl
  | succ count ih =>
      rw [foldBlocks, foldBlocks, ih, agree]
      · rw [List.length_take]
        omega
      · rw [List.length_drop]
        omega

/-- The digest is the same in numbers. -/
theorem hexdigest_eq (message : Bytes) : hexdigest message = numberDigest message := by
  have same := foldBlocks_map (fun words block full => numbers_compress words full)
    ((pad message).length / 64) (Nat.mul_div_le _ 64) initial
  rw [hexdigest, digest, blocks_eq, numberDigest, Numbers.force_eq, ← same]
  generalize foldBlocks compress ((pad message).length / 64) (pad message) initial = words
  rfl

end Equality

end FaultInject.Python.Sha256
