import FaultInject.Python.Utf8
import Mathlib.Data.List.TakeWhile

/-
This file proves that the UTF-8 decoder inverts the encoder.
-/

namespace FaultInject.Python

theorem toList_eq_data (bytes : ByteArray) : bytes.toList = bytes.data.toList := by
  have loop (index : Nat) (reversed : List UInt8) :
      ByteArray.toList.loop bytes index reversed =
        reversed.reverse ++ bytes.data.toList.drop index := by
    fun_induction ByteArray.toList.loop bytes index reversed with
    | case1 index reversed room ih =>
        have inside : index < bytes.data.toList.length := by simpa using room
        rw [ih, List.drop_eq_getElem_cons inside, List.reverse_cons, List.append_assoc]
        have same : bytes.get! index = bytes.data.toList[index] := by
          rw [ByteArray.get!]
          simp at inside
          simp [inside, getElem!_pos]
        rw [same]
        rfl
    | case2 index reversed full =>
        have none : bytes.data.toList.length ≤ index := by simpa using full
        rw [List.drop_eq_nil_of_le none, List.append_nil]
  rw [ByteArray.toList, loop]
  rfl

/-- A text encodes to the bytes of its characters. -/
theorem encodeUtf8_eq (text : String) :
    encodeUtf8 text = text.toList.flatMap String.utf8EncodeChar := by
  have bytes : text.toUTF8 = text.toList.utf8Encode := String.utf8Encode_toList.symm
  rw [encodeUtf8, bytes, toList_eq_data, List.utf8Encode, List.toList_data_toByteArray]

/-- These bytes follow the first byte of a sequence. -/
def Continues (bytes : Bytes) : Prop := ∀ byte ∈ bytes, 0x80 ≤ byte ∧ byte ≤ 0xBF

/-- The decoder reads a complete sequence as one character. -/
theorem decodeUtf8_sequence {first second low high : UInt8} {count : Nat} {others : Bytes}
    (wide : ¬first < 0x80) (bounds : sequenceBounds first = some (count, low, high))
    (inside : low ≤ second ∧ second ≤ high) (tail : Continues others)
    (complete : others.length + 1 = count) (rest : Bytes) :
    decodeUtf8 (first :: second :: others ++ rest) =
      some (Char.ofNat (sequenceCode count first (second :: others))) :: decodeUtf8 rest := by
  have whole : continuationBytes count low high (second :: others ++ rest) = second :: others := by
    have taken : (second :: others ++ rest).take count = second :: others := by
      exact List.take_left' complete
    rw [continuationBytes, taken]
    simp only [if_pos inside]
    rw [List.takeWhile_eq_self_iff.mpr]
    intro byte member
    exact decide_eq_true (tail byte member)
  have behind : (second :: others ++ rest).drop count = rest := by
    exact List.drop_left' complete
  rw [List.cons_append, List.cons_append, decodeUtf8, if_neg wide, bounds]
  simp only [← List.cons_append, whole, List.length_cons, complete, if_true, behind]

theorem toNat_ofNat_add {value offset : Nat} (small : value + offset < 256) :
    (UInt8.ofNat (value + offset)).toNat = value + offset := UInt8.toNat_ofNat_of_lt' small

/-- Six bits of a code follow the first byte. -/
theorem continues_ofNat (value : Nat) :
    0x80 ≤ UInt8.ofNat (value % 64 + 0x80) ∧ UInt8.ofNat (value % 64 + 0x80) ≤ 0xBF := by
  have room : value % 64 < 64 := Nat.mod_lt _ (by decide)
  rw [UInt8.le_iff_toNat_le, UInt8.le_iff_toNat_le, toNat_ofNat_add (by omega)]
  constructor
  · show 128 ≤ _
    omega
  · show _ ≤ 191
    omega

theorem sequenceBounds_two : ∀ high < 32, 2 ≤ high →
    sequenceBounds (UInt8.ofNat (high + 0xC0)) = some (1, 0x80, 0xBF) := by decide

theorem sequenceBounds_three : ∀ high < 16, sequenceBounds (UInt8.ofNat (high + 0xE0)) =
    some (2, if high = 0 then 0xA0 else 0x80, if high = 13 then 0x9F else 0xBF) := by decide

theorem sequenceBounds_four : ∀ high < 5, sequenceBounds (UInt8.ofNat (high + 0xF0)) =
    some (3, if high = 0 then 0x90 else 0x80, if high = 4 then 0x8F else 0xBF) := by decide

theorem wide_ofNat {value : Nat} (large : 128 ≤ value) (small : value < 256) :
    ¬UInt8.ofNat value < 0x80 := by
  rw [UInt8.lt_iff_toNat_lt, UInt8.toNat_ofNat_of_lt' small]
  show ¬value < 128
  omega

/-- The decoder gives back each encoded character. -/
theorem decodeUtf8_char (character : Char) (rest : Bytes) :
    decodeUtf8 (String.utf8EncodeChar character ++ rest) = some character :: decodeUtf8 rest := by
  have valid := character.valid
  have back : Char.ofNat character.val.toNat = character := Char.ofNat_toNat character
  rw [UInt32.isValidChar, Nat.isValidChar] at valid
  rw [String.utf8EncodeChar]
  generalize character.val.toNat = code at valid back
  by_cases one : code ≤ 0x7f
  · have same : (UInt8.ofNat (code + 0)).toNat = code + 0 := toNat_ofNat_add (by omega)
    rw [Nat.add_zero] at same
    rw [if_pos one, List.singleton_append, decodeUtf8, if_pos, same, back]
    rw [UInt8.lt_iff_toNat_lt, same]
    show code < 128
    omega
  rw [if_neg one]
  by_cases two : code ≤ 0x7ff
  · have value : sequenceCode 1 (UInt8.ofNat (code / 64 % 32 + 0xc0))
        [UInt8.ofNat (code % 64 + 0x80)] = code := by
      simp only [sequenceCode, List.foldl_cons, List.foldl_nil]
      rw [toNat_ofNat_add (by omega), toNat_ofNat_add (by omega)]
      omega
    rw [if_pos two, decodeUtf8_sequence (wide_ofNat (by omega) (by omega))
      (sequenceBounds_two _ (by omega) (by omega)) (continues_ofNat code) (by simp [Continues]) rfl,
      value, back]
  rw [if_neg two]
  by_cases three : code ≤ 0xffff
  · have value : sequenceCode 2 (UInt8.ofNat (code / 4096 % 16 + 0xe0))
        [UInt8.ofNat (code / 64 % 64 + 0x80), UInt8.ofNat (code % 64 + 0x80)] = code := by
      simp only [sequenceCode, List.foldl_cons, List.foldl_nil]
      rw [toNat_ofNat_add (by omega), toNat_ofNat_add (by omega), toNat_ofNat_add (by omega)]
      omega
    rw [if_pos three, decodeUtf8_sequence (wide_ofNat (by omega) (by omega))
      (sequenceBounds_three _ (by omega)) _ _ rfl, value, back]
    · rw [UInt8.le_iff_toNat_le, UInt8.le_iff_toNat_le, toNat_ofNat_add (by omega)]
      constructor
      · split
        · show 160 ≤ _
          omega
        · show 128 ≤ _
          omega
      · split
        · show _ ≤ 159
          omega
        · show _ ≤ 191
          omega
    · intro byte member
      rw [List.mem_singleton.mp member]
      exact continues_ofNat code
  · have value : sequenceCode 3 (UInt8.ofNat (code / 262144 % 8 + 0xf0))
        [UInt8.ofNat (code / 4096 % 64 + 0x80), UInt8.ofNat (code / 64 % 64 + 0x80),
          UInt8.ofNat (code % 64 + 0x80)] = code := by
      simp only [sequenceCode, List.foldl_cons, List.foldl_nil]
      rw [toNat_ofNat_add (by omega), toNat_ofNat_add (by omega), toNat_ofNat_add (by omega),
        toNat_ofNat_add (by omega)]
      omega
    rw [if_neg three, decodeUtf8_sequence (wide_ofNat (by omega) (by omega))
      (sequenceBounds_four _ (by omega)) _ _ rfl, value, back]
    · rw [UInt8.le_iff_toNat_le, UInt8.le_iff_toNat_le, toNat_ofNat_add (by omega)]
      constructor
      · split
        · show 144 ≤ _
          omega
        · show 128 ≤ _
          omega
      · split
        · show _ ≤ 143
          omega
        · show _ ≤ 191
          omega
    · intro byte member
      rcases List.mem_cons.mp member with rfl | member
      · exact continues_ofNat (code / 64)
      · rw [List.mem_singleton.mp member]
        exact continues_ofNat code

/-- The decoder reads an encoded text as its characters. -/
theorem decodeUtf8_encodeUtf8 (text : String) :
    decodeUtf8 (encodeUtf8 text) = text.toList.map some := by
  rw [encodeUtf8_eq]
  induction text.toList with
  | nil => simp [decodeUtf8]
  | cons character characters ih =>
      rw [List.flatMap_cons, decodeUtf8_char, ih, List.map_cons]

/-- Decoding gives back the encoded text. -/
theorem decodeStrict_encodeUtf8 (text : String) : decodeStrict (encodeUtf8 text) = .ok text := by
  have characters : (text.toList.map some).filterMap id = text.toList := by
    rw [List.filterMap_map]
    exact List.filterMap_some
  rw [decodeStrict, decodeUtf8_encodeUtf8]
  simp only [characters, String.ofList_toList]
  apply if_pos
  rw [List.all_map]
  exact List.all_eq_true.mpr fun character _ => rfl

end FaultInject.Python
