import FaultInject.Codec.Tlv
import FaultInject.Python.Text

/-
This file states the binary packet of an SSH KEXINIT message.
-/

namespace FaultInject.Protocol
open Python Codec

/-- An algorithm name is a nonempty ASCII text without a comma. -/
structure AlgorithmName where
  text : String
  nonempty : text ≠ ""
  ascii : IsAscii text
  noComma : ',' ∉ text.toList

def nameText (names : List AlgorithmName) : String := join ',' (names.map AlgorithmName.text)

/-- A name list is a comma-separated text. -/
def nameList (names : List AlgorithmName) : Bytes := asciiBytes (nameText names)

/-- The joined names are an ASCII text. -/
theorem nameText_isAscii (names : List AlgorithmName) : IsAscii (nameText names) := by
  apply isAscii_join (by decide)
  intro part member
  obtain ⟨name, _, rfl⟩ := List.mem_map.mp member
  exact name.ascii

/-- Only the empty list has the empty text. -/
theorem nameText_eq_empty {names : List AlgorithmName} : nameText names = "" ↔ names = [] := by
  constructor
  · intro empty
    cases names with
    | nil => rfl
    | cons name names =>
        obtain ⟨character, inside⟩ := List.exists_mem_of_ne_nil name.text.toList
          (fun none => name.nonempty (String.toList_eq_nil_iff.mp none))
        have member : character ∈ (nameText (name :: names)).toList :=
          mem_join_of_mem List.mem_cons_self inside
        rw [empty] at member
        cases member
  · rintro rfl
    rfl

/-- A payload is one KEXINIT message with raw names. -/
def kexInitPayload (cookie names rest : Bytes) : Bytes :=
  [20] ++ (cookie ++ (vector 4 names ++ rest))

/-- A packet counts its padding length byte, its payload and its padding. -/
def sshPacket (payload padding : Bytes) : Bytes :=
  bigEndian 4 (1 + payload.length + padding.length) ++
    ([UInt8.ofNat padding.length] ++ (payload ++ padding))

@[simp] theorem length_kexInitPayload (cookie names rest : Bytes) :
    (kexInitPayload cookie names rest).length =
      5 + cookie.length + names.length + rest.length := by
  simp only [kexInitPayload, List.length_singleton, List.length_append, length_vector]
  omega

@[simp] theorem length_sshPacket (payload padding : Bytes) :
    (sshPacket payload padding).length = 5 + payload.length + padding.length := by
  simp only [sshPacket, List.length_singleton, List.length_append, length_bigEndian]
  omega

/-- A KEXINIT packet has a cookie, the names of the key exchange algorithms, the
remaining payload and the padding. -/
structure KexInit where
  cookie : Bytes
  algorithms : List AlgorithmName
  rest : Bytes
  padding : Bytes
  cookieWidth : cookie.length = 16
  paddingFits : padding.length < 256
  packetFits : 22 + (nameList algorithms).length + rest.length + padding.length < 2 ^ 32

namespace KexInit

def encode (packet : KexInit) : Bytes :=
  sshPacket (kexInitPayload packet.cookie (nameList packet.algorithms) packet.rest) packet.padding

/-- These are the names of the key exchange algorithms. -/
def names (packet : KexInit) : List String := packet.algorithms.map AlgorithmName.text

/-- The removal never lengthens the name list. -/
theorem length_nameList_filter_le (keep : AlgorithmName → Bool) (names : List AlgorithmName) :
    (nameList (names.filter keep)).length ≤ (nameList names).length := by
  rw [nameList, nameList, length_asciiBytes, length_asciiBytes]
  exact length_join_le (List.filter_sublist.map AlgorithmName.text)

/-- The removal drops every occurrence of the name and keeps all other fields. -/
def without (algorithm : String) (packet : KexInit) : KexInit :=
  { packet with
    algorithms := packet.algorithms.filter fun name => name.text != algorithm
    packetFits := by
      have shorter := length_nameList_filter_le (fun name => name.text != algorithm)
        packet.algorithms
      have fits := packet.packetFits
      omega }

theorem names_without (algorithm : String) (packet : KexInit) :
    (packet.without algorithm).names = packet.names.filter fun name => name != algorithm := by
  rw [names, names, without, List.filter_map]
  rfl

end KexInit

end FaultInject.Protocol
