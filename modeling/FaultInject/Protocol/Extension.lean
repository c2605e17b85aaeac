import FaultInject.Codec.Numbers
import FaultInject.Protocol.ClientHello

/-
This file states the extensions of a ClientHello and the removal of one group.
-/

namespace FaultInject.Protocol
open Python Codec

/-- A key share entry has a group and a key exchange value. -/
abbrev KeyShareEntry := Item .u16

/-- An extension of the two group types has a typed payload. -/
inductive Extension where
  | supportedGroups (codes : List (Number 2)) (fits : 2 + (encodeNumbers codes).length < 65536)
  | keyShare (entries : List KeyShareEntry) (fits : 2 + (encodeAll entries).length < 65536)
  | other (item : Item .u16) (notGroups : item.tag ≠ 0x000A) (notShares : item.tag ≠ 0x0033)

namespace Extension

def toItem : Extension → Item .u16
  | supportedGroups codes fits =>
      ⟨0x000A, vector 2 (encodeNumbers codes), by decide, by rw [length_vector]; exact fits⟩
  | keyShare entries fits =>
      ⟨0x0033, vector 2 (encodeAll entries), by decide, by rw [length_vector]; exact fits⟩
  | other item _ _ => item

/-- A group list is the codes that the removal keeps and the codes that it drops. -/
theorem length_filter_codes (group : Nat) (codes : List (Number 2)) :
    (encodeNumbers (codes.filter fun code => code.val != group)).length +
      2 * codes.countP (fun code => code.val == group) = (encodeNumbers codes).length := by
  have parts := List.length_eq_length_filter_add (l := codes) fun code : Number 2 => code.val == group
  rw [length_encodeNumbers, length_encodeNumbers, List.countP_eq_length_filter]
  simp only [bne]
  omega

/-- The removal of a group never lengthens the group list. -/
theorem filter_codes_le (group : Nat) (codes : List (Number 2)) :
    (encodeNumbers (codes.filter fun code => code.val != group)).length ≤
      (encodeNumbers codes).length :=
  Nat.le_of_add_right_le (Nat.le_of_eq (length_filter_codes group codes))

/-- An entry list is the entries that the removal keeps and the entries that it drops. -/
theorem length_filter_entries (group : Nat) (entries : List KeyShareEntry) :
    (encodeAll (entries.filter fun entry => entry.tag != group)).length +
      (encodeAll (entries.filter fun entry => entry.tag == group)).length =
        (encodeAll entries).length := by
  induction entries with
  | nil => rfl
  | cons entry entries ih =>
      rw [List.filter_cons, List.filter_cons, bne]
      cases entry.tag == group <;>
        simp only [Bool.not_false, Bool.not_true, if_true, Bool.false_eq_true, if_false,
          encodeAll_cons, List.length_append] <;>
        omega

/-- The removal of a group never lengthens the entry list. -/
theorem filter_entries_le (group : Nat) (entries : List KeyShareEntry) :
    (encodeAll (entries.filter fun entry => entry.tag != group)).length ≤
      (encodeAll entries).length :=
  Nat.le_of_add_right_le (Nat.le_of_eq (length_filter_entries group entries))

/-- The removal drops every code and every entry of the group. -/
def without (group : Nat) : Extension → Extension
  | supportedGroups codes fits =>
      supportedGroups (codes.filter fun code => code.val != group)
        (Nat.lt_of_le_of_lt (Nat.add_le_add_left (filter_codes_le group codes) 2) fits)
  | keyShare entries fits =>
      keyShare (entries.filter fun entry => entry.tag != group)
        (Nat.lt_of_le_of_lt (Nat.add_le_add_left (filter_entries_le group entries) 2) fits)
  | other item notGroups notShares => other item notGroups notShares

/-- The extension lists the group. -/
def mentions (group : Nat) : Extension → Bool
  | supportedGroups codes _ => codes.any fun code => code.val == group
  | keyShare entries _ => entries.any fun entry => entry.tag == group
  | other _ _ _ => false

/-- An extension that does not list the group is unchanged. -/
theorem without_of_not_mentions {group : Nat} {extension : Extension}
    (absent : extension.mentions group = false) : extension.without group = extension := by
  cases extension with
  | supportedGroups codes fits =>
      have same : (codes.filter fun code => code.val != group) = codes := by
        rw [List.filter_eq_self]
        simpa [mentions] using absent
      simp only [without, same]
  | keyShare entries fits =>
      have same : (entries.filter fun entry => entry.tag != group) = entries := by
        rw [List.filter_eq_self]
        simpa [mentions] using absent
      simp only [without, same]
  | other item notGroups notShares => rfl

/-- These are the bytes of the codes or of the entries that the removal drops. -/
def removedBytes (group : Nat) : Extension → Nat
  | supportedGroups codes _ => 2 * codes.countP fun code => code.val == group
  | keyShare entries _ => (encodeAll (entries.filter fun entry => entry.tag == group)).length
  | other _ _ _ => 0

/-- The removal shortens an extension by what it drops. -/
theorem length_without (group : Nat) (extension : Extension) :
    (extension.without group).toItem.encode.length + extension.removedBytes group =
      extension.toItem.encode.length := by
  cases extension with
  | supportedGroups codes fits =>
      simp only [without, toItem, removedBytes, Item.length_encode, length_vector, Nat.add_assoc]
      rw [length_filter_codes]
  | keyShare entries fits =>
      simp only [without, toItem, removedBytes, Item.length_encode, length_vector, Nat.add_assoc]
      rw [length_filter_entries]
  | other item notGroups notShares => rfl

/-- These are the key share entries of the extension. -/
def entries : Extension → List KeyShareEntry
  | keyShare entries _ => entries
  | _ => []

/-- A group list replaces the group list before it. -/
def groupsAfter (groups : List Nat) : Extension → List Nat
  | supportedGroups codes _ => codes.map Fin.val
  | _ => groups

@[simp] theorem entries_without (group : Nat) (extension : Extension) :
    (extension.without group).entries =
      extension.entries.filter fun entry => entry.tag != group := by
  cases extension <;> rfl

/-- The removal filters the group list that the extension leaves. -/
theorem groupsAfter_without (group : Nat) (groups : List Nat) (extension : Extension) :
    (extension.without group).groupsAfter (groups.filter fun code => code != group) =
      (extension.groupsAfter groups).filter fun code => code != group := by
  cases extension with
  | supportedGroups codes fits =>
      simp only [without, groupsAfter, List.filter_map]
      rfl
  | keyShare entries fits => rfl
  | other item notGroups notShares => rfl

end Extension

/-- These are the key share entries of all extensions in order. -/
def keyShares (extensions : List Extension) : List KeyShareEntry :=
  extensions.flatMap Extension.entries

/-- This is the last group list. -/
def advertisedGroups (extensions : List Extension) : List Nat :=
  extensions.foldl Extension.groupsAfter []

/-- The removal filters the key share entries. -/
theorem keyShares_without (group : Nat) (extensions : List Extension) :
    keyShares (extensions.map (Extension.without group)) =
      (keyShares extensions).filter fun entry => entry.tag != group := by
  induction extensions with
  | nil => rfl
  | cons extension extensions ih =>
      simp only [keyShares, List.map_cons, List.flatMap_cons, List.filter_append,
        Extension.entries_without] at ih ⊢
      rw [ih]

/-- The removal filters the advertised groups. -/
theorem advertisedGroups_without (group : Nat) (extensions : List Extension) :
    advertisedGroups (extensions.map (Extension.without group)) =
      (advertisedGroups extensions).filter fun code => code != group := by
  have run (groups : List Nat) :
      (extensions.map (Extension.without group)).foldl Extension.groupsAfter
          (groups.filter fun code => code != group) =
        (extensions.foldl Extension.groupsAfter groups).filter fun code => code != group := by
    induction extensions generalizing groups with
    | nil => rfl
    | cons extension extensions ih =>
        rw [List.map_cons, List.foldl_cons, Extension.groupsAfter_without, ih, List.foldl_cons]
  exact run []

/-- No later extension changes the group list when none of them has one. -/
theorem foldl_groupsAfter_of_absent {extensions : List Extension}
    (absent : ∀ extension ∈ extensions, extension.toItem.tag ≠ 0x000A) (groups : List Nat) :
    extensions.foldl Extension.groupsAfter groups = groups := by
  induction extensions with
  | nil => rfl
  | cons extension extensions ih =>
      have head := absent extension List.mem_cons_self
      have tail := ih fun other member => absent other (List.mem_cons_of_mem _ member)
      cases extension with
      | supportedGroups codes fits => exact absurd rfl head
      | keyShare entries fits => exact tail
      | other item notGroups notShares => exact tail

/-- Extensions without a key share have no entries. -/
theorem keyShares_of_absent {extensions : List Extension}
    (absent : ∀ extension ∈ extensions, extension.toItem.tag ≠ 0x0033) :
    keyShares extensions = [] := by
  rw [keyShares, List.flatMap_eq_nil_iff]
  intro extension member
  have tag := absent extension member
  cases extension with
  | supportedGroups codes fits => rfl
  | keyShare entries fits => exact absurd rfl tag
  | other item notGroups notShares => rfl

/-- The block has the extensions in order. -/
def encodeExtensions (extensions : List Extension) : Bytes :=
  encodeAll (extensions.map Extension.toItem)

@[simp] theorem encodeExtensions_nil : encodeExtensions [] = [] := rfl

@[simp] theorem encodeExtensions_cons (extension : Extension) (extensions : List Extension) :
    encodeExtensions (extension :: extensions) =
      extension.toItem.encode ++ encodeExtensions extensions := rfl

/-- The removal drops these bytes from all extensions. -/
def removedBytes (group : Nat) : List Extension → Nat
  | [] => 0
  | extension :: extensions => extension.removedBytes group + removedBytes group extensions

/-- The removal shortens the block by what it drops from every extension. -/
theorem length_encodeExtensions_without (group : Nat) (extensions : List Extension) :
    (encodeExtensions (extensions.map (Extension.without group))).length +
      removedBytes group extensions = (encodeExtensions extensions).length := by
  induction extensions with
  | nil => rfl
  | cons extension extensions ih =>
      have head := extension.length_without group
      simp only [List.map_cons, encodeExtensions_cons, List.length_append, removedBytes]
      omega

/-- The removal never lengthens the block. -/
theorem length_encodeExtensions_without_le (group : Nat) (extensions : List Extension) :
    (encodeExtensions (extensions.map (Extension.without group))).length ≤
      (encodeExtensions extensions).length :=
  Nat.le_of_add_right_le (Nat.le_of_eq (length_encodeExtensions_without group extensions))

/-- The removal keeps extensions that do not list the group. -/
theorem map_without_of_not_mentions {group : Nat} {extensions : List Extension}
    (absent : extensions.any (Extension.mentions group) = false) :
    extensions.map (Extension.without group) = extensions := by
  have each (extension : Extension) (member : extension ∈ extensions) :
      extension.without group = extension := by
    apply Extension.without_of_not_mentions
    have all := List.any_eq_false.mp absent extension member
    simpa using all
  exact (List.map_congr_left each).trans (List.map_id' extensions)

/-- A ClientHello is the only message of its record and nothing follows its extensions. -/
structure ClientHello where
  recordVersion : Bytes
  preamble : Preamble
  extensions : List Extension
  versionWidth : recordVersion.length = 2
  recordFits : 6 + preamble.encode.length + (encodeExtensions extensions).length < 65536

namespace ClientHello

/-- This is the record of the ClientHello. Every length field counts what follows it. -/
def encode (hello : ClientHello) : Bytes :=
  0x16 :: (hello.recordVersion ++ vector 2 (0x01 :: vector 3
    (hello.preamble.encode ++ vector 2 (encodeExtensions hello.extensions))))

/-- The removal filters every extension and keeps all other fields. -/
def without (group : Nat) (hello : ClientHello) : ClientHello :=
  { hello with
    extensions := hello.extensions.map (Extension.without group)
    recordFits := by
      have shorter := length_encodeExtensions_without_le group hello.extensions
      have fits := hello.recordFits
      omega }

/-- The record and the bytes behind it form a framing without gaps. -/
def framing (hello : ClientHello) (trailing : Bytes) : Framing where
  recordVersion := hello.recordVersion
  preamble := hello.preamble
  block := encodeExtensions hello.extensions
  afterBlock := []
  afterMessage := []
  afterRecord := trailing
  versionWidth := hello.versionWidth
  blockFits := by have fits := hello.recordFits; omega
  recordFits := by simpa using hello.recordFits

theorem encode_framing (hello : ClientHello) (trailing : Bytes) :
    (hello.framing trailing).encode = hello.encode ++ trailing := by
  simp [Framing.encode, Framing.fragment, Framing.body, framing, encode, vector]

end ClientHello

/-- The extensions of this ClientHello have distinct types. -/
structure DistinctClientHello extends ClientHello where
  distinct : extensions.Pairwise fun first second => first.toItem.tag ≠ second.toItem.tag

namespace DistinctClientHello

/-- These are the codes of the supported groups extension, if there is one. -/
def groups (hello : DistinctClientHello) : Option (List Nat) :=
  hello.extensions.findSome? fun
    | .supportedGroups codes _ => some (codes.map Fin.val)
    | _ => none

/-- These are the entries of the key share extension, if there is one. -/
def shares (hello : DistinctClientHello) : Option (List KeyShareEntry) :=
  hello.extensions.findSome? fun
    | .keyShare entries _ => some entries
    | _ => none

/-- The one group list is the last group list. -/
theorem advertisedGroups_eq (hello : DistinctClientHello) :
    advertisedGroups hello.extensions = hello.groups.getD [] := by
  have distinct := hello.distinct
  rw [advertisedGroups, groups]
  generalize hello.extensions = extensions at distinct
  induction distinct with
  | nil => rfl
  | @cons extension extensions others _ ih =>
      cases extension with
      | supportedGroups codes fits =>
          exact foldl_groupsAfter_of_absent (fun other member => (others other member).symm) _
      | keyShare entries fits => exact ih
      | other item notGroups notShares => exact ih

/-- The one entry list has the entries of all key shares. -/
theorem keyShares_eq (hello : DistinctClientHello) :
    keyShares hello.extensions = hello.shares.getD [] := by
  have distinct := hello.distinct
  rw [shares]
  generalize hello.extensions = extensions at distinct
  induction distinct with
  | nil => rfl
  | @cons extension extensions others _ ih =>
      cases extension with
      | supportedGroups codes fits => exact ih
      | keyShare entries fits =>
          have absent := keyShares_of_absent fun other member => (others other member).symm
          show entries ++ keyShares extensions = entries
          rw [absent, List.append_nil]
      | other item notGroups notShares => exact ih

end DistinctClientHello

end FaultInject.Protocol
