import FaultInject.Codec.Complement
import FaultInject.Protocol.Extension

/-
This file states the key share entries of a ClientHello and their offsets.
-/

namespace FaultInject.Protocol
open Python Codec

/-- An extension of the key share type has entries. Any other extension is opaque. -/
inductive ShareExtension where
  | keyShare (entries : List KeyShareEntry) (fits : 2 + (encodeAll entries).length < 65536)
  | other (item : Item .u16) (notShares : item.tag ≠ 0x0033)

/-- These are the group, the value offset and the value length of each entry. -/
def entryShares : Nat → List KeyShareEntry → List (Nat × Nat × Nat)
  | _, [] => []
  | cursor, entry :: entries =>
      (entry.tag, cursor + 4, entry.value.length) ::
        entryShares (cursor + entry.encode.length) entries

theorem entryShares_append (cursor : Nat) (first second : List KeyShareEntry) :
    entryShares cursor (first ++ second) =
      entryShares cursor first ++ entryShares (cursor + (encodeAll first).length) second := by
  induction first generalizing cursor with
  | nil => rfl
  | cons entry entries ih =>
      simp only [List.cons_append, entryShares, ih, encodeAll_cons, List.length_append, Nat.add_assoc]

namespace ShareExtension

def toItem : ShareExtension → Item .u16
  | keyShare entries fits => (Extension.keyShare entries fits).toItem
  | other item _ => item

/-- The entries stand behind the extension header and the vector length. -/
def shares (cursor : Nat) : ShareExtension → List (Nat × Nat × Nat)
  | keyShare entries _ => entryShares (cursor + 6) entries
  | other _ _ => []

end ShareExtension

/-- This is the extension block. -/
def encodeShares (extensions : List ShareExtension) : Bytes :=
  encodeAll (extensions.map ShareExtension.toItem)

@[simp] theorem encodeShares_nil : encodeShares [] = [] := rfl

@[simp] theorem encodeShares_cons (extension : ShareExtension) (extensions : List ShareExtension) :
    encodeShares (extension :: extensions) = extension.toItem.encode ++ encodeShares extensions := rfl

theorem encodeShares_append (first second : List ShareExtension) :
    encodeShares (first ++ second) = encodeShares first ++ encodeShares second := by
  rw [encodeShares, List.map_append, encodeAll_append]
  rfl

/-- These are the shares of all extensions of a block at the cursor. -/
def blockShares : Nat → List ShareExtension → List (Nat × Nat × Nat)
  | _, [] => []
  | cursor, extension :: extensions =>
      extension.shares cursor ++ blockShares (cursor + extension.toItem.encode.length) extensions

theorem blockShares_append (cursor : Nat) (first second : List ShareExtension) :
    blockShares cursor (first ++ second) =
      blockShares cursor first ++ blockShares (cursor + (encodeShares first).length) second := by
  induction first generalizing cursor with
  | nil => rfl
  | cons extension extensions ih =>
      simp only [List.cons_append, blockShares, ih, encodeShares_cons, List.length_append,
        List.append_assoc, Nat.add_assoc]

/-- A share of an entry list points at one of its entries. -/
theorem exists_entry_of_mem {cursor : Nat} {entries : List KeyShareEntry} {share : Nat × Nat × Nat}
    (member : share ∈ entryShares cursor entries) :
    ∃ first entry rest, entries = first ++ entry :: rest ∧
      share = (entry.tag, cursor + (encodeAll first).length + 4, entry.value.length) := by
  induction entries generalizing cursor with
  | nil => cases member
  | cons entry entries ih =>
      rw [entryShares] at member
      rcases List.mem_cons.mp member with rfl | behind
      · exact ⟨[], entry, entries, rfl, rfl⟩
      · obtain ⟨first, found, rest, rfl, rfl⟩ := ih behind
        refine ⟨entry :: first, found, rest, rfl, ?_⟩
        rw [encodeAll_cons, List.length_append, Nat.add_assoc cursor]

/-- A place is one entry of one key share extension of a block. -/
structure Place where
  front : List ShareExtension
  first : List KeyShareEntry
  entry : KeyShareEntry
  rest : List KeyShareEntry
  back : List ShareExtension
  fits : 2 + (encodeAll (first ++ entry :: rest)).length < 65536

namespace Place
variable (place : Place)

/-- These are the extensions of the block. -/
def extensions : List ShareExtension :=
  place.front ++ .keyShare (place.first ++ place.entry :: place.rest) place.fits :: place.back

/-- These bytes of the block stand in front of the key exchange value of the entry. -/
def before : Bytes :=
  encodeShares place.front ++ (bigEndian 2 0x0033 ++
    (bigEndian 2 (2 + (encodeAll (place.first ++ place.entry :: place.rest)).length) ++
      (bigEndian 2 (encodeAll (place.first ++ place.entry :: place.rest)).length ++
        (encodeAll place.first ++ (bigEndian 2 place.entry.tag ++
          bigEndian 2 place.entry.value.length)))))

/-- These bytes of the block stand behind the key exchange value of the entry. -/
def after : Bytes := encodeAll place.rest ++ encodeShares place.back

/-- This is the share that the block at the cursor has for the entry. -/
def share (cursor : Nat) : Nat × Nat × Nat :=
  (place.entry.tag, cursor + place.before.length, place.entry.value.length)

theorem length_before :
    place.before.length = (encodeShares place.front).length + 6 + (encodeAll place.first).length + 4 := by
  simp only [before, List.length_append, length_bigEndian]
  omega

/-- The block has the value of the entry between these bytes. -/
theorem encodeShares_extensions :
    encodeShares place.extensions = place.before ++ (place.entry.value ++ place.after) := by
  simp [extensions, encodeShares_append, ShareExtension.toItem, Extension.toItem, Item.encode, vector, before, after,
    Layout.u16_tagWidth, Layout.u16_lengthWidth, encodeAll_append]

/-- The entry has this value instead of its own value of the same length. -/
def withValue (value : Bytes) (same : value.length = place.entry.value.length) : Place :=
  { place with
    entry := ⟨place.entry.tag, value, place.entry.tagFits, by rw [same]; exact place.entry.valueFits⟩
    fits := by
      have fits := place.fits
      simp only [encodeAll_append, encodeAll_cons, List.length_append, Item.length_encode,
        same] at fits ⊢
      exact fits }

section WithValue
variable (value : Bytes) (same : value.length = place.entry.value.length)

/-- Another value of the same length leaves every other byte of the block. -/
theorem before_withValue : (place.withValue value same).before = place.before := by
  simp [before, withValue, encodeAll_append, same]

theorem after_withValue : (place.withValue value same).after = place.after := rfl

theorem length_withValue : (encodeShares (place.withValue value same).extensions).length =
    (encodeShares place.extensions).length := by
  rw [encodeShares_extensions, encodeShares_extensions, before_withValue, after_withValue]
  simp only [List.length_append, withValue, same]

/-- Another value of the same length leaves all shares of the block. -/
theorem blockShares_withValue (cursor : Nat) :
    blockShares cursor (place.withValue value same).extensions =
      blockShares cursor place.extensions := by
  simp [extensions, blockShares_append, blockShares, ShareExtension.shares, entryShares_append,
    entryShares, withValue, ShareExtension.toItem, Extension.toItem, encodeAll_append, same]

end WithValue

end Place

/-- Every share of a block is the share of a place. -/
theorem exists_place_of_mem {cursor : Nat} {extensions : List ShareExtension}
    {share : Nat × Nat × Nat} (member : share ∈ blockShares cursor extensions) :
    ∃ place : Place, place.extensions = extensions ∧ place.share cursor = share := by
  induction extensions generalizing cursor with
  | nil => cases member
  | cons extension extensions ih =>
      rw [blockShares] at member
      rcases List.mem_append.mp member with here | behind
      · cases extension with
        | other item notShares => cases here
        | keyShare entries fits =>
            obtain ⟨first, entry, rest, rfl, rfl⟩ := exists_entry_of_mem here
            let place : Place := ⟨[], first, entry, rest, extensions, fits⟩
            refine ⟨place, rfl, ?_⟩
            rw [Place.share, place.length_before]
            simp only [place, encodeShares_nil, List.length_nil, Prod.mk.injEq, true_and, and_true]
            omega
      · obtain ⟨place, rfl, rfl⟩ := ih behind
        let moved : Place := { place with front := extension :: place.front }
        refine ⟨moved, rfl, ?_⟩
        rw [Place.share, Place.share, moved.length_before, place.length_before]
        simp only [moved, encodeShares_cons, List.length_append, Prod.mk.injEq, true_and, and_true]
        omega

end FaultInject.Protocol
