import FaultInject.Proof.Strip
import FaultInject.Protocol.KeyShare
import Mathlib.Data.List.Forall2

namespace FaultInject.TlsClientHello
open Python Codec Protocol

/-- The offset and the length of a share select the key exchange value of the entry. -/
def PointsAt (record : Bytes) (share : Nat × Nat × Nat) (entry : KeyShareEntry) : Prop :=
  share.1 = entry.tag ∧ share.2.2 = entry.value.length ∧
    slice record share.2.1 (share.2.1 + share.2.2) = entry.value

/-- The entry loop appends the shares of a tiling. -/
theorem visitAll_entryShares (entries : List KeyShareEntry) (cursor : Nat)
    (shares : List (Nat × Nat × Nat)) :
    visitAll (fun shares cursor groupId valueLength =>
        (.ok (shares ++ [(groupId, cursor + 4, valueLength)]) : Result _)) cursor entries shares =
      .ok (shares ++ entryShares cursor entries) := by
  induction entries generalizing cursor shares with
  | nil => rw [visitAll, entryShares, List.append_nil]
  | cons entry entries ih =>
      rw [visitAll, ok_bind, ih, entryShares, List.append_assoc, List.singleton_append]

/-- The shares of a tiling point at its entries. -/
theorem pointsAt_entryShares {record : Bytes} {cursor stop : Nat} {entries : List KeyShareEntry}
    (tiles : Tiles record cursor stop entries) :
    List.Forall₂ (PointsAt record) (entryShares cursor entries) entries := by
  induction entries generalizing cursor with
  | nil => exact List.Forall₂.nil
  | cons entry entries ih =>
      rw [tiles_cons] at tiles
      exact List.Forall₂.cons ⟨rfl, rfl, (Item.value_at tiles.1).slice_eq rfl⟩ (ih tiles.2)

/-- The visit of a key share extension appends the shares of its entries. -/
theorem keyShareExtension_entries {record : Bytes} {cursor : Nat} (entries : List KeyShareEntry)
    (fits : 2 + (encodeAll entries).length < 65536) (shares : List (Nat × Nat × Nat))
    (carried : BytesAt record cursor (Extension.keyShare entries fits).toItem.encode) :
    Tiles record (cursor + 6) (cursor + 6 + (encodeAll entries).length) entries ∧
      keyShareExtension record shares cursor (Extension.keyShare entries fits).toItem.tag
          (Extension.keyShare entries fits).toItem.value.length =
        .ok (shares ++ entryShares (cursor + 6) entries) := by
  have payload : BytesAt record (cursor + 4) (vector 2 (encodeAll entries)) :=
    Item.value_at carried
  have parts := payload
  rw [vector, bytesAt_append, length_bigEndian] at parts
  have ends := payload.end_le (List.ne_nil_of_length_pos (by rw [length_vector]; omega))
  rw [length_vector] at ends
  have tiles : Tiles record (cursor + 6) (cursor + 6 + (encodeAll entries).length) entries :=
    ⟨parts.2, rfl⟩
  apply And.intro tiles
  simp only [keyShareExtension, Extension.toItem, tlsKeyShare, if_true, length_vector]
  rw [readU16_of_bytesAt (by omega) parts.1, ok_bind, if_neg (by omega)]
  exact (entryWalker.walk_eq_ok _ _ _ (by omega) _ _ _ (by omega)).mpr
    ⟨entries, tiles, visitAll_entryShares entries _ shares⟩

/-- The visit of an extension points at every entry of the extension. -/
theorem keyShareExtension_toItem {record : Bytes} {cursor : Nat} (extension : Extension)
    (shares : List (Nat × Nat × Nat)) (carried : BytesAt record cursor extension.toItem.encode) :
    ∃ found, keyShareExtension record shares cursor extension.toItem.tag
        extension.toItem.value.length = .ok (shares ++ found) ∧
      List.Forall₂ (PointsAt record) found extension.entries := by
  cases extension with
  | supportedGroups codes fits => exact ⟨[], by simp [keyShareExtension, Extension.toItem,
      tlsKeyShare], List.Forall₂.nil⟩
  | other item notGroups notShares =>
      refine ⟨[], ?_, List.Forall₂.nil⟩
      rw [List.append_nil]
      exact if_neg notShares
  | keyShare entries fits =>
      obtain ⟨tiles, visited⟩ := keyShareExtension_entries entries fits shares carried
      exact ⟨_, visited, pointsAt_entryShares tiles⟩

/-- The extension loop points at every entry of all extensions. -/
theorem visitAll_keyShareExtension {record : Bytes} {stop : Nat} (extensions : List Extension)
    (cursor : Nat) (shares : List (Nat × Nat × Nat))
    (tiles : Tiles record cursor stop (extensions.map Extension.toItem)) :
    ∃ found, visitAll (keyShareExtension record) cursor (extensions.map Extension.toItem) shares =
        .ok (shares ++ found) ∧
      List.Forall₂ (PointsAt record) found (keyShares extensions) := by
  induction extensions generalizing cursor shares with
  | nil => exact ⟨[], by simp [visitAll], List.Forall₂.nil⟩
  | cons extension extensions ih =>
      rw [List.map_cons, tiles_cons] at tiles
      obtain ⟨first, visited, head⟩ := keyShareExtension_toItem extension shares tiles.1
      obtain ⟨rest, others, tail⟩ := ih _ (shares ++ first) tiles.2
      refine ⟨first ++ rest, ?_, List.rel_append head tail⟩
      rw [List.map_cons, visitAll, visited, ok_bind, others, List.append_assoc]

/-- The search points at every entry of a framing with typed extensions. -/
theorem findKeyShare_framing (framing : Framing) {extensions : List Extension}
    (block : framing.block = encodeExtensions extensions) :
    ∃ shares, findKeyShare framing.encode = .ok shares ∧
      List.Forall₂ (PointsAt framing.encode) shares (keyShares extensions) := by
  have tiles := tiles_block framing block
  obtain ⟨shares, visited, points⟩ := visitAll_keyShareExtension extensions _ [] tiles
  refine ⟨shares, ?_, points⟩
  rw [findKeyShare, clientHelloExtensions_encode, ok_bind]
  exact (extensionWalker.walk_eq_ok _ _ _ framing.block_end _ _ _ (Nat.le_add_right _ _)).mpr
    ⟨_, tiles, visited⟩

/-- The shares list the groups of the entries. -/
theorem map_fst_of_pointsAt {record : Bytes} {shares : List (Nat × Nat × Nat)}
    {entries : List KeyShareEntry} (points : List.Forall₂ (PointsAt record) shares entries) :
    shares.map Prod.fst = entries.map Item.tag := by
  induction points with
  | nil => rfl
  | cons point _ ih => rw [List.map_cons, List.map_cons, ih, point.1]

end FaultInject.TlsClientHello
