import FaultInject.Construction.PcapHello
import FaultInject.Proof.KeyShare

namespace FaultInject.PcapHello
open Python Codec Protocol TlsClientHello

/-- The loop over the extensions returns exactly when its body returns on a tiling. -/
theorem forExtensions_eq_ok {S : Type} {data : Bytes} {start stop : Nat}
    {body : S → Nat → Bytes → Result S} {state result : S} (inside : stop ≤ data.length)
    (within : start ≤ stop) :
    forExtensions data start stop body state = .ok result ↔
      ∃ items : List (Item .u16), Tiles data start stop items ∧
        items.foldlM (fun state item => body state item.tag item.value) state = .ok result := by
  have reads (state : S) (cursor : Nat) (item : Item .u16)
      (carried : BytesAt data cursor item.encode) :
      body state item.tag (slice data (cursor + 4) (cursor + 4 + item.value.length)) =
        body state item.tag item.value := by
    rw [Item.slice_value carried]
  rw [forExtensions, extensionWalker.walk_eq_ok data stop _ inside start state result within]
  refine exists_congr fun items => and_congr_right fun tiles => ?_
  rw [visitAll_eq_foldlM reads items start state tiles]

/-- The share loop reads the groups of a tiling. -/
theorem shareCodes_tiles {payload : Bytes} (entries : List KeyShareEntry) (cursor : Nat)
    (shares : List Nat) (tiles : Tiles payload cursor payload.length entries) :
    shareCodes payload cursor shares = .ok (shares ++ entries.map Item.tag) := by
  induction entries generalizing cursor shares with
  | nil =>
      rw [tiles_nil] at tiles
      rw [shareCodes, if_neg (by omega), List.map_nil, List.append_nil]
  | cons entry entries ih =>
      rw [tiles_cons] at tiles
      have ends := tiles.2.2
      have width : entry.encode.length = 4 + entry.value.length := Item.length_encode entry
      have groupRead : readU16 payload cursor = .ok entry.tag :=
        readU16_of_bytesAt entry.tagFits (Item.tag_at tiles.1)
      have lengthRead : readU16 payload (cursor + 2) = .ok entry.value.length :=
        readU16_of_bytesAt entry.valueFits (Item.length_at tiles.1)
      rw [shareCodes, if_pos (by omega), groupRead, ok_bind, lengthRead, ok_bind, ← width,
        ih _ _ tiles.2, List.map_cons, List.append_assoc, List.singleton_append]

/-- The body of the loop reads a typed extension. -/
theorem clientHelloExtension_toItem (groups shares : List Nat) (extension : Extension) :
    clientHelloExtension (groups, shares) extension.toItem.tag extension.toItem.value =
      .ok (extension.groupsAfter groups, shares ++ extension.entries.map Item.tag) := by
  cases extension with
  | supportedGroups codes fits =>
      have carried : BytesAt (vector 2 (encodeNumbers codes)) 2 (encodeNumbers codes) := by
        simpa [vector] using bytesAt_of_append (bigEndian 2 (encodeNumbers codes).length)
          (encodeNumbers codes) []
      have codesRead := mapM_readField_range truncatedField (by decide) _ 2
        (vector 2 (encodeNumbers codes)).length codes carried (by simp)
      have read : (range 2 (vector 2 (encodeNumbers codes)).length 2).mapM
          (fun index => readU16 (vector 2 (encodeNumbers codes)) index) =
          .ok (codes.map Fin.val) := codesRead
      simp only [clientHelloExtension, Extension.toItem, tlsSupportedGroups, if_true, read, ok_bind]
      simp [Extension.groupsAfter, Extension.entries]
  | keyShare entries fits =>
      simp only [clientHelloExtension, Extension.toItem, tlsSupportedGroups, tlsKeyShare, if_true,
        shareCodes_tiles entries 2 shares (tiles_vector entries), ok_bind]
      exact if_neg (by decide)
  | other item notGroups notShares =>
      have kept : clientHelloExtension (groups, shares) item.tag item.value =
          .ok (groups, shares) := by
        rw [clientHelloExtension, if_neg (show item.tag ≠ tlsSupportedGroups from notGroups),
          if_neg (show item.tag ≠ tlsKeyShare from notShares)]
      simpa [Extension.toItem, Extension.groupsAfter, Extension.entries] using kept

/-- The loop keeps the last group list and collects the groups of all entries. -/
theorem clientHelloExtension_foldlM (extensions : List Extension) (groups shares : List Nat) :
    (extensions.map Extension.toItem).foldlM (fun state item =>
        clientHelloExtension state item.tag item.value) (groups, shares) =
      .ok (extensions.foldl Extension.groupsAfter groups,
        shares ++ (keyShares extensions).map Item.tag) := by
  induction extensions generalizing groups shares with
  | nil => simp [keyShares]
  | cons extension extensions ih =>
      rw [List.map_cons, List.foldlM_cons, clientHelloExtension_toItem, ok_bind, ih]
      simp [keyShares]

/-- The client parser returns exactly when the loop returns on the items of a framing. -/
theorem clientHello_eq_ok {record : Bytes} {result : List Nat × List Nat} :
    clientHello record = .ok result ↔
      ∃ (framing : Framing) (items : List (Item .u16)), framing.encode = record ∧
        framing.block = encodeAll items ∧
        items.foldlM (fun state item => clientHelloExtension state item.tag item.value) ([], []) =
          .ok result := by
  constructor
  · intro returned
    rw [clientHello] at returned
    obtain ⟨⟨start, stop⟩, header, looped⟩ := bind_eq_ok.mp returned
    obtain ⟨framing, rfl, rfl, rfl⟩ := clientHelloExtensions_eq_ok.mp header
    obtain ⟨items, tiles, folded⟩ :=
      (forExtensions_eq_ok framing.block_end (Nat.le_add_right _ _)).mp looped
    exact ⟨framing, items, rfl,
      framing.block_at.unique tiles.1 (Nat.add_left_cancel tiles.2), folded⟩
  · rintro ⟨framing, items, rfl, block, folded⟩
    have carried := framing.block_at
    have tiles : Tiles framing.encode framing.blockStart
        (framing.blockStart + framing.block.length) items := by
      rw [block] at carried ⊢
      exact ⟨carried, rfl⟩
    rw [clientHello, clientHelloExtensions_encode, ok_bind]
    exact (forExtensions_eq_ok framing.block_end (Nat.le_add_right _ _)).mpr
      ⟨items, tiles, folded⟩

/-- The client parser reads a framing with typed extensions. -/
theorem clientHello_framing (framing : Framing) {extensions : List Extension}
    (block : framing.block = encodeExtensions extensions) :
    clientHello framing.encode =
      .ok (advertisedGroups extensions, (keyShares extensions).map Item.tag) := by
  refine clientHello_eq_ok.mpr ⟨framing, extensions.map Extension.toItem, rfl, block, ?_⟩
  rw [clientHelloExtension_foldlM, List.nil_append]
  rfl

/-- This is the group of a share and the bytes at which it points. -/
def pointedShare (record : Bytes) (share : Nat × Nat × Nat) : Nat × Bytes :=
  (share.1, slice record share.2.1 (share.2.1 + share.2.2))

/-- Shares that point at entries give the groups and the values of the entries. -/
theorem map_pointedShare {record : Bytes} {shares : List (Nat × Nat × Nat)}
    {entries : List KeyShareEntry} (points : List.Forall₂ (PointsAt record) shares entries) :
    shares.map (pointedShare record) = entries.map fun entry => (entry.tag, entry.value) := by
  induction points with
  | nil => rfl
  | cons point _ ih =>
      rw [List.map_cons, List.map_cons, ih, pointedShare, point.1, point.2.2]

/-- Shares and entries of one group are dropped together. -/
theorem filter_pointsAt {record : Bytes} {group : Nat} {shares : List (Nat × Nat × Nat)}
    {entries : List KeyShareEntry} (points : List.Forall₂ (PointsAt record) shares entries) :
    List.Forall₂ (PointsAt record) (shares.filter fun share => share.1 != group)
      (entries.filter fun entry => entry.tag != group) := by
  induction points with
  | nil => exact List.Forall₂.nil
  | cons point _ ih =>
      rw [List.filter_cons, List.filter_cons, point.1]
      split
      · exact List.Forall₂.cons point ih
      · exact ih

/-- A returned record is a framing of the extensions without the group. -/
theorem stripHybrid_eq_ok {record result : Bytes} {group : Nat}
    (returned : stripHybrid record group = .ok result) :
    ∃ (before after : Framing) (extensions : List Extension),
      before.encode = record ∧ before.block = encodeExtensions extensions ∧
      after.encode = result ∧
      after.block = encodeExtensions (extensions.map (Extension.without group)) := by
  obtain ⟨framing, extensions, rfl, block⟩ := stripHybrid_accepts returned
  rw [stripHybrid_framing framing group block] at returned
  split at returned
  · cases returned
    exact ⟨framing, _, extensions, rfl, block, rfl, rfl⟩
  · rename_i absent
    cases returned
    refine ⟨framing, framing, extensions, rfl, block, rfl, ?_⟩
    rw [map_without_of_not_mentions (eq_false_of_ne_true absent), block]

/-- The two parsers agree on every record that the stripper accepts, and they read
its output as the input without the group. -/
theorem parsers_agree_stripHybrid {record result : Bytes} {group : Nat}
    (returned : stripHybrid record group = .ok result) :
    ∃ groups codes shares retained,
      clientHello record = .ok (groups, codes) ∧
      findKeyShare record = .ok shares ∧
      codes = shares.map Prod.fst ∧
      clientHello result = .ok (groups.filter fun code => code != group,
        codes.filter fun code => code != group) ∧
      findKeyShare result = .ok retained ∧
      retained.map (pointedShare result) =
        (shares.filter fun share => share.1 != group).map (pointedShare record) := by
  obtain ⟨before, after, extensions, rfl, block, rfl, stripped⟩ := stripHybrid_eq_ok returned
  obtain ⟨shares, found, points⟩ := findKeyShare_framing before block
  obtain ⟨retained, refound, repoints⟩ := findKeyShare_framing after stripped
  refine ⟨advertisedGroups extensions, (keyShares extensions).map Item.tag, shares, retained,
    clientHello_framing before block, found, (map_fst_of_pointsAt points).symm, ?_, refound, ?_⟩
  · rw [clientHello_framing after stripped, advertisedGroups_without, keyShares_without,
      List.filter_map]
    rfl
  · rw [keyShares_without] at repoints
    rw [map_pointedShare repoints, map_pointedShare (filter_pointsAt points)]

/-- This record advertises the group 0x11EC before the group 0x001D and has a share of both. -/
def sampleHello : Bytes :=
  [0x16, 0x03, 0x01, 0x00, 0x49, 0x01, 0x00, 0x00, 0x45, 0x03, 0x03] ++ List.replicate 32 0 ++
    [0x00, 0x00, 0x02, 0x13, 0x01, 0x01, 0x00, 0x00, 0x1a] ++
    [0x00, 0x0a, 0x00, 0x06, 0x00, 0x04, 0x11, 0xec, 0x00, 0x1d] ++
    [0x00, 0x33, 0x00, 0x0c, 0x00, 0x0a, 0x11, 0xec, 0x00, 0x01, 0x00, 0x00, 0x1d, 0x00, 0x01, 0x00]

theorem parsers_agree_stripHybrid_sample : ∃ result groups codes,
    stripHybrid sampleHello 0x11EC = .ok result ∧
    clientHello sampleHello = .ok (groups, codes) ∧
    clientHello result = .ok (groups.filter fun code => code != 0x11EC,
      codes.filter fun code => code != 0x11EC) := by
  have accepted : (stripHybrid sampleHello 0x11EC).toOption.isSome = true := by decide +kernel
  obtain ⟨result, found⟩ := Option.isSome_iff_exists.mp accepted
  have returned := toOption_eq_some.mp found
  obtain ⟨groups, codes, _, _, parsed, _, _, reparsed, _⟩ := parsers_agree_stripHybrid returned
  exact ⟨result, groups, codes, returned, parsed, reparsed⟩

end FaultInject.PcapHello
