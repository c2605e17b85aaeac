import FaultInject.Proof.Framing
import FaultInject.Protocol.Extension

namespace FaultInject.TlsClientHello
open Python Codec Protocol

/-- A vector starts with the length of its body. -/
theorem readU16_vector {body : Bytes} (fits : body.length < 65536) :
    readU16 (vector 2 body) 0 = .ok body.length :=
  readU16_of_bytesAt fits (List.prefix_append _ _)

/-- A payload whose first field counts the remaining bytes is a vector. -/
theorem eq_vector_of_readU16 {payload : Bytes} {length : Nat}
    (read : readU16 payload 0 = .ok length)
    (counts : length = payload.length - 2) : payload = vector 2 (payload.drop 2) := by
  have carried := bytesAt_zero.mp (readU16_eq_ok.mp read).2
  rw [length_bigEndian] at carried
  rw [vector, List.length_drop, ← counts]
  exact carried

/-- The group branch filters a well-formed group vector. -/
theorem stripSupportedGroups_vector (group : Nat) (codes : List (Number 2)) (changed : Bool)
    (fits : 2 + (encodeNumbers codes).length < 65536) :
    stripSupportedGroups group (vector 2 (encodeNumbers codes)) changed =
      .ok (vector 2 (encodeNumbers (codes.filter fun code => code.val != group)),
        changed || codes.any fun code => code.val == group) := by
  have carried : BytesAt (vector 2 (encodeNumbers codes)) 2 (encodeNumbers codes) := by
    simpa [vector] using bytesAt_of_append (bigEndian 2 (encodeNumbers codes).length)
      (encodeNumbers codes) []
  have size : (encodeNumbers codes).length = 2 * codes.length := length_encodeNumbers codes
  have groups := map_slice_range (by decide) _ 2 (vector 2 (encodeNumbers codes)).length codes
    carried (by rw [length_vector, size])
  rw [stripSupportedGroups, if_neg (by rw [length_vector]; omega),
    readU16_vector (by omega), ok_bind, length_vector, if_neg (by omega)]
  rw [length_vector] at groups
  dsimp only
  rw [groups, filter_map_encode (fun value => value != group), List.length_map, List.length_map,
    flatten_map_encode]
  have sublist := List.length_filter_le (fun code : Number 2 => code.val != group) codes
  split
  · rename_i removed
    have present : (codes.any fun code => code.val == group) = true := by
      by_contra absent
      apply removed
      rw [List.length_filter_eq_length_iff]
      simpa using absent
    rw [toBytes_of_lt (by simp only [List.length_append, List.length_map]; omega), ok_bind,
      present, Bool.or_true]
    simp only [vector, List.length_append, List.length_map, length_encodeNumbers, Nat.two_mul]
  · rename_i kept
    have same := List.filter_eq_self.mpr
      (List.length_filter_eq_length_iff.mp (not_not.mp kept))
    have absent : (codes.any fun code => code.val == group) = false := by
      rw [List.filter_eq_self] at same
      simpa using same
    rw [same, absent, Bool.or_false]

/-- A payload that passes the checks of the group branch is a group vector. -/
theorem exists_codes {payload : Bytes} {length : Nat} (read : readU16 payload 0 = .ok length)
    (counts : ¬(length ≠ payload.length - 2 ∨ length % 2 ≠ 0)) :
    ∃ codes : List (Number 2), payload = vector 2 (encodeNumbers codes) := by
  have whole : payload = vector 2 (payload.drop 2) := eq_vector_of_readU16 read (by omega)
  obtain ⟨codes, same⟩ := exists_encodeNumbers 2 ((payload.length - 2) / 2)
    (payload.drop 2) (by rw [List.length_drop]; omega)
  exact ⟨codes, by rw [same]; exact whole⟩

/-- The group branch accepts only well-formed group vectors. -/
theorem stripSupportedGroups_accepts {group : Nat} {payload : Bytes} {changed : Bool}
    {result : Bytes × Bool} (returned : stripSupportedGroups group payload changed = .ok result) :
    ∃ codes : List (Number 2), payload = vector 2 (encodeNumbers codes) := by
  simp only [stripSupportedGroups, guard_eq_ok, bind_eq_ok] at returned
  obtain ⟨_, length, read, counts, _⟩ := returned
  exact exists_codes read counts

/-- The entry loop retains the encodings of all other entries. -/
theorem stripEntry_foldlM (group : Nat) (entries : List KeyShareEntry) (retained : List Bytes)
    (changed : Bool) :
    entries.foldlM (fun (state : List Bytes × Bool) entry =>
      (.ok (if entry.tag ≠ group then (state.1 ++ [entry.encode], state.2)
        else (state.1, true)) : Result _)) (retained, changed) =
      .ok (retained ++ (entries.filter fun entry => entry.tag != group).map Item.encode,
        changed || entries.any fun entry => entry.tag == group) := by
  induction entries generalizing retained changed with
  | nil => simp
  | cons entry entries ih =>
      rw [List.foldlM_cons, ok_bind]
      by_cases same : entry.tag = group
      · rw [if_neg (not_not.mpr same), ih]
        simp [same]
      · rw [if_pos same, ih]
        simp [same, beq_eq_false_iff_ne.mpr same]

/-- The visit of a carried entry retains its encoding. -/
theorem stripEntry_item (group : Nat) {payload : Bytes} (state : List Bytes × Bool)
    {cursor : Nat} {entry : KeyShareEntry} (carried : BytesAt payload cursor entry.encode) :
    stripEntry group payload state cursor entry.tag entry.value.length =
      .ok (if entry.tag ≠ group then (state.1 ++ [entry.encode], state.2)
        else (state.1, true)) := by
  have width : cursor + 4 + entry.value.length = cursor + entry.encode.length := by
    rw [Item.length_encode]
    simp only [Layout.headerWidth, Layout.u16]
    omega
  rw [stripEntry, carried.slice_eq width]
  split <;> rfl

/-- The entry loop filters a tiling of entries. -/
theorem walk_stripEntry (group : Nat) {payload : Bytes} {start stop : Nat}
    (inside : stop ≤ payload.length) (within : start ≤ stop) {entries : List KeyShareEntry}
    (tiles : Tiles payload start stop entries) (changed : Bool) :
    entryWalker.walk payload stop (stripEntry group payload) start ([], changed) =
      .ok ((entries.filter fun entry => entry.tag != group).map Item.encode,
        changed || entries.any fun entry => entry.tag == group) := by
  refine (entryWalker.walk_eq_ok payload stop _ inside start _ _ within).mpr
    ⟨entries, tiles, ?_⟩
  rw [visitAll_eq_foldlM (fun state _ _ carried => stripEntry_item group state carried)
    entries start _ tiles, stripEntry_foldlM, List.nil_append]

/-- The body of a vector of entries is a tiling. -/
theorem tiles_vector (entries : List KeyShareEntry) :
    Tiles (vector 2 (encodeAll entries)) 2 (vector 2 (encodeAll entries)).length entries := by
  refine ⟨?_, by rw [length_vector]⟩
  simpa [vector] using bytesAt_of_append (bigEndian 2 (encodeAll entries).length)
    (encodeAll entries) []

/-- The share branch filters a well-formed entry vector. -/
theorem stripKeyShare_vector (group : Nat) (entries : List KeyShareEntry) (changed : Bool)
    (fits : 2 + (encodeAll entries).length < 65536) :
    stripKeyShare group (vector 2 (encodeAll entries)) changed =
      .ok (vector 2 (encodeAll (entries.filter fun entry => entry.tag != group)),
        changed || entries.any fun entry => entry.tag == group) := by
  have shorter := Extension.filter_entries_le group entries
  have joined : ((entries.filter fun entry => entry.tag != group).map Item.encode).flatten =
      encodeAll (entries.filter fun entry => entry.tag != group) := List.flatMap_def.symm
  rw [stripKeyShare, if_neg (by rw [length_vector]; omega), readU16_vector (by omega), ok_bind,
    if_neg (by rw [length_vector]; omega),
    walk_stripEntry group (Nat.le_refl _) (by rw [length_vector]; omega) (tiles_vector entries),
    ok_bind]
  dsimp only
  rw [joined, toBytes_of_lt (by omega), ok_bind]
  rfl

/-- A payload that passes the checks of the share branch is an entry vector. -/
theorem exists_entries {group : Nat} {payload : Bytes} {changed : Bool} {length : Nat}
    {state : List Bytes × Bool} (long : ¬payload.length < 2)
    (read : readU16 payload 0 = .ok length) (counts : ¬length ≠ payload.length - 2)
    (walked : entryWalker.walk payload payload.length (stripEntry group payload) 2 ([], changed) =
      .ok state) : ∃ entries : List KeyShareEntry, payload = vector 2 (encodeAll entries) := by
  obtain ⟨entries, tiles, _⟩ := (entryWalker.walk_eq_ok _ _ _ (Nat.le_refl _) _ _ _
    (by omega)).mp walked
  have whole : payload = vector 2 (payload.drop 2) :=
    eq_vector_of_readU16 read (by omega)
  have body : encodeAll entries = payload.drop 2 := by
    have covered := tiles.1.slice_eq tiles.2
    rw [← covered, slice, List.take_of_length_le (Nat.le_of_eq (by rw [List.length_drop]))]
  exact ⟨entries, by rw [body]; exact whole⟩

/-- The share branch accepts only well-formed entry vectors. -/
theorem stripKeyShare_accepts {group : Nat} {payload : Bytes} {changed : Bool}
    {result : Bytes × Bool} (returned : stripKeyShare group payload changed = .ok result) :
    ∃ entries : List KeyShareEntry, payload = vector 2 (encodeAll entries) := by
  simp only [stripKeyShare, guard_eq_ok, bind_eq_ok] at returned
  obtain ⟨long, length, read, counts, state, walked, _⟩ := returned
  exact exists_entries long read counts walked

/-- The visit of a carried extension reads only its encoding. -/
theorem stripExtension_item (group : Nat) {record : Bytes} (state : Bytes × Bool) (cursor : Nat)
    (item : Item .u16) (carried : BytesAt record cursor item.encode) :
    stripExtension group record state cursor item.tag item.value.length =
      stripExtension group item.encode state 0 item.tag item.value.length := by
  have alone : BytesAt item.encode 0 item.encode := List.prefix_refl _
  simp only [stripExtension, Item.slice_value carried, Item.slice_value alone]

/-- The type branch filters the payload of a typed extension. -/
theorem stripPayload_toItem (group : Nat) (changed : Bool) (extension : Extension) :
    stripPayload group extension.toItem.tag extension.toItem.value changed =
      .ok ((extension.without group).toItem.value, changed || extension.mentions group) := by
  cases extension with
  | supportedGroups codes fits => exact stripSupportedGroups_vector group codes changed fits
  | keyShare entries fits => exact stripKeyShare_vector group entries changed fits
  | other item notGroups notShares =>
      have kept : stripPayload group item.tag item.value changed = .ok (item.value, changed) := by
        rw [stripPayload, if_neg (show item.tag ≠ tlsSupportedGroups from notGroups),
          if_neg (show item.tag ≠ tlsKeyShare from notShares)]
      simpa only [Extension.toItem, Extension.without, Extension.mentions, Bool.or_false] using kept

/-- The type branch returns only on payloads of typed extensions. -/
theorem stripPayload_accepts {group : Nat} {item : Item .u16} {changed : Bool}
    {result : Bytes × Bool}
    (returned : stripPayload group item.tag item.value changed = .ok result) :
    ∃ extension : Extension, extension.toItem = item := by
  have valueFits := item.valueFits
  rw [stripPayload] at returned
  by_cases groups : item.tag = tlsSupportedGroups
  · rw [if_pos groups] at returned
    obtain ⟨codes, same⟩ := stripSupportedGroups_accepts returned
    rw [same, length_vector] at valueFits
    exact ⟨.supportedGroups codes valueFits, Item.ext groups.symm same.symm⟩
  · rw [if_neg groups] at returned
    by_cases shares : item.tag = tlsKeyShare
    · rw [if_pos shares] at returned
      obtain ⟨entries, same⟩ := stripKeyShare_accepts returned
      rw [same, length_vector] at valueFits
      exact ⟨.keyShare entries valueFits, Item.ext shares.symm same.symm⟩
    · exact ⟨.other item groups shares, rfl⟩

/-- The visit of an extension appends the extension without the group. -/
theorem stripExtension_toItem (group : Nat) (state : Bytes × Bool) (extension : Extension) :
    stripExtension group extension.toItem.encode state 0 extension.toItem.tag
        extension.toItem.value.length =
      .ok (state.1 ++ (extension.without group).toItem.encode,
        state.2 || extension.mentions group) := by
  have alone : BytesAt extension.toItem.encode 0 extension.toItem.encode := List.prefix_refl _
  have tagSame : (extension.without group).toItem.tag = extension.toItem.tag := by
    cases extension <;> rfl
  rw [stripExtension, Item.slice_value alone, stripPayload_toItem, ok_bind]
  dsimp only
  rw [toBytes_of_lt (show extension.toItem.tag < 256 ^ 2 from extension.toItem.tagFits), ok_bind,
    toBytes_of_lt (show (extension.without group).toItem.value.length < 256 ^ 2 from
      (extension.without group).toItem.valueFits), ok_bind]
  simp [Item.encode, vector, Layout.u16, tagSame]

/-- The visit returns only on typed extensions. -/
theorem stripExtension_accepts {group : Nat} {state result : Bytes × Bool} {item : Item .u16}
    (returned : stripExtension group item.encode state 0 item.tag item.value.length = .ok result) :
    ∃ extension : Extension, extension.toItem = item := by
  have alone : BytesAt item.encode 0 item.encode := List.prefix_refl _
  rw [stripExtension, Item.slice_value alone] at returned
  obtain ⟨rewritten, branch, _⟩ := bind_eq_ok.mp returned
  exact stripPayload_accepts branch

/-- The extension loop appends every extension without the group. -/
theorem stripExtension_foldlM (group : Nat) (extensions : List Extension) (state : Bytes × Bool) :
    (extensions.map Extension.toItem).foldlM (fun state item =>
      stripExtension group item.encode state 0 item.tag item.value.length) state =
      .ok (state.1 ++ encodeExtensions (extensions.map (Extension.without group)),
        state.2 || extensions.any (Extension.mentions group)) := by
  induction extensions generalizing state with
  | nil => simp
  | cons extension extensions ih =>
      rw [List.map_cons, List.foldlM_cons, stripExtension_toItem, ok_bind, ih]
      simp [Bool.or_assoc]

/-- The extension loop returns only on lists of well-formed extensions. -/
theorem stripExtension_foldlM_accepts {group : Nat} (items : List (Item .u16))
    {state result : Bytes × Bool}
    (returned : items.foldlM (fun state item =>
      stripExtension group item.encode state 0 item.tag item.value.length) state = .ok result) :
    ∃ extensions : List Extension, extensions.map Extension.toItem = items := by
  induction items generalizing state result with
  | nil => exact ⟨[], rfl⟩
  | cons item items ih =>
      rw [List.foldlM_cons] at returned
      obtain ⟨next, first, others⟩ := bind_eq_ok.mp returned
      obtain ⟨extension, rfl⟩ := stripExtension_accepts first
      obtain ⟨extensions, rfl⟩ := ih others
      exact ⟨extension :: extensions, rfl⟩

section Record
variable (framing : Framing)

/-- The block of a framing is tiled by the extensions that it encodes. -/
theorem tiles_block {extensions : List Extension}
    (block : framing.block = encodeExtensions extensions) :
    Tiles framing.encode framing.blockStart (framing.blockStart + framing.block.length)
      (extensions.map Extension.toItem) := by
  have carried := framing.block_at
  rw [block] at carried ⊢
  exact ⟨carried, rfl⟩

/-- The extension loop rewrites the block of a framing. -/
theorem walk_stripExtension (group : Nat) {extensions : List Extension}
    (block : framing.block = encodeExtensions extensions) :
    extensionWalker.walk framing.encode (framing.blockStart + framing.block.length)
        (stripExtension group framing.encode) framing.blockStart ([], false) =
      .ok (encodeExtensions (extensions.map (Extension.without group)),
        extensions.any (Extension.mentions group)) := by
  have tiles := tiles_block framing block
  refine (extensionWalker.walk_eq_ok _ _ _ framing.block_end _ _ _ (Nat.le_add_right _ _)).mpr
    ⟨extensions.map Extension.toItem, tiles, ?_⟩
  rw [visitAll_eq_foldlM (fun state cursor item carried =>
    stripExtension_item group state cursor item carried) _ _ _ tiles, stripExtension_foldlM]
  simp

/-- The stripper filters the block and drops what follows it in the record. -/
theorem stripHybrid_framing (group : Nat) {extensions : List Extension}
    (block : framing.block = encodeExtensions extensions) :
    stripHybrid framing.encode group =
      .ok (if extensions.any (Extension.mentions group) then
        (framing.replaceBlock (encodeExtensions (extensions.map (Extension.without group)))
          (by rw [block]; exact length_encodeExtensions_without_le group extensions)).encode
      else framing.encode) := by
  have shorter := length_encodeExtensions_without_le group extensions
  rw [← block] at shorter
  have recordFits := framing.recordFits
  have blockFits := framing.blockFits
  have version : slice framing.encode 0 3 = 0x16 :: framing.recordVersion :=
    framing.version_at.slice_eq (by simp [framing.versionWidth])
  have preamble : slice framing.encode 9 (framing.blockStart - 2) = framing.preamble.encode :=
    framing.preamble_at.slice_eq (by simp only [Framing.blockStart]; omega)
  have length : readU16 framing.encode 3 = .ok framing.fragment.length :=
    readU16_of_bytesAt (by simp only [Framing.length_fragment, Framing.length_body]; omega)
      framing.length_at
  have tail : framing.encode.drop (5 + framing.fragment.length) = framing.afterRecord :=
    framing.drop_recordEnd
  rw [stripHybrid, clientHelloExtensions_encode, ok_bind]
  dsimp only
  rw [walk_stripExtension framing group block, ok_bind]
  dsimp only
  cases extensions.any (Extension.mentions group) with
  | false => rfl
  | true =>
      rw [if_neg (by decide), if_pos rfl, preamble, toBytes_of_lt (by omega), ok_bind,
        toBytes_of_lt (by simp only [List.length_append, length_bigEndian]; omega), ok_bind,
        length, ok_bind, toBytes_of_lt (by
          simp only [List.length_append, length_bigEndian, List.length_singleton]
          omega), ok_bind, version, tail]
      simp [Framing.encode, Framing.fragment, Framing.body, Framing.replaceBlock, vector,
        tlsClientHello]

/-- The extension loop returns only on blocks of typed extensions. -/
theorem walk_stripExtension_accepts {group : Nat} {state : Bytes × Bool}
    (walked : extensionWalker.walk framing.encode (framing.blockStart + framing.block.length)
      (stripExtension group framing.encode) framing.blockStart ([], false) = .ok state) :
    ∃ extensions : List Extension, framing.block = encodeExtensions extensions := by
  obtain ⟨items, tiles, visited⟩ := (extensionWalker.walk_eq_ok _ _ _ framing.block_end _ _ _
    (Nat.le_add_right _ _)).mp walked
  rw [visitAll_eq_foldlM (fun state cursor item carried =>
    stripExtension_item group state cursor item carried) _ _ _ tiles] at visited
  obtain ⟨extensions, rfl⟩ := stripExtension_foldlM_accepts items visited
  exact ⟨extensions, framing.block_at.unique tiles.1 (Nat.add_left_cancel tiles.2)⟩

/-- The stripper returns only on framings of typed extensions. -/
theorem stripHybrid_accepts {record result : Bytes} {group : Nat}
    (returned : stripHybrid record group = .ok result) :
    ∃ (framing : Framing) (extensions : List Extension),
      framing.encode = record ∧ framing.block = encodeExtensions extensions := by
  rw [stripHybrid] at returned
  obtain ⟨⟨start, stop⟩, header, others⟩ := bind_eq_ok.mp returned
  obtain ⟨framing, rfl, rfl, rfl⟩ := clientHelloExtensions_eq_ok.mp header
  obtain ⟨state, walked, _⟩ := bind_eq_ok.mp others
  obtain ⟨extensions, block⟩ := walk_stripExtension_accepts framing walked
  exact ⟨framing, extensions, rfl, block⟩

end Record

/-- The stripper decodes, filters and encodes again. -/
theorem stripHybrid_encode (hello : ClientHello) (trailing : Bytes) (group : Nat) :
    stripHybrid (hello.encode ++ trailing) group =
      .ok ((hello.without group).encode ++ trailing) := by
  rw [← hello.encode_framing, ← (hello.without group).encode_framing,
    stripHybrid_framing (hello.framing trailing) group rfl]
  split
  · rfl
  · rename_i absent
    have same : (hello.without group).framing trailing = hello.framing trailing := by
      have kept := map_without_of_not_mentions (eq_false_of_ne_true absent)
      simp only [ClientHello.framing, ClientHello.without, kept]
    rw [same]

end FaultInject.TlsClientHello
