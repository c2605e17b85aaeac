import FaultInject.Proof.Errors
import FaultInject.Protocol.KeyShare

namespace FaultInject.TlsClientHello
open Python Codec Protocol

/-- The visit of an extension appends its shares. -/
theorem keyShareExtension_shares {record : Bytes} {cursor : Nat} (extension : ShareExtension)
    (shares : List (Nat × Nat × Nat)) (carried : BytesAt record cursor extension.toItem.encode) :
    keyShareExtension record shares cursor extension.toItem.tag extension.toItem.value.length =
      .ok (shares ++ extension.shares cursor) := by
  cases extension with
  | other item notShares =>
      rw [ShareExtension.shares, List.append_nil]
      exact if_neg notShares
  | keyShare entries fits => exact (keyShareExtension_entries entries fits shares carried).2

/-- The visit accepts only entry vectors and opaque extensions. -/
theorem keyShareExtension_accepts {record : Bytes} {cursor : Nat} {item : Item .u16}
    {shares result : List (Nat × Nat × Nat)} (carried : BytesAt record cursor item.encode)
    (returned : keyShareExtension record shares cursor item.tag item.value.length = .ok result) :
    ∃ extension : ShareExtension, extension.toItem = item := by
  have valueFits := item.valueFits
  have valueAt : BytesAt record (cursor + 4) item.value := Item.value_at carried
  have inside := carried.end_le (List.ne_nil_of_length_pos item.length_encode_pos)
  have width : item.encode.length = 4 + item.value.length := Item.length_encode item
  by_cases isShares : item.tag = tlsKeyShare
  · simp only [keyShareExtension, if_pos isShares, bind_eq_ok, guard_eq_ok, not_not,
      ne_eq] at returned
    obtain ⟨vectorLength, read, counts, walked⟩ := returned
    obtain ⟨lengthFits, lengthAt⟩ := readU16_eq_ok.mp read
    obtain ⟨entries, tiles, _⟩ := (entryWalker.walk_eq_ok _ _ _ (by omega) _ _ _
      (by omega)).mp walked
    have total := tiles.2
    have counted : (encodeAll entries).length = vectorLength := by omega
    have vectorAt : BytesAt record (cursor + 4) (vector 2 (encodeAll entries)) := by
      rw [vector, bytesAt_append, length_bigEndian, counted]
      exact ⟨lengthAt, tiles.1⟩
    have same : item.value = vector 2 (encodeAll entries) :=
      valueAt.unique vectorAt (by rw [length_vector]; omega)
    rw [same, length_vector] at valueFits
    exact ⟨.keyShare entries valueFits, Item.ext isShares.symm same.symm⟩
  · exact ⟨.other item isShares, rfl⟩

/-- The extension loop returns exactly the shares of typed extensions. -/
theorem visitAll_keyShareExtension_eq_ok {record : Bytes} {stop : Nat} (items : List (Item .u16))
    (cursor : Nat) (shares result : List (Nat × Nat × Nat)) (tiles : Tiles record cursor stop items) :
    visitAll (keyShareExtension record) cursor items shares = .ok result ↔
      ∃ extensions : List ShareExtension, extensions.map ShareExtension.toItem = items ∧
        result = shares ++ blockShares cursor extensions := by
  induction items generalizing cursor shares with
  | nil =>
      rw [visitAll]
      constructor
      · intro same
        exact ⟨[], rfl, by rw [blockShares, List.append_nil]; exact (Except.ok.inj same).symm⟩
      · rintro ⟨extensions, none, rfl⟩
        rw [List.map_eq_nil_iff.mp none, blockShares, List.append_nil]
  | cons item items ih =>
      obtain ⟨itemAt, behind⟩ := tiles_cons.mp tiles
      rw [visitAll, bind_eq_ok]
      constructor
      · rintro ⟨next, visited, others⟩
        obtain ⟨extension, rfl⟩ := keyShareExtension_accepts itemAt visited
        rw [keyShareExtension_shares extension shares itemAt] at visited
        cases visited
        obtain ⟨extensions, rfl, rfl⟩ := (ih _ _ behind).mp others
        exact ⟨extension :: extensions, rfl, by rw [blockShares, List.append_assoc]⟩
      · rintro ⟨extensions, mapped, rfl⟩
        cases extensions with
        | nil => cases mapped
        | cons extension extensions =>
            rw [List.map_cons, List.cons.injEq] at mapped
            obtain ⟨rfl, rfl⟩ := mapped
            refine ⟨_, keyShareExtension_shares extension shares itemAt, ?_⟩
            apply (ih _ _ behind).mpr
            exact ⟨extensions, rfl, by rw [blockShares, List.append_assoc]⟩

/-- The finder returns exactly the shares of the extension block of a framing. -/
theorem findKeyShare_eq_ok {record : Bytes} {shares : List (Nat × Nat × Nat)} :
    findKeyShare record = .ok shares ↔
      ∃ (framing : Framing) (extensions : List ShareExtension), framing.encode = record ∧
        framing.block = encodeShares extensions ∧
        shares = blockShares framing.blockStart extensions := by
  constructor
  · intro returned
    rw [findKeyShare] at returned
    obtain ⟨⟨start, stop⟩, header, walked⟩ := bind_eq_ok.mp returned
    obtain ⟨framing, rfl, rfl, rfl⟩ := clientHelloExtensions_eq_ok.mp header
    obtain ⟨items, tiles, visited⟩ := (extensionWalker.walk_eq_ok _ _ _ framing.block_end _ _ _
      (Nat.le_add_right _ _)).mp walked
    obtain ⟨extensions, rfl, rfl⟩ := (visitAll_keyShareExtension_eq_ok _ _ _ _ tiles).mp visited
    exact ⟨framing, extensions, rfl,
      framing.block_at.unique tiles.1 (Nat.add_left_cancel tiles.2), rfl⟩
  · rintro ⟨framing, extensions, rfl, block, rfl⟩
    have carried := framing.block_at
    have tiles : Tiles framing.encode framing.blockStart
        (framing.blockStart + framing.block.length)
        (extensions.map ShareExtension.toItem) := by
      rw [block] at carried ⊢
      exact ⟨carried, rfl⟩
    rw [findKeyShare, clientHelloExtensions_encode, ok_bind]
    apply (extensionWalker.walk_eq_ok _ _ _ framing.block_end _ _ _ (Nat.le_add_right _ _)).mpr
    refine ⟨_, tiles, ?_⟩
    apply (visitAll_keyShareExtension_eq_ok _ _ _ _ tiles).mpr
    exact ⟨extensions, rfl, rfl⟩

/-- The changed record has the same headers, extensions and entries. Only the value of the entry at
the share is complemented in the range. -/
def OnlyEntryChanges (record changed : Bytes) (share : Nat × Nat × Nat) (start width : Nat) : Prop :=
  ∃ (framing : Framing) (place : Place)
    (same : (encodeShares (place.withValue (complement place.entry.value start width)
      (length_complement _ _ _)).extensions).length = framing.block.length),
    framing.encode = record ∧ framing.block = encodeShares place.extensions ∧
      place.share framing.blockStart = share ∧ changed = (framing.withBlock _ same).encode

/-- A range of a key exchange value is complemented without another change of the record. -/
theorem onlyEntryChanges_complement {record : Bytes} {shares : List (Nat × Nat × Nat)}
    {share : Nat × Nat × Nat} {start width : Nat} (found : findKeyShare record = .ok shares)
    (member : share ∈ shares) (inside : start + width ≤ share.2.2) :
    OnlyEntryChanges record (complement record (share.2.1 + start) width) share start width := by
  obtain ⟨framing, extensions, rfl, block, rfl⟩ := findKeyShare_eq_ok.mp found
  obtain ⟨place, rfl, rfl⟩ := exists_place_of_mem member
  have valueWidth : (complement place.entry.value start width).length = place.entry.value.length :=
    length_complement _ _ _
  refine ⟨framing, place, by rw [place.length_withValue, block], rfl, block, rfl, ?_⟩
  rw [framing.encode_withBlock, framing.encode_block, block, place.encodeShares_extensions,
    Place.encodeShares_extensions, place.before_withValue, place.after_withValue]
  have offset : framing.blockStart + place.before.length + start =
      framing.beforeBlock.length + (place.before.length + start) := by
    rw [framing.length_beforeBlock, Nat.add_assoc]
  show complement _ (framing.blockStart + place.before.length + start) width = _
  rw [offset, complement_append, List.append_assoc, complement_append, List.append_assoc,
    complement_append_of_le inside, List.append_assoc, List.append_assoc]
  rfl

/-- A change inside one key exchange value keeps all shares. -/
theorem OnlyEntryChanges.findKeyShare_eq {record changed : Bytes} {share : Nat × Nat × Nat}
    {start width : Nat} {shares : List (Nat × Nat × Nat)}
    (change : OnlyEntryChanges record changed share start width)
    (found : findKeyShare record = .ok shares) : findKeyShare changed = .ok shares := by
  obtain ⟨framing, place, same, rfl, block, _, rfl⟩ := change
  have here : findKeyShare framing.encode = .ok (blockShares framing.blockStart place.extensions) :=
    findKeyShare_eq_ok.mpr ⟨framing, place.extensions, rfl, block, rfl⟩
  rw [here] at found
  cases found
  apply findKeyShare_eq_ok.mpr
  exact ⟨framing.withBlock _ same, _, rfl, rfl, (place.blockShares_withValue _ _ _).symm⟩

/-- The forger complements the PQ component of the first entry of the group. -/
theorem forgePqComponent_eq_ok {record forged : Bytes} {groupId : Nat} :
    forgePqComponent record groupId = .ok forged ↔
      ∃ pqOffset pqLength shares target, pqComponents.lookup groupId = some (pqOffset, pqLength) ∧
        findKeyShare record = .ok shares ∧
        shares.find? (fun share => share.1 = groupId) = some target ∧
        pqOffset + pqLength ≤ target.2.2 ∧
        forged = complement record (target.2.1 + pqOffset) pqLength := by
  have flips {shares : List (Nat × Nat × Nat)} {target : Nat × Nat × Nat} {pqOffset pqLength : Nat}
      (found : findKeyShare record = .ok shares)
      (selected : shares.find? (fun share => share.1 = groupId) = some target)
      (fits : pqOffset + pqLength ≤ target.2.2) :
      (range (target.2.1 + pqOffset) (target.2.1 + pqOffset + pqLength) 1).foldlM flipByte record =
        .ok (complement record (target.2.1 + pqOffset) pqLength) := by
    have inside := findKeyShare_inside found _ (List.mem_of_find?_eq_some selected)
    rw [range_one]
    exact flipByte_foldlM_range' (by omega)
  rw [forgePqComponent]
  constructor
  · intro returned
    split at returned
    · cases returned
    · rename_i pqOffset pqLength known
      obtain ⟨shares, found, returned⟩ := bind_eq_ok.mp returned
      split at returned
      · cases returned
      · rename_i group valueOffset valueLength selected
        obtain ⟨fits, returned⟩ := guard_eq_ok.mp returned
        have inside : pqOffset + pqLength ≤ valueLength := Nat.not_lt.mp fits
        rw [flips found selected inside] at returned
        cases returned
        exact ⟨pqOffset, pqLength, shares, _, known, found, selected, inside, rfl⟩
  · rintro ⟨pqOffset, pqLength, shares, ⟨group, valueOffset, valueLength⟩, known, found, selected,
      fits, rfl⟩
    rw [known]
    dsimp only
    rw [found, ok_bind, selected]
    dsimp only
    rw [if_neg (Nat.not_lt.mpr fits)]
    exact flips found selected fits

/-- Every PQ component of the table has 1184 bytes. -/
theorem pqLength_eq {groupId pqOffset pqLength : Nat}
    (known : pqComponents.lookup groupId = some (pqOffset, pqLength)) : pqLength = 1184 := by
  have lengths : ∀ component ∈ pqComponents, component.2.2 = 1184 := by decide
  rw [List.lookup_eq_some_iff] at known
  obtain ⟨front, back, parts, _⟩ := known
  exact lengths (groupId, pqOffset, pqLength) (by
    rw [parts]
    exact List.mem_append_right _ List.mem_cons_self)

/-- A forged record differs from the record exactly in the PQ component of the first entry of the
group. It has the same shares, and forging it again restores the record. -/
theorem forgePqComponent_frame {record forged : Bytes} {groupId : Nat}
    (returned : forgePqComponent record groupId = .ok forged) :
    ∃ shares target pqOffset, findKeyShare record = .ok shares ∧
      shares.find? (fun share => share.1 = groupId) = some target ∧
      pqComponents.lookup groupId = some (pqOffset, 1184) ∧
      pqOffset + 1184 ≤ target.2.2 ∧ target.2.1 + target.2.2 ≤ record.length ∧
      forged.length = record.length ∧
      (∀ index, target.2.1 + pqOffset ≤ index ∧ index < target.2.1 + pqOffset + 1184 →
        forged[index]? = record[index]?.map (· ^^^ 0xFF)) ∧
      (∀ index, forged[index]? = record[index]? ↔
        ¬(target.2.1 + pqOffset ≤ index ∧ index < target.2.1 + pqOffset + 1184)) ∧
      OnlyEntryChanges record forged target pqOffset 1184 ∧
      findKeyShare forged = .ok shares ∧ forgePqComponent forged groupId = .ok record := by
  obtain ⟨pqOffset, pqLength, shares, target, known, found, selected, fits, rfl⟩ :=
    forgePqComponent_eq_ok.mp returned
  cases pqLength_eq known
  have member := List.mem_of_find?_eq_some selected
  have ends : target.2.1 + target.2.2 ≤ record.length := findKeyShare_inside found target member
  have change := onlyEntryChanges_complement found member fits
  have refound := change.findKeyShare_eq found
  refine ⟨shares, target, pqOffset, found, selected, known, fits, ends, length_complement _ _ _, ?_,
    ?_, change, refound, ?_⟩
  · intro index inside
    rw [getElem?_complement]
    apply congrArg fun flip => record[index]?.map flip
    funext byte
    exact complementAt_inside inside
  · intro index
    exact getElem?_complement_eq_self (by omega)
  · apply forgePqComponent_eq_ok.mpr
    exact ⟨pqOffset, 1184, shares, target, known, refound, selected, fits,
      (complement_complement _ _ _).symm⟩

section Sample
variable {group : Nat} {value : Bytes}

theorem hybridValue_fits (width : value.length = 1216) :
    value.length < 256 ^ Layout.u16.lengthWidth := by
  rw [width]
  decide

/-- This entry has a value as long as the PQ component and the X25519 component. -/
def hybridEntry (group : Nat) (known : group < 65536) (value : Bytes) (width : value.length = 1216) :
    KeyShareEntry :=
  ⟨group, value, known, hybridValue_fits width⟩

theorem hybridEntry_fits (known : group < 65536) (width : value.length = 1216) :
    2 + (encodeAll ([] ++ hybridEntry group known value width :: [])).length < 65536 := by
  rw [List.nil_append, encodeAll_cons, encodeAll_nil, List.append_nil, Item.length_encode]
  show 2 + (4 + value.length) < 65536
  omega

/-- The entry is the only entry of the only extension. -/
def hybridPlace (group : Nat) (known : group < 65536) (value : Bytes)
    (width : value.length = 1216) : Place :=
  ⟨[], [], hybridEntry group known value width, [], [], hybridEntry_fits known width⟩

theorem hybridPlace_fits (known : group < 65536) (width : value.length = 1216) :
    47 + (encodeShares (hybridPlace group known value width).extensions).length + 0 +
      ([] : Bytes).length < 65536 := by
  rw [Place.encodeShares_extensions, List.length_append, List.length_append, Place.length_before]
  show 47 + (0 + 6 + 0 + 4 + (value.length + 0)) + 0 + 0 < 65536
  omega

def hybridHello (group : Nat) (known : group < 65536) (value : Bytes)
    (width : value.length = 1216) : Framing :=
  sampleFraming (encodeShares (hybridPlace group known value width).extensions) [] []
    (hybridPlace_fits known width)

theorem findKeyShare_hybridHello (known : group < 65536) (width : value.length = 1216) :
    findKeyShare (hybridHello group known value width).encode = .ok [(group, 62, 1216)] := by
  apply findKeyShare_eq_ok.mpr
  refine ⟨hybridHello group known value width, (hybridPlace group known value width).extensions, rfl,
    rfl, ?_⟩
  show _ = [(group, 52 + 6 + 4, value.length)]
  rw [width]

/-- The PQ component of the entry is forged. -/
theorem forgePqComponent_hybridHello (known : group < 65536) (width : value.length = 1216)
    {pqOffset : Nat} (component : pqComponents.lookup group = some (pqOffset, 1184))
    (fits : pqOffset + 1184 ≤ 1216) :
    forgePqComponent (hybridHello group known value width).encode group =
      .ok (complement (hybridHello group known value width).encode (62 + pqOffset) 1184) := by
  apply forgePqComponent_eq_ok.mpr
  refine ⟨pqOffset, 1184, _, (group, 62, 1216), component, findKeyShare_hybridHello known width, ?_,
    fits, rfl⟩
  exact List.find?_cons_of_pos (decide_eq_true rfl)

end Sample

theorem forgePqComponent_frame_sample : ∃ record forged,
    forgePqComponent record 0x11EC = .ok forged ∧ forged.length = record.length ∧
      findKeyShare forged = .ok [(0x11EC, 62, 1216)] ∧
      forgePqComponent forged 0x11EC = .ok record := by
  have width : (List.replicate 1216 (0 : UInt8)).length = 1216 := List.length_replicate
  have known : 0x11EC < 65536 := by decide
  have found := findKeyShare_hybridHello known width
  have returned := forgePqComponent_hybridHello known width
    (rfl : pqComponents.lookup 0x11EC = some (0, 1184)) (by decide)
  obtain ⟨shares, _, _, same, _, _, _, _, kept, _, _, _, refound, restored⟩ :=
    forgePqComponent_frame returned
  rw [found] at same
  cases same
  exact ⟨_, _, returned, kept, refound, restored⟩

end FaultInject.TlsClientHello
