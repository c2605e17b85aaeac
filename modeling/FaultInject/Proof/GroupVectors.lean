import FaultInject.Proof.ClientHello

namespace FaultInject.PcapHello
open Python Codec Protocol TlsClientHello

/-- The share loop leaves the payload at this offset. -/
def entriesEnd (payload : Bytes) (cursor : Nat) : Result Nat :=
  if cursor < payload.length then do
    let valueLength ← readU16 payload (cursor + 2)
    entriesEnd payload (cursor + (4 + valueLength))
  else .ok cursor
termination_by payload.length - cursor

/-- A group vector or an entry vector declares its own length, and the last entry ends with it. -/
structure DeclaresLength (item : Item .u16) : Prop where
  vector : item.tag = tlsSupportedGroups ∨ item.tag = tlsKeyShare →
    readU16 item.value 0 = .ok (item.value.length - 2)
  entries : item.tag = tlsKeyShare → entriesEnd item.value 2 = .ok item.value.length

/-- The extension block of the record has these items. -/
def BlockItems (record : Bytes) (items : List (Item .u16)) : Prop :=
  ∃ framing : Framing, framing.encode = record ∧ framing.block = encodeAll items

/-- The groups and the shares are those of well-formed vectors in the record. -/
def BackedHello (record : Bytes) (hello : List Nat × List Nat) : Prop :=
  ∃ extensions : List Extension, BlockItems record (extensions.map Extension.toItem) ∧
    hello = (advertisedGroups extensions, (keyShares extensions).map Item.tag)

/-- A record has at most one item list. -/
theorem BlockItems.unique {record : Bytes} {first second : List (Item .u16)}
    (one : BlockItems record first) (two : BlockItems record second) : first = second := by
  obtain ⟨framing, rfl, block⟩ := one
  obtain ⟨other, same, again⟩ := two
  have ends := clientHelloExtensions_encode other
  rw [same, clientHelloExtensions_encode] at ends
  simp only [Except.ok.injEq, Prod.mk.injEq] at ends
  have carried := other.block_at
  rw [same, ← ends.1] at carried
  apply encodeAll_injective
  rw [← block, ← again]
  exact framing.block_at.unique carried (by omega)

/-- The share loop never leaves a payload in front of its cursor. -/
theorem le_entriesEnd {payload : Bytes} {cursor stop : Nat}
    (left : entriesEnd payload cursor = .ok stop) : cursor ≤ stop := by
  induction remaining : payload.length - cursor using Nat.strongRecOn generalizing cursor with
  | ind remaining ih =>
    rw [entriesEnd] at left
    split at left
    · obtain ⟨valueLength, _, rest⟩ := bind_eq_ok.mp left
      have later := ih _ (by omega) rest rfl
      omega
    · cases left
      exact Nat.le_refl _

/-- The share loop leaves a tiled payload at its end. -/
theorem entriesEnd_tiles {payload : Bytes} (entries : List KeyShareEntry) (cursor : Nat)
    (tiles : Tiles payload cursor payload.length entries) :
    entriesEnd payload cursor = .ok payload.length := by
  induction entries generalizing cursor with
  | nil =>
      rw [tiles_nil] at tiles
      rw [entriesEnd, if_neg (by omega), tiles]
  | cons entry entries ih =>
      rw [tiles_cons] at tiles
      have ends := tiles.2.2
      have width : entry.encode.length = 4 + entry.value.length := Item.length_encode entry
      have lengthRead : readU16 payload (cursor + 2) = .ok entry.value.length :=
        readU16_of_bytesAt entry.valueFits (Item.length_at tiles.1)
      rw [entriesEnd, if_pos (by omega), lengthRead, ok_bind, ← width]
      exact ih _ tiles.2

/-- Entries tile a payload that the share loop leaves at its end. -/
theorem exists_tiles_of_entriesEnd {payload : Bytes} {cursor : Nat} {shares codes : List Nat}
    (read : shareCodes payload cursor shares = .ok codes)
    (left : entriesEnd payload cursor = .ok payload.length) :
    ∃ entries : List KeyShareEntry, Tiles payload cursor payload.length entries := by
  induction remaining : payload.length - cursor using Nat.strongRecOn generalizing cursor shares with
  | ind remaining ih =>
    rw [shareCodes] at read
    rw [entriesEnd] at left
    by_cases more : cursor < payload.length
    · rw [if_pos more] at read left
      obtain ⟨group, groupRead, read⟩ := bind_eq_ok.mp read
      obtain ⟨valueLength, lengthRead, read⟩ := bind_eq_ok.mp read
      rw [lengthRead, ok_bind] at left
      have ends := le_entriesEnd left
      have inside : cursor + Layout.u16.headerWidth + valueLength ≤ payload.length := by
        simp only [Layout.headerWidth, Layout.u16]
        omega
      obtain ⟨entry, _, rfl, entryAt⟩ := @exists_item_at _ .u16 _ _ _ _ _ groupRead lengthRead inside
      have width : entry.encode.length = 4 + entry.value.length := Item.length_encode entry
      obtain ⟨entries, tiles⟩ := ih _ (by omega) read left rfl
      exact ⟨entry :: entries, tiles_cons.mpr ⟨entryAt, by rw [width]; exact tiles⟩⟩
    · rw [if_neg more] at left
      cases left
      exact ⟨[], tiles_nil.mpr rfl⟩

/-- A typed extension declares its length. -/
theorem declaresLength_toItem (extension : Extension) : DeclaresLength extension.toItem := by
  cases extension with
  | supportedGroups codes fits =>
      constructor
      · intro _
        simp only [Extension.toItem, length_vector, Nat.add_sub_cancel_left]
        exact readU16_vector (by omega)
      · intro shares
        have same : (0x000A : Nat) = 0x0033 := shares
        exact absurd same (by decide)
  | keyShare entries fits =>
      constructor
      · intro _
        simp only [Extension.toItem, length_vector, Nat.add_sub_cancel_left]
        exact readU16_vector (by omega)
      · intro _
        exact entriesEnd_tiles entries 2 (tiles_vector entries)
  | other item notGroups notShares =>
      constructor
      · intro either
        exact absurd either (not_or.mpr ⟨notGroups, notShares⟩)
      · intro shares
        exact absurd shares notShares

/-- An accepted extension that declares its length is typed. -/
theorem exists_extension_of_declaresLength {item : Item .u16} {groups shares : List Nat}
    {next : List Nat × List Nat} (declares : DeclaresLength item)
    (visited : clientHelloExtension (groups, shares) item.tag item.value = .ok next) :
    ∃ extension : Extension, extension.toItem = item := by
  have valueFits := item.valueFits
  rw [clientHelloExtension] at visited
  by_cases isGroups : item.tag = tlsSupportedGroups
  · rw [if_pos isGroups] at visited
    obtain ⟨codes, read, _⟩ := bind_eq_ok.mp visited
    have length := declares.vector (.inl isGroups)
    have long := (readU16_eq_ok.mp length).2.length_le
    rw [length_bigEndian] at long
    obtain ⟨count, whole⟩ := whole_of_mapM_readField (by decide) (by omega) read
    obtain ⟨numbers, same⟩ := exists_codes length (by omega)
    rw [same, length_vector] at valueFits
    exact ⟨.supportedGroups numbers valueFits, Item.ext isGroups.symm same.symm⟩
  · rw [if_neg isGroups] at visited
    by_cases isShares : item.tag = tlsKeyShare
    · rw [if_pos isShares] at visited
      obtain ⟨codes, read, _⟩ := bind_eq_ok.mp visited
      have same := eq_vector_of_readU16 (declares.vector (.inr isShares)) rfl
      obtain ⟨entries, tiles⟩ := exists_tiles_of_entriesEnd read (declares.entries isShares)
      have body : encodeAll entries = item.value.drop 2 := by
        have covered := tiles.1.slice_eq tiles.2
        rw [← covered, slice, List.take_of_length_le (Nat.le_of_eq (by rw [List.length_drop]))]
      rw [← body] at same
      rw [same, length_vector] at valueFits
      exact ⟨.keyShare entries valueFits, Item.ext isShares.symm same.symm⟩
    · exact ⟨.other item isGroups isShares, rfl⟩

/-- Accepted extensions that declare their lengths are typed. -/
theorem exists_extensions_of_declaresLength (items : List (Item .u16))
    {state result : List Nat × List Nat} (declare : ∀ item ∈ items, DeclaresLength item)
    (folded : items.foldlM (fun state item =>
      clientHelloExtension state item.tag item.value) state = .ok result) :
    ∃ extensions : List Extension, extensions.map Extension.toItem = items := by
  induction items generalizing state result with
  | nil => exact ⟨[], rfl⟩
  | cons item items ih =>
      rw [List.foldlM_cons] at folded
      obtain ⟨next, visited, others⟩ := bind_eq_ok.mp folded
      obtain ⟨extension, rfl⟩ := exists_extension_of_declaresLength
        (declare item List.mem_cons_self) visited
      obtain ⟨extensions, rfl⟩ := ih (fun other member =>
        declare other (List.mem_cons_of_mem _ member)) others
      exact ⟨extension :: extensions, rfl⟩

/-- The items of a record with well-formed vectors declare their lengths. -/
theorem BackedHello.declaresLength {record : Bytes} {hello : List Nat × List Nat}
    {items : List (Item .u16)} (backed : BackedHello record hello) (block : BlockItems record items) :
    ∀ item ∈ items, DeclaresLength item := by
  obtain ⟨extensions, typed, _⟩ := backed
  rw [block.unique typed]
  intro item member
  obtain ⟨extension, _, rfl⟩ := List.mem_map.mp member
  exact declaresLength_toItem extension

/-- An accepted record reports well-formed vectors, as the stripper requires them, exactly when
every vector in it declares its own length. -/
theorem clientHello_backed_iff {record : Bytes} {hello : List Nat × List Nat}
    {items : List (Item .u16)} (returned : clientHello record = .ok hello)
    (block : BlockItems record items) :
    BackedHello record hello ∧ (∀ group, ∃ stripped, stripHybrid record group = .ok stripped) ↔
      ∀ item ∈ items, DeclaresLength item := by
  constructor
  · intro both
    exact both.1.declaresLength block
  · intro declare
    obtain ⟨framing, others, rfl, encoded, folded⟩ := clientHello_eq_ok.mp returned
    have same := block.unique ⟨framing, rfl, encoded⟩
    subst same
    obtain ⟨extensions, rfl⟩ := exists_extensions_of_declaresLength items declare folded
    constructor
    · rw [clientHello_framing framing encoded] at returned
      exact ⟨extensions, block, (Except.ok.inj returned).symm⟩
    · intro group
      exact ⟨_, stripHybrid_framing framing group encoded⟩

/-- This group vector declares 255 bytes and has four. -/
def mismatchedGroups : Bytes := [0x00, 0xff, 0x11, 0xec, 0x00, 0x1d]

/-- The one entry of this vector declares 32 bytes and has two. -/
def mismatchedShares : Bytes := [0x00, 0x06, 0x00, 0x1d, 0x00, 0x20, 0xaa, 0xbb]

theorem mismatched_fit : tlsSupportedGroups < 256 ^ Layout.u16.tagWidth ∧
    tlsKeyShare < 256 ^ Layout.u16.tagWidth ∧
    mismatchedGroups.length < 256 ^ Layout.u16.lengthWidth ∧
    mismatchedShares.length < 256 ^ Layout.u16.lengthWidth := by decide

def mismatchedItems : List (Item .u16) :=
  [⟨tlsSupportedGroups, mismatchedGroups, mismatched_fit.1, mismatched_fit.2.2.1⟩,
    ⟨tlsKeyShare, mismatchedShares, mismatched_fit.2.1, mismatched_fit.2.2.2⟩]

def mismatchedHello : Framing := sampleFraming (encodeAll mismatchedItems) [] [] (by decide)

theorem mismatchedHello_accepted :
    clientHello mismatchedHello.encode = .ok ([0x11EC, 0x001D], [0x001D]) :=
  toOption_eq_some.mp (by decide +kernel)

theorem clientHello_backed_iff_mismatched :
    ¬(BackedHello mismatchedHello.encode ([0x11EC, 0x001D], [0x001D]) ∧
      ∀ group, ∃ stripped, stripHybrid mismatchedHello.encode group = .ok stripped) := by
  intro both
  have declare := (clientHello_backed_iff mismatchedHello_accepted ⟨mismatchedHello, rfl, rfl⟩).mp both
  have declared := (declare _ List.mem_cons_self).vector (.inl rfl)
  cases declared

/-- The parser reports groups and shares of vectors that are not well formed. -/
theorem clientHello_accepts_mismatched : ¬∀ record hello, clientHello record = .ok hello →
    BackedHello record hello ∧ ∀ group, ∃ stripped, stripHybrid record group = .ok stripped := by
  intro always
  have backed := (always _ _ mismatchedHello_accepted).1
  have declare := backed.declaresLength ⟨mismatchedHello, rfl, rfl⟩
  have declared := (declare _ List.mem_cons_self).vector (.inl rfl)
  cases declared

end FaultInject.PcapHello
