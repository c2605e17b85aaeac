import FaultInject.Proof.ServerHello

namespace FaultInject.TlsClientHello
open Python Codec Protocol

theorem readU16_onlyValueErrors (data : Bytes) (offset : Nat) :
    OnlyValueErrors (readU16 data offset) :=
  readField_raisesOnly (by rfl) data offset 2

/-- Every index of the header parser is checked before its read. -/
theorem clientHelloExtensions_onlyValueErrors (record : Bytes) :
    OnlyValueErrors (clientHelloExtensions record) := by
  unfold clientHelloExtensions
  refine RaisesOnly.guard rfl fun long => ?_
  refine (byteAt_onlyValueErrors (by omega)).bind fun contentType _ => ?_
  refine RaisesOnly.guard rfl fun _ => ?_
  refine (readU16_onlyValueErrors _ _).bind fun recordLength _ => ?_
  refine RaisesOnly.guard rfl fun complete => ?_
  refine (byteAt_onlyValueErrors (by omega)).bind fun messageType _ => ?_
  refine RaisesOnly.guard rfl fun _ => ?_
  refine RaisesOnly.guard rfl fun handshake => ?_
  refine RaisesOnly.guard rfl fun random => ?_
  refine (byteAt_onlyValueErrors (by omega)).bind fun sessionIdLength _ => ?_
  refine (readU16_onlyValueErrors _ _).bind fun cipherSuitesLength _ => ?_
  refine RaisesOnly.guard rfl fun compression => ?_
  refine (byteAt_onlyValueErrors (by omega)).bind fun compressionLength _ => ?_
  refine (readU16_onlyValueErrors _ _).bind fun extensionsLength _ => ?_
  exact RaisesOnly.guard rfl fun _ => raisesOnly_ok _

theorem keyShareExtension_onlyValueErrors (record : Bytes) (shares : List (Nat × Nat × Nat))
    (cursor extensionType extensionLength : Nat) :
    OnlyValueErrors (keyShareExtension record shares cursor extensionType extensionLength) := by
  unfold keyShareExtension
  split
  · refine (readU16_onlyValueErrors _ _).bind fun vectorLength _ => ?_
    refine RaisesOnly.guard rfl fun _ => ?_
    exact entryWalker.walk_raisesOnly _ _ _ (by rfl) (by rfl) (fun _ _ _ _ _ _ _ => raisesOnly_ok _) _ _
  · exact raisesOnly_ok _

theorem findKeyShare_onlyValueErrors (record : Bytes) : OnlyValueErrors (findKeyShare record) := by
  refine (clientHelloExtensions_onlyValueErrors record).bind fun bounds _ => ?_
  exact extensionWalker.walk_raisesOnly _ _ _ (by rfl) (by rfl)
    (fun shares cursor tag length _ _ _ =>
      keyShareExtension_onlyValueErrors record shares cursor tag length) _ _

/-- The group branch converts only lengths of well-formed vectors. -/
theorem stripSupportedGroups_onlyValueErrors {group : Nat} {payload : Bytes} {changed : Bool}
    (fits : payload.length < 65536) :
    OnlyValueErrors (stripSupportedGroups group payload changed) := by
  by_cases typed : ∃ codes : List (Number 2), payload = vector 2 (encodeNumbers codes)
  · obtain ⟨codes, rfl⟩ := typed
    rw [length_vector] at fits
    rw [stripSupportedGroups_vector group codes changed fits]
    exact raisesOnly_ok _
  · refine RaisesOnly.guard (by rfl) fun _ => ?_
    refine (readU16_onlyValueErrors _ _).bind fun length read => ?_
    refine RaisesOnly.guard (by rfl) fun counts => ?_
    exact absurd (exists_codes read counts) typed

/-- The share branch converts only lengths of well-formed vectors. -/
theorem stripKeyShare_onlyValueErrors {group : Nat} {payload : Bytes} {changed : Bool}
    (fits : payload.length < 65536) : OnlyValueErrors (stripKeyShare group payload changed) := by
  by_cases typed : ∃ entries : List KeyShareEntry, payload = vector 2 (encodeAll entries)
  · obtain ⟨entries, rfl⟩ := typed
    rw [length_vector] at fits
    rw [stripKeyShare_vector group entries changed fits]
    exact raisesOnly_ok _
  · refine RaisesOnly.guard (by rfl) fun long => ?_
    refine (readU16_onlyValueErrors _ _).bind fun length read => ?_
    refine RaisesOnly.guard (by rfl) fun counts => ?_
    refine (entryWalker.walk_raisesOnly _ _ _ (by rfl) (by rfl) (fun state _ _ _ _ _ _ => ?_)
      _ _).bind fun state walked => absurd (exists_entries long read counts walked) typed
    rw [stripEntry]
    split <;> exact raisesOnly_ok _

/-- The extension loop converts only types and lengths that fit their fields. -/
theorem stripExtension_onlyValueErrors (group : Nat) (record : Bytes) (state : Bytes × Bool)
    {cursor extensionType extensionLength : Nat} (tagFits : extensionType < 65536)
    (lengthFits : extensionLength < 65536)
    (inside : cursor + 4 + extensionLength ≤ record.length) :
    OnlyValueErrors (stripExtension group record state cursor extensionType extensionLength) := by
  let item : Item .u16 :=
    ⟨extensionType, slice record (cursor + 4) (cursor + 4 + extensionLength), tagFits, by
      rw [length_slice_of_le inside]
      show cursor + 4 + extensionLength - (cursor + 4) < 65536
      omega⟩
  have fits : item.value.length < 65536 := item.valueFits
  have branch : OnlyValueErrors (stripPayload group item.tag item.value state.2) := by
    unfold stripPayload
    split
    · exact stripSupportedGroups_onlyValueErrors fits
    · split
      · exact stripKeyShare_onlyValueErrors fits
      · exact raisesOnly_ok _
  refine branch.bind fun rewritten returned => ?_
  obtain ⟨extension, same⟩ := stripPayload_accepts returned
  rw [← same, stripPayload_toItem] at returned
  cases returned
  refine (toBytes_onlyValueErrors tagFits).bind fun _ _ => ?_
  refine (toBytes_onlyValueErrors (extension.without group).toItem.valueFits).bind fun _ _ => ?_
  exact raisesOnly_ok _

/-- The stripper raises only value errors. -/
theorem stripHybrid_onlyValueErrors (record : Bytes) (group : Nat) :
    OnlyValueErrors (stripHybrid record group) := by
  by_cases typed : ∃ (framing : Framing) (extensions : List Extension),
      framing.encode = record ∧ framing.block = encodeExtensions extensions
  · obtain ⟨framing, extensions, rfl, block⟩ := typed
    rw [stripHybrid_framing framing group block]
    exact raisesOnly_ok _
  · refine (clientHelloExtensions_onlyValueErrors record).bind fun bounds header => ?_
    obtain ⟨framing, rfl, starts, stops⟩ := clientHelloExtensions_eq_ok.mp header
    have inside := framing.block_end
    refine (extensionWalker.walk_raisesOnly _ _ _ (by rfl) (by rfl)
      (fun state cursor tag length tagFits lengthFits ends =>
        stripExtension_onlyValueErrors group _ state tagFits lengthFits (by
          rw [stops] at ends
          exact Nat.le_trans ends inside)) _ _).bind fun state walked => ?_
    rw [starts, stops] at walked
    obtain ⟨extensions, block⟩ := walk_stripExtension_accepts framing walked
    exact absurd ⟨framing, extensions, rfl, block⟩ typed

/-- Every share lies inside the record. -/
def SharesInside (record : Bytes) (shares : List (Nat × Nat × Nat)) : Prop :=
  ∀ share ∈ shares, share.2.1 + share.2.2 ≤ record.length

/-- The entry loop keeps the shares inside the record. -/
theorem walk_entries_inside {record : Bytes} {start stop : Nat}
    {shares result : List (Nat × Nat × Nat)} (inside : stop ≤ record.length)
    (holds : SharesInside record shares)
    (walked : entryWalker.walk record stop (fun shares cursor groupId valueLength =>
      .ok (shares ++ [(groupId, cursor + 4, valueLength)])) start shares = .ok result) :
    SharesInside record result := by
  refine entryWalker.walk_invariant record stop ?_ holds walked
  intro shares cursor tag length next kept ends visited
  cases visited
  intro share member
  rcases List.mem_append.mp member with before | here
  · exact kept share before
  · rw [List.mem_singleton.mp here]
    exact Nat.le_trans ends inside

/-- The search finds only shares inside the record. -/
theorem findKeyShare_inside {record : Bytes} {shares : List (Nat × Nat × Nat)}
    (returned : findKeyShare record = .ok shares) : SharesInside record shares := by
  obtain ⟨⟨start, stop⟩, header, walked⟩ := bind_eq_ok.mp returned
  obtain ⟨framing, rfl, rfl, rfl⟩ := clientHelloExtensions_eq_ok.mp header
  have empty : SharesInside framing.encode [] := fun _ member => absurd member List.not_mem_nil
  refine extensionWalker.walk_invariant _ _ ?_ empty walked
  intro shares cursor tag length next kept ends visited
  rw [keyShareExtension] at visited
  split at visited
  · simp only [bind_eq_ok, guard_eq_ok, ne_eq, not_not] at visited
    obtain ⟨vectorLength, _, counts, entries⟩ := visited
    rw [counts] at entries
    exact walk_entries_inside (Nat.le_trans ends framing.block_end) kept entries
  · cases visited
    exact kept

/-- The forger raises only value errors for the groups of its table. -/
theorem forgePqComponent_onlyValueErrors (record : Bytes) {groupId : Nat}
    (known : (pqComponents.lookup groupId).isSome = true) :
    OnlyValueErrors (forgePqComponent record groupId) := by
  rw [forgePqComponent]
  obtain ⟨⟨pqOffset, pqLength⟩, found⟩ := Option.isSome_iff_exists.mp known
  rw [found]
  refine (findKeyShare_onlyValueErrors record).bind fun shares returned => ?_
  split
  · exact (raisesOnly_error _).mpr rfl
  · rename_i group valueOffset valueLength selected
    have inside := findKeyShare_inside returned _ (List.mem_of_find?_eq_some selected)
    refine RaisesOnly.guard rfl fun fits => ?_
    apply flipByte_foldlM_onlyValueErrors
    intro index member
    have bounds := mem_range_one.mp member
    have ends : valueOffset + valueLength ≤ record.length := inside
    omega

end FaultInject.TlsClientHello

namespace FaultInject.PcapHello
open Python Codec Protocol TlsClientHello

theorem shareCodes_onlyValueErrors (payload : Bytes) (cursor : Nat) (shares : List Nat) :
    OnlyValueErrors (shareCodes payload cursor shares) := by
  fun_induction shareCodes payload cursor shares with
  | case1 cursor shares more ih =>
      refine (readU16_onlyValueErrors _ _).bind fun group _ => ?_
      exact (readU16_onlyValueErrors _ _).bind fun valueLength _ => ih group valueLength
  | case2 => exact raisesOnly_ok _

theorem clientHelloExtension_onlyValueErrors (state : List Nat × List Nat) (extType : Nat)
    (payload : Bytes) : OnlyValueErrors (clientHelloExtension state extType payload) := by
  obtain ⟨groups, shares⟩ := state
  rw [clientHelloExtension]
  split
  · refine RaisesOnly.bind ?_ fun _ _ => raisesOnly_ok _
    exact RaisesOnly.mapM (fun index => readU16_onlyValueErrors payload index) _
  · split
    · exact (shareCodes_onlyValueErrors _ _ _).bind fun _ _ => raisesOnly_ok _
    · exact raisesOnly_ok _

theorem forExtensions_onlyValueErrors {S : Type} {body : S → Nat → Bytes → Result S}
    (only : ∀ state extType payload, OnlyValueErrors (body state extType payload))
    (data : Bytes) (start stop : Nat) (state : S) :
    OnlyValueErrors (forExtensions data start stop body state) :=
  extensionWalker.walk_raisesOnly _ _ _ (by rfl) (by rfl)
    (fun state _ extType _ _ _ _ => only state extType _) _ _

/-- The client parser raises only value errors. -/
theorem clientHello_onlyValueErrors (record : Bytes) : OnlyValueErrors (clientHello record) :=
  (clientHelloExtensions_onlyValueErrors record).bind fun _ _ =>
    forExtensions_onlyValueErrors clientHelloExtension_onlyValueErrors _ _ _ _

theorem serverHelloExtension_onlyValueErrors (group : Option Nat) (extType : Nat)
    (payload : Bytes) : OnlyValueErrors (serverHelloExtension group extType payload) := by
  unfold serverHelloExtension
  split
  · exact (readU16_onlyValueErrors _ _).bind fun _ _ => raisesOnly_ok _
  · exact raisesOnly_ok _

/-- The server parser raises only value errors on data with a message type. -/
theorem serverHello_onlyValueErrors {record : Bytes} (long : 6 ≤ record.length) :
    OnlyValueErrors (serverHello record) := by
  unfold serverHello
  refine (readU16_onlyValueErrors _ _).bind fun recordLength _ => ?_
  refine RaisesOnly.guard rfl fun complete => ?_
  refine (byteAt_onlyValueErrors (by omega)).bind fun messageType _ => ?_
  refine RaisesOnly.guard rfl fun _ => ?_
  refine RaisesOnly.guard rfl fun header => ?_
  refine (byteAt_onlyValueErrors (by omega)).bind fun sessionIdLength _ => ?_
  refine (readU16_onlyValueErrors _ _).bind fun extensionsLength _ => ?_
  refine RaisesOnly.guard rfl fun _ => ?_
  exact (forExtensions_onlyValueErrors serverHelloExtension_onlyValueErrors _ _ _ _).bind
    fun _ _ => raisesOnly_ok _

end FaultInject.PcapHello
