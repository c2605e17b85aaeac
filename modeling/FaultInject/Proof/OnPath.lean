import FaultInject.Proof.Batch
import FaultInject.Proof.ClientHello

/-
This file follows one message through an on-path scenario. The client offers the hybrid group, the
proxy strips it, the server gets the stripped message, and the record tells both.
-/

namespace FaultInject.Protocol
open Python Codec

/-- An extension that lists the group loses some bytes. -/
theorem Extension.removedBytes_pos {group : Nat} {extension : Extension}
    (mentions : extension.mentions group = true) : 0 < extension.removedBytes group := by
  cases extension with
  | supportedGroups codes fits =>
      have counted : 0 < codes.countP fun code => code.val == group := by
        rw [List.countP_pos_iff]
        exact List.any_eq_true.mp mentions
      rw [removedBytes]
      omega
  | keyShare entries fits =>
      obtain ⟨entry, member, same⟩ := List.any_eq_true.mp mentions
      have kept : entry ∈ entries.filter fun entry => entry.tag == group :=
        List.mem_filter.mpr ⟨member, same⟩
      obtain ⟨before, after, parts⟩ := List.append_of_mem kept
      have positive := entry.length_encode_pos
      rw [removedBytes, parts, encodeAll_append, encodeAll_cons, List.length_append,
        List.length_append]
      omega
  | other item notGroups notShares => cases mentions

theorem removedBytes_pos {group : Nat} {extensions : List Extension}
    (mentions : extensions.any (Extension.mentions group) = true) :
    0 < removedBytes group extensions := by
  induction extensions with
  | nil => cases mentions
  | cons extension extensions ih =>
      rw [List.any_cons, Bool.or_eq_true] at mentions
      rw [removedBytes]
      rcases mentions with here | behind
      · exact Nat.add_pos_left (Extension.removedBytes_pos here) _
      · exact Nat.add_pos_right _ (ih behind)

/-- The removal shortens a hello by what it drops. -/
theorem ClientHello.length_without (hello : ClientHello) (group : Nat) :
    (hello.without group).encode.length + removedBytes group hello.extensions =
      hello.encode.length := by
  have shorter := length_encodeExtensions_without group hello.extensions
  simp only [encode, without, List.length_cons, List.length_append, length_vector]
  omega

end FaultInject.Protocol

namespace FaultInject.MitmProxy
open Python

/-- The first changed chunk comes behind unchanged ones. -/
theorem firstChanged_append {forge : Bytes → Bytes} {quiet : List Bytes} {chunk : Bytes}
    (silent : ∀ data ∈ quiet, forge data = data) (changed : forge chunk ≠ chunk)
    (rest : List Bytes) : firstChanged forge (quiet ++ chunk :: rest) = some chunk := by
  have none : firstChanged forge quiet = none := by
    rw [firstChanged, List.find?_eq_none]
    intro data member
    rw [silent data member, bne_self_eq_false]
    decide
  rw [firstChanged] at none ⊢
  rw [List.find?_append, none, Option.none_or]
  exact List.find?_cons_of_pos (bne_iff_ne.mpr changed)

/-- Only the first changed chunk is replaced. -/
theorem replaceFirst_append {forge : Bytes → Bytes} {quiet : List Bytes} {chunk : Bytes}
    (silent : ∀ data ∈ quiet, forge data = data) (changed : forge chunk ≠ chunk)
    (rest : List Bytes) :
    replaceFirst forge (quiet ++ chunk :: rest) = quiet ++ forge chunk :: rest := by
  induction quiet with
  | nil => exact if_neg changed
  | cons first quiet ih =>
      rw [List.forall_mem_cons] at silent
      rw [List.cons_append, List.cons_append, replaceFirst, if_pos silent.1, ih silent.2]

end FaultInject.MitmProxy

namespace FaultInject.Run
open Python Protocol Record Harness FaultBinding VerifyApplied MutationLog MitmProxy
open FaultInject.Matrix (OfSpec artifactNames recordName identifier)

/-- These are the groups that the scenarios on the path strip from a ClientHello. -/
def strippedGroups : List (String × Nat) := [("openssl", 0x11EC), ("boringssl", 0x6399)]

/-- This is the algorithm that the scenario on the path strips from a KEXINIT packet. -/
def strippedAlgorithm : String := "sntrup761x25519-sha512@openssh.com"

/-- The first message of a client offers what the scenario strips. The second one is the message
without it. -/
inductive Offers : String → Bytes → Bytes → Prop where
  | hello (impl : String) (group : Nat) (known : (impl, group) ∈ strippedGroups)
      (hello : ClientHello) (trailing : Bytes)
      (mentions : hello.extensions.any (Extension.mentions group) = true) :
      Offers impl (hello.encode ++ trailing) ((hello.without group).encode ++ trailing)
  | kexInit (packet : KexInit) (listed : strippedAlgorithm ∈ packet.names) :
      Offers "openssh" packet.encode (packet.without strippedAlgorithm).encode

/-- One of the parsers `_client_hello` and `find_key_share` reads the group in the message. -/
def NamesGroup (group : Nat) (message : Bytes) : Prop :=
  (∃ groups shares, PcapHello.clientHello message = .ok (groups, shares) ∧
    (group ∈ groups ∨ group ∈ shares)) ∨
  ∃ shares, TlsClientHello.findKeyShare message = .ok shares ∧ group ∈ shares.map Prod.fst

/-- A parser of the program reads what the scenario strips in the message. The parser of a packet is
`kexinit_algorithms`. -/
def Names (impl : String) (message : Bytes) : Prop :=
  (∃ group, (impl, group) ∈ strippedGroups ∧ NamesGroup group message) ∨
  (impl = "openssh" ∧ ∃ names, SshKexinit.kexinitAlgorithms message = .ok names ∧
    strippedAlgorithm ∈ names)

section Messages
variable {impl : String} {first second : Bytes} {values : Strip}

theorem impl_ne_openssh {group : Nat} (known : (impl, group) ∈ strippedGroups) :
    impl ≠ "openssh" := by
  have each : ∀ pair ∈ strippedGroups, pair.1 ≠ "openssh" := by decide
  exact each _ known

/-- The stripped message differs from the offer. -/
theorem Offers.ne (offers : Offers impl first second) : second ≠ first := by
  cases offers with
  | hello impl group known hello trailing mentions =>
      intro same
      have removed := removedBytes_pos mentions
      have width := hello.length_without group
      have lengths := congrArg List.length (List.append_cancel_right same)
      omega
  | kexInit packet listed =>
      intro same
      have read := SshKexinit.kexinitAlgorithms_encode (packet.without strippedAlgorithm)
      rw [same, SshKexinit.kexinitAlgorithms_encode, packet.names_without] at read
      have kept := Except.ok.inj read
      rw [kept] at listed
      simp at listed

/-- The removal of an offered group returns the hello without it. -/
theorem stripHybrid_offer {group : Nat} (hello : ClientHello) (trailing : Bytes)
    (mentions : hello.extensions.any (Extension.mentions group) = true) :
    TlsClientHello.stripHybrid (hello.encode ++ trailing) group =
      .ok ((hello.without group).encode ++ trailing) := by
  rw [← hello.encode_framing, ← (hello.without group).encode_framing,
    TlsClientHello.stripHybrid_framing (hello.framing trailing) group rfl, if_pos mentions]
  rfl

/-- The transformation of the scenario strips the offer. -/
theorem Offers.transform (offers : Offers impl first second) (chosen : strip impl = .ok values) :
    values.transform first = .ok second := by
  cases offers with
  | hello impl group known hello trailing mentions =>
      have strips := stripHybrid_offer hello trailing mentions
      rw [strippedGroups, List.mem_cons, List.mem_singleton] at known
      rcases known with same | same <;>
        · cases same
          cases chosen
          exact strips
  | kexInit packet listed =>
      cases chosen
      exact SshKexinit.stripKexinitAlgorithm_packet packet strippedAlgorithm

/-- The parsers do not read a removed group. -/
theorem not_namesGroup (group : Nat) (hello : ClientHello) (trailing : Bytes) :
    ¬NamesGroup group ((hello.without group).encode ++ trailing) := by
  have parsed : PcapHello.clientHello ((hello.without group).encode ++ trailing) = .ok
      ((advertisedGroups hello.extensions).filter (fun code => code != group),
        ((keyShares hello.extensions).filter fun entry => entry.tag != group).map
          Codec.Item.tag) := by
    rw [← (hello.without group).encode_framing, PcapHello.clientHello_framing _ rfl,
      ClientHello.without, advertisedGroups_without, keyShares_without]
  obtain ⟨shares, found, points⟩ :=
    TlsClientHello.findKeyShare_framing ((hello.without group).framing trailing) rfl
  rw [(hello.without group).encode_framing] at found
  have tags := TlsClientHello.map_fst_of_pointsAt points
  rw [ClientHello.without, keyShares_without] at tags
  rintro (⟨advertised, sent, again, inside⟩ | ⟨others, again, inside⟩)
  · rw [parsed] at again
    cases again
    rcases inside with member | member
    · simp at member
    · obtain ⟨entry, kept, same⟩ := List.mem_map.mp member
      simp [same] at kept
  · rw [found] at again
    cases again
    rw [tags] at inside
    obtain ⟨entry, kept, same⟩ := List.mem_map.mp inside
    simp [same] at kept

/-- No parser of the program reads in the stripped message what was stripped. -/
theorem Offers.not_names (offers : Offers impl first second) : ¬Names impl second := by
  cases offers with
  | hello impl group known hello trailing mentions =>
      rintro (⟨other, again, names⟩ | ⟨same, _⟩)
      · have distinct : ∀ pair ∈ strippedGroups, ∀ second ∈ strippedGroups,
            pair.1 = second.1 → pair.2 = second.2 := by decide
        have one : other = group := distinct _ again _ known rfl
        exact not_namesGroup group hello trailing (one ▸ names)
      · exact absurd same (impl_ne_openssh known)
  | kexInit packet listed =>
      rintro (⟨_, known, _⟩ | ⟨_, names, parsed, inside⟩)
      · exact absurd rfl (impl_ne_openssh known)
      · rw [SshKexinit.kexinitAlgorithms_encode, packet.names_without] at parsed
        cases parsed
        simp at inside

end Messages

section Round
variable {impl : String} {rep : Int} {env paths : Dict String String} {spec : ScenarioSpec}
  {values : Strip} {evidence : Evidence} {outcome : Outcome} {outDir after : Directory}
  {record : RunRecord}

/-- A verified round of an observed scenario stores its record and writes only its own files. -/
theorem Observed.runVerified (observed : Observed spec)
    (ran : Run.runVerified evidence spec outcome outDir = some (.ok (record, after))) :
    OfSpec spec record ∧ after.get? (recordName spec) = some (.record record) ∧
      ∀ name, name ∉ artifactNames spec → after.get? name = outDir.get? name := by
  obtain ⟨result, scenario, returned⟩ := Option.map_eq_some_iff.mp ran
  obtain ⟨⟨first, files⟩, rfl, returned⟩ := bind_eq_ok.mp returned
  obtain ⟨ofSpec, _, written⟩ := observed.scenario scenario
  have label := verifyRecord_ofSpec ofSpec returned
  obtain ⟨value, _, _, rfl⟩ := verifyRecord_eq_ok.mp returned
  have own := Matrix.get?_toJsonPath label.runId files
  refine ⟨label, (own _).trans (if_pos rfl), fun name free => ?_⟩
  rw [own, if_neg, written name free]
  rintro rfl
  exact free List.mem_cons_self

/-- When the client offers the group behind unchanged chunks, the server gets the offer without the
group and every other byte of the client, no parser reads the group in it, and the client gets every
byte of the server. The log has one line, and the record is verified if the digests differ. -/
theorem strip_round (planned : stripSpec impl rep env paths = .ok spec)
    (chosen : strip impl = .ok values) {first second : Bytes} (offers : Offers impl first second)
    {quiet rest : List Bytes} (received : chunks .client outcome.events = quiet ++ first :: rest)
    (silent : ∀ chunk ∈ quiet, forgeOf values.transform chunk = chunk)
    (fresh : outDir.get? (proxyLogOf spec) = none) {result : Result (RunRecord × Directory)}
    (ran : runVerified evidence spec outcome outDir = some result) :
    (∃ mutate state, spec.proxyMutate = some mutate ∧
      Transition.run (step mutate) (.initial (scenarioFiles spec (identifier spec) outcome outDir))
        outcome.events = some state ∧
      state.sent .upstream = quiet.flatten ++ second ++ rest.flatten ∧
      state.sent .client = (chunks .upstream outcome.events).flatten) ∧
    ¬Names impl second ∧
    ∃ record after, result = .ok (record, after) ∧ OfSpec spec record ∧
      record.manipulationVerified = (Sha256.hexdigest first != Sha256.hexdigest second) ∧
      after.get? (proxyLogOf spec) = some (.text
        (mutationLine "strip_mutation" values.groupId first second ++ "\n")) ∧
      after.fromJson (recordName spec) = .ok record ∧
      ∀ name, name ∉ artifactNames spec → after.get? name = outDir.get? name := by
  have logs := stripSpec_logs chosen planned
  have known : impl ∈ implementations := (strip_values chosen).1
  have observed := stripSpec_observed known planned
  have forged : forgeOf values.transform first = second := by
    rw [forgeOf, offers.transform chosen]
    rfl
  have changed : forgeOf values.transform first ≠ first := by
    rw [forged]
    exact offers.ne
  have found := firstChanged_append silent changed rest
  rw [← received] at found
  refine ⟨?_, offers.not_names, ?_⟩
  · obtain ⟨scenario, started, _⟩ := Option.map_eq_some_iff.mp ran
    obtain ⟨proxied, forwarded, _⟩ := Option.map_eq_some_iff.mp started
    obtain ⟨port, upstream⟩ := Option.isSome_iff_exists.mp logs.upstream
    rw [proxyFiles, upstream, logs.mutate] at forwarded
    obtain ⟨state, reached, _⟩ := Option.map_eq_some_iff.mp forwarded
    have determined := logMutation_eq "strip_mutation" (proxyLogOf spec) values.groupId logs.only
    have flow := (run_sound (fun data world => ⟨_, determined data world⟩) reached).flow
    refine ⟨_, state, logs.mutate, reached, ?_, flow.client⟩
    rw [flow.upstream, received, replaceFirst_append silent changed, forged]
    simp
  · have whole : WholeLog (outDir.get? (proxyLogOf spec)) := by
      intro file present
      rw [fresh] at present
      cases present
    obtain ⟨log, written, verdict, left⟩ := logs.runVerified_eq evidence ran
    rw [logAfter, found] at written
    dsimp only at written
    rw [forged] at written
    rw [written, logs.logVerdict_appended whole, fresh] at verdict
    obtain ⟨⟨record, after⟩, rfl, value⟩ := map_eq_ok.mp verdict
    obtain ⟨label, stored, frame⟩ := observed.runVerified ran
    refine ⟨record, after, rfl, label, ?_, ?_, ?_, frame⟩
    · exact value.trans (Bool.false_or _)
    · rw [left record after rfl, written, fresh]
      rfl
    · exact (Matrix.fromJson_eq_ok stored).mpr rfl

end Round

section Sample

/-- One pass over a text decides whether it is a name. -/
def sampleName (text : String) (nonempty : text ≠ "")
    (checked : text.toList.all (fun character => decide (character.toNat < 128) &&
      character != ',') = true) : AlgorithmName where
  text := text
  nonempty := nonempty
  ascii character member := by
    have passed := List.all_eq_true.mp checked character member
    rw [Bool.and_eq_true, decide_eq_true_eq] at passed
    exact passed.1
  noComma member := by
    have passed := List.all_eq_true.mp checked ',' member
    rw [Bool.and_eq_true] at passed
    exact absurd passed.2 (by decide)

/-- This packet offers the algorithm and another one. -/
def samplePacket : KexInit where
  cookie := List.replicate 16 0
  algorithms := [sampleName strippedAlgorithm (by decide) rfl, sampleName "a" (by decide) rfl]
  rest := []
  padding := List.replicate 4 0
  cookieWidth := rfl
  paddingFits := by decide
  packetFits := by decide

def sampleBanner : Bytes := asciiBytes "SSH-2.0-x"

/-- The client sends its banner, the packet and more bytes. -/
def sampleSession : Outcome :=
  sampleOutcome [.recv .client sampleBanner, .select [.client],
    .recv .client samplePacket.encode, .select [.upstream, .client], .recv .upstream [7],
    .recv .client [1, 2]]

theorem samplePacket_listed : strippedAlgorithm ∈ samplePacket.names := List.mem_cons_self

/-- The server gets the banner, the packet without the algorithm and the other bytes. -/
theorem strip_round_sample : ∃ result mutate state,
    runVerified sampleEvidence sampleSpec sampleSession .empty = some result ∧
    sampleSpec.proxyMutate = some mutate ∧
    Transition.run (step mutate)
      (.initial (scenarioFiles sampleSpec (identifier sampleSpec) sampleSession .empty))
      sampleSession.events = some state ∧
    state.sent .upstream =
      sampleBanner ++ (samplePacket.without strippedAlgorithm).encode ++ [1, 2] := by
  have possible : (runVerified sampleEvidence sampleSpec sampleSession .empty).isSome = true := by
    decide +kernel
  obtain ⟨result, ran⟩ := Option.isSome_iff_exists.mp possible
  have chosen : strip "openssh" = .ok ⟨9555, strippedAlgorithm, fun data =>
      SshKexinit.stripKexinitAlgorithm data strippedAlgorithm⟩ := rfl
  have received : chunks .client sampleSession.events =
      [sampleBanner] ++ samplePacket.encode :: [[1, 2]] := by decide +kernel
  have silent : ∀ chunk ∈ [sampleBanner], forgeOf (fun data =>
      SshKexinit.stripKexinitAlgorithm data strippedAlgorithm) chunk = chunk := by decide +kernel
  obtain ⟨⟨mutate, state, mutates, reached, sent, _⟩, _⟩ := strip_round sampleSpec_planned chosen
    (.kexInit samplePacket samplePacket_listed) received silent rfl ran
  exact ⟨result, mutate, state, ran, mutates, reached, sent⟩

end Sample

end FaultInject.Run
