import FaultInject.Python.Search
import FaultInject.Python.Hex
import FaultInject.Protocol.MessageLog
import FaultInject.Construction.Harness

/-
This file follows the size fallback over the message blocks of a client log.
-/

namespace FaultInject.Harness
open Python Record PcapHello Protocol

section Characters

theorem hexValue_eq {digit : Char} (known : digit ∈ hexDigits) :
    hexValue digit = some (digitValue digit) := by
  have all : (hexDigits.all fun digit => hexValue digit == some (digitValue digit)) = true := rfl
  exact beq_iff_eq.mp (List.all_eq_true.mp all digit known)

theorem formatHex_ne_nil {width number : Nat} (positive : 0 < width) :
    (formatHex width number).toList ≠ [] := by
  intro empty
  have short := congrArg List.length empty
  rw [formatHex, String.toList_ofList, List.length_leftpad, List.length_nil] at short
  omega

/-- The digits of a number end at the first character that is not a digit. -/
theorem takeWhile_formatHex {width number : Nat} {mark : Char} (other : hexValue mark = none)
    (rest : List Char) :
    ((formatHex width number).toList ++ mark :: rest).takeWhile
      (fun character => (hexValue character).isSome) = (formatHex width number).toList := by
  rw [List.takeWhile_append_of_pos, List.takeWhile_cons, other]
  · simp
  · intro character member
    rw [hexValue_eq (mem_formatHex member)]
    rfl

/-- The digits of a number are read back. -/
theorem foldl_hexValue (width number : Nat) :
    (formatHex width number).toList.foldl
      (fun total digit => 16 * total + (hexValue digit).getD 0) 0 = number := by
  have same : (formatHex width number).toList.foldl
      (fun total digit => 16 * total + (hexValue digit).getD 0) 0 =
        parseHex (formatHex width number).toList := by
    apply List.foldl_ext
    intro total digit member
    rw [hexValue_eq (mem_formatHex member)]
    rfl
  rw [same, parseHex_formatHex]

theorem notMem_formatHex {width number : Nat} {character : Char} (other : character ∉ hexDigits) :
    character ∉ (formatHex width number).toList := fun member => other (mem_formatHex member)

/-- A dump has no bracket. -/
theorem notMem_dump (body : Bytes) : '[' ∉ dump body := by
  have digits (byte : UInt8) : '[' ∉ (formatHex 2 byte.toNat).toList :=
    notMem_formatHex (by decide)
  simp [dump, digits]

end Characters

section Blocks
variable (block : MessageBlock)

/-- The rest of a block has no bracket. -/
theorem notMem_rest : '[' ∉ block.rest := by
  have digits : '[' ∉ (formatHex 4 block.length).toList := notMem_formatHex (by decide)
  have opening : '[' ∉ MessageBlock.lengthLabel := by decide
  simp [MessageBlock.rest, opening, digits, block.plainDetails, notMem_dump]

theorem notMem_label : '[' ∉ block.label := by
  have comma : '[' ∉ ", ".toList := by simp
  have space : '[' ∉ [' '] := by simp
  rw [MessageBlock.label, List.mem_append, List.mem_append, List.mem_append, not_or, not_or, not_or]
  exact ⟨⟨⟨block.plainOpening, comma⟩, block.plainContent⟩, space⟩

/-- A match of the length pattern starts with the text before the bracket. -/
theorem serverHelloLength_marked (text : List Char) (found : serverHelloLength text ≠ none) :
    "Handshake ".toList ++ ['['] <+: text := by
  unfold serverHelloLength at found
  dsimp only at found
  split at found
  · rename_i starts
    rw [List.isPrefixOf_iff_prefix] at starts
    exact List.IsPrefix.trans ⟨"length ".toList, rfl⟩ starts
  · exact absurd rfl found

/-- The length pattern reads the length of a block with a matching label. -/
theorem serverHelloLength_block (more : List Char) :
    serverHelloLength ("Handshake ".toList ++ '[' :: (block.rest ++ more)) =
      if ", ServerHello".toList <+: block.details.toList then some block.length else none := by
  have text : "Handshake ".toList ++ '[' :: (block.rest ++ more) =
      "Handshake [length ".toList ++ ((formatHex 4 block.length).toList ++ ']' ::
        (block.details.toList ++ '\n' :: (dump block.body ++ more))) := by
    rw [MessageBlock.rest]
    simp only [List.append_assoc, List.cons_append]
    rfl
  have digits : ((formatHex 4 block.length).toList ++ ']' ::
      (block.details.toList ++ '\n' :: (dump block.body ++ more))).takeWhile
        (fun character => (hexValue character).isSome) = (formatHex 4 block.length).toList :=
    takeWhile_formatHex (by decide) _
  have plain : '\n' ∉ ", ServerHello".toList := by simp
  rw [text, serverHelloLength]
  dsimp only
  rw [if_pos (List.isPrefixOf_iff_prefix.mpr (List.prefix_append _ _)), List.drop_left, digits,
    List.drop_left, foldl_hexValue]
  apply if_congr _ rfl rfl
  rw [and_iff_right (formatHex_ne_nil (by decide)), List.isPrefixOf_iff_prefix]
  exact List.cons_prefix_cons.trans ((and_iff_right rfl).trans (prefix_append_mark plain _))

/-- The label of a block ends with the text before the bracket exactly when its content does. -/
theorem suffix_label (front : List Char) :
    "Handshake ".toList <:+ front ++ block.label ↔
      "Handshake".toList <:+ block.content.toList := by
  have label : front ++ block.label =
      ((front ++ block.opening.toList ++ [',']) ++ ' ' :: block.content.toList) ++ [' '] := by
    simp [MessageBlock.label]
  have plain : ' ' ∉ "Handshake".toList := by simp
  rw [label, ← suffix_append_mark plain block.content.toList]
  show "Handshake".toList ++ [' '] <:+ _ ↔ _
  exact List.suffix_append_self_iff

/-- The first match of the length pattern is the first block with a matching label. -/
theorem serverHelloLength_blocks {front : List Char} (clean : '[' ∉ front)
    {blocks : List MessageBlock} {ending : List Char} (plain : '[' ∉ ending) :
    (front ++ (blocks.flatMap MessageBlock.text ++ ending)).tails.findSome? serverHelloLength =
      (blocks.find? fun block => decide block.Labelled).map MessageBlock.length := by
  induction blocks generalizing front with
  | nil =>
      rw [List.flatMap_nil, List.nil_append, List.find?_nil, Option.map_none]
      apply findSome?_tails_clean serverHelloLength_marked
      simp [clean, plain]
  | cons block blocks ih =>
      have text : front ++ ((block :: blocks).flatMap MessageBlock.text ++ ending) =
          (front ++ block.label) ++ '[' ::
            (block.rest ++ (blocks.flatMap MessageBlock.text ++ ending)) := by
        simp [MessageBlock.text]
      have label : '[' ∉ front ++ block.label := by simp [clean, notMem_label]
      rw [text, findSome?_tails_mark serverHelloLength_marked (by decide) label,
        serverHelloLength_block, ih (notMem_rest block)]
      simp only [suffix_label]
      rw [List.find?_cons]
      by_cases content : "Handshake".toList <:+ block.content.toList
      · by_cases details : ", ServerHello".toList <+: block.details.toList
        · rw [if_pos content, if_pos details, decide_eq_true ⟨content, details⟩]
          rfl
        · rw [if_pos content, if_neg details, decide_eq_false fun labelled => details labelled.2]
          rfl
      · rw [if_neg content, decide_eq_false fun labelled => content labelled.1]
        rfl

end Blocks

section Retry

theorem isIn_of_infix {pattern text : String} (inside : pattern.toList <:+: text.toList) :
    isIn pattern text = true := by
  obtain ⟨front, rest, same⟩ := inside
  rw [isIn, List.any_eq_true]
  refine ⟨pattern.toList ++ rest, ?_, ?_⟩
  · rw [List.mem_tails, ← same, List.append_assoc]
    exact List.suffix_append _ _
  · rw [List.isPrefixOf_iff_prefix]
    exact List.prefix_append _ _

/-- The dump of a retry has the random on its first line. -/
theorem dump_retry (first second third fourth : UInt8) (more : Bytes) :
    "03 03 cf 21 ad 74 e5 9a 61 11".toList <:+:
      dump (first :: second :: third :: fourth :: 3 :: 3 :: (hrrRandom ++ more)) := by
  let byteText (byte : UInt8) : List Char := (formatHex 2 byte.toNat).toList
  have pattern : "03 03 cf 21 ad 74 e5 9a 61 11".toList =
      ([3, 3, 0xcf, 0x21, 0xad, 0x74, 0xe5, 0x9a, 0x61] : Bytes).flatMap
        (fun byte => (formatHex 2 byte.toNat).toList ++ [' ']) ++ (formatHex 2 0x11).toList := by
    decide +kernel
  rw [pattern, dump, hrrRandom]
  simp only [List.cons_append, List.zipIdx_cons, List.flatMap_cons]
  refine ⟨"   ".toList ++ ' ' :: byteText first ++ ' ' :: byteText second ++ ' ' :: byteText third ++
    ' ' :: byteText fourth ++ [' '], ?_⟩
  simp [byteText]

/-- A message with the version of TLS 1.2 in front of the random has such a dump. -/
theorem dump_of_retry {body : Bytes} (version : slice body 4 6 = [3, 3])
    (random : slice body 6 38 = hrrRandom) :
    "03 03 cf 21 ad 74 e5 9a 61 11".toList <:+: dump body := by
  have front : body.drop 4 = [3, 3] ++ (hrrRandom ++ body.drop 38) := by
    have second := List.take_append_drop 32 (body.drop 6)
    have first := List.take_append_drop 2 (body.drop 4)
    rw [List.drop_drop] at first second
    rw [← random, ← version]
    exact first.symm.trans (congrArg _ second.symm)
  rcases body with _ | ⟨first, _ | ⟨second, _ | ⟨third, _ | ⟨fourth, more⟩⟩⟩⟩
  on_goal 5 =>
    rw [show more = [3, 3] ++ _ from front]
    exact dump_retry first second third fourth _
  all_goals cases version

/-- The test for a retry finds every retry that has the version of TLS 1.2 in front of the random. -/
theorem detectHrr_of_isRetry {log : MessageLog} {block : MessageBlock} (member : block ∈ log.blocks)
    (retry : block.IsRetry) (version : slice block.body 4 6 = [3, 3]) :
    detectHrr log.text = true := by
  have inBlock : dump block.body <:+: block.text := by
    rw [MessageBlock.text, MessageBlock.rest]
    exact ⟨block.label ++ '[' :: (MessageBlock.lengthLabel ++ (formatHex 4 block.length).toList ++
      ']' :: block.details.toList ++ ['\n']), [], by simp⟩
  have inLog : block.text <:+: log.text.toList := by
    rw [MessageLog.text, String.toList_ofList]
    exact (List.infix_of_mem_flatten (List.mem_map_of_mem member)).trans ⟨[], _, rfl⟩
  rw [detectHrr, isIn_of_infix ((dump_of_retry version retry.2).trans (inBlock.trans inLog)),
    Bool.or_true]

end Retry

/-- The source takes a message of this size for a hybrid ServerHello. -/
def isLarge (block : MessageBlock) : Bool := decide (block.length ≥ 0x0400)

def firstReal (blocks : List MessageBlock) : Option MessageBlock :=
  blocks.find? fun block => decide block.IsReal

/-- This is the choice of the server. It is the first real ServerHello behind the first retry. When
no retry has one behind it, it is the first real ServerHello of the log. -/
def chosenHello (log : MessageLog) : Option MessageBlock :=
  (firstReal (log.blocks.dropWhile fun block => !decide block.IsRetry)).or (firstReal log.blocks)

/-- The metrics are those of the choice of the server. Without one they tell of no downgrade. -/
def SizedByReal (log : MessageLog) (metrics : Metrics) : Prop :=
  match chosenHello log with
  | some real => metrics.isHybrid = isLarge real ∧ metrics.downgradeVisible = !isLarge real
  | none => metrics.isHybrid = false ∧ metrics.downgradeVisible = false

def firstLabelled (log : MessageLog) : Option MessageBlock :=
  log.blocks.find? fun block => decide block.Labelled

theorem labelled_of_isReal {block : MessageBlock} (real : block.IsReal) : block.Labelled := by
  obtain ⟨⟨content, details⟩, _⟩ := real
  rw [MessageBlock.Labelled, content, details]
  exact ⟨List.suffix_rfl, List.prefix_rfl⟩

/-- The size test reads the length of the first block with the label. -/
theorem serverHelloIsHybrid_text (log : MessageLog) :
    serverHelloIsHybrid log.text = (firstLabelled log).map isLarge := by
  have found : ([] ++ (log.blocks.flatMap MessageBlock.text ++ log.ending.toList)).tails.findSome?
      serverHelloLength = (firstLabelled log).map MessageBlock.length :=
    serverHelloLength_blocks (by simp) log.plainEnding
  rw [List.nil_append] at found
  rw [serverHelloIsHybrid, MessageLog.text, String.toList_ofList, found, Option.map_map]
  rfl

/-- A log without a group takes both metrics from the first block with the label. -/
theorem collectMetricsV11_text (log : MessageLog) (exitCode : Int) (advertised : Bool)
    (unread : parseGroup "openssl" log.text = .ok none) :
    ∃ metrics, collectMetricsV11 "openssl" log.text exitCode advertised = .ok metrics ∧
      metrics.isHybrid = (firstLabelled log).any isLarge ∧
      metrics.downgradeVisible = (firstLabelled log).any fun block => !isLarge block := by
  have handshake : ∃ result, parseHandshake "openssl" log.text exitCode = .ok result := by
    rw [parseHandshake]
    split <;> exact ⟨_, rfl⟩
  obtain ⟨result, handshake⟩ := handshake
  rw [collectMetricsV11, collectMetrics, unread, ok_bind, handshake]
  simp only [ok_bind, Option.isNone_none, if_true, serverHelloIsHybrid_text]
  cases firstLabelled log with
  | none => exact ⟨_, rfl, rfl, rfl⟩
  | some first => exact ⟨_, rfl, rfl, rfl⟩

/-- A log without a label has no real ServerHello. -/
theorem chosenHello_of_unlabelled {log : MessageLog} (found : firstLabelled log = none) :
    chosenHello log = none := by
  have unlabelled := List.find?_eq_none.mp found
  have unreal : ∀ block ∈ log.blocks, ¬decide block.IsReal = true := by
    intro block member real
    exact unlabelled block member (decide_eq_true (labelled_of_isReal (of_decide_eq_true real)))
  rw [chosenHello, firstReal, firstReal, List.find?_eq_none.mpr unreal, Option.or_none]
  apply List.find?_eq_none.mpr
  exact fun block member => unreal block ((List.dropWhile_sublist _).subset member)

/-- The fallback decides by the choice of the server exactly when the first block with the label is
on its side. -/
theorem collectMetricsV11_sizedByReal_iff (log : MessageLog) (exitCode : Int) (advertised : Bool)
    (unread : parseGroup "openssl" log.text = .ok none) :
    ∃ metrics, collectMetricsV11 "openssl" log.text exitCode advertised = .ok metrics ∧
      (SizedByReal log metrics ↔ ∀ first, firstLabelled log = some first →
        ∃ real, chosenHello log = some real ∧ isLarge real = isLarge first) := by
  obtain ⟨metrics, returned, hybrid, downgrade⟩ := collectMetricsV11_text log exitCode advertised unread
  refine ⟨metrics, returned, ?_⟩
  rw [SizedByReal, hybrid, downgrade]
  cases found : firstLabelled log with
  | none =>
      rw [chosenHello_of_unlabelled found]
      exact iff_of_true ⟨rfl, rfl⟩ (by simp)
  | some first =>
      simp only [Option.any_some, Option.some.injEq, forall_eq']
      cases chosenHello log with
      | none => cases isLarge first <;> simp
      | some real => cases isLarge first <;> cases isLarge real <;> simp

section Sample

/-- A log without a colon has no group. -/
theorem parseGroup_of_clean {text : String} (clean : ':' ∉ text.toList) :
    parseGroup "openssl" text = .ok none := by
  have colon : ∀ marker ∈ ["Negotiated TLS1.3 group:", "Peer Temp Key:"], ':' ∈ marker.toList := by
    simp
  have unmatched (more : Char → Bool) : (text.toList.tails.findSome? fun tail =>
      ["Negotiated TLS1.3 group:", "Peer Temp Key:"].findSome? fun marker =>
        groupBehind marker more tail) = none := by
    rw [List.findSome?_eq_none_iff]
    intro tail member
    rw [List.findSome?_eq_none_iff]
    intro marker known
    rw [groupBehind, if_neg]
    rw [List.isPrefixOf_iff_prefix]
    intro starts
    exact clean (((List.mem_tails _ _).mp member).subset (starts.subset (colon marker known)))
  rw [parseGroup, groupPattern, ok_bind]
  dsimp only
  rw [unmatched]
  rfl

/-- This is a ServerHello of 88 bytes with the random. -/
def helloBody (random : Bytes) : Bytes :=
  [2, 0, 0, 0x54, 3, 3] ++ random ++ 32 :: List.replicate 32 0 ++
    [0x13, 2, 0, 0, 12, 0, 43, 0, 2, 3, 4, 0, 51, 0, 2, 0, 29]

def helloBlock (random : Bytes) : MessageBlock where
  opening := "<<< TLS 1.3"
  content := "Handshake"
  length := (helloBody random).length
  details := ", ServerHello"
  body := helloBody random
  plainOpening := by simp
  plainContent := by simp
  plainDetails := by simp

/-- The connection ends behind a HelloRetryRequest. -/
def retryLog : MessageLog := ⟨[helloBlock hrrRandom], "", by simp⟩

theorem collectMetricsV11_retry_differs : ∃ metrics,
    parseGroup "openssl" retryLog.text = .ok none ∧
      collectMetricsV11 "openssl" retryLog.text 1 true = .ok metrics ∧
      (∀ block ∈ retryLog.blocks, block.IsRetry) ∧ metrics.downgradeVisible = true := by
  have unread : parseGroup "openssl" retryLog.text = .ok none :=
    parseGroup_of_clean (by rw [MessageLog.text, String.toList_ofList]; decide +kernel)
  obtain ⟨metrics, returned, _, downgrade⟩ := collectMetricsV11_text retryLog 1 true unread
  refine ⟨metrics, unread, returned, by decide +kernel, ?_⟩
  rw [downgrade]
  decide +kernel

def completedLog : MessageLog :=
  ⟨[helloBlock hrrRandom, helloBlock (List.replicate 32 7)], "", by simp⟩

/-- A retry and a small ServerHello are on the same side. -/
theorem collectMetricsV11_sizedByReal_iff_sample : ∃ metrics,
    collectMetricsV11 "openssl" completedLog.text 0 true = .ok metrics ∧
      SizedByReal completedLog metrics := by
  have unread : parseGroup "openssl" completedLog.text = .ok none :=
    parseGroup_of_clean (by rw [MessageLog.text, String.toList_ofList]; decide +kernel)
  obtain ⟨metrics, returned, sized⟩ := collectMetricsV11_sizedByReal_iff completedLog 0 true unread
  refine ⟨metrics, returned, sized.mpr ?_⟩
  intro first found
  have head : firstLabelled completedLog = some (helloBlock hrrRandom) :=
    List.find?_cons_of_pos (by decide +kernel)
  rw [head, Option.some.injEq] at found
  rw [← found]
  have real : firstReal completedLog.blocks = some (helloBlock (List.replicate 32 7)) :=
    (List.find?_cons_of_neg (by decide +kernel)).trans (List.find?_cons_of_pos (by decide +kernel))
  have retry : (completedLog.blocks.dropWhile fun block => !decide block.IsRetry) =
      completedLog.blocks := List.dropWhile_cons_of_neg (by decide +kernel)
  have chosen : chosenHello completedLog = some (helloBlock (List.replicate 32 7)) := by
    rw [chosenHello, retry, real, Option.some_or]
  exact ⟨_, chosen, by decide +kernel⟩

end Sample

end FaultInject.Harness
